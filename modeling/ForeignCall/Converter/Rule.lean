import ForeignCall.Converter.Basic

/-! Converters that are described by a rule on integers. -/

namespace ForeignCall

inductive ConverterRule
  | scale
  | offset
  /-- Tells what the context says. -/
  | context
  | same
  | null
  | fail
  deriving DecidableEq

structure RuleSpec where
  rule : ConverterRule
  amount : Int64 := 1
  carrier : HostType := .int
  annotations : Annotations := .empty
  contextFree : Bool := false
  cacheable : Bool := false

namespace RuleSpec

def apply (spec : RuleSpec) (value : Value) (context : ConversionContext) : Except Fault Value :=
  let integer := value.toInt64?.getD 0
  match spec.rule with
  | .scale => .ok (spec.carrier.valueOfInt64 (integer * spec.amount))
  | .offset => .ok (spec.carrier.valueOfInt64 (integer + spec.amount))
  | .context =>
    .ok (spec.carrier.valueOfInt64
      (Int64.ofNat (100 * context.annotations.size + context.encoding.unitSize)))
  | .same => .ok value
  | .null => .ok .null
  | .fail => .error (.encodingError "converter failed")

/-- The annotations belong to the carrier of a value on its way to native code. -/
def body (spec : RuleSpec) (way : Way) : ConverterBody where
  carrier := spec.carrier
  annotations := if way = .toNative then spec.annotations else .empty
  contextFree := spec.contextFree
  cacheable := spec.cacheable
  convert value context := spec.apply value context

end RuleSpec

end ForeignCall
