import ForeignCall.Converter.Enumeration
import ForeignCall.Numeric
import ForeignCall.Store
import ForeignCall.Text.Encoding
import ForeignCall.Transfer

/-! Converters between a host type and a simpler host type that carries it, and the converters for
text and enumerations. -/

namespace ForeignCall

inductive Way
  | toNative
  | fromNative
  deriving DecidableEq

structure ConversionContext where
  annotations : Annotations
  /-- The encoding of texts without an annotation. -/
  encoding : TextEncoding
  deriving DecidableEq

structure ConverterBody where
  /-- The type that carries the converted value. -/
  carrier : HostType
  /-- Annotations of the carrier. -/
  annotations : Annotations := .empty
  /-- The conversion never looks at its context. -/
  contextFree : Bool := false
  /-- One instance may serve every use. -/
  cacheable : Bool := false
  convert : Value → ConversionContext → Act Store Value

structure Converter extends ConverterBody where
  identity : Nat

namespace Store

def encodeText (encoding : TextEncoding) (text : String) : Act Store (List UInt8) := do
  let run := encoding.encode text
  run.growths.forM fun (before, after) => record (.bufferGrown before after)
  run.outcome

def textAt (encoding : TextEncoding) (address : UInt64) : Act Store String := do
  encoding.decode (encoding.body ((← get).memory.readRest address.toNat))

end Store

def Elements.ofBytes (bytes : List UInt8) : Elements := .bytes (bytes.map (·.toInt8))

namespace ConverterBody

def contextEncoding (context : ConversionContext) : Except Fault TextEncoding :=
  match context.annotations.encoding? with
  | some label =>
    match TextEncoding.ofLabel? label with
    | some encoding => .ok encoding
    | none => .error (.unsupportedType ("unknown encoding " ++ label))
  | none => .ok context.encoding

def textToNative (encoding : TextEncoding) : ConverterBody where
  carrier := .array .byte
  annotations := .ofList [.copyIn, .terminated]
  contextFree := true
  cacheable := true
  convert value _ :=
    match value with
    | .null => return .null
    | .text text => do Store.newArray (.ofBytes (← Store.encodeText encoding text))
    | _ => throw (.typeMismatch "text" value.kind)

/-- The text that an address points to; a null address is the null reference. -/
def textFromNative (encoding : TextEncoding) : ConverterBody where
  carrier := .address
  contextFree := true
  cacheable := true
  convert value _ :=
    match value.toInt64? with
    | some integer => do
      if integer = 0 then return .null
      return .text (← Store.textAt encoding integer.toUInt64)
    | none => throw (.typeMismatch "address" value.kind)

def text (encoding : TextEncoding) : Way → ConverterBody
  | .toNative => textToNative encoding
  | .fromNative => textFromNative encoding

def enumToNative (enumeration : Enumeration) : ConverterBody where
  carrier := .int
  contextFree := true
  cacheable := true
  convert value _ :=
    match value with
    | .enum constant => return .int (← enumeration.intOf constant)
    | _ => throw (.typeMismatch ("enum " ++ enumeration.name) value.kind)

def enumFromNative (enumeration : Enumeration) : ConverterBody where
  carrier := .int
  contextFree := true
  cacheable := true
  convert value _ :=
    match value.toInt64? with
    | some integer => return .enum (← enumeration.constantOf integer)
    | none => throw (.typeMismatch "int" value.kind)

def enum (enumeration : Enumeration) : Way → ConverterBody
  | .toNative => enumToNative enumeration
  | .fromNative => enumFromNative enumeration

def enumSetToNative (enumeration : Enumeration) : ConverterBody where
  carrier := .int
  contextFree := true
  cacheable := true
  convert value _ :=
    match value with
    | .enumSet subset =>
      if subset.enumeration = enumeration then
        return .int (← enumeration.maskOf subset.members)
      else throw (.typeMismatch ("set<" ++ enumeration.name ++ ">") value.kind)
    | _ => throw (.typeMismatch ("set<" ++ enumeration.name ++ ">") value.kind)

def enumSetFromNative (enumeration : Enumeration) : ConverterBody where
  carrier := .int
  contextFree := true
  cacheable := true
  convert value _ :=
    match value.toInt64? with
    | some integer => return .enumSet (enumeration.subsetOf integer.toInt32)
    | none => throw (.typeMismatch "int" value.kind)

def enumSet (enumeration : Enumeration) : Way → ConverterBody
  | .toNative => enumSetToNative enumeration
  | .fromNative => enumSetFromNative enumeration

def builtin? (way : Way) (type : HostType) (context : ConversionContext) :
    Except Fault (Option ConverterBody) :=
  match type with
  | .enum enumeration => .ok (some (enum enumeration way))
  | .enumSet enumeration => .ok (some (enumSet enumeration way))
  | .text => do return some (text (← contextEncoding context) way)
  | _ => .ok none

end ConverterBody

end ForeignCall
