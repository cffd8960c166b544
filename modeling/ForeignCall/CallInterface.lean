import ForeignCall.Fault
import ForeignCall.Registers
import ForeignCall.Slot

/-! Prepared call interfaces: the C types of one call, by which argument slots are loaded into
registers and the result is fetched from them.

These are the definitions of what libffi does, as far as it is relied on. It loads registers as the
calling convention has it, reads of each slot what `Slot.readWidth` tells, extends arguments and
results to whole registers by their signs, and refuses no interface but one with a trailing
argument that C would promote. -/

namespace ForeignCall

structure CallInterface where
  arguments : List CType
  result : CType
  model : DataModel
  deriving DecidableEq

namespace CallInterface

/-- A trailing argument must not be subject to promotion: it is no `float` and at least as wide as
an `int`. -/
def mayTrail (model : DataModel) (type : CType) : Bool :=
  type != .float && 4 ≤ Slot.readWidth type model

def prepare (arguments : List CType) (named : Option Nat) (result : CType) (model : DataModel) :
    Except Fault CallInterface :=
  if (arguments.drop (named.getD arguments.length)).all (mayTrail model) then
    .ok ⟨arguments, result, model⟩
  else .error (.unsupportedSignature "libffi rejected call interface: Abi")

theorem prepare_named_all (arguments : List CType) (result : CType) (model : DataModel) :
    prepare arguments none result model = .ok ⟨arguments, result, model⟩ := by
  simp [prepare]

def enter (interface : CallInterface) (slots : List UInt64) : EntryRegisters :=
  .ofArguments ((interface.arguments.zip slots).map fun (type, slot) =>
    (type.isFloating, Slot.widen slot type interface.model))

def resultImage (interface : CallInterface) (returned : ReturnRegisters) : UInt64 :=
  Slot.widen (returned.image interface.result) interface.result interface.model

def call {m : Type → Type} [Monad m] (interface : CallInterface)
    (function : EntryRegisters → m ReturnRegisters) (slots : List UInt64) : m UInt64 := do
  return interface.resultImage (← function (interface.enter slots))

end CallInterface

def EntryRegisters.fetch (entry : EntryRegisters) (model : DataModel) :
    List CType → List UInt64 × EntryRegisters
  | [] => ([], entry)
  | type :: rest =>
    let (image, left) := entry.pop type.isFloating
    let (images, final) := left.fetch model rest
    (Slot.widen image type model :: images, final)

end ForeignCall
