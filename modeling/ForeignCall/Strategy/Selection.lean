import ForeignCall.Signature
import ForeignCall.Strategy.Basic
import ForeignCall.Stub.Assembly

/-! Which strategies can call a function of a given signature, and which one is taken. -/

namespace ForeignCall

structure StrategySetting where
  model : DataModel
  stubs : Bool
  fastPaths : Bool
  /-- Stubs can run under the model. -/
  stubsSupported : Bool
  deriving DecidableEq

namespace StrategySetting

/-- Stubs are made for the machine's own model only. -/
def of (model : DataModel) (stubs fastPaths : Bool) : StrategySetting :=
  ⟨model, stubs, fastPaths, model = .host⟩

end StrategySetting

namespace Strategy

def directArity : Nat := 6

def isPlainCall (signature : Signature) : Bool :=
  !signature.variadic && signature.convention == .default

def fitsInt (type : CType) (model : DataModel) : Bool := type.isIntegral && type.size model ≤ 4

def isDirectCall (signature : Signature) : Bool :=
  isPlainCall signature && !signature.hasConverters &&
    signature.parameters.length ≤ directArity &&
    signature.parameters.all (·.kind == .integer)

def accepts (strategy : Strategy) (signature : Signature) (setting : StrategySetting) : Bool :=
  let result := signature.result.native
  match strategy with
  | stub =>
    setting.stubs && setting.stubsSupported && isPlainCall signature && signature.isScalarOnly &&
      signature.isContextFree && Stub.fits signature.argumentClasses
  | fastInt =>
    setting.fastPaths && isDirectCall signature &&
      signature.natives.all (fitsInt · setting.model) &&
      (result == .void || fitsInt result setting.model)
  | fastLong =>
    setting.fastPaths && setting.model.pointerBytes == 8 && isDirectCall signature &&
      (result == .void || result.isIntegral)
  | fastNumeric =>
    setting.fastPaths && !signature.variadic && !signature.hasConverters &&
      signature.isScalarOnly
  | buffer => true

def selectFrom (strategies : List Strategy) (signature : Signature)
    (setting : StrategySetting) : Except Fault Strategy :=
  match strategies.find? (·.accepts signature setting) with
  | some strategy => .ok strategy
  | none => .error (.unsupportedSignature signature.describe)

def select (signature : Signature) (setting : StrategySetting) : Except Fault Strategy :=
  selectFrom order signature setting

theorem select_ne_error (signature : Signature) (setting : StrategySetting) (fault : Fault) :
    select signature setting ≠ .error fault := by
  rw [select, selectFrom]
  split
  next => simp
  next missing =>
    have none := List.find?_eq_none.1 missing buffer (mem_order buffer)
    simp [accepts] at none

end Strategy

end ForeignCall
