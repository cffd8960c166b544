import ForeignCall.EntryPoint
import ForeignCall.X86.Machine

/-! Calling a bound function: the arguments are converted, the function is called once, the error
code is saved where the signature asks for it, buffers are copied back, and the result is
converted. -/

namespace ForeignCall

inductive Operand
  /-- An image of a C type. -/
  | image (native : CType) (image : UInt64)
  /-- A buffer that is lent for the call, and what it is copied back to. -/
  | loan (owner : Owner) (direction : Direction) (buffer : List UInt8)

structure Loan where
  address : Nat
  length : Nat
  owner : Owner
  direction : Direction

namespace Operand

def native : Operand → CType
  | image native _ => native
  | loan .. => .pointer

end Operand

namespace Store

def lend (buffer : List UInt8) : StateM Store Nat :=
  allocate 16 ((buffer.length + 7) / 8 * 8) buffer

def lendAll (model : DataModel) : List Operand → StateM Store (List UInt64 × List Loan)
  | [] => return ([], [])
  | .image native image :: rest => do
    let (slots, loans) ← lendAll model rest
    return (Slot.ofImage image native model :: slots, loans)
  | .loan owner direction buffer :: rest => do
    let address ← lend buffer
    let (slots, loans) ← lendAll model rest
    return (Slot.ofImage (UInt64.ofNat address) .pointer model :: slots,
      ⟨address, buffer.length, owner, direction⟩ :: loans)

def outgrown : Fault := .typeMismatch "array that fits its buffer" "longer array"

/-- Copies lent buffers back and gives them up, in order. The program ends at the first that an
array has outgrown, as callables may make arrays longer meanwhile. -/
def settle : List Loan → Act Store Unit
  | [] => return ()
  | loan :: rest => do
    let store ← get
    let buffer := store.memory.read loan.address loan.length
    match store.heap.copyBack? loan.owner buffer loan.direction with
    | some heap =>
      set { store with heap }
      release loan.address
      settle rest
    | none =>
      abort .outOfRange
      throw outgrown

end Store

namespace World

def operand (signature : Signature) (parameter : Parameter) (value : Value) :
    Act World Operand := do
  match parameter.kind with
  | .integer | .single | .double =>
    return .image parameter.native (← parameter.send value parameter.context signature.model)
  | .array element direction =>
    match ← parameter.convert value parameter.context with
    | .null => return .image .pointer 0
    | .array reference =>
      let elements := (← get).heap.array reference
      if elements.element = element then
        return .loan (.array reference) direction (marshalElements elements direction)
      else throw (.typeMismatch parameter.carrier.describe (Value.array reference).kind)
    | other => throw (.typeMismatch parameter.carrier.describe other.kind)
  | .struct direction =>
    match ← parameter.convert value parameter.context with
    | .null => return .image .pointer 0
    | .struct layout reference =>
      let bytes := (← get).heap.struct reference
      return .loan (.struct reference) direction (marshalBytes layout bytes direction)
    | other => throw (.typeMismatch parameter.carrier.describe other.kind)
  | .callback site =>
    match ← parameter.convert value parameter.context with
    | .callback serial => return .image .pointer (UInt64.ofNat (← closureAddress site serial))
    | .address address => return .image .pointer address
    | .null => return .image .pointer 0
    | other => throw (.typeMismatch "callback" other.kind)

def trailingOperand (signature : Signature) (value : Value) : Act World Operand := do
  match value with
  | .bool _ | .byte _ | .short _ | .char _ | .int _ =>
    return .image .int (← value.toImage .int .int signature.model)
  | .long integer => return .image .longLong integer.toUInt64
  | .float _ | .double _ =>
    return .image .double (← value.toImage .double .double signature.model)
  | .address address => return .image .pointer address
  | .null => return .image .pointer 0
  | .enum constant =>
    return .image .int (← constant.enumeration.intOf constant).toInt64.toUInt64
  | .text text =>
    let elements : Elements := .ofBytes (← liftM (Store.encodeText signature.encoding text))
    let direction : Direction := ⟨true, false, false⟩
    match ← liftM (Store.newArray elements) with
    | .array reference =>
      return .loan (.array reference) direction (marshalElements elements direction)
    | other => throw (.typeMismatch "variadic argument" other.kind)
  | .array _ | .struct .. =>
    match value.lend? (← get).heap .both with
    | some (owner, buffer) => return .loan owner .both buffer
    | none => throw (.typeMismatch "variadic argument" value.kind)
  | other => throw (.typeMismatch "variadic argument" other.kind)

def saveError (signature : Signature) : StateM World Unit := do
  if signature.savesError then
    modify fun world => { world with savedError := world.errorCode }

/-- What native code does, told the address and the registers with which it is entered. -/
abbrev NativeCode := UInt64 → EntryRegisters → StateM World ReturnRegisters

def callScalar (code : NativeCode) (bound : BoundFunction) (images : List UInt64) :
    StateM World UInt64 := do
  let function := code (UInt64.ofNat bound.address)
  match bound.path with
  | .stub address _ =>
    X86.callBlock code ((← get).memory.readWritten address) images
  | .fastInt =>
    let returned ← function
      (.ofArguments (images.map fun image => (false, image.toUInt32.toUInt64)))
    return returned.integer.toUInt32.toInt32.toInt64.toUInt64
  | .fastLong =>
    let returned ← function (.ofArguments (images.map (false, ·)))
    return returned.integer
  | .numeric interface | .buffer (some interface) =>
    let slots := (interface.arguments.zip images).map fun (native, image) =>
      Slot.ofImage image native interface.model
    interface.call function slots
  | .buffer none => return 0

def invokeScalar (code : NativeCode) (bound : BoundFunction) (arguments : List Value) :
    Act World Value := do
  let signature := bound.signature
  let images ← (signature.parameters.zip arguments).mapM fun (parameter, value) =>
    (parameter.send value parameter.context signature.model : Act Store UInt64)
  let image ← liftM (callScalar code bound images)
  saveError signature
  signature.result.receive image signature.result.context signature.model

def invokeBuffered (code : NativeCode) (bound : BoundFunction) (prepared : Option CallInterface)
    (arguments : List Value) : Act World Value := do
  let signature := bound.signature
  let named := signature.parameters.length
  let declared ← (signature.parameters.zip arguments).mapM fun (parameter, value) =>
    operand signature parameter value
  let (operands, interface) ← match prepared with
    | some interface => pure (declared, interface)
    | none =>
      let trailing ← (arguments.drop named).mapM (trailingOperand signature)
      let operands := declared ++ trailing
      let interface ← CallInterface.prepare (operands.map (·.native)) (some named)
        signature.result.native signature.model
      pure (operands, interface)
  let (slots, loans) ← liftM (Store.lendAll signature.model operands)
  let image ← liftM (interface.call (code (UInt64.ofNat bound.address)) slots)
  saveError signature
  liftM (Store.settle loans)
  signature.result.receive image signature.result.context signature.model

def invokeIn (code : NativeCode) (entry : EntryPoint) (arguments : List Value) :
    Act World Value := do
  let bound ← entry.outcome
  let named := bound.signature.parameters.length
  unless arguments.length = named ∨ (bound.signature.variadic ∧ named ≤ arguments.length) do
    throw (.argumentCount named arguments.length)
  Store.record (.nativeCall entry.name arguments.length)
  match bound.path with
  | .buffer interface => invokeBuffered code bound interface arguments
  | _ => invokeScalar code bound arguments

def invoke (entry : EntryPoint) (arguments : List Value) : Act World Value :=
  invokeIn enter entry arguments

end World

end ForeignCall
