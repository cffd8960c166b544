import ForeignCall.Invocation
import ForeignCall.Proofs.Call.Stub
import ForeignCall.Proofs.Signature

/-! Invocations by plan: what happens before a call, which does not depend on the way of calling;
the arguments of the call; and what is made of its result. -/

namespace ForeignCall

def Value.trailingType : Value → CType
  | .bool _ | .byte _ | .short _ | .char _ | .int _ | .enum _ => .int
  | .long _ => .longLong
  | .float _ | .double _ => .double
  | _ => .pointer

namespace Signature

def Takes (signature : Signature) (arguments : List Value) : Prop :=
  arguments.length = signature.parameters.length ∨
    (signature.variadic ∧ signature.parameters.length ≤ arguments.length)

instance (signature : Signature) (arguments : List Value) :
    Decidable (signature.Takes arguments) := inferInstanceAs (Decidable (_ ∨ _))

def nativesFor (signature : Signature) (arguments : List Value) : List CType :=
  signature.natives ++ (arguments.drop signature.parameters.length).map (·.trailingType)

theorem nativesFor_of_counted (signature : Signature) {arguments : List Value}
    (counted : arguments.length = signature.parameters.length) :
    signature.nativesFor arguments = signature.natives := by
  simp [nativesFor, ← counted]

end Signature

namespace World

def operandsFor (signature : Signature) (arguments : List Value) : Act World (List Operand) := do
  let named := signature.parameters.length
  let declared ← (signature.parameters.zip arguments).mapM fun (parameter, value) =>
    operand signature parameter value
  let trailing ← (arguments.drop named).mapM (trailingOperand signature)
  let operands := declared ++ trailing
  if signature.variadic then
    discard (CallInterface.prepare (operands.map (·.native)) (some named)
      signature.result.native signature.model)
  return operands

def prepareCall (name : String) (signature : Signature) (arguments : List Value) :
    Act World (List UInt64 × List Loan) := do
  unless signature.Takes arguments do
    throw (.argumentCount signature.parameters.length arguments.length)
  Store.record (.nativeCall name arguments.length)
  Store.lendAll signature.model (← operandsFor signature arguments)

def conclude (signature : Signature) (loans : List Loan) (image : UInt64) : Act World Value := do
  saveError signature
  liftM (Store.settle loans)
  signature.result.receive image signature.result.context signature.model

end World

/-- What an invocation comes to, whatever function is called. -/
inductive CallPlan
  /-- Nothing is called. -/
  | refuse (fault : Fault) (after : World)
  /-- The function is called once. -/
  | call (arguments : List UInt64) (loans : List Loan) (before : World)

namespace CallPlan

def of (name : String) (signature : Signature) (arguments : List Value) (now : World) :
    CallPlan :=
  match ((World.prepareCall name signature arguments).run.run now :
      Except Fault (List UInt64 × List Loan) × World) with
  | (.ok (slots, loans), before) =>
    .call ((signature.nativesFor arguments).zipWith (·.cut signature.model ·) slots) loans before
  | (.error fault, after) => .refuse fault after

def run (signature : Signature) (body : List UInt64 → StateM World UInt64) :
    CallPlan → Except Fault Value × World
  | refuse fault after => (.error fault, after)
  | call arguments loans before =>
    (liftM (body arguments) >>= World.conclude signature loans : Act World Value).run.run before

theorem run_of (name : String) (signature : Signature) (arguments : List Value)
    (now : World) (body : List UInt64 → StateM World UInt64) :
    (of name signature arguments now).run signature body =
      (World.prepareCall name signature arguments >>= fun (slots, loans) =>
        liftM (body ((signature.nativesFor arguments).zipWith (·.cut signature.model ·) slots)) >>=
          World.conclude signature loans).run.run now := by
  rw [Act.run_bind, of]
  obtain ⟨fault | ⟨slots, loans⟩, after⟩ : Except Fault (List UInt64 × List Loan) × World :=
    (World.prepareCall name signature arguments).run.run now
  · rfl
  · rfl

end CallPlan

/-- Code computes a function of arguments of some C types: it reads no argument beyond its type, and
of what it leaves as the result no more counts than the result's type covers. -/
def Computes (code : EntryRegisters → StateM World ReturnRegisters)
    (body : List UInt64 → StateM World UInt64) (model : DataModel) (types : List CType)
    (result : CType) : Prop :=
  ∀ entry, (fun returned => result.cut model (returned.image result)) <$> code entry =
    (fun image => result.cut model image) <$> body (entry.read model types)

namespace World

theorem prepareCall_of_takes {signature : Signature} {arguments : List Value}
    (takes : signature.Takes arguments) (name : String) :
    prepareCall name signature arguments =
      liftM (Store.record (.nativeCall name arguments.length)) >>= fun _ =>
        operandsFor signature arguments >>= fun operands =>
          liftM (Store.lendAll signature.model operands) := by
  rw [prepareCall, if_pos takes]

theorem invokeIn_of_takes (code : NativeCode) {bound : BoundFunction} {arguments : List Value}
    (takes : bound.signature.Takes arguments) (name : String) :
    invokeIn code ⟨name, .ok bound⟩ arguments =
      liftM (Store.record (.nativeCall name arguments.length)) >>= fun _ =>
        match bound.path with
        | .buffer interface => invokeBuffered code bound interface arguments
        | _ => invokeScalar code bound arguments := by
  change (if bound.signature.Takes arguments then _ else _) = _
  exact if_pos takes

theorem invokeIn_of_not_takes (code : NativeCode) {bound : BoundFunction} {arguments : List Value}
    (refused : ¬ bound.signature.Takes arguments) (name : String) (now : World)
    (body : List UInt64 → StateM World UInt64) :
    (invokeIn code ⟨name, .ok bound⟩ arguments).run.run now =
      (CallPlan.of name bound.signature arguments now).run bound.signature body := by
  rw [CallPlan.run_of, prepareCall, if_neg refused]
  change ((if bound.signature.Takes arguments then _ else _) : Act World Value).run.run now = _
  rw [if_neg refused]
  rfl

theorem receive_cut (passage : Passage) (image : UInt64) (context : ConversionContext)
    (model : DataModel) :
    passage.receive (passage.native.cut model image) context model =
      passage.receive image context model := by
  simp only [Passage.receive, Value.ofImage_cut]

theorem conclude_cut (signature : Signature) (loans : List Loan) (image : UInt64) :
    conclude signature loans (signature.result.native.cut signature.model image) =
      conclude signature loans image := by
  simp only [conclude, receive_cut]

theorem conclude_of_computes {signature : Signature}
    {code : EntryRegisters → StateM World ReturnRegisters}
    {body : List UInt64 → StateM World UInt64} {types : List CType}
    (computes : Computes code body signature.model types signature.result.native)
    {answer : ReturnRegisters → UInt64}
    (faithful : ∀ returned, signature.result.native.cut signature.model (answer returned) =
      signature.result.native.cut signature.model (returned.image signature.result.native))
    (loans : List Loan) (entry : EntryRegisters) :
    (liftM (answer <$> code entry) >>= conclude signature loans : Act World Value) =
      liftM (body (entry.read signature.model types)) >>= conclude signature loans := by
  have same := computes entry
  simp only [← faithful] at same
  have cutting : ∀ action : StateM World UInt64,
      (liftM action >>= conclude signature loans : Act World Value) =
        liftM ((signature.result.native.cut signature.model ·) <$> action) >>=
          conclude signature loans := by
    intro action
    simp only [liftM_map, bind_map_left, conclude_cut signature]
  rw [cutting (answer <$> code entry), cutting (body _), ← same, Functor.map_map]

end World

end ForeignCall
