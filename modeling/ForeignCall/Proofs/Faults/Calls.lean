import ForeignCall.Locking
import ForeignCall.Proofs.Call.Preparation
import ForeignCall.Proofs.Faults.Signatures

/-! Faults of calls. Where converters fail only for single values, so does a call, unless a callable
is passed for which there is no closure yet: that one may need pages. -/

namespace ForeignCall

namespace Passage

variable {passage : Passage} (fails : passage.FailsPassing) (context : ConversionContext)
include fails

theorem passing_convert (value : Value) :
    (passage.convert value context).FailsOnly Fault.Passing := by
  rw [convert]
  split
  next converter known => exact fails converter known value context
  next => exact .pure trivial

theorem passing_send (value : Value) (model : DataModel) :
    (passage.send value context model).FailsOnly Fault.Passing :=
  (passing_convert fails context value).bind fun converted _ =>
    Act.failsOnly_ofExcept (converted.passing_toImage passage.carrier passage.native model)

theorem passing_receive (image : UInt64) (model : DataModel) :
    (passage.receive image context model).FailsOnly Fault.Passing :=
  .bind (Act.failsOnly_ofExcept (Value.passing_ofImage passage.carrier passage.native model image))
    fun value _ => passing_convert fails context value

end Passage

/-- What is passed for a callback parameter is converted to a callable. -/
def Parameter.GivesCallable (parameter : Parameter) (value : Value) : Prop :=
  (∃ site, parameter.kind = .callback site) ∧ ∃ store serial after,
    (parameter.convert value parameter.context).run.run store = (.ok (.callback serial), after)

def Signature.CallsBack (signature : Signature) (arguments : List Value) : Prop :=
  ∃ pair ∈ signature.parameters.zip arguments, pair.1.GivesCallable pair.2

theorem Signature.not_callsBack_of_scalars {signature : Signature}
    (scalars : signature.isScalarOnly = true) (arguments : List Value) :
    ¬ signature.CallsBack arguments := by
  rintro ⟨pair, known, ⟨site, kind⟩, -⟩
  have scalar := List.all_eq_true.1 scalars pair.1 (List.of_mem_zip known).1
  rw [kind] at scalar
  cases scalar

namespace World

theorem passing_operand (signature : Signature) {parameter : Parameter} {value : Value}
    (fails : parameter.FailsPassing) (plain : ¬ parameter.GivesCallable value) :
    (operand signature parameter value).FailsOnly Fault.Passing := by
  have converts : Act.FailsOnly Fault.Passing
      (liftM (parameter.convert value parameter.context) : Act World Value) :=
    confines_inStore (Passage.passing_convert fails parameter.context value)
  have sends : Act.FailsOnly Fault.Passing
      (liftM (parameter.send value parameter.context signature.model) : Act World UInt64) :=
    confines_inStore (Passage.passing_send fails parameter.context value signature.model)
  unfold operand
  split
  next => exact sends.bind fun _ _ => .pure trivial
  next => exact sends.bind fun _ _ => .pure trivial
  next => exact sends.bind fun _ _ => .pure trivial
  next =>
    refine converts.bind fun converted _ => ?_
    split
    next => exact .pure trivial
    next =>
      refine .bind .get fun world _ => ?_
      dsimp only
      split
      next => exact .pure trivial
      next => exact .throw rfl
    next => exact .throw rfl
  next =>
    refine converts.bind fun converted _ => ?_
    split
    next => exact .pure trivial
    next => exact .bind .get fun world _ => .pure trivial
    next => exact .throw rfl
  next site kind =>
    -- a callable would need a closure, for which there may be no pages
    have answers : Act.Returns (fun converted => ∀ serial, converted ≠ Value.callback serial)
        (parameter.convert value parameter.context) := by
      intro store outcome after _ ran
      refine ⟨trivial, ?_⟩
      rintro _ rfl serial rfl
      exact plain ⟨⟨site, kind⟩, store, serial, after, ran⟩
    refine (confines_inStore ((Passage.passing_convert fails parameter.context value).both
      answers)).bind fun converted ⟨_, other⟩ => ?_
    cases converted with
    | callback serial => exact (other serial rfl).elim
    | address | null => exact .pure trivial
    | _ => exact .throw rfl

theorem passing_trailingOperand (signature : Signature) (value : Value) :
    (trailingOperand signature value).FailsOnly Fault.Passing := by
  cases value with
  | bool | byte | short | char | int | float | double =>
    exact .bind (Act.failsOnly_ofExcept (Value.passing_toImage _ _ _ _)) fun _ _ => .pure trivial
  | enum constant =>
    exact .bind (Act.failsOnly_ofExcept (constant.enumeration.passing_intOf constant))
      fun _ _ => .pure trivial
  | long | address | null => exact .pure trivial
  | text text =>
    refine .bind (confines_inStore (Store.passing_encodeText signature.encoding text))
      fun bytes _ => .bind (Act.failsOnly_ofState _) fun array _ => ?_
    split
    next => exact .pure trivial
    next => exact .throw rfl
  | array | struct => exact .bind .get fun world _ => .pure trivial
  | void | enumSet | callback | object => exact .throw rfl

theorem passing_settle (loans : List Loan) : (Store.settle loans).FailsOnly Fault.Passing := by
  induction loans with
  | nil => exact .pure trivial
  | cons loan rest ih =>
    refine .bind .get fun store _ => ?_
    dsimp only
    split
    next =>
      exact .bind (Act.failsOnly_ofState _) fun _ _ =>
        .bind (Act.failsOnly_ofState _) fun _ _ => ih
    next => exact .bind (Act.failsOnly_ofState _) fun _ _ => .throw rfl

section Bound

variable {bound : BoundFunction} (fails : bound.signature.FailsPassing) {arguments : List Value}
include fails

theorem passing_conclusion (image : UInt64) :
    (liftM (bound.signature.result.receive image bound.signature.result.context
      bound.signature.model) : Act World Value).FailsOnly Fault.Passing :=
  confines_inStore (Passage.passing_receive fails.result _ image _)

theorem passing_invokeScalar (code : NativeCode) :
    (invokeScalar code bound arguments).FailsOnly Fault.Passing := by
  have each : ∀ pair ∈ bound.signature.parameters.zip arguments, Act.FailsOnly Fault.Passing
      (liftM (pair.1.send pair.2 pair.1.context bound.signature.model) : Act World UInt64) :=
    fun pair known => confines_inStore
      (Passage.passing_send (fails.parameters _ (List.of_mem_zip known).1) _ pair.2 _)
  refine .bind (.mapM_all _ each) fun images _ => ?_
  refine .bind (Act.failsOnly_ofState _) fun image _ => ?_
  exact .bind (Act.failsOnly_ofState _) fun _ _ => passing_conclusion fails image

theorem passing_callThrough (code : NativeCode) (operands : List Operand)
    (interface : CallInterface) :
    (do
      let (slots, loans) ← Store.lendAll bound.signature.model operands
      let image ← liftM (interface.call (code (UInt64.ofNat bound.address)) slots)
      saveError bound.signature
      liftM (Store.settle loans)
      bound.signature.result.receive image bound.signature.result.context bound.signature.model :
        Act World Value).FailsOnly Fault.Passing := by
  refine .bind (Act.failsOnly_ofState _) fun lent _ => ?_
  refine .bind (Act.failsOnly_ofState _) fun image _ => ?_
  refine .bind (Act.failsOnly_ofState _) fun _ _ => ?_
  exact .bind (confines_inStore (passing_settle _)) fun _ _ => passing_conclusion fails image

theorem passing_invokeBuffered (code : NativeCode) (prepared : Option CallInterface)
    (enough : bound.signature.parameters.length ≤ arguments.length)
    (uncalled : ¬ bound.signature.CallsBack arguments) :
    (invokeBuffered code bound prepared arguments).FailsOnly Fault.Passing := by
  have each : ∀ pair ∈ bound.signature.parameters.zip arguments, Act.FailsOnly Fault.Passing
      (operand bound.signature pair.1 pair.2) :=
    fun pair known => passing_operand bound.signature
      (fails.parameters _ (List.of_mem_zip known).1) fun gives => uncalled ⟨pair, known, gives⟩
  refine .bind (.mapM_all _ each) fun declared ⟨counted, _⟩ => ?_
  cases prepared with
  | some interface => exact passing_callThrough fails code declared interface
  | none =>
    have trails : ∀ value ∈ arguments.drop bound.signature.parameters.length,
        Act.Confines (fun _ => True) Fault.Passing
          (fun operand => CallInterface.mayTrail bound.signature.model operand.native = true)
          (trailingOperand bound.signature value) := by
      intro value _
      refine ((passing_trailingOperand bound.signature value).both
        (returns_trailingOperand bound.signature value)).weaken ?_
      rintro operand ⟨_, native⟩
      rw [native]
      exact mayTrail_trailingType bound.signature.model value
    refine .bind (.mapM_all _ trails) fun trailing ⟨_, trail⟩ => ?_
    have named : bound.signature.parameters.length = (declared.map (·.native)).length := by
      rw [List.length_map, counted, List.length_zip, Nat.min_eq_left enough]
    have accepted (result : CType) : OnlyFaults Fault.Passing
        (CallInterface.prepare ((declared ++ trailing).map (·.native))
          (some bound.signature.parameters.length) result bound.signature.model) := by
      rw [CallInterface.prepare, if_pos]
      · exact .ok _
      · rw [Option.getD_some, List.map_append, List.drop_left' named.symm]
        exact List.all_eq_true.2 (List.forall_mem_map.2 trail)
    refine .bind (Act.failsOnly_ofExcept (accepted _)) fun interface _ => ?_
    exact passing_callThrough fails code (declared ++ trailing) interface

theorem passing_callBound (code : NativeCode) (name : String)
    (enough : bound.signature.parameters.length ≤ arguments.length)
    (uncalled : ¬ bound.signature.CallsBack arguments) :
    (callBound code name bound arguments).FailsOnly Fault.Passing := by
  refine .bind (Act.failsOnly_ofState _) fun _ _ => ?_
  split
  next interface _ => exact passing_invokeBuffered fails code interface enough uncalled
  next => exact passing_invokeScalar fails code

end Bound

theorem failsOnly_holding {Result : Type} {faults : Fault → Prop} (lock : Option Lock)
    {action : Act World Result} (fails : action.FailsOnly faults) :
    (holding lock action).FailsOnly faults := by
  cases lock with
  | none => exact fails
  | some lock =>
    refine ⟨fun _ _ _ _ _ => ⟨trivial, fun _ _ => trivial⟩, fun world fault after _ ran => ?_⟩
    let ended := action.run.run (lock.take.run world).2
    have answered : (holding (some lock) action).run.run world =
        (ended.1, (lock.giveBack.run ended.2).2) := rfl
    rw [answered] at ran
    exact fails.fails _ fault ended.2 trivial (Prod.ext (Prod.mk.inj ran).1 rfl)

theorem passing_invokeLocked {bound : BoundFunction} (fails : bound.signature.FailsPassing)
    (lock : Option Lock) (code : NativeCode) {entry : EntryPoint}
    (opened : entry.outcome = .ok bound) {arguments : List Value}
    (uncalled : ¬ bound.signature.CallsBack arguments) :
    (invokeLocked lock code entry arguments).FailsOnly Fault.Passing := by
  rw [invokeLocked, opened]
  change ((if bound.signature.Takes arguments then _ else _) : Act World Value).FailsOnly _
  split
  next takes =>
    have enough : bound.signature.parameters.length ≤ arguments.length := by
      rcases takes with exact | ⟨_, more⟩ <;> omega
    exact failsOnly_holding lock (passing_callBound fails code entry.name enough uncalled)
  next => exact .throw_bind (Fault.passing_argumentCount _ _) _

end World

end ForeignCall
