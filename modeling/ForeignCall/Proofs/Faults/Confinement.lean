import ForeignCall.Proofs.Running

/-! Which faults an effect may end in. Some are faults of what is declared, and stay; the others are
faults of a single call. -/

namespace ForeignCall

namespace Fault

def Lasting (fault : Fault) : Prop := fault.ofConstruction = true

def Passing (fault : Fault) : Prop := fault.ofConstruction = false

theorem lasting_unsupportedType (reason : String) : (unsupportedType reason).Lasting := rfl

theorem passing_argumentCount (expected found : Nat) : (argumentCount expected found).Passing := rfl

end Fault

def OnlyFaults {Result : Type} (faults : Fault → Prop) (outcome : Except Fault Result) : Prop :=
  ∀ fault, outcome = .error fault → faults fault

namespace OnlyFaults

variable {Result Final : Type} {faults : Fault → Prop}

theorem ok (result : Result) : OnlyFaults faults (.ok result) := fun _ failed => nomatch failed

theorem error {fault : Fault} (fits : faults fault) :
    OnlyFaults faults (.error fault : Except Fault Result) := by
  rintro _ ⟨⟩
  exact fits

theorem bind {outcome : Except Fault Result} {next : Result → Except Fault Final}
    (first : OnlyFaults faults outcome) (others : ∀ result, OnlyFaults faults (next result)) :
    OnlyFaults faults (outcome >>= next) := by
  cases outcome with
  | ok result => exact others result
  | error fault => exact .error (first fault rfl)

theorem map {outcome : Except Fault Result} (first : OnlyFaults faults outcome)
    (change : Result → Final) : OnlyFaults faults (outcome.map change) := by
  cases outcome with
  | ok result => exact .ok _
  | error fault => exact .error (first fault rfl)

end OnlyFaults

namespace Act

variable {State Result Final : Type}

/-- Wherever an invariant holds, an effect keeps it; it succeeds only with results of some property,
and fails only with faults of some kind. -/
structure Confines (invariant : State → Prop) (faults : Fault → Prop) (property : Result → Prop)
    (action : Act State Result) : Prop where
  ensures : action.Ensures invariant property
  fails : ∀ state fault after, invariant state →
    action.run.run state = (.error fault, after) → faults fault

namespace Confines

variable {invariant : State → Prop} {faults : Fault → Prop} {property : Result → Prop}

theorem pure {result : Result} (holds : property result) :
    Confines invariant faults property (Pure.pure result : Act State Result) :=
  ⟨.pure holds, fun _ _ _ _ ran => nomatch ran⟩

theorem throw {fault : Fault} (fits : faults fault) :
    Confines invariant faults property (MonadExcept.throw fault : Act State Result) := by
  refine ⟨.throw fault, fun state other after _ ran => ?_⟩
  cases ran
  exact fits

theorem ofExcept {outcome : Except Fault Result}
    (fits : OnlyFaults faults outcome)
    (holds : ∀ result, outcome = .ok result → property result) :
    Confines invariant faults property (liftM outcome : Act State Result) := by
  refine ⟨.ofExcept holds, fun state fault after _ ran => ?_⟩
  cases outcome with
  | ok result => cases ran
  | error other =>
    cases ran
    exact fits fault rfl

theorem ofState {action : StateM State Result}
    (kept : ∀ state, invariant state → invariant (action.run state).2)
    (holds : ∀ state, invariant state → property (action.run state).1) :
    Confines invariant faults property (liftM action : Act State Result) :=
  ⟨.ofState kept holds, fun _ _ _ _ ran => nomatch ran⟩

theorem get : Confines invariant faults invariant (MonadState.get : Act State State) :=
  ⟨.get, fun _ _ _ _ ran => nomatch ran⟩

theorem bind {final : Final → Prop} {action : Act State Result}
    {next : Result → Act State Final} (first : Confines invariant faults property action)
    (others : ∀ result, property result → Confines invariant faults final (next result)) :
    Confines invariant faults final (action >>= next) := by
  refine ⟨first.ensures.bind fun result good => (others result good).ensures, ?_⟩
  intro state fault after holds ran
  rw [run_bind] at ran
  split at ran
  next result between started =>
    obtain ⟨kept, good⟩ := first.ensures _ _ _ holds started
    exact (others result (good result rfl)).fails between fault after kept ran
  next other between started =>
    cases ran
    exact first.fails _ _ _ holds started

theorem throw_bind {final : Final → Prop} {fault : Fault} (fits : faults fault)
    (next : Result → Act State Final) :
    Confines invariant faults final ((MonadExcept.throw fault : Act State Result) >>= next) := by
  refine ⟨.throw_bind fault next, fun state other after _ ran => ?_⟩
  cases ran
  exact fits

theorem weaken {other : Result → Prop} {action : Act State Result}
    (confines : Confines invariant faults property action)
    (weaker : ∀ result, property result → other result) :
    Confines invariant faults other action :=
  ⟨confines.ensures.weaken weaker, confines.fails⟩

theorem mapM_all {Item : Type} {step : Item → Act State Result} (items : List Item)
    (each : ∀ item ∈ items, Confines invariant faults property (step item)) :
    Confines invariant faults (fun results => results.length = items.length ∧
      ∀ result ∈ results, property result) (items.mapM step) := by
  induction items with
  | nil => exact pure ⟨rfl, by simp⟩
  | cons head rest ih =>
    obtain ⟨first, others⟩ := List.forall_mem_cons.1 each
    rw [List.mapM_cons]
    refine first.bind fun result good => (ih others).bind fun results ⟨counted, all⟩ => ?_
    exact pure ⟨congrArg (· + 1) counted, List.forall_mem_cons.2 ⟨good, all⟩⟩

theorem both {other : Result → Prop} {action : Act State Result}
    (confines : Confines invariant faults property action) (returns : action.Returns other) :
    Confines invariant faults (fun result => property result ∧ other result) action :=
  ⟨confines.ensures.both returns, confines.fails⟩

theorem forM {Item : Type} {step : Item → Act State PUnit} (items : List Item)
    (each : ∀ item ∈ items, Confines invariant faults (fun _ => True) (step item)) :
    Confines invariant faults (fun _ => True) (items.forM step) := by
  induction items with
  | nil => exact pure trivial
  | cons head rest ih =>
    obtain ⟨first, others⟩ := List.forall_mem_cons.1 each
    exact first.bind fun _ _ => ih others

end Confines

abbrev FailsOnly (faults : Fault → Prop) (action : Act State Result) : Prop :=
  Confines (fun _ => True) faults (fun _ => True) action

theorem failsOnly_ofExcept {faults : Fault → Prop} {outcome : Except Fault Result}
    (fits : OnlyFaults faults outcome) :
    FailsOnly faults (liftM outcome : Act State Result) :=
  Confines.ofExcept fits fun _ _ => trivial

theorem failsOnly_ofState {faults : Fault → Prop} (action : StateM State Result) :
    FailsOnly faults (liftM action : Act State Result) :=
  Confines.ofState (fun _ _ => trivial) fun _ _ => trivial

theorem Confines.lift {Part : Type} {known : Part → Prop} {invariant : State → Prop}
    {faults : Fault → Prop} {property : Result → Prop} {action : Act Part Result}
    {lifted : Act State Result} (part : State → Part) (replace : State → Part → State)
    (runs : ∀ state, lifted.run.run state =
      ((action.run.run (part state)).1, replace state (action.run.run (part state)).2))
    (confines : action.Confines known faults property)
    (knows : ∀ state, invariant state → known (part state))
    (keeps : ∀ state after, invariant state → known after → invariant (replace state after)) :
    lifted.Confines invariant faults property := by
  constructor
  case ensures =>
    intro state outcome after holds ran
    rw [runs] at ran
    cases ran
    obtain ⟨kept, good⟩ := confines.ensures _ _ _ (knows state holds) rfl
    exact ⟨keeps state _ holds kept, good⟩
  case fails =>
    intro state fault after holds ran
    rw [runs] at ran
    exact confines.fails _ fault _ (knows state holds) (Prod.ext (Prod.mk.inj ran).1 rfl)

end Act

namespace World

variable {Result : Type} {invariant : World → Prop} {faults : Fault → Prop}
  {property : Result → Prop}

theorem confines_inStore {action : Act Store Result}
    (confines : action.Confines (fun _ => True) faults property) :
    (liftM action : Act World Result).Confines (fun _ => True) faults property :=
  .lift (·.toStore) (fun world store => { world with toStore := store }) (fun _ => rfl) confines
    (fun _ _ => trivial) fun _ _ _ _ => trivial

theorem confines_onMappers {known : MapperState → Prop} {action : Act MapperState Result}
    (confines : action.Confines known faults property)
    (knows : ∀ world, invariant world → known world.mappers)
    (keeps : ∀ world mappers, invariant world → known mappers → invariant { world with mappers }) :
    (liftM action : Act World Result).Confines invariant faults property :=
  .lift (·.mappers) (fun world mappers => { world with mappers }) (fun _ => rfl) confines knows
    keeps

theorem confines_onTypes {action : Act LoweringTable Result} (confines : action.FailsOnly faults)
    (keeps : ∀ world types, invariant world → invariant { world with types }) :
    (liftM action : Act World Result).Confines invariant faults fun _ => True :=
  .lift (·.types) (fun world types => { world with types }) (fun _ => rfl) confines
    (fun _ _ => trivial) fun world types holds _ => keeps world types holds

end World

end ForeignCall
