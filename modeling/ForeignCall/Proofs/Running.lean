import ForeignCall.World
import Mathlib.Data.List.Forall2

/-! Running effects that may fail: what a sequence of steps comes to, told what its steps come to.
-/

namespace ForeignCall

namespace Act

variable {State Result Final Error : Type}

theorem run_bind (action : ExceptT Error (StateM State) Result)
    (next : Result → ExceptT Error (StateM State) Final) (state : State) :
    (action >>= next).run.run state =
      match (action.run.run state : Except Error Result × State) with
      | (.ok result, after) => (next result).run.run after
      | (.error error, after) => (.error error, after) := by
  rw [ExceptT.run_bind, StateT.run_bind]
  obtain ⟨outcome, after⟩ : Except Error Result × State := action.run.run state
  cases outcome <;> rfl

theorem run_lift (action : StateM State Result) (state : State) :
    (liftM action : ExceptT Error (StateM State) Result).run.run state =
      (.ok (action.run state).1, (action.run state).2) := rfl

theorem run_get (state : State) :
    (get : ExceptT Error (StateM State) State).run.run state = (.ok state, state) := rfl

theorem run_tryCatch (action : Act State Result)
    (handler : Fault → Act State Result) (state : State) :
    (tryCatch action handler).run.run state =
      match (action.run.run state : Except Fault Result × State) with
      | (.ok result, after) => (.ok result, after)
      | (.error fault, after) => (handler fault).run.run after := by
  rw [ExceptT.run_tryCatch, StateT.run_bind]
  obtain ⟨outcome, after⟩ : Except Fault Result × State := action.run.run state
  cases outcome <;> rfl

theorem run_of_toOption {action : Act State Result} {state : State} {result : Result}
    (answered : (action.run.run state).1.toOption = some result) :
    action.run.run state = (.ok result, (action.run.run state).2) := by
  generalize action.run.run state = ended at *
  obtain ⟨outcome, after⟩ := ended
  cases outcome with
  | ok other =>
      cases answered
      rfl
  | error fault => cases answered

theorem exists_run_of_map {action : Act State Result} {state : State} {part : Result → Final}
    {wanted : Final} (answered : (action.run.run state).1.map part = .ok wanted) :
    ∃ result after, action.run.run state = (.ok result, after) ∧ part result = wanted := by
  generalize action.run.run state = ended at *
  obtain ⟨outcome, after⟩ := ended
  cases outcome with
  | ok result => exact ⟨result, after, rfl, Except.ok.inj answered⟩
  | error fault => cases answered

theorem exists_run_of_map_error {action : Act State Result} {state : State}
    {part : Result → Final} {fault : Fault}
    (answered : (action.run.run state).1.map part = .error fault) :
    ∃ after, action.run.run state = (.error fault, after) := by
  generalize action.run.run state = ended at *
  obtain ⟨outcome, after⟩ := ended
  cases outcome with
  | ok result => cases answered
  | error other =>
      cases answered
      exact ⟨after, rfl⟩

theorem no_result {property : Result → Prop} {error : Error} (result : Result)
    (answered : (Except.error error : Except Error Result) = .ok result) : property result := by
  cases answered

theorem of_run_bind {action : Act State Result} {next : Result → Act State Final}
    {state last : State} {final : Final}
    (ran : (action >>= next).run.run state = (.ok final, last)) :
    ∃ result between, action.run.run state = (.ok result, between) ∧
      (next result).run.run between = (.ok final, last) := by
  rw [run_bind] at ran
  split at ran
  next result between first => exact ⟨result, between, first, ran⟩
  next fault between _ => cases ran

theorem run_bind_congr {action : Act State Result} {left right : Result → Act State Final}
    {state : State}
    (same : ∀ result after, action.run.run state = (.ok result, after) →
      (left result).run.run after = (right result).run.run after) :
    (action >>= left).run.run state = (action >>= right).run.run state := by
  rw [run_bind, run_bind]
  split
  next result after ran => exact same result after ran
  next => rfl

/-- Wherever an invariant holds of the state, it holds after an effect, whether that fails or not;
and when the effect succeeds, its result has some property. -/
def Ensures (invariant : State → Prop) (property : Result → Prop)
    (action : Act State Result) : Prop :=
  ∀ (state : State) (outcome : Except Fault Result) (after : State), invariant state →
    action.run.run state = (outcome, after) →
      invariant after ∧ ∀ result, outcome = .ok result → property result

namespace Ensures

variable {invariant : State → Prop} {property : Result → Prop}

theorem pure {result : Result} (holds : property result) :
    Ensures invariant property (Pure.pure result : Act State Result) := by
  intro state outcome after kept ran
  cases ran
  refine ⟨kept, ?_⟩
  rintro _ ⟨⟩
  exact holds

theorem throw (fault : Fault) :
    Ensures invariant property (MonadExcept.throw fault : Act State Result) := by
  intro state outcome after kept ran
  cases ran
  exact ⟨kept, no_result⟩

theorem ofExcept {outcome : Except Fault Result}
    (holds : ∀ result, outcome = .ok result → property result) :
    Ensures invariant property (liftM outcome : Act State Result) := by
  intro state final after kept ran
  cases outcome <;> cases ran <;> exact ⟨kept, holds⟩

theorem ofState {action : StateM State Result}
    (kept : ∀ state, invariant state → invariant (action.run state).2)
    (holds : ∀ state, invariant state → property (action.run state).1) :
    Ensures invariant property (liftM action : Act State Result) := by
  intro state outcome after before ran
  cases ran
  refine ⟨kept state before, ?_⟩
  rintro _ ⟨⟩
  exact holds state before

theorem get : Ensures invariant invariant (MonadState.get : Act State State) := by
  intro state outcome after kept ran
  cases ran
  refine ⟨kept, ?_⟩
  rintro _ ⟨⟩
  exact kept

theorem bind {final : Final → Prop} {action : Act State Result}
    {next : Result → Act State Final} (first : Ensures invariant property action)
    (others : ∀ result, property result → Ensures invariant final (next result)) :
    Ensures invariant final (action >>= next) := by
  intro state outcome last kept ran
  rw [run_bind] at ran
  split at ran
  next result between started =>
    obtain ⟨holds, good⟩ := first _ _ _ kept started
    exact others result (good result rfl) between outcome last holds ran
  next fault between started =>
    cases ran
    exact ⟨(first _ _ _ kept started).1, no_result⟩

theorem tryCatch {action : Act State Result} {handler : Fault → Act State Result}
    (first : Ensures invariant property action)
    (others : ∀ fault, Ensures invariant property (handler fault)) :
    Ensures invariant property (MonadExcept.tryCatch action handler) := by
  intro state outcome after kept ran
  rw [run_tryCatch] at ran
  split at ran
  next result between tried =>
    cases ran
    exact first _ _ _ kept tried
  next fault between tried =>
    exact others fault between outcome after (first _ _ _ kept tried).1 ran

theorem throw_bind {final : Final → Prop} (fault : Fault) (next : Result → Act State Final) :
    Ensures invariant final ((MonadExcept.throw fault : Act State Result) >>= next) := by
  intro state outcome after kept ran
  cases ran
  exact ⟨kept, no_result⟩

theorem weaken {other : Result → Prop} {action : Act State Result}
    (ensures : Ensures invariant property action)
    (weaker : ∀ result, property result → other result) :
    Ensures invariant other action := by
  intro state outcome after kept ran
  obtain ⟨holds, good⟩ := ensures state outcome after kept ran
  exact ⟨holds, fun result same => weaker result (good result same)⟩

theorem both {other : Result → Prop} {action : Act State Result}
    (ensures : Ensures invariant property action) (returns : Ensures (fun _ => True) other action) :
    Ensures invariant (fun result => property result ∧ other result) action := by
  intro state outcome after kept ran
  obtain ⟨holds, good⟩ := ensures state outcome after kept ran
  have too := (returns state outcome after trivial ran).2
  exact ⟨holds, fun result same => ⟨good result same, too result same⟩⟩

theorem mapM {Item : Type} {property : Item → Result → Prop} {step : Item → Act State Result}
    (items : List Item)
    (each : ∀ item ∈ items, Ensures invariant (property item) (step item)) :
    Ensures invariant (fun results => results.length = items.length ∧
      ∀ (index : Nat) (item : Item) (result : Result), items[index]? = some item →
        results[index]? = some result → property item result) (items.mapM step) := by
  induction items with
  | nil => exact pure ⟨rfl, by simp⟩
  | cons head rest ih =>
      rw [List.mapM_cons]
      refine (each head (by simp)).bind fun first good => ?_
      refine (ih fun item known => each item (by simp [known])).bind fun results => ?_
      rintro ⟨counted, inner⟩
      refine pure ⟨by simp [counted], ?_⟩
      intro index item result known present
      cases index with
      | zero =>
          cases known
          cases present
          exact good
      | succ index => exact inner index item result known present

theorem mapM_all {Item : Type} {property : Result → Prop} {step : Item → Act State Result}
    (items : List Item) (each : ∀ item ∈ items, Ensures invariant property (step item)) :
    Ensures invariant (fun results => ∀ result ∈ results, property result) (items.mapM step) := by
  refine (mapM items each).weaken ?_
  rintro results ⟨counted, good⟩ result known
  obtain ⟨index, present⟩ := List.mem_iff_getElem?.1 known
  have inside := (List.getElem?_eq_some_iff.1 present).1
  exact good index items[index] result (by simp [← counted, inside]) present

theorem forall₂_mapM {Item : Type} {property : Item → Result → Prop}
    {step : Item → Act State Result} (items : List Item)
    (each : ∀ item ∈ items, Ensures invariant (property item) (step item)) :
    Ensures invariant (List.Forall₂ property items) (items.mapM step) := by
  induction items with
  | nil => exact pure .nil
  | cons head rest ih =>
      obtain ⟨first, others⟩ := List.forall_mem_cons.1 each
      rw [List.mapM_cons]
      refine first.bind fun result good => (ih others).bind fun results all => ?_
      exact pure (.cons good all)

theorem forM {Item : Type} {step : Item → Act State PUnit} (items : List Item)
    (each : ∀ item ∈ items, Ensures invariant (fun _ => True) (step item)) :
    Ensures invariant (fun _ => True) (items.forM step) := by
  induction items with
  | nil => exact pure trivial
  | cons head rest ih =>
      exact (each head (by simp)).bind fun _ _ => ih fun item known => each item (by simp [known])

theorem forIn {Item Carried : Type} {step : Item → Carried → Act State (ForInStep Carried)}
    (items : List Item) (start : Carried)
    (each : ∀ item carried, Ensures invariant (fun _ => True) (step item carried)) :
    Ensures invariant (fun _ => True) (ForIn.forIn items start step) := by
  induction items generalizing start with
  | nil => exact pure trivial
  | cons head rest ih =>
      rw [List.forIn_cons]
      refine (each head start).bind fun stepped _ => ?_
      cases stepped with
      | done carried => exact pure trivial
      | yield carried => exact ih carried

end Ensures

abbrev Keeps (invariant : State → Prop) (action : Act State Result) : Prop :=
  Ensures invariant (fun _ => True) action

theorem Keeps.of_run (invariant : State → Prop) {action : Act State Result} {state after : State}
    {outcome : Except Fault Result} (ran : action.run.run state = (outcome, after))
    (before : invariant state) (keeps : Keeps invariant action) : invariant after :=
  (keeps state outcome after before ran).1

theorem keeps_ofState {invariant : State → Prop} {action : StateM State Result}
    (kept : ∀ state, invariant state → invariant (action.run state).2) :
    Keeps invariant (liftM action : Act State Result) :=
  .ofState kept fun _ _ => trivial

abbrev Returns (property : Result → Prop) (action : Act State Result) : Prop :=
  Ensures (fun _ => True) property action

theorem returns_true (action : Act State Result) : Returns (fun _ => True) action :=
  fun _ _ _ _ _ => ⟨trivial, fun _ _ => trivial⟩

theorem Returns.of_run {property : Result → Prop} {action : Act State Result}
    (returns : Returns property action) {state after : State} {result : Result}
    (ran : action.run.run state = (.ok result, after)) : property result :=
  (returns state _ after trivial ran).2 result rfl

/-- Where every step leads from a state to one that is reached from it, each of the results was
had from one such step on the way. -/
theorem between_mapM {Item : Type} {reaches : State → State → Prop}
    (refl : ∀ state, reaches state state)
    (trans : ∀ {first second third : State}, reaches first second → reaches second third →
      reaches first third)
    {step : Item → Act State Result} {items : List Item}
    (each : ∀ item ∈ items, ∀ origin, (step item).Keeps (reaches origin))
    {first last : State} {results : List Result}
    (ran : (items.mapM step).run.run first = (.ok results, last)) :
    reaches first last ∧ ∀ result ∈ results, ∃ item ∈ items, ∃ before after,
      (step item).run.run before = (.ok result, after) ∧ reaches first after ∧
        reaches after last := by
  induction items generalizing first results with
  | nil =>
      cases ran
      exact ⟨refl _, fun _ known => nomatch known⟩
  | cons head rest ih =>
      rw [List.mapM_cons] at ran
      obtain ⟨made, between, stepped, others⟩ := of_run_bind ran
      obtain ⟨more, final, others, done⟩ := of_run_bind others
      cases done
      have here := (each head List.mem_cons_self first).of_run _ stepped (refl first)
      obtain ⟨there, later⟩ := ih (fun item known => each item (List.mem_cons_of_mem _ known)) others
      refine ⟨trans here there, fun result known => ?_⟩
      rcases List.mem_cons.1 known with rfl | known
      · exact ⟨head, List.mem_cons_self, first, between, stepped, here, there⟩
      · obtain ⟨item, listed, before, after, stepped, earlier, rest⟩ := later result known
        exact ⟨item, List.mem_cons_of_mem _ listed, before, after, stepped, trans here earlier,
          rest⟩

end Act

namespace World

theorem run_onStore {Result : Type} (action : StateM Store Result) (world : World) :
    (liftM action : Act World Result).run.run world =
      (.ok (action.run world.toStore).1, { world with toStore := (action.run world.toStore).2 }) :=
  rfl

theorem run_inStore {Result : Type} (action : Act Store Result) (world : World) :
    (liftM action : Act World Result).run.run world =
      ((action.run.run world.toStore).1,
        { world with toStore := (action.run.run world.toStore).2 }) := rfl

theorem run_onPages {Result : Type} (action : Act PageStore Result) (world : World) :
    (liftM action : Act World Result).run.run world =
      ((action.run.run world.toPageStore).1,
        { world with toPageStore := (action.run.run world.toPageStore).2 }) := rfl

theorem eq_of_start {config : Config} {policy : Option PagePolicy} {world : World}
    (started : World.start config policy = .ok world) :
    ∃ (granting : PagePolicy) (event : Event), world =
      ((liftM (Store.record event) : StateM World Unit).run (initial config granting)).2 := by
  rw [World.start] at started
  cases valid : config.validate with
  | error fault =>
      rw [valid] at started
      cases started
  | ok done =>
      rw [valid] at started
      cases started
      exact ⟨_, _, rfl⟩

variable {Result : Type} {property : Result → Prop}

theorem ensures_onStore {invariant : Store → Prop} {action : Act Store Result}
    (ensures : action.Ensures invariant property) :
    (liftM action : Act World Result).Ensures (fun world => invariant world.toStore) property := by
  intro world outcome after holds ran
  cases ran
  exact ensures world.toStore _ _ holds rfl

theorem ensures_onTypes {invariant : LoweringTable → Prop} {action : Act LoweringTable Result}
    (ensures : action.Ensures invariant property) :
    (liftM action : Act World Result).Ensures (fun world => invariant world.types) property := by
  intro world outcome after holds ran
  cases ran
  exact ensures world.types _ _ holds rfl

end World

end ForeignCall
