import ForeignCall.Proofs.Running

/-! Effects that come to the same wherever they are run, up to what is looked at of their results.
-/

namespace ForeignCall

namespace Act

variable {State Result Final View Sight : Type}

/-- Wherever an invariant holds, it holds after either effect, and both fail with one fault or give
results that look the same. -/
def Alike (invariant : State → Prop) (view : Result → View) (first second : Act State Result) :
    Prop :=
  ∀ left right, invariant left → invariant right →
    invariant (first.run.run left).2 ∧ invariant (second.run.run right).2 ∧
      (first.run.run left).1.map view = (second.run.run right).1.map view

abbrev Settled (invariant : State → Prop) (view : Result → View) (action : Act State Result) :
    Prop :=
  Alike invariant view action action

namespace Alike

variable {invariant : State → Prop} {view : Result → View} {sight : Final → Sight}

theorem pure {first second : Result} (same : view first = view second) :
    Alike invariant view (Pure.pure first : Act State Result) (Pure.pure second) :=
  fun _ _ left right => ⟨left, right, congrArg Except.ok same⟩

theorem throw (fault : Fault) :
    Settled invariant view (MonadExcept.throw fault : Act State Result) :=
  fun _ _ left right => ⟨left, right, rfl⟩

theorem throw_bind (fault : Fault) (next other : Result → Act State Final) :
    Alike invariant sight (MonadExcept.throw fault >>= next) (MonadExcept.throw fault >>= other) :=
  fun _ _ left right => ⟨left, right, rfl⟩

theorem ofExcept {first second : Except Fault Result} (same : first.map view = second.map view) :
    Alike invariant view (liftM first : Act State Result) (liftM second) := by
  intro left right leftHolds rightHolds
  cases first <;> cases second <;> exact ⟨leftHolds, rightHolds, same⟩

theorem ofState {first second : StateM State Result}
    (leftKept : ∀ state, invariant state → invariant (first.run state).2)
    (rightKept : ∀ state, invariant state → invariant (second.run state).2)
    (same : ∀ left right, invariant left → invariant right →
      view (first.run left).1 = view (second.run right).1) :
    Alike invariant view (liftM first : Act State Result) (liftM second) :=
  fun left right leftHolds rightHolds => ⟨leftKept left leftHolds, rightKept right rightHolds,
    congrArg Except.ok (same left right leftHolds rightHolds)⟩

theorem get_bind {next other : State → Act State Final}
    (goes : ∀ left right, invariant left → invariant right →
      Alike invariant sight (next left) (other right)) :
    Alike invariant sight (get >>= next) (get >>= other) := by
  intro left right leftHolds rightHolds
  rw [run_bind, run_bind, run_get, run_get]
  exact goes left right leftHolds rightHolds left right leftHolds rightHolds

theorem bind {first second : Act State Result} {next other : Result → Act State Final}
    (starts : Alike invariant view first second)
    (goes : ∀ left right, view left = view right →
      Alike invariant sight (next left) (other right)) :
    Alike invariant sight (first >>= next) (second >>= other) := by
  intro left right leftHolds rightHolds
  obtain ⟨leftKept, rightKept, same⟩ := starts left right leftHolds rightHolds
  rw [run_bind, run_bind]
  generalize first.run.run left = leftRun at *
  generalize second.run.run right = rightRun at *
  obtain ⟨leftOutcome, leftAfter⟩ := leftRun
  obtain ⟨rightOutcome, rightAfter⟩ := rightRun
  cases leftOutcome with
  | error fault =>
      cases rightOutcome with
      | error other => exact ⟨leftKept, rightKept, by cases same; rfl⟩
      | ok result => cases same
  | ok result =>
      cases rightOutcome with
      | error fault => cases same
      | ok twin => exact goes result twin (Except.ok.inj same) _ _ leftKept rightKept

theorem mapM {Item : Type} {step : Item → Act State Result} (items : List Item)
    (each : ∀ item ∈ items, Settled invariant view (step item)) :
    Settled invariant (List.map view) (items.mapM step) := by
  induction items with
  | nil => exact pure rfl
  | cons head rest ih =>
      rw [List.mapM_cons]
      refine (each head (by simp)).bind fun left right same => ?_
      refine (ih fun item known => each item (by simp [known])).bind fun lefts rights others => ?_
      refine pure ?_
      rw [List.map_cons, List.map_cons, same, others]

theorem keeps {action : Act State Result} (settled : Settled invariant view action) :
    action.Keeps invariant := by
  intro state outcome after holds ran
  have kept := (settled state state holds holds).1
  rw [ran] at kept
  exact ⟨kept, fun _ _ => trivial⟩

end Alike

end Act

end ForeignCall
