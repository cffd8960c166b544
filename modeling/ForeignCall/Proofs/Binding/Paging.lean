import ForeignCall.Binding.Library

/-! Effects that change nothing but pages, with what is stored and recorded in them. So it is when
entry points are published and when they are given up. -/

namespace ForeignCall

namespace World

def InPages {Result : Type} (action : StateM World Result) : Prop :=
  ∀ world, ∃ pages, (action.run world).2 = { world with toPageStore := pages }

namespace InPages

variable {Result Final : Type}

theorem pure (result : Result) : InPages (Pure.pure result) := fun world => ⟨world.toPageStore, rfl⟩

theorem get : InPages MonadState.get := fun world => ⟨world.toPageStore, rfl⟩

theorem onPages (action : StateM PageStore Result) : InPages (World.onPages action) :=
  fun world => ⟨(action.run world.toPageStore).2, rfl⟩

theorem attempt (action : Act PageStore Result) :
    InPages (liftM action : Act World Result).run :=
  fun world => ⟨(action.run.run world.toPageStore).2, rfl⟩

theorem bind {action : StateM World Result} {next : Result → StateM World Final}
    (first : InPages action) (others : ∀ result, InPages (next result)) :
    InPages (action >>= next) := by
  intro world
  obtain ⟨between, changed⟩ := first world
  obtain ⟨pages, last⟩ := others (action.run world).1 (action.run world).2
  refine ⟨pages, ?_⟩
  rw [StateT.run_bind]
  refine last.trans ?_
  rw [changed]

theorem foldlM {Item : Type} {step : Result → Item → StateM World Result}
    (each : ∀ result item, InPages (step result item)) (items : List Item) (result : Result) :
    InPages (items.foldlM step result) := by
  induction items generalizing result with
  | nil => exact pure result
  | cons item rest ih =>
    rw [List.foldlM_cons]
    exact (each result item).bind fun next => ih next

theorem forM {Item : Type} {step : Item → StateM World PUnit} (each : ∀ item, InPages (step item))
    (items : List Item) : InPages (items.forM step) := by
  induction items with
  | nil => exact pure PUnit.unit
  | cons item rest ih => exact (each item).bind fun _ => ih

end InPages

theorem inPages_retainEntry (entry : EntryPoint) : InPages (retainEntry entry) := by
  rw [retainEntry]
  split
  next => exact .onPages _
  next => exact .pure _

theorem inPages_releaseEntry (entry : EntryPoint) : InPages (releaseEntry entry) := by
  rw [releaseEntry]
  split
  next => exact .onPages _
  next => exact .pure _

theorem inPages_buildStubbed (function : PreparedFunction) (stub : InstalledStub) (block : Nat) :
    InPages (buildStubbed function stub block) := by
  have counts : InPages (buildStub function.signature function.address stub block) :=
    .bind (.onPages _) fun _ => .pure _
  exact counts.bind fun entry => (inPages_retainEntry entry).bind fun _ => .pure _

theorem inPages_concludeEntry (name : String) (outcome : Except Fault EntryPoint) :
    InPages (concludeEntry name outcome) := by
  cases outcome with
  | ok entry =>
    dsimp only [concludeEntry]
    split
    next => exact .bind (.onPages _) fun _ => .pure _
    next => exact .pure _
  | error fault => exact .bind (.onPages _) fun _ => .bind (.onPages _) fun _ => .pure _

theorem inPages_publish (table : DispatchTable) (name : String) (entry : EntryPoint) :
    InPages (publish table name entry) := by
  rw [publish]
  split
  next => exact (inPages_releaseEntry entry).bind fun _ => .pure _
  next => exact .pure _

theorem inPages_publishStubbed (stubbed : List (PreparedFunction × PendingStub))
    (table : DispatchTable) : InPages (publishStubbed stubbed table) := by
  rw [publishStubbed]
  split
  next => exact .pure _
  refine .bind (.attempt _) fun outcome => ?_
  split
  next block installed =>
    refine .bind .get fun world => .bind (.onPages _) fun _ => ?_
    have publishes : InPages ((stubbed.zip installed).foldlM (fun table item => do
        let name := item.1.1.signature.name
        publish table name
          (← concludeEntry name (.ok (← buildStubbed item.1.1 item.2 block)))) table) := by
      refine .foldlM (fun table item => ?_) _ _
      refine (inPages_buildStubbed _ _ _).bind fun entry => ?_
      exact (inPages_concludeEntry _ _).bind fun entry => inPages_publish _ _ _
    exact publishes.bind fun table => .bind (.onPages _) fun _ => .pure _
  next fault =>
    refine .foldlM (fun table item => ?_) _ _
    exact (inPages_concludeEntry _ _).bind fun entry => inPages_publish _ _ _

theorem inPages_closeLibrary (library : Library) : InPages (closeLibrary library) :=
  .forM (fun _ => inPages_releaseEntry _) _

end World

end ForeignCall
