import ForeignCall.Proofs.Binding.Attaching
import ForeignCall.Proofs.Binding.Fate

/-! Publishing: what a library publishes, in which order, and that the blocks of published stubs
stay. -/

namespace ForeignCall

namespace DispatchTable

def offer (table : DispatchTable) (entries : List EntryPoint) : DispatchTable :=
  entries.foldl (fun table entry => table.publish entry.name entry) table

theorem offer_cons (table : DispatchTable) (entry : EntryPoint) (rest : List EntryPoint) :
    table.offer (entry :: rest) = (table.publish entry.name entry).offer rest := rfl

theorem offer_append (table : DispatchTable) (entries others : List EntryPoint) :
    table.offer (entries ++ others) = (table.offer entries).offer others := by
  rw [offer, List.foldl_append, ← offer, ← offer]

theorem find?_offer (table : DispatchTable) (entries : List EntryPoint) (name : String) :
    (table.offer entries).find? name =
      (table.find? name).or (entries.find? (·.name == name)) := by
  induction entries generalizing table with
  | nil => exact Option.or_none.symm
  | cons head rest ih =>
      rw [offer_cons, ih, find?_publish, Option.or_assoc, List.find?_cons]
      by_cases same : name = head.name
      · rw [if_pos same, same, BEq.rfl]
        rfl
      · rw [if_neg same, beq_false_of_ne (Ne.symm same), Option.none_or]

end DispatchTable

def EntryPoint.stubbed (function : PreparedFunction) (stub : InstalledStub) (block : Nat) :
    EntryPoint :=
  ⟨function.signature.name,
    .ok ⟨function.signature, function.address, .stub stub.address block⟩⟩

def stubEntries (stubbed : List (PreparedFunction × PendingStub)) :
    Except Fault (Nat × List InstalledStub) → List EntryPoint
  | .ok (block, installed) => (stubbed.zip installed).map fun (item, stub) =>
      .stubbed item.1 stub block
  | .error fault => stubbed.map fun item => ⟨item.1.signature.name, .error fault⟩

namespace World

theorem run_publish_of_plain {entry : EntryPoint} (plain : entry.block? = none)
    (table : DispatchTable) (name : String) (world : World) :
    (publish table name entry).run world = (table.publish name entry, world) := by
  have idle : releaseEntry entry = pure () := by rw [releaseEntry, plain]
  rw [publish, idle]
  cases (table.find? name).isSome <;> rfl

theorem run_publishUnstubbed_cons (symbols : SymbolTable) (binder : Binder)
    (declaration : FunctionDeclaration) (rest : List FunctionDeclaration) (table : DispatchTable)
    (world : World) :
    (publishUnstubbed symbols binder (declaration :: rest) table).run world =
      match (fate symbols binder declaration).run world with
      | (.pending function stub, after) =>
        let ((table, others), last) := (publishUnstubbed symbols binder rest table).run after
        ((table, (function, stub) :: others), last)
      | (.built entry, after) =>
        let (table, between) := (publish table declaration.name entry).run after
        (publishUnstubbed symbols binder rest table).run between := by
  rw [run_fate, publishUnstubbed, StateT.run_bind]
  generalize (prepare symbols binder declaration).run.run world = prepared
  obtain ⟨outcome, after⟩ : Except Fault PreparedFunction × World := prepared
  cases outcome with
  | error fault => rfl
  | ok function =>
      change StateT.run _ after = _
      dsimp only [Except.toOption, Option.bind]
      cases function.pending? <;> rfl

theorem run_publishUnstubbed (symbols : SymbolTable) (binder : Binder)
    (declarations : List FunctionDeclaration) (table : DispatchTable) (world : World) :
    (publishUnstubbed symbols binder declarations table).run world =
      let (fates, after) := (fates symbols binder declarations).run world
      ((table.offer (fates.filterMap Fate.built?), fates.filterMap Fate.pending?), after) := by
  induction declarations generalizing table world with
  | nil => rfl
  | cons declaration rest ih =>
      obtain ⟨named, proper⟩ := fate_proper symbols binder declaration world
      rw [run_publishUnstubbed_cons, run_fates_cons]
      generalize (fate symbols binder declaration).run world = decided at *
      obtain ⟨fate, after⟩ := decided
      cases fate with
      | pending function stub =>
          dsimp only
          rw [ih]
          rfl
      | built entry =>
          cases proper with
          | built plain =>
          have same : entry.name = declaration.name := named
          dsimp only
          rw [run_publish_of_plain plain, ← same]
          exact ih _ _

structure Undisturbed (before after : World) : Prop where
  memory : after.memory = before.memory
  history : after.history = before.history

theorem Undisturbed.trans {first second third : World} (left : first.Undisturbed second)
    (right : second.Undisturbed third) : first.Undisturbed third :=
  ⟨right.memory.trans left.memory, right.history.trans left.history⟩

def publishThrough (block : Nat) (table : DispatchTable)
    (item : (PreparedFunction × PendingStub) × InstalledStub) : StateM World DispatchTable := do
  let name := item.1.1.signature.name
  publish table name (← concludeEntry name (.ok (← buildStubbed item.1.1 item.2 block)))

def publishFailing (fault : Fault) (table : DispatchTable)
    (item : PreparedFunction × PendingStub) : StateM World DispatchTable := do
  let name := item.1.signature.name
  publish table name (← concludeEntry name (.error fault))

theorem run_publishThrough {world : World} {block holders : Nat}
    (holding : world.toPageStore.Holding block holders) (some_holder : 1 ≤ holders)
    (table : DispatchTable)
    (function : PreparedFunction) (pending : PendingStub) (stub : InstalledStub) :
    let name := function.signature.name
    let run := (publishThrough block table ((function, pending), stub)).run world
    run.1 = table.publish name (.stubbed function stub block) ∧ world.Undisturbed run.2 ∧
      run.2.toPageStore.Holding block (holders + if (table.find? name).isSome then 0 else 1) := by
  intro name run
  let entry := EntryPoint.stubbed function stub block
  let retained : World := ((buildStubbed function stub block).run world).2
  have retaining : retained.toPageStore.Holding block (holders + 1) :=
    holding.set rfl (Nat.succ_le_succ holding.holders)
  obtain ⟨journal, concluded⟩ := run_concludeEntry name (.ok entry) retained
  have ran : run = (publish table name entry).run (retained.withJournal journal) := by
    change (publish table name ((concludeEntry name (.ok entry)).run retained).1).run
      ((concludeEntry name (.ok entry)).run retained).2 = _
    rw [concluded]
    rfl
  rw [ran]
  have shared : 2 ≤ ((retained.withJournal journal).toPageStore.block block).owners :=
    Nat.le_trans (by omega) retaining.holders
  cases taken : (table.find? name).isSome with
  | true =>
      have released : ((publish table name entry).run (retained.withJournal journal)) =
          (table.publish name entry, { retained.withJournal journal with
            toPageStore := ((PageStore.release block).run
              (retained.withJournal journal).toPageStore).2 }) := by
        rw [publish, taken]
        rfl
      rw [released, PageStore.run_release_of_shared _ shared]
      refine ⟨rfl, ⟨rfl, rfl⟩, ?_⟩
      have kept : (retained.withJournal journal).toPageStore.Holding block (holders + 1) :=
        ⟨retaining.present, retaining.holders⟩
      exact kept.set rfl (Nat.le_sub_of_add_le kept.holders)
  | false =>
      have published : ((publish table name entry).run (retained.withJournal journal)) =
          (table.publish name entry, retained.withJournal journal) := by
        rw [publish, taken]
        rfl
      rw [published]
      exact ⟨rfl, ⟨rfl, rfl⟩, retaining.present, retaining.holders⟩

/-- All functions are published through their stubs in order. One that is published holds the
block. -/
theorem fold_publishThrough (block : Nat)
    (items : List ((PreparedFunction × PendingStub) × InstalledStub)) {world : World}
    {holders : Nat} (holding : world.toPageStore.Holding block holders)
    (some_holder : 1 ≤ holders) (table : DispatchTable) :
    let run := (items.foldlM (publishThrough block) table).run world
    run.1 = table.offer (items.map fun (item, stub) => .stubbed item.1 stub block) ∧
      world.Undisturbed run.2 ∧ run.2.toPageStore.Holding block holders ∧
        ((∃ item ∈ items, table.find? item.1.1.signature.name = none) →
          run.2.toPageStore.Holding block (holders + 1)) := by
  induction items generalizing world holders table with
  | nil => exact ⟨rfl, ⟨rfl, rfl⟩, holding, by simp⟩
  | cons head rest ih =>
      obtain ⟨⟨function, pending⟩, stub⟩ := head
      obtain ⟨published, first, held⟩ :=
        run_publishThrough holding some_holder table function pending stub
      rw [List.foldlM_cons, StateT.run_bind]
      generalize (publishThrough block table ((function, pending), stub)).run world = begun at *
      obtain ⟨next, between⟩ := begun
      dsimp only at published first held
      subst published
      have enough : 1 ≤ holders + if (table.find? function.signature.name).isSome then 0 else 1 :=
        Nat.le_add_right_of_le some_holder
      obtain ⟨offered, later, kept, more⟩ := ih held enough
        (table.publish function.signature.name (.stubbed function stub block))
      refine ⟨offered, first.trans later, kept.weaken (Nat.le_add_right _ _), ?_⟩
      rintro ⟨item, known, unpublished⟩
      cases taken : table.find? function.signature.name with
      | none =>
          rw [taken] at kept
          exact kept
      | some earlier =>
          rw [taken] at more
          rcases List.mem_cons.1 known with rfl | inside
          · cases taken.symm.trans unpublished
          refine more ⟨item, inside, ?_⟩
          rw [DispatchTable.find?_publish, unpublished, Option.none_or, if_neg]
          rintro same
          cases taken.symm.trans (same ▸ unpublished)

theorem run_publishFailing (fault : Fault) (table : DispatchTable)
    (item : PreparedFunction × PendingStub) (world : World) : ∃ journal,
      (publishFailing fault table item).run world =
        (table.publish item.1.signature.name ⟨item.1.signature.name, .error fault⟩,
          world.withJournal journal) := by
  obtain ⟨journal, concluded⟩ := run_concludeEntry item.1.signature.name (.error fault) world
  refine ⟨journal, ?_⟩
  rw [publishFailing, StateT.run_bind, concluded]
  exact run_publish_of_plain rfl _ _ _

theorem fold_publishFailing (fault : Fault) (items : List (PreparedFunction × PendingStub))
    (world : World) (table : DispatchTable) :
    let run := (items.foldlM (publishFailing fault) table).run world
    run.1 = table.offer (items.map fun item => ⟨item.1.signature.name, .error fault⟩) ∧
      world.Undisturbed run.2 := by
  induction items generalizing world table with
  | nil => exact ⟨rfl, ⟨rfl, rfl⟩⟩
  | cons head rest ih =>
      obtain ⟨journal, ran⟩ := run_publishFailing fault table head world
      rw [List.foldlM_cons, StateT.run_bind, ran]
      obtain ⟨offered, later⟩ := ih (world.withJournal journal)
        (table.publish head.1.signature.name ⟨head.1.signature.name, .error fault⟩)
      exact ⟨offered, later.memory, later.history⟩

def publishAttached (stubbed : List (PreparedFunction × PendingStub)) (table : DispatchTable) :
    Except Fault (Nat × List InstalledStub) → StateM World DispatchTable
  | .ok (block, installed) => do
    Store.record (.stubsAttached installed.length ((← get).block block).pages)
    let table ← (stubbed.zip installed).foldlM (publishThrough block) table
    PageStore.release block
    return table
  | .error fault => stubbed.foldlM (publishFailing fault) table

theorem run_publishStubbed_of_attached {stubbed : List (PreparedFunction × PendingStub)}
    (some_stub : stubbed ≠ []) {world after : World}
    {outcome : Except Fault (Nat × List InstalledStub)}
    (attached : (liftM (Stub.attach (stubbed.map (·.2))) :
      Act World (Nat × List InstalledStub)).run.run world = (outcome, after))
    (table : DispatchTable) :
    (publishStubbed stubbed table).run world =
      (publishAttached stubbed table outcome).run after := by
  rw [publishStubbed, if_neg (by simpa using some_stub), StateT.run_bind, attached]
  cases outcome <;> rfl

theorem run_publishStubbed {stubbed : List (PreparedFunction × PendingStub)} {world : World}
    {outcome : Except Fault (Nat × List InstalledStub)} {pages : PageStore}
    (attached : (Stub.attach (stubbed.map (·.2))).run.run world.toPageStore = (outcome, pages))
    (table : DispatchTable) :
    let run := (publishStubbed stubbed table).run world
    run.1 = table.offer (stubEntries stubbed outcome) ∧
      (stubbed ≠ [] → pages.history <+: run.2.history) ∧
        ((∃ item ∈ stubbed, table.find? item.1.signature.name = none) →
          outcome.toBool = true → run.2.memory = pages.memory) := by
  intro run
  by_cases empty : stubbed = []
  · subst empty
    exact ⟨by cases outcome <;> rfl, fun some => absurd rfl some, by simp⟩
  let after : World := { world with toPageStore := pages }
  have ran : run = (publishAttached stubbed table outcome).run after :=
    run_publishStubbed_of_attached empty (by rw [run_onPages, attached]) table
  rw [ran]
  cases outcome with
  | error fault =>
      obtain ⟨offered, kept⟩ := fold_publishFailing fault stubbed after table
      exact ⟨offered, fun _ => kept.history ▸ List.prefix_rfl, fun _ done => nomatch done⟩
  | ok granted =>
      obtain ⟨block, installed⟩ := granted
      let journal := (Store.record (.stubsAttached installed.length
        (after.toPageStore.block block).pages) |>.run after.toStore).2.toJournal
      let noted : World := after.withJournal journal
      let published := ((stubbed.zip installed).foldlM (publishThrough block) table).run noted
      have finished : (publishAttached stubbed table (.ok (block, installed))).run after =
          (published.1, { published.2 with
            toPageStore := ((PageStore.release block).run published.2.toPageStore).2 }) := rfl
      rw [finished]
      obtain ⟨granted, counted⟩ := Stub.holding_of_run_attach attached
      have holding : noted.toPageStore.Holding block 1 := ⟨granted.present, granted.holders⟩
      obtain ⟨offered, kept, _, shared⟩ :=
        fold_publishThrough block (stubbed.zip installed) holding (Nat.le_refl 1) table
      refine ⟨offered, fun _ => ?_, fun ⟨item, known, unpublished⟩ _ => ?_⟩
      · exact kept.history ▸ PageStore.history_release published.2.toPageStore block
      · have whole : (stubbed.zip installed).map (·.1) = stubbed :=
          List.map_fst_zip (by simp [counted])
        rw [← whole] at known
        obtain ⟨pair, inside, rfl⟩ := List.mem_map.1 known
        have stays := (shared ⟨pair, inside, unpublished⟩).holders
        exact (congrArg (·.memory) (PageStore.run_release_of_shared _ stays)).trans kept.memory

theorem holds_foldlM {Item Carried : Type} {invariant : World → Prop}
    {step : Carried → Item → StateM World Carried}
    (each : ∀ carried item world, invariant world → invariant ((step carried item).run world).2)
    (items : List Item) (carried : Carried) {world : World} (holds : invariant world) :
    invariant ((items.foldlM step carried).run world).2 := by
  induction items generalizing carried world with
  | nil => exact holds
  | cons head rest ih =>
      rw [List.foldlM_cons, StateT.run_bind]
      exact ih _ (each carried head world holds)

theorem run_bindVariable (symbols : SymbolTable) (declaration : VariableDeclaration)
    (world : World) : ∃ types events,
      ((bindVariable symbols declaration).run world).2 = { world with types, events } := by
  have lowered : ∃ types, ((onTypes (BoundVariable.bind symbols declaration)).run world).2 =
      { world with types } := ⟨_, rfl⟩
  rw [bindVariable, StateT.run_bind]
  generalize (onTypes (BoundVariable.bind symbols declaration)).run world = begun at *
  obtain ⟨bound, between⟩ := begun
  obtain ⟨types, rfl⟩ := lowered
  change ∃ types events, (StateT.run (m := Id) _ _).2 = _
  dsimp only
  cases bound.place with
  | error fault => exact ⟨types, _, rfl⟩
  | ok address => exact ⟨types, world.events, rfl⟩

theorem undisturbed_bindVariable (symbols : SymbolTable) (declaration : VariableDeclaration)
    (world : World) : world.Undisturbed ((bindVariable symbols declaration).run world).2 := by
  obtain ⟨types, events, same⟩ := run_bindVariable symbols declaration world
  rw [same]
  exact ⟨rfl, rfl⟩

def bindVariables (symbols : SymbolTable) (declarations : List VariableDeclaration) :
    StateM World (List (String × BoundVariable)) :=
  declarations.foldlM (fun bound declaration => do
    let entry ← bindVariable symbols declaration
    return entry :: bound.filter (·.1 != entry.1)) []

/-- Binding a library: first the functions without stubs, then those with stubs, then variables. -/
theorem run_bindLibrary_of_fates {symbols : SymbolTable} {interface : InterfaceDeclaration}
    {options : LibraryOptions} {world opened decided : World} {binder : Binder}
    {fates : List Fate} (opens : (newBinder options).run world = (binder, opened))
    (decides : (World.fates symbols binder interface.functions).run opened = (fates, decided)) :
    (bindLibrary symbols interface options).run world =
      let plain := ({} : DispatchTable).offer (fates.filterMap Fate.built?)
      let (functions, published) :=
        (publishStubbed (fates.filterMap Fate.pending?) plain).run decided
      let (globals, bound) := (bindVariables symbols interface.globals).run published
      (⟨binder, functions, globals⟩,
        ((Store.record (.finished "bind_library") : StateM World Unit).run bound).2) := by
  rw [bindLibrary, StateT.run_bind, opens]
  change (publishUnstubbed symbols binder interface.functions {} >>= _ :
    StateM World Library).run opened = _
  rw [StateT.run_bind, run_publishUnstubbed, decides]
  rfl

theorem run_bindLibrary {symbols : SymbolTable} {interface : InterfaceDeclaration}
    {options : LibraryOptions} {world opened decided : World} {binder : Binder}
    {fates : List Fate} {outcome : Except Fault (Nat × List InstalledStub)} {pages : PageStore}
    (opens : (newBinder options).run world = (binder, opened))
    (decides : (World.fates symbols binder interface.functions).run opened = (fates, decided))
    (attached : (Stub.attach ((fates.filterMap Fate.pending?).map (·.2))).run.run
      decided.toPageStore = (outcome, pages)) :
    let run := (bindLibrary symbols interface options).run world
    let stubbed := fates.filterMap Fate.pending?
    let plain := ({} : DispatchTable).offer (fates.filterMap Fate.built?)
    run.1.binder = binder ∧ run.1.functions = plain.offer (stubEntries stubbed outcome) ∧
      (stubbed ≠ [] → pages.history <+: run.2.history) ∧
        ((∃ item ∈ stubbed, plain.find? item.1.signature.name = none) →
          outcome.toBool = true → run.2.memory = pages.memory) := by
  intro run stubbed plain
  let published := (publishStubbed stubbed plain).run decided
  let bound := (bindVariables symbols interface.globals).run published.2
  have ran : run = (⟨binder, published.1, bound.1⟩,
      ((Store.record (.finished "bind_library") : StateM World Unit).run bound.2).2) :=
    run_bindLibrary_of_fates opens decides
  obtain ⟨offered, history, memory⟩ := run_publishStubbed attached plain
  have kept : published.2.Undisturbed bound.2 := by
    refine holds_foldlM (fun _ declaration world kept => ?_) _ _ ⟨rfl, rfl⟩
    exact kept.trans (undisturbed_bindVariable symbols declaration world)
  rw [ran]
  exact ⟨rfl, offered, fun some => kept.history ▸ history some,
    fun free done => kept.memory.trans (memory free done)⟩

end World

end ForeignCall
