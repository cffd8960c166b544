import ForeignCall.Proofs.Binding.Publishing
import ForeignCall.Proofs.Ownership.Slots

/-! Bound functions hold the blocks in which their stubs lie, and nothing else that is bound or that
fails to be bound holds one. -/

namespace ForeignCall

def EntryPoint.blocks (entry : EntryPoint) : List Nat := entry.block?.toList

def DispatchTable.blocks (table : DispatchTable) : List Nat :=
  table.entries.flatMap (·.2.blocks)

theorem DispatchTable.blocks_publish {table : DispatchTable} {name : String}
    (free : table.find? name = none) (entry : EntryPoint) :
    (table.publish name entry).blocks = table.blocks ++ entry.blocks := by
  rw [publish, free]
  simp [blocks]

theorem DispatchTable.blocks_offer {entries : List EntryPoint}
    (plain : ∀ entry ∈ entries, entry.block? = none) {table : DispatchTable}
    (none_held : table.blocks = []) : (table.offer entries).blocks = [] := by
  induction entries generalizing table with
  | nil => exact none_held
  | cons entry rest ih =>
      obtain ⟨first, others⟩ := List.forall_mem_cons.1 plain
      rw [offer_cons]
      refine ih others ?_
      cases taken : table.find? entry.name with
      | some earlier =>
          rw [publish, taken]
          exact none_held
      | none => rw [blocks_publish taken, none_held, EntryPoint.blocks, first]; rfl

namespace World

variable {world after : World} {holders demanded : List Nat}

section Preparing

theorem keeps_balanced_buildUnstubbed (binder : Binder) (function : PreparedFunction) :
    (buildUnstubbed binder function).Keeps (·.Balanced holders demanded) := by
  have plain : ∀ strategy, (buildPlain function.signature function.address strategy).Keeps
      (·.Balanced holders demanded) := by
    intro strategy
    refine .bind (.ofExcept fun _ _ => trivial) fun path _ => ?_
    refine .bind (Act.keeps_ofState fun _ balanced => ?_) fun _ _ => .pure trivial
    exact balanced.congr rfl rfl rfl rfl .rfl
  rw [buildUnstubbed]
  split
  next => exact .bind (.ofExcept fun _ _ => trivial) fun strategy _ => plain strategy
  next => exact plain function.strategy

theorem Balanced.concludeEntry (balanced : world.Balanced holders demanded) (name : String)
    (outcome : Except Fault EntryPoint) :
    ((concludeEntry name outcome).run world).2.Balanced holders demanded := by
  cases outcome with
  | error fault => exact balanced.congr rfl rfl rfl rfl .rfl
  | ok entry =>
      simp only [World.concludeEntry]
      cases entry.strategy? with
      | none => exact balanced
      | some strategy => exact balanced.congr rfl rfl rfl rfl .rfl

theorem Balanced.fate (balanced : world.Balanced holders demanded) (symbols : SymbolTable)
    (binder : Binder) (declaration : FunctionDeclaration) :
    ((fate symbols binder declaration).run world).2.Balanced holders demanded := by
  rw [run_fate]
  split
  next fault between failed =>
    have prepared := (upheld_balanced.prepare symbols binder declaration _ _ _ balanced failed).1
    exact prepared.concludeEntry declaration.name (.error fault)
  next function between done =>
    have prepared := (upheld_balanced.prepare symbols binder declaration _ _ _ balanced done).1
    split
    next => exact prepared
    next =>
      have built := (keeps_balanced_buildUnstubbed binder function _ _ _ prepared rfl).1
      exact built.concludeEntry declaration.name _

theorem Balanced.fates (balanced : world.Balanced holders demanded) (symbols : SymbolTable)
    (binder : Binder) (declarations : List FunctionDeclaration) :
    ((fates symbols binder declarations).run world).2.Balanced holders demanded := by
  induction declarations generalizing world with
  | nil => exact balanced
  | cons declaration rest ih =>
      rw [run_fates_cons]
      exact ih (balanced.fate symbols binder declaration)

end Preparing

namespace Balanced

theorem retainEntry (balanced : world.Balanced holders demanded) {entry : EntryPoint}
    (known : ∀ block ∈ entry.blocks, block ∈ holders) :
    ((retainEntry entry).run world).2.Balanced (entry.blocks ++ holders) demanded := by
  rw [World.retainEntry]
  rw [EntryPoint.blocks] at known ⊢
  cases held : entry.block? with
  | none => exact balanced
  | some block =>
      rw [held] at known
      exact balanced.retain (known block (List.mem_singleton_self block))

theorem releaseEntry {entry : EntryPoint}
    (balanced : world.Balanced (entry.blocks ++ holders) demanded) :
    ((releaseEntry entry).run world).2.Balanced holders demanded := by
  rw [World.releaseEntry]
  rw [EntryPoint.blocks] at balanced
  cases held : entry.block? with
  | none =>
      rw [held] at balanced
      exact balanced
  | some block =>
      rw [held] at balanced
      exact balanced.release

theorem buildStubbed (balanced : world.Balanced holders demanded) {block : Nat}
    (known : block ∈ holders) (function : PreparedFunction) (stub : InstalledStub) :
    ((buildStubbed function stub block).run world).2.Balanced (block :: holders) demanded := by
  let counted : World := ((countBuilt .stub).run world).2
  have noted : counted.Balanced holders demanded := balanced.congr rfl rfl rfl rfl .rfl
  exact noted.retain known

theorem publish {table : DispatchTable} (entry : EntryPoint)
    (balanced : world.Balanced (entry.blocks ++ (table.blocks ++ holders)) demanded)
    (name : String) :
    ((publish table name entry).run world).2.Balanced
      (((World.publish table name entry).run world).1.blocks ++ holders) demanded := by
  cases taken : table.find? name with
  | some earlier =>
      have ran : (World.publish table name entry).run world =
          (table, ((World.releaseEntry entry).run world).2) := by
        rw [World.publish, DispatchTable.publish, taken]
        rfl
      rw [ran]
      exact balanced.releaseEntry
  | none =>
      have ran : (World.publish table name entry).run world =
          (table.publish name entry, world) := by
        rw [World.publish, taken]
        rfl
      rw [ran]
      refine balanced.perm ?_
      rw [DispatchTable.blocks_publish taken, ← List.append_assoc]
      exact List.perm_append_comm.append_right _

theorem attachAlone (balanced : world.Balanced holders demanded) (binder : Binder)
    (function : PreparedFunction) (stub : PendingStub) {outcome : Except Fault EntryPoint}
    (ran : (attachAlone binder function stub).run.run world = (outcome, after)) (name : String) :
    after.Balanced ((EntryPoint.ofOutcome name outcome).blocks ++ holders) demanded := by
  rw [World.attachAlone, Act.run_bind] at ran
  split at ran
  next granted between attached =>
    obtain ⟨block, installed⟩ := granted
    have held : between.Balanced (block :: holders) demanded := balanced.attach attached
    rw [run_onPages] at attached
    obtain ⟨succeeded, rfl⟩ := Prod.mk.inj attached
    obtain ⟨_, alone⟩ := Stub.holding_of_run_attach (Prod.ext succeeded rfl)
    obtain ⟨stub, rfl⟩ := List.length_eq_one_iff.1 alone
    cases ran
    exact (held.buildStubbed List.mem_cons_self function stub).release
  next fault between failed =>
    cases ran
    exact balanced.attach failed

theorem bindFunction (balanced : world.Balanced holders demanded) (symbols : SymbolTable)
    (binder : Binder) (declaration : FunctionDeclaration) :
    let run := (bindFunction symbols binder declaration).run world
    run.2.Balanced (run.1.blocks ++ holders) demanded := by
  have decided := balanced.fate symbols binder declaration
  obtain ⟨_, proper⟩ := fate_proper symbols binder declaration world
  rw [run_bindFunction]
  generalize (World.fate symbols binder declaration).run world = begun at *
  obtain ⟨fate, between⟩ := begun
  cases proper with
  | @built entry plain =>
      dsimp only
      rw [EntryPoint.blocks, plain]
      exact decided
  | @pending function stub assembled =>
      dsimp only
      generalize attached : (World.attachAlone binder function stub).run.run between = ended
      obtain ⟨outcome, last⟩ : Except Fault EntryPoint × World := ended
      have held := decided.attachAlone binder function stub attached declaration.name
      have concluded := held.concludeEntry declaration.name outcome
      obtain ⟨journal, ran⟩ := run_concludeEntry declaration.name outcome last
      dsimp only
      rw [ran] at concluded ⊢
      exact concluded

theorem publishThrough {table : DispatchTable} {block : Nat}
    (balanced : world.Balanced (table.blocks ++ (block :: holders)) demanded)
    (item : (PreparedFunction × PendingStub) × InstalledStub) :
    let run := (publishThrough block table item).run world
    run.2.Balanced (run.1.blocks ++ (block :: holders)) demanded := by
  obtain ⟨⟨function, pending⟩, stub⟩ := item
  let entry := EntryPoint.stubbed function stub block
  have known : block ∈ table.blocks ++ (block :: holders) := by simp
  have built := balanced.buildStubbed known function stub
  have concluded := built.concludeEntry entry.name (.ok entry)
  exact concluded.publish entry entry.name

theorem fold_publishThrough {table : DispatchTable} {block : Nat}
    (balanced : world.Balanced (table.blocks ++ (block :: holders)) demanded)
    (items : List ((PreparedFunction × PendingStub) × InstalledStub)) :
    let run := (items.foldlM (World.publishThrough block) table).run world
    run.2.Balanced (run.1.blocks ++ (block :: holders)) demanded := by
  induction items generalizing world table with
  | nil => exact balanced
  | cons item rest ih => exact ih (balanced.publishThrough item)

theorem fold_publishFailing {table : DispatchTable}
    (balanced : world.Balanced (table.blocks ++ holders) demanded) (fault : Fault)
    (items : List (PreparedFunction × PendingStub)) :
    let run := (items.foldlM (publishFailing fault) table).run world
    run.2.Balanced (run.1.blocks ++ holders) demanded := by
  induction items generalizing world table with
  | nil => exact balanced
  | cons item rest ih =>
      let name := item.1.signature.name
      have concluded := balanced.concludeEntry name (.error fault)
      exact ih (concluded.publish ⟨name, .error fault⟩ name)

theorem publishAttached {table : DispatchTable} {outcome : Except Fault (Nat × List InstalledStub)}
    (balanced : world.Balanced (table.blocks ++ (PageStore.blockOf (·.1) outcome ++ holders))
      demanded) (stubbed : List (PreparedFunction × PendingStub)) :
    let run := (publishAttached stubbed table outcome).run world
    run.2.Balanced (run.1.blocks ++ holders) demanded := by
  cases outcome with
  | error fault => exact fold_publishFailing balanced fault stubbed
  | ok granted =>
      obtain ⟨block, installed⟩ := granted
      let journal := (Store.record (.stubsAttached installed.length
        (world.toPageStore.block block).pages) |>.run world.toStore).2.toJournal
      let noted : World := world.withJournal journal
      have held : noted.Balanced (table.blocks ++ (block :: holders)) demanded :=
        balanced.congr rfl rfl rfl rfl .rfl
      exact ((held.fold_publishThrough (stubbed.zip installed)).perm List.perm_middle).release

theorem publishStubbed {table : DispatchTable}
    (balanced : world.Balanced (table.blocks ++ holders) demanded)
    (stubbed : List (PreparedFunction × PendingStub)) :
    let run := (publishStubbed stubbed table).run world
    run.2.Balanced (run.1.blocks ++ holders) demanded := by
  intro run
  by_cases empty : stubbed = []
  · subst empty
    exact balanced
  generalize attached : (liftM (Stub.attach (stubbed.map (·.2))) :
    Act World (Nat × List InstalledStub)).run.run world = ended
  obtain ⟨outcome, after⟩ : Except Fault (Nat × List InstalledStub) × World := ended
  have ran : run = (World.publishAttached stubbed table outcome).run after :=
    run_publishStubbed_of_attached empty attached table
  rw [ran]
  refine publishAttached ((balanced.attach attached).perm ?_) stubbed
  rw [← List.append_assoc, ← List.append_assoc]
  exact List.perm_append_comm.append_right _

theorem bindVariable (balanced : world.Balanced holders demanded) (symbols : SymbolTable)
    (declaration : VariableDeclaration) :
    ((bindVariable symbols declaration).run world).2.Balanced holders demanded := by
  obtain ⟨types, events, same⟩ := run_bindVariable symbols declaration world
  rw [same]
  exact balanced.congr rfl rfl rfl rfl .rfl

theorem bindVariables (balanced : world.Balanced holders demanded) (symbols : SymbolTable)
    (declarations : List VariableDeclaration) :
    ((bindVariables symbols declarations).run world).2.Balanced holders demanded := by
  refine holds_foldlM (fun _ declaration (between : World)
    (held : between.Balanced holders demanded) => ?_) _ _ balanced
  exact held.bindVariable symbols declaration

theorem bindLibrary (balanced : world.Balanced holders demanded) (symbols : SymbolTable)
    (interface : InterfaceDeclaration) (options : LibraryOptions) :
    let run := (bindLibrary symbols interface options).run world
    run.2.Balanced (run.1.functions.blocks ++ holders) demanded := by
  intro run
  cases opens : (newBinder options).run world with
  | mk binder opened =>
  cases decides : (World.fates symbols binder interface.functions).run opened with
  | mk fates decided =>
  have begun : opened.Balanced holders demanded := by
    cases opens
    exact balanced.congr rfl rfl rfl rfl .rfl
  have settled := begun.fates symbols binder interface.functions
  obtain ⟨_, proper⟩ := fates_proper symbols binder interface.functions opened
  rw [decides] at settled proper
  let plain := ({} : DispatchTable).offer (fates.filterMap Fate.built?)
  have unheld : plain.blocks = [] := by
    refine DispatchTable.blocks_offer (fun entry known => ?_) rfl
    obtain ⟨fate, among, built⟩ := List.mem_filterMap.1 known
    cases proper fate among with
    | built direct =>
        cases built
        exact direct
    | pending => cases built
  have table : decided.Balanced (plain.blocks ++ holders) demanded := by
    rw [unheld]
    exact settled
  have published := table.publishStubbed (fates.filterMap Fate.pending?)
  have bound := published.bindVariables symbols interface.globals
  rw [show run = _ from run_bindLibrary_of_fates opens decides]
  exact bound.congr rfl rfl rfl rfl .rfl

theorem bindLate {library : Library}
    (balanced : world.Balanced (library.functions.blocks ++ holders) demanded)
    (symbols : SymbolTable) (declaration : FunctionDeclaration) :
    let run := (bindLate symbols library declaration).run world
    run.2.Balanced (run.1.2.functions.blocks ++ holders) demanded := by
  rw [World.bindLate]
  cases found : library.function? declaration.name with
  | some entry => exact balanced
  | none =>
      have bound := balanced.bindFunction symbols library.binder declaration
      exact bound.publish _ declaration.name

theorem closeLibrary {library : Library}
    (balanced : world.Balanced (library.functions.blocks ++ holders) demanded) :
    ((closeLibrary library).run world).2.Balanced holders demanded := by
  rw [World.closeLibrary]
  rw [DispatchTable.blocks] at balanced
  generalize library.functions.entries = entries at balanced ⊢
  induction entries generalizing world with
  | nil => exact balanced
  | cons entry rest ih =>
      rw [List.flatMap_cons, List.append_assoc] at balanced
      exact ih balanced.releaseEntry

end Balanced

end World

end ForeignCall
