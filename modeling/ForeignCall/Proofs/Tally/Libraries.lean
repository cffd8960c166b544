import ForeignCall.Proofs.Ownership.Libraries
import ForeignCall.Proofs.Tally.Closures

/-! Entry points are counted when they are constructed: once for each function of a library that is
bound, and once for each function that is bound by itself, whether or not it can be called and
whether or not it is published. -/

namespace ForeignCall

namespace Counters

variable (counters : Counters)

theorem constructed_countBuilt (strategy : Strategy) :
    (counters.countBuilt strategy).constructed = counters.constructed + 1 := by
  cases strategy <;> simp [constructed, countBuilt, Strategy.order] <;> omega

theorem built_countBuilt_of_ne {strategy query : Strategy} (other : query ≠ strategy) :
    (counters.countBuilt strategy).built query = counters.built query :=
  if_neg other

theorem built_countBuilt_self (strategy : Strategy) :
    (counters.countBuilt strategy).built strategy = counters.built strategy + 1 :=
  if_pos rfl

end Counters

namespace Fate

theorem length_built_add_pending (fates : List Fate) :
    (fates.filterMap built?).length + (fates.filterMap pending?).length = fates.length := by
  induction fates with
  | nil => rfl
  | cons fate rest ih =>
    cases fate with
    | built entry =>
      have here : (built entry :: rest).filterMap built? = entry :: rest.filterMap built? := rfl
      have there : (built entry :: rest).filterMap pending? = rest.filterMap pending? := rfl
      rw [here, there, List.length_cons, List.length_cons]
      omega
    | pending function stub =>
      have here : (pending function stub :: rest).filterMap pending? =
          (function, stub) :: rest.filterMap pending? := rfl
      have there : (pending function stub :: rest).filterMap built? = rest.filterMap built? := rfl
      rw [here, there, List.length_cons, List.length_cons]
      omega

theorem length_built_cons (fate : Fate) (rest : List Fate) :
    ((fate :: rest).filterMap built?).length =
      fate.built?.toList.length + (rest.filterMap built?).length := by
  rw [List.filterMap_cons]
  cases fate.built? with
  | none => exact (Nat.zero_add _).symm
  | some entry => exact Nat.add_comm _ 1

end Fate

namespace World

variable {world after : World} {constructed unserved : Nat} {gone : PoolStats}

namespace Tallied

theorem countPlain (tallied : world.Tallied constructed unserved gone) {strategy : Strategy}
    (plain : strategy ≠ .stub) :
    ((countBuilt strategy).run world).2.Tallied (constructed + 1) unserved gone := by
  refine ⟨?_, ?_, tallied.magazines, tallied.allocated, tallied.recycled⟩
  · exact (world.counters.constructed_countBuilt strategy).trans
      (congrArg (· + 1) tallied.constructed)
  · refine Eq.trans ?_ tallied.stubs
    exact congrArg (· + unserved) (world.counters.built_countBuilt_of_ne plain.symm)

theorem countServed (tallied : world.Tallied constructed (unserved + 1) gone) :
    ((countBuilt .stub).run world).2.Tallied (constructed + 1) unserved gone := by
  refine ⟨?_, ?_, tallied.magazines, tallied.allocated, tallied.recycled⟩
  · exact (world.counters.constructed_countBuilt .stub).trans
      (congrArg (· + 1) tallied.constructed)
  · refine Eq.trans ?_ tallied.stubs
    refine (congrArg (· + unserved) (world.counters.built_countBuilt_self .stub)).trans ?_
    omega

theorem buildPlain (tallied : world.Tallied constructed unserved gone) {signature : Signature}
    {address : Nat} {strategy : Strategy} {outcome : Except Fault EntryPoint}
    (ran : (buildPlain signature address strategy).run.run world = (outcome, after)) :
    after.Tallied (constructed + if outcome.isOk then 1 else 0) unserved gone := by
  rw [World.buildPlain, Act.run_bind] at ran
  cases chosen : plainPath signature strategy with
  | error fault =>
    rw [chosen] at ran
    cases ran
    exact tallied
  | ok path =>
    rw [chosen] at ran
    cases ran
    refine tallied.countPlain fun stubbed => ?_
    subst stubbed
    cases chosen

theorem buildUnstubbed (tallied : world.Tallied constructed unserved gone) {binder : Binder}
    {function : PreparedFunction} {outcome : Except Fault EntryPoint}
    (ran : (buildUnstubbed binder function).run.run world = (outcome, after)) :
    after.Tallied (constructed + if outcome.isOk then 1 else 0) unserved gone := by
  rw [World.buildUnstubbed] at ran
  split at ran
  next =>
    rw [Act.run_bind] at ran
    cases selected : Strategy.selectFrom Strategy.order.tail function.signature binder.setting with
    | error fault =>
      rw [selected] at ran
      cases ran
      exact tallied
    | ok strategy =>
      rw [selected] at ran
      exact tallied.buildPlain ran
  next => exact tallied.buildPlain ran

theorem concludeEntry (name : String) (outcome : Except Fault EntryPoint)
    (tallied : world.Tallied (constructed + if outcome.isOk then 1 else 0) unserved gone) :
    ((concludeEntry name outcome).run world).2.Tallied (constructed + 1) unserved gone := by
  cases outcome with
  | error fault =>
    refine ⟨?_, tallied.stubs, tallied.magazines, tallied.allocated, tallied.recycled⟩
    exact congrArg (· + 1) tallied.constructed
  | ok entry =>
    simp only [World.concludeEntry]
    cases entry.strategy? with
    | none => exact tallied
    | some strategy => exact tallied.congr rfl rfl

theorem fate (tallied : world.Tallied constructed unserved gone) (symbols : SymbolTable)
    (binder : Binder) (declaration : FunctionDeclaration) :
    let run := (fate symbols binder declaration).run world
    run.2.Tallied (constructed + run.1.built?.toList.length) unserved gone := by
  have prepared {outcome : Except Fault PreparedFunction} {between : World}
      (ran : (prepare symbols binder declaration).run.run world = (outcome, between)) :
      between.Tallied constructed unserved gone :=
    Act.Keeps.of_run _ ran tallied (upheld_tallied.prepare symbols binder declaration)
  intro run
  simp only [run]
  rw [run_fate]
  split
  next fault between failed => exact concludeEntry _ (.error fault) (prepared failed)
  next function between done =>
    cases pending : function.pending? with
    | some stub => exact prepared done
    | none => exact concludeEntry _ _ ((prepared done).buildUnstubbed rfl)

theorem fates (tallied : world.Tallied constructed unserved gone) (symbols : SymbolTable)
    (binder : Binder) (declarations : List FunctionDeclaration) :
    let run := (fates symbols binder declarations).run world
    run.2.Tallied (constructed + (run.1.filterMap Fate.built?).length) unserved gone := by
  induction declarations generalizing world constructed with
  | nil => exact tallied
  | cons declaration rest ih =>
    have first := tallied.fate symbols binder declaration
    rw [run_fates_cons]
    generalize (World.fate symbols binder declaration).run world = begun at *
    obtain ⟨fate, between⟩ := begun
    have others := ih first
    dsimp only at others ⊢
    generalize (World.fates symbols binder rest).run between = ended at *
    rw [Nat.add_assoc, ← Fate.length_built_cons] at others
    exact others

theorem retainEntry (tallied : world.Tallied constructed unserved gone) (entry : EntryPoint) :
    ((retainEntry entry).run world).2.Tallied constructed unserved gone := by
  rw [World.retainEntry]
  cases entry.block? with
  | none => exact tallied
  | some block => exact tallied.congr rfl rfl

theorem releaseEntry (tallied : world.Tallied constructed unserved gone) (entry : EntryPoint) :
    ((releaseEntry entry).run world).2.Tallied constructed unserved gone := by
  rw [World.releaseEntry]
  cases entry.block? with
  | none => exact tallied
  | some block => exact tallied.release block

theorem publish (tallied : world.Tallied constructed unserved gone) (table : DispatchTable)
    (name : String) (entry : EntryPoint) :
    ((publish table name entry).run world).2.Tallied constructed unserved gone := by
  rw [World.publish]
  cases (table.find? name).isSome with
  | true => exact tallied.releaseEntry entry
  | false => exact tallied

theorem buildStubbed (tallied : world.Tallied constructed (unserved + 1) gone)
    (function : PreparedFunction) (stub : InstalledStub) (block : Nat) :
    ((buildStubbed function stub block).run world).2.Tallied (constructed + 1) unserved gone :=
  tallied.countServed.retainEntry (.stubbed function stub block)

theorem attach (tallied : world.Tallied constructed unserved gone) {stubs : List PendingStub}
    {outcome : Except Fault (Nat × List InstalledStub)}
    (ran : (liftM (Stub.attach stubs) : Act World (Nat × List InstalledStub)).run.run world =
      (outcome, after)) :
    after.Tallied constructed (unserved + if outcome.isOk then stubs.length else 0) gone := by
  rw [run_onPages] at ran
  generalize attached : (Stub.attach stubs).run.run world.toPageStore = ended at ran
  obtain ⟨granted, pages⟩ : Except Fault (Nat × List InstalledStub) × PageStore := ended
  cases ran
  obtain ⟨installed, magazines, allocated, recycled, built, failed⟩ :=
    Tally.mk.inj (Stub.tally_attach attached)
  have none_new : ({ world with toPageStore := pages } : World).poolStats = world.poolStats := rfl
  constructor
  case constructed => rw [Counters.constructed, built, failed]; exact tallied.constructed
  case stubs =>
    rw [built, installed, ← Nat.add_assoc]
    exact congrArg (· + _) tallied.stubs
  case magazines => rw [magazines]; exact tallied.magazines
  case allocated => rw [allocated]; exact tallied.allocated
  case recycled => rw [recycled]; exact tallied.recycled

theorem attachAlone (tallied : world.Tallied constructed unserved gone) {binder : Binder}
    {function : PreparedFunction} {stub : PendingStub} {outcome : Except Fault EntryPoint}
    (ran : (attachAlone binder function stub).run.run world = (outcome, after)) :
    after.Tallied (constructed + if outcome.isOk then 1 else 0) unserved gone := by
  rw [World.attachAlone, Act.run_bind] at ran
  split at ran
  next granted between attached =>
    obtain ⟨block, installed⟩ := granted
    have held := tallied.attach attached
    rw [run_onPages] at attached
    obtain ⟨succeeded, rfl⟩ := Prod.mk.inj attached
    obtain ⟨_, alone⟩ := Stub.holding_of_run_attach (Prod.ext succeeded rfl)
    obtain ⟨stub, rfl⟩ := List.length_eq_one_iff.1 alone
    cases ran
    exact (held.buildStubbed function stub block).release block
  next fault between failed =>
    cases ran
    exact tallied.attach failed

theorem bindFunction (tallied : world.Tallied constructed unserved gone) (symbols : SymbolTable)
    (binder : Binder) (declaration : FunctionDeclaration) :
    ((bindFunction symbols binder declaration).run world).2.Tallied (constructed + 1) unserved
      gone := by
  have decided := tallied.fate symbols binder declaration
  rw [run_bindFunction]
  generalize (World.fate symbols binder declaration).run world = begun at *
  obtain ⟨fate, between⟩ := begun
  cases fate with
  | built entry => exact decided
  | pending function stub => exact concludeEntry _ _ (decided.attachAlone rfl)

theorem publishThrough (tallied : world.Tallied constructed (unserved + 1) gone) (block : Nat)
    (table : DispatchTable) (item : (PreparedFunction × PendingStub) × InstalledStub) :
    ((publishThrough block table item).run world).2.Tallied (constructed + 1) unserved gone := by
  obtain ⟨⟨function, pending⟩, stub⟩ := item
  let entry := EntryPoint.stubbed function stub block
  have built := tallied.buildStubbed function stub block
  have concluded := concludeEntry entry.name (.ok entry) built
  exact concluded.publish table entry.name entry

theorem fold_publishThrough (block : Nat)
    (items : List ((PreparedFunction × PendingStub) × InstalledStub)) (table : DispatchTable)
    (tallied : world.Tallied constructed (unserved + items.length) gone) :
    ((items.foldlM (World.publishThrough block) table).run world).2.Tallied
      (constructed + items.length) unserved gone := by
  induction items generalizing world table constructed with
  | nil => exact tallied
  | cons item rest ih =>
    -- one stub fewer serves nothing, and one entry point more is constructed
    rw [List.length_cons, Nat.add_comm rest.length, ← Nat.add_assoc]
    rw [List.length_cons, ← Nat.add_assoc] at tallied
    exact ih _ (tallied.publishThrough block table item)

theorem fold_publishFailing (tallied : world.Tallied constructed unserved gone) (fault : Fault)
    (items : List (PreparedFunction × PendingStub)) (table : DispatchTable) :
    ((items.foldlM (publishFailing fault) table).run world).2.Tallied
      (constructed + items.length) unserved gone := by
  induction items generalizing world table constructed with
  | nil => exact tallied
  | cons item rest ih =>
    let name := item.1.signature.name
    have concluded := concludeEntry name (.error fault) tallied
    rw [List.length_cons, Nat.add_comm rest.length, ← Nat.add_assoc]
    exact ih (concluded.publish table name ⟨name, .error fault⟩) _

theorem publishAttached {stubbed : List (PreparedFunction × PendingStub)}
    {outcome : Except Fault (Nat × List InstalledStub)}
    (tallied : world.Tallied constructed (unserved + if outcome.isOk then stubbed.length else 0)
      gone)
    (every : ∀ block installed, outcome = .ok (block, installed) →
      installed.length = stubbed.length) (table : DispatchTable) :
    ((publishAttached stubbed table outcome).run world).2.Tallied (constructed + stubbed.length)
      unserved gone := by
  cases outcome with
  | error fault => exact tallied.fold_publishFailing fault stubbed table
  | ok granted =>
    obtain ⟨block, installed⟩ := granted
    have whole : (stubbed.zip installed).length = stubbed.length := by
      rw [List.length_zip, every block installed rfl, Nat.min_self]
    let journal := (Store.record (.stubsAttached installed.length
      (world.toPageStore.block block).pages) |>.run world.toStore).2.toJournal
    have noted : (world.withJournal journal).Tallied constructed (unserved + stubbed.length) gone :=
      tallied.congr rfl rfl
    rw [← whole] at noted ⊢
    exact (fold_publishThrough block (stubbed.zip installed) table noted).release block

theorem publishStubbed (tallied : world.Tallied constructed unserved gone)
    (stubbed : List (PreparedFunction × PendingStub)) (table : DispatchTable) :
    ((publishStubbed stubbed table).run world).2.Tallied (constructed + stubbed.length) unserved
      gone := by
  by_cases empty : stubbed = []
  · subst empty
    exact tallied
  generalize attached : (liftM (Stub.attach (stubbed.map (·.2))) :
    Act World (Nat × List InstalledStub)).run.run world = ended
  obtain ⟨outcome, after⟩ : Except Fault (Nat × List InstalledStub) × World := ended
  rw [run_publishStubbed_of_attached empty attached]
  have held := tallied.attach attached
  rw [List.length_map] at held
  refine held.publishAttached (fun block installed granted => ?_) table
  rw [run_onPages] at attached
  obtain ⟨ended, -⟩ := Prod.mk.inj attached
  have counted := Stub.holding_of_run_attach (Prod.ext (ended.trans granted) rfl)
  simpa only [List.length_map] using counted.2

theorem bindVariable (tallied : world.Tallied constructed unserved gone) (symbols : SymbolTable)
    (declaration : VariableDeclaration) :
    ((bindVariable symbols declaration).run world).2.Tallied constructed unserved gone := by
  obtain ⟨types, events, same⟩ := run_bindVariable symbols declaration world
  rw [same]
  exact tallied.congr rfl rfl

theorem bindVariables (tallied : world.Tallied constructed unserved gone) (symbols : SymbolTable)
    (declarations : List VariableDeclaration) :
    ((bindVariables symbols declarations).run world).2.Tallied constructed unserved gone := by
  refine holds_foldlM (fun _ declaration (between : World)
    (held : between.Tallied constructed unserved gone) => ?_) _ _ tallied
  exact held.bindVariable symbols declaration

theorem bindLibrary (tallied : world.Tallied constructed unserved gone) (symbols : SymbolTable)
    (interface : InterfaceDeclaration) (options : LibraryOptions) :
    ((bindLibrary symbols interface options).run world).2.Tallied
      (constructed + interface.functions.length) unserved gone := by
  cases opens : (newBinder options).run world with
  | mk binder opened =>
  cases decides : (World.fates symbols binder interface.functions).run opened with
  | mk fates decided =>
  have begun : opened.Tallied constructed unserved gone := by
    cases opens
    exact tallied.congr rfl rfl
  have settled := begun.fates symbols binder interface.functions
  obtain ⟨names, _⟩ := fates_proper symbols binder interface.functions opened
  rw [decides] at settled names
  have every : fates.length = interface.functions.length := by
    simpa only [List.length_map] using congrArg List.length names
  have published := settled.publishStubbed (fates.filterMap Fate.pending?)
    (({} : DispatchTable).offer (fates.filterMap Fate.built?))
  rw [Nat.add_assoc, Fate.length_built_add_pending, every] at published
  have bound := published.bindVariables symbols interface.globals
  rw [run_bindLibrary_of_fates opens decides]
  exact bound.congr rfl rfl

theorem bindLate (tallied : world.Tallied constructed unserved gone) (symbols : SymbolTable)
    (library : Library) (declaration : FunctionDeclaration) :
    ((bindLate symbols library declaration).run world).2.Tallied
      (constructed + if (library.function? declaration.name).isSome then 0 else 1) unserved
      gone := by
  rw [World.bindLate]
  cases library.function? declaration.name with
  | some entry => exact tallied
  | none =>
    exact (tallied.bindFunction symbols library.binder declaration).publish _ declaration.name _

theorem closeLibrary (tallied : world.Tallied constructed unserved gone) (library : Library) :
    ((closeLibrary library).run world).2.Tallied constructed unserved gone := by
  rw [World.closeLibrary]
  generalize library.functions.entries = entries
  induction entries generalizing world with
  | nil => exact tallied
  | cons entry rest ih => exact ih (tallied.releaseEntry entry.2)

end Tallied

end World

end ForeignCall
