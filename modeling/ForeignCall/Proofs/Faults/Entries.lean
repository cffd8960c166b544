import ForeignCall.Proofs.Binding.Building
import ForeignCall.Proofs.Binding.Paging
import ForeignCall.Proofs.Binding.Precedence
import ForeignCall.Proofs.Faults.Signatures

/-! Faults of entry points. In whatever way a function is bound, its entry point either replays a
fault of construction, or calls with converters that fail only for single values. -/

namespace ForeignCall

structure EntryPoint.Sorted (entry : EntryPoint) : Prop where
  replays : ∀ fault, entry.outcome = .error fault → fault.Lasting
  calls : ∀ bound, entry.outcome = .ok bound → bound.signature.FailsPassing

namespace EntryPoint

theorem sorted_of_ok {bound : BoundFunction} (fails : bound.signature.FailsPassing)
    (name : String) : Sorted ⟨name, .ok bound⟩ := by
  refine ⟨fun _ failed => (nomatch failed), fun _ same => ?_⟩
  cases same
  exact fails

theorem sorted_of_error {fault : Fault} (lasting : fault.Lasting) (name : String) :
    Sorted ⟨name, .error fault⟩ := by
  refine ⟨fun _ same => ?_, fun _ done => nomatch done⟩
  cases same
  exact lasting

theorem sorted_ofOutcome {outcome : Except Fault EntryPoint}
    (lasting : OnlyFaults Fault.Lasting outcome)
    (sorted : ∀ entry, outcome = .ok entry → entry.Sorted) (name : String) : (ofOutcome name outcome).Sorted := by
  cases outcome with
  | ok entry => exact sorted entry rfl
  | error fault => exact sorted_of_error (lasting fault rfl) name

end EntryPoint

def Fate.Sorted : Fate → Prop
  | built entry => entry.Sorted
  | pending function _ => function.signature.FailsPassing

def FunctionDeclaration.Regular (declaration : FunctionDeclaration) : Prop :=
  ∀ item ∈ declaration.result :: declaration.parameters, Mapper.Found item.converter

def Binder.Regular (binder : Binder) : Prop :=
  ∀ mapper, binder.defaults.converters.custom = some mapper → mapper.Regular

structure Library.Sorted (library : Library) : Prop where
  binder : library.binder.Regular
  entries : ∀ published ∈ library.functions.entries, published.2.Sorted

theorem SymbolTable.lasting_lookup (symbols : SymbolTable) (name : String) :
    OnlyFaults Fault.Lasting (symbols.lookup name) := by
  rw [lookup]
  split
  next => exact .ok _
  next => exact .error rfl

theorem Strategy.lasting_selectFrom (strategies : List Strategy) (signature : Signature)
    (setting : StrategySetting) :
    OnlyFaults Fault.Lasting (selectFrom strategies signature setting) := by
  rw [selectFrom]
  split
  next => exact .ok _
  next => exact .error rfl

namespace World

theorem lasting_plainPath (signature : Signature) (strategy : Strategy) :
    OnlyFaults Fault.Lasting (plainPath signature strategy) := by
  by_cases stubbed : strategy = .stub
  · rw [stubbed]
    exact .error rfl
  · obtain ⟨path, built⟩ := exists_plainPath signature stubbed
    rw [built]
    exact .ok path

variable {world : World}

theorem Regular.congr {after : World} (regular : world.Regular)
    (mappers : after.mappers = world.mappers)
    (closures : after.closureConverters = world.closureConverters) : after.Regular :=
  ⟨mappers ▸ regular.mappers, closures ▸ regular.closures⟩

theorem Regular.inPages {Result : Type} (regular : world.Regular) {action : StateM World Result}
    (inPages : InPages action) : (action.run world).2.Regular := by
  obtain ⟨pages, changed⟩ := inPages world
  rw [changed]
  exact regular.congr rfl rfl

theorem Regular.attempt {Result : Type} (regular : world.Regular) {action : Act PageStore Result}
    {outcome : Except Fault Result} {after : World}
    (ran : (liftM action : Act World Result).run.run world = (outcome, after)) : after.Regular := by
  cases ran
  exact regular.congr rfl rfl

theorem declares_attach (stubs : List PendingStub) :
    Declares (fun _ => True)
      (liftM (Stub.attach stubs) : Act World (Nat × List InstalledStub)) := by
  constructor
  case ensures =>
    exact fun world outcome after regular ran => ⟨regular.attempt ran, fun _ _ => trivial⟩
  case fails =>
    intro world fault after _ ran
    rw [run_onPages] at ran
    have failed := (Prod.mk.inj ran).1
    rcases Stub.of_run_attach (Prod.ext failed rfl) with
      ⟨exhausted, -⟩ | ⟨-, exhausted, -⟩ | ⟨-, -, base, done, -⟩
    · cases exhausted
      rfl
    · cases exhausted
      rfl
    · cases done

section Functions

variable {binder : Binder} (regular : binder.Regular) {declaration : FunctionDeclaration}
  (own : declaration.Regular) (symbols : SymbolTable)

include regular own in
theorem declares_prepare :
    Declares (·.signature.FailsPassing) (prepare symbols binder declaration) := by
  refine .bind (.ofExcept (symbols.lasting_lookup _) fun _ _ => trivial) fun address _ => ?_
  refine (declares_resolveSignature regular own).bind fun signature fails => ?_
  have selects := Strategy.lasting_selectFrom Strategy.order signature binder.setting
  exact .bind (.ofExcept selects fun _ _ => trivial) fun strategy _ => .pure fails

theorem declares_buildPlain {signature : Signature} (fails : signature.FailsPassing)
    (address : Nat) (strategy : Strategy) :
    Declares EntryPoint.Sorted (buildPlain signature address strategy) := by
  refine .bind (.ofExcept (lasting_plainPath _ _) fun _ _ => trivial) fun path _ => ?_
  refine (declares_ofState fun world regular => ?_).bind fun _ _ => ?_
  · exact regular.inPages (.onPages _)
  · exact .pure (EntryPoint.sorted_of_ok fails _)

theorem declares_buildUnstubbed (binder : Binder) {function : PreparedFunction}
    (fails : function.signature.FailsPassing) :
    Declares EntryPoint.Sorted (buildUnstubbed binder function) := by
  rw [buildUnstubbed]
  split
  next =>
    have selects := Strategy.lasting_selectFrom Strategy.order.tail function.signature
      binder.setting
    refine .bind (.ofExcept selects fun _ _ => trivial) fun strategy _ => ?_
    exact declares_buildPlain fails _ _
  next => exact declares_buildPlain fails _ _

theorem declares_attachAlone (binder : Binder) {function : PreparedFunction}
    (fails : function.signature.FailsPassing) (stub : PendingStub) :
    Declares EntryPoint.Sorted (attachAlone binder function stub) := by
  refine (declares_attach [stub]).bind fun ⟨block, installed⟩ _ => ?_
  have leaves {entry : EntryPoint} (sorted : entry.Sorted) : Declares EntryPoint.Sorted (do
      PageStore.release block
      return entry) := by
    refine (declares_ofState fun world regular => ?_).bind fun _ _ => .pure sorted
    exact regular.inPages (.onPages _)
  cases installed with
  | cons stub rest =>
    have builds : Declares EntryPoint.Sorted (liftM (buildStubbed function stub block)) :=
      .ofState (fun world regular => regular.inPages (inPages_buildStubbed _ _ _))
        fun world _ => EntryPoint.sorted_of_ok fails _
    exact builds.bind fun entry sorted => leaves sorted
  | nil => exact (declares_buildUnstubbed binder fails).bind fun entry sorted => leaves sorted

theorem sorted_concludeEntry {action : Act World EntryPoint}
    (declares : Declares EntryPoint.Sorted action) (name : String) (begun : world.Regular) :
    let ended := action.run.run world
    let run := (concludeEntry name ended.1).run ended.2
    run.2.Regular ∧ run.1.Sorted := by
  intro ended run
  obtain ⟨kept, sorted⟩ := declares.ensures world _ _ begun rfl
  have lasting : OnlyFaults Fault.Lasting ended.1 :=
    fun fault failed => declares.fails world fault _ begun (Prod.ext failed rfl)
  obtain ⟨journal, concluded⟩ := run_concludeEntry name ended.1 ended.2
  simp only [run]
  rw [concluded]
  exact ⟨kept.congr rfl rfl, EntryPoint.sorted_ofOutcome lasting sorted name⟩

include regular own in
theorem sorted_fate (begun : world.Regular) :
    let run := (fate symbols binder declaration).run world
    run.2.Regular ∧ run.1.Sorted := by
  have prepares := declares_prepare regular own symbols
  intro run
  simp only [run]
  rw [run_fate]
  split
  next fault between failed =>
    have lasting := prepares.fails world fault between begun failed
    have kept := (prepares.ensures world _ between begun failed).1
    exact sorted_concludeEntry (.throw lasting) declaration.name kept
  next function between done =>
    obtain ⟨kept, fails⟩ := prepares.ensures world _ between begun done
    cases pending : function.pending? with
    | some stub => exact ⟨kept, fails function rfl⟩
    | none =>
      exact sorted_concludeEntry (declares_buildUnstubbed binder (fails function rfl))
        declaration.name kept

include regular own in
theorem sorted_bindFunction (begun : world.Regular) :
    let run := (bindFunction symbols binder declaration).run world
    run.2.Regular ∧ run.1.Sorted := by
  obtain ⟨kept, sorted⟩ := sorted_fate regular own symbols begun
  intro run
  simp only [run]
  rw [run_bindFunction]
  generalize (fate symbols binder declaration).run world = decided at *
  obtain ⟨fate, between⟩ := decided
  cases fate with
  | built entry => exact ⟨kept, sorted⟩
  | pending function stub =>
    exact sorted_concludeEntry (declares_attachAlone binder sorted stub) declaration.name kept

end Functions

section Libraries

variable {binder : Binder} (regular : binder.Regular) (symbols : SymbolTable)

include regular in
theorem sorted_fates {declarations : List FunctionDeclaration}
    (own : ∀ declaration ∈ declarations, declaration.Regular) (begun : world.Regular) :
    let run := (fates symbols binder declarations).run world
    run.2.Regular ∧ ∀ fate ∈ run.1, fate.Sorted := by
  induction declarations generalizing world with
  | nil => exact ⟨begun, fun _ known => nomatch known⟩
  | cons declaration rest ih =>
    obtain ⟨first, others⟩ := List.forall_mem_cons.1 own
    obtain ⟨between, head⟩ := sorted_fate regular first symbols begun
    obtain ⟨after, tail⟩ := ih others between
    rw [run_fates_cons]
    exact ⟨after, List.forall_mem_cons.2 ⟨head, tail⟩⟩

theorem sorted_stubEntries {stubbed : List (PreparedFunction × PendingStub)}
    {pages left : PageStore} {outcome : Except Fault (Nat × List InstalledStub)}
    (attached : (Stub.attach (stubbed.map (·.2))).run.run pages = (outcome, left))
    (fails : ∀ item ∈ stubbed, item.1.signature.FailsPassing) :
    ∀ entry ∈ stubEntries stubbed outcome, entry.Sorted := by
  intro entry known
  cases outcome with
  | ok granted =>
    obtain ⟨pair, inside, rfl⟩ := List.mem_map.1 known
    exact EntryPoint.sorted_of_ok (fails _ (List.of_mem_zip inside).1) _
  | error fault =>
    -- only pages that ran out keep stubs from being attached
    refine ⟨fun other failed => ?_, fun bound done => ?_⟩
    · obtain ⟨bytes, rfl⟩ := exhausted_of_mem_stubEntries attached known failed
      rfl
    · obtain ⟨item, -, rfl⟩ := List.mem_map.1 known
      cases done

theorem sorted_publish {table : DispatchTable}
    (all : ∀ published ∈ table.entries, published.2.Sorted) {entry : EntryPoint}
    (sorted : entry.Sorted) (name : String) :
    ∀ published ∈ (table.publish name entry).entries, published.2.Sorted := by
  rw [DispatchTable.publish]
  split
  next => exact all
  next =>
    intro published known
    rcases List.mem_append.1 known with earlier | last
    · exact all published earlier
    · rw [List.mem_singleton.1 last]
      exact sorted

theorem sorted_offer {table : DispatchTable}
    (all : ∀ published ∈ table.entries, published.2.Sorted) {entries : List EntryPoint}
    (sorted : ∀ entry ∈ entries, entry.Sorted) :
    ∀ published ∈ (table.offer entries).entries, published.2.Sorted := by
  induction entries generalizing table with
  | nil => exact all
  | cons entry rest ih =>
    obtain ⟨first, others⟩ := List.forall_mem_cons.1 sorted
    exact ih (sorted_publish all first entry.name) others

theorem Regular.bindVariables (begun : world.Regular) (declarations : List VariableDeclaration) :
    ((bindVariables symbols declarations).run world).2.Regular := by
  refine holds_foldlM (fun _ declaration (between : World) (held : between.Regular) => ?_) _ _ begun
  obtain ⟨types, events, same⟩ := run_bindVariable symbols declaration between
  change ((bindVariable symbols declaration).run between).2.Regular
  rw [same]
  exact held.congr rfl rfl

theorem sorted_bindLibrary {interface : InterfaceDeclaration} {options : LibraryOptions}
    (custom : ∀ mapper, options.mapper = some mapper → mapper.Regular)
    (own : ∀ declaration ∈ interface.functions, declaration.Regular) (begun : world.Regular) :
    let run := (bindLibrary symbols interface options).run world
    run.2.Regular ∧ run.1.Sorted := by
  intro run
  cases opens : (newBinder options).run world with
  | mk binder opened =>
  cases decides : (fates symbols binder interface.functions).run opened with
  | mk fates decided =>
  cases attached : (Stub.attach ((fates.filterMap Fate.pending?).map (·.2))).run.run
    decided.toPageStore with
  | mk outcome pages =>
  have regular : binder.Regular := by
    cases opens
    exact custom
  have kept : opened.Regular := by
    cases opens
    exact ⟨begun.mappers.newCache, begun.closures⟩
  obtain ⟨settled, sorted⟩ := sorted_fates regular symbols own kept
  rw [decides] at settled sorted
  obtain ⟨same, functions, -⟩ := run_bindLibrary opens decides attached
  refine ⟨?_, same ▸ regular, ?_⟩
  · have published := settled.inPages (inPages_publishStubbed (fates.filterMap Fate.pending?)
      (({} : DispatchTable).offer (fates.filterMap Fate.built?)))
    simp only [run]
    rw [run_bindLibrary_of_fates opens decides]
    exact (published.bindVariables symbols interface.globals).congr rfl rfl
  · have plain : ∀ entry ∈ fates.filterMap Fate.built?, entry.Sorted :=
      fun entry known => sorted _ (Fate.mem_filterMap_built?.1 known)
    have waiting : ∀ item ∈ fates.filterMap Fate.pending?, item.1.signature.FailsPassing :=
      fun item known => sorted _ (Fate.mem_filterMap_pending?.1 known)
    have empty : ∀ published ∈ ({} : DispatchTable).entries, published.2.Sorted :=
      fun _ known => nomatch known
    rw [functions]
    exact sorted_offer (sorted_offer empty plain) (sorted_stubEntries attached waiting)

theorem sorted_bindLate {library : Library} (sorted : library.Sorted)
    {declaration : FunctionDeclaration} (own : declaration.Regular) (begun : world.Regular) :
    let run := (bindLate symbols library declaration).run world
    run.2.Regular ∧ run.1.2.Sorted := by
  intro run
  simp only [run]
  rw [bindLate]
  cases library.function? declaration.name with
  | some entry => exact ⟨begun, sorted⟩
  | none =>
    obtain ⟨kept, good⟩ := sorted_bindFunction sorted.binder own symbols begun
    let built := (bindFunction symbols library.binder declaration).run world
    let published := (publish library.functions declaration.name built.1).run built.2
    change published.2.Regular ∧ Library.Sorted { library with functions := published.1 }
    refine ⟨kept.inPages (inPages_publish _ _ _), sorted.binder, ?_⟩
    dsimp only [published]
    rw [fst_publish]
    exact sorted_publish sorted.entries good declaration.name

end Libraries

end World

end ForeignCall
