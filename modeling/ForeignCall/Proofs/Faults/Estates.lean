import ForeignCall.Proofs.Faults.Calls
import ForeignCall.Proofs.Faults.Entries
import ForeignCall.Proofs.Ownership.Estates

/-! Faults of a whole run. Where mappers fail only for what is declared and converters only for
single values, an entry point that cannot be called replays one fault of construction and is never
replaced, and one that can be called fails only for what a call passes. -/

namespace ForeignCall

inductive Library.Grows (library : Library) : Library → Prop
  | refl : library.Grows library
  | bind {earlier : Library} (grown : library.Grows earlier) (symbols : SymbolTable)
      (declaration : FunctionDeclaration) (world : World) :
      library.Grows ((World.bindLate symbols earlier declaration).run world).1.2

theorem Library.Grows.function? {library later : Library} (grown : library.Grows later)
    {name : String} {entry : EntryPoint} (known : library.function? name = some entry) :
    later.function? name = some entry := by
  induction grown with
  | refl => exact known
  | bind earlier symbols declaration world ih =>
    obtain ⟨-, published⟩ := World.function?_bindLate symbols _ declaration world
    rw [published, ih, Option.some_or]

theorem World.run_bindLate_of_known {library : Library} {declaration : FunctionDeclaration}
    {entry : EntryPoint} (known : library.function? declaration.name = some entry)
    (symbols : SymbolTable) (world : World) :
    (bindLate symbols library declaration).run world = ((entry, library), world) := by
  rw [bindLate, known]
  rfl

/-- The converters and mappers that an operation brings are regular, and what else it does keeps
those that are remembered. -/
def Operation.Regular : Operation → Prop
  | through _ _ function => function.signature.FailsPassing
  | bindFunction _ binder declaration => binder.Regular ∧ declaration.Regular
  | bindLibrary _ interface options =>
    (∀ mapper, options.mapper = some mapper → mapper.Regular) ∧
      ∀ declaration ∈ interface.functions, declaration.Regular
  | bindLate _ _ declaration => declaration.Regular
  | elsewhere change => ∀ world, world.Regular → (change world).Regular
  | _ => True

def Holder.Sorted : Holder → Prop
  | invoker entry => entry.Sorted
  | library bound => bound.Sorted
  | _ => True

theorem Holder.Sorted.of_entries {holder : Holder} (sorted : holder.Sorted) {entry : EntryPoint}
    (known : entry ∈ holder.entries) : entry.Sorted := by
  cases holder with
  | invoker held =>
    rw [List.mem_singleton.1 known]
    exact sorted
  | library bound =>
    obtain ⟨published, inside, rfl⟩ := List.mem_map.1 known
    exact sorted.entries published inside
  | _ => cases known

theorem Holder.mem_entries_of_function? {bound : Library} {name : String} {entry : EntryPoint}
    (known : bound.function? name = some entry) : entry ∈ (library bound).entries := by
  obtain ⟨earlier, later, split, -⟩ := List.lookup_eq_some_iff.1 known
  refine List.mem_map.2 ⟨(name, entry), ?_, rfl⟩
  rw [split]
  exact List.mem_append_right _ List.mem_cons_self

namespace World

variable {world : World}

theorem inPages_drop (holder : Holder) : InPages holder.drop := by
  cases holder with
  | attached block stubs => exact .onPages _
  | invoker entry => exact inPages_releaseEntry entry
  | library bound => exact inPages_closeLibrary bound
  | magazine cut => exact .onPages _

theorem handles_regular : Handles Regular where
  replace _ _ _ _ _ _ regular := regular.congr rfl rfl
  events _ _ regular := regular.congr rfl rfl
  takeSlot world number pool outcome after _ regular ran := by
    rcases cases_of_run_takeSlot ran with
      ⟨pages, source, slot, reused, taken, -, -, -, rfl⟩ | ⟨-, fault, pages, -, -, rfl⟩
    · exact regular.congr rfl rfl
    · exact regular.congr rfl rfl

theorem Regular.dropPool (regular : world.Regular) (number : Nat) :
    ((dropPool number).run world).2.Regular := by
  rw [run_dropPool]
  split
  next => exact regular
  next pool _ =>
    have kept : (world.withoutPool number).Regular := regular.congr rfl rfl
    exact kept.inPages (.forM (fun _ => .onPages _) _)

end World

namespace Estate

structure Sorted (estate : Estate) : Prop where
  world : estate.world.Regular
  holders : ∀ holder ∈ estate.holders, holder.Sorted

variable {estate : Estate}

theorem Sorted.of_world (sorted : estate.Sorted) {world : World} (kept : world.Regular) :
    Sorted { estate with world } :=
  ⟨kept, sorted.holders⟩

theorem Sorted.add (sorted : estate.Sorted) {world : World} (kept : world.Regular)
    {holder : Holder} (good : holder.Sorted) :
    Sorted { estate with world, holders := holder :: estate.holders } :=
  ⟨kept, List.forall_mem_cons.2 ⟨good, sorted.holders⟩⟩

theorem Sorted.perform (sorted : estate.Sorted) {operation : Operation}
    (regular : operation.Regular) : (estate.perform operation).Sorted := by
  have known := sorted.world
  cases operation with
  | permit policy => exact sorted.of_world (known.congr rfl rfl)
  | attach stubs =>
    rw [Estate.perform]
    split
    next block installed world ran => exact sorted.add (known.attempt ran) trivial
    next fault world ran => exact sorted.of_world (known.attempt ran)
  | through position stub function =>
    rw [Estate.perform]
    split
    next stub block found =>
      have kept := known.inPages (World.inPages_buildStubbed function stub block)
      have fails : function.signature.FailsPassing := regular
      have good : EntryPoint.Sorted (.stubbed function stub block) :=
        EntryPoint.sorted_of_ok fails _
      exact sorted.add kept good
    next => exact sorted
  | bindFunction symbols binder declaration =>
    obtain ⟨kept, good⟩ := World.sorted_bindFunction regular.1 regular.2 symbols known
    exact sorted.add kept good
  | bindLibrary symbols interface options =>
    obtain ⟨kept, good⟩ := World.sorted_bindLibrary symbols regular.1 regular.2 known
    exact sorted.add kept good
  | bindLate position symbols declaration =>
    rw [Estate.perform]
    split
    next library found =>
      have bound := sorted.holders _ (List.mem_of_getElem? found)
      obtain ⟨kept, good⟩ := World.sorted_bindLate symbols bound regular known
      refine ⟨kept, fun holder inside => ?_⟩
      rcases List.mem_or_eq_of_mem_set inside with other | rfl
      · exact sorted.holders holder other
      · exact good
    next => exact sorted
  | share position entry =>
    rw [Estate.perform]
    split
    next entry found =>
      -- whoever comes to hold an entry point has it from another holder
      obtain ⟨holder, there, inside⟩ := Option.bind_eq_some_iff.1 found
      have held := sorted.holders holder (List.mem_of_getElem? there)
      have kept := known.inPages (World.inPages_retainEntry entry)
      exact sorted.add kept (held.of_entries (List.mem_of_getElem? inside))
    next => exact sorted
  | allocateMagazine pages =>
    rw [Estate.perform]
    split
    next magazine world ran => exact sorted.add (known.attempt ran) trivial
    next fault world ran => exact sorted.of_world (known.attempt ran)
  | openPool type =>
    exact sorted.of_world ((World.declares_openPool type).ensures _ _ _ known rfl).1
  | newSite type => exact sorted.of_world ((World.declares_newSite type).ensures _ _ _ known rfl).1
  | closureFor type serial =>
    have opens (type : CallbackType) := (World.declares_openPool type).ensures
    exact sorted.of_world (World.handles_regular.closureFor opens type serial _ _ _ known rfl).1
  | closureAddress site serial =>
    have sites (world : World) (sites : List CallSite) (regular : world.Regular) :
        World.Regular { world with sites } := regular.congr rfl rfl
    exact sorted.of_world (World.handles_regular.closureAddress sites site serial _ _ _ known rfl).1
  | notifyUnreachable number identity =>
    exact sorted.of_world (World.handles_regular.notifyUnreachable number identity known)
  | postUnreachable number identity =>
    exact sorted.of_world (World.handles_regular.postUnreachable number identity known)
  | reclaimPool number => exact sorted.of_world (World.handles_regular.reclaimPool number known)
  | dispose block =>
    rw [Estate.perform]
    split
    next => exact ⟨known.inPages (.onPages _), sorted.holders⟩
    next => exact sorted
  | drop position =>
    rw [Estate.perform]
    split
    next holder found =>
      exact ⟨known.inPages (World.inPages_drop holder), fun other inside =>
        sorted.holders other (List.mem_of_mem_eraseIdx inside)⟩
    next => exact sorted
  | dropPool number => exact sorted.of_world (known.dropPool number)
  | elsewhere change => exact sorted.of_world ((regular _ known).congr rfl rfl)

theorem Sorted.run (sorted : estate.Sorted) (operations : List Operation)
    (regular : ∀ operation ∈ operations, operation.Regular) : (estate.run operations).Sorted := by
  induction operations generalizing estate with
  | nil => exact sorted
  | cons operation rest ih =>
    obtain ⟨first, others⟩ := List.forall_mem_cons.1 regular
    exact ih (sorted.perform first) others

theorem sorted_of_start {config : Config} {policy : Option PagePolicy} {world : World}
    (started : World.start config policy = .ok world) : Sorted { world } := by
  obtain ⟨granting, event, rfl⟩ := World.eq_of_start started
  refine ⟨⟨.of_empty fun number => ?_, nofun⟩, fun _ known => nomatch known⟩
  cases number with
  | zero => rfl
  | succ number => rfl

/-- In every run, a fault that an entry point replays is one of construction, and it is told
whatever is passed and before a lock is taken. Otherwise a call that passes no callable fails only
with faults of that call. What a library published is never replaced. -/
theorem faults_sorted {config : Config} {policy : Option PagePolicy} {world : World}
    (started : World.start config policy = .ok world) (operations : List Operation)
    (regular : ∀ operation ∈ operations, operation.Regular) :
    let estate := Estate.run { world } operations
    (∀ entry ∈ estate.holders.flatMap Holder.entries,
      (∀ fault, entry.outcome = .error fault → fault.ofConstruction = true ∧
        ∀ lock code arguments now,
          (World.invokeLocked lock code entry arguments).run.run now = (.error fault, now)) ∧
      ∀ bound, entry.outcome = .ok bound →
        ∀ lock code arguments, ¬ bound.signature.CallsBack arguments → ∀ now fault after,
          (World.invokeLocked lock code entry arguments).run.run now = (.error fault, after) →
            fault.ofConstruction = false) ∧
    ∀ library, .library library ∈ estate.holders → ∀ later, library.Grows later →
      ∀ name entry, library.function? name = some entry → later.function? name = some entry ∧
        ∀ symbols declaration now, declaration.name = name →
          (World.bindLate symbols later declaration).run now = ((entry, later), now) := by
  intro estate
  have sorted : estate.Sorted := (sorted_of_start started).run operations regular
  refine ⟨fun entry known => ?_, fun library held later grown name entry found => ?_⟩
  · obtain ⟨holder, inside, mine⟩ := List.mem_flatMap.1 known
    have good := (sorted.holders holder inside).of_entries mine
    refine ⟨fun fault failed => ⟨good.replays fault failed, ?_⟩, fun bound opened => ?_⟩
    · exact World.run_invokeLocked_of_error failed
    · intro lock code arguments uncalled now fault after ran
      have fails := World.passing_invokeLocked (good.calls bound opened) lock code opened uncalled
      exact fails.fails now fault after trivial ran
  · have stays := grown.function? found
    refine ⟨stays, fun symbols declaration now named => ?_⟩
    exact World.run_bindLate_of_known (named ▸ stays) symbols now

theorem holders_bindLibrary (estate : Estate) (symbols : SymbolTable)
    (interface : InterfaceDeclaration) (options : LibraryOptions) :
    (estate.run [.bindLibrary symbols interface options]).holders =
      .library ((World.bindLibrary symbols interface options).run estate.world).1 ::
        estate.holders := rfl

def pickyOptions : LibraryOptions where
  mapper := some (.chain [.refusing .short, .building .int (RuleSpec.body { rule := .fail })])

def pickyInterface : InterfaceDeclaration :=
  let add : FunctionDeclaration :=
    { name := "add", parameters := [{ type := .int }, { type := .int }]
      result := { type := .int } }
  ⟨[add, { add with name := "missing" }, { name := "neg", parameters := [{ type := .short }] }], []⟩

def pickySymbols : SymbolTable := ⟨[("add", 0x10000), ("neg", 0x10010)]⟩

theorem faults_sorted_picky :
    let operations := [.bindLibrary pickySymbols pickyInterface pickyOptions]
    let estate := Estate.run { world := World.small } operations
    ∃ library add bound missing, estate.holders = [.library library] ∧
      library.function? "add" = some add ∧ add.outcome = .ok bound ∧
      library.function? "missing" = some missing ∧
      (∀ lock code arguments now fault after,
        (World.invokeLocked lock code add arguments).run.run now = (.error fault, after) →
          fault.ofConstruction = false) ∧
      (∀ lock code arguments now, (World.invokeLocked lock code missing arguments).run.run now =
        (.error (.symbolNotFound "missing"), now)) ∧
      ∀ symbols declaration now, declaration.name = "missing" →
        (World.bindLate symbols library declaration).run now = ((missing, library), now) := by
  intro operations estate
  have booted : World.start {} (some (.limited 256 none true)) = .ok World.small := rfl
  have mappers : ∀ mapper, pickyOptions.mapper = some mapper → mapper.Regular := by
    rintro _ ⟨⟩
    refine Mapper.regular_chain fun mapper known => ?_
    simp only [List.mem_cons, List.not_mem_nil, or_false] at known
    rcases known with rfl | rfl
    · exact Mapper.regular_refusing .short
    · exact Mapper.regular_building (RuleSpec.failsPassing_body _) .int
  have declared : ∀ declaration ∈ pickyInterface.functions, declaration.Regular := by
    intro declaration known item inside converter brought
    have bare : ∀ declaration ∈ pickyInterface.functions,
        ∀ item ∈ declaration.result :: declaration.parameters, item.converter.isNone := by decide
    rw [Option.isNone_iff_eq_none.1 (bare declaration known item inside)] at brought
    cases brought
  have regular : ∀ operation ∈ operations, operation.Regular :=
    List.forall_mem_singleton.2 ⟨mappers, declared⟩
  obtain ⟨each, kept⟩ := faults_sorted booted operations regular
  let library := ((World.bindLibrary pickySymbols pickyInterface pickyOptions).run World.small).1
  have held : estate.holders = [.library library] := holders_bindLibrary _ _ _ _
  have adds : ((library.function? "add").bind (·.bound?)).any (·.signature.isScalarOnly) =
      true := by decide +kernel
  have fails : (library.function? "missing").bind (·.fault?) =
      some (.symbolNotFound "missing") := by decide +kernel
  obtain ⟨bound, opens, scalars⟩ := (Option.any_eq_true _ _).1 adds
  obtain ⟨add, added, opened⟩ := Option.bind_eq_some_iff.1 opens
  obtain ⟨missing, listed, replayed⟩ := Option.bind_eq_some_iff.1 fails
  have bounded : add.outcome = .ok bound := (EntryPoint.bound?_eq_some add bound).1 opened
  have failed := (EntryPoint.fault?_eq_some missing (.symbolNotFound "missing")).1 replayed
  have entered {name : String} {entry : EntryPoint} (known : library.function? name = some entry) :
      entry ∈ estate.holders.flatMap Holder.entries :=
    List.mem_flatMap.2 ⟨_, held ▸ List.mem_singleton_self _, Holder.mem_entries_of_function? known⟩
  refine ⟨library, add, bound, missing, held, added, bounded, listed, ?_, ?_, ?_⟩
  · intro lock code arguments
    have uncalled := Signature.not_callsBack_of_scalars scalars arguments
    exact (each add (entered added)).2 bound bounded lock code arguments uncalled
  · exact ((each missing (entered listed)).1 _ failed).2
  · have mine : Holder.library library ∈ estate.holders := held ▸ List.mem_singleton_self _
    exact (kept library mine library .refl "missing" missing listed).2

end Estate

end ForeignCall
