import ForeignCall.Proofs.Binding.Publishing
import Mathlib.Data.List.Find

/-! Precedence: of several functions of one name the first that needs no stub is published, or the
first of all where each needs one. What is published stays. -/

namespace ForeignCall

/-- Of the fates of one name the first that is built already, or the first of all if none is. -/
def Fate.foremost? (fates : List Fate) (name : String) : Option Fate :=
  (fates.find? fun fate => fate.built?.any (·.name == name)).or (fates.find? (·.name == name))

inductive EntryPoint.Of : Fate → EntryPoint → Prop
  | built (entry : EntryPoint) : Of (.built entry) entry
  | attached (function : PreparedFunction) (pending : PendingStub) (stub : InstalledStub)
      (block : Nat) : Of (.pending function pending) (.stubbed function stub block)
  | failed (function : PreparedFunction) (pending : PendingStub) (fault : Fault) :
      Of (.pending function pending) ⟨function.signature.name, .error fault⟩

theorem find?_stubEntries {stubbed : List (PreparedFunction × PendingStub)}
    {pages after : PageStore} {outcome : Except Fault (Nat × List InstalledStub)}
    (attached : (Stub.attach (stubbed.map (·.2))).run.run pages = (outcome, after))
    (name : String) :
    Option.Rel (fun item entry => EntryPoint.Of (.pending item.1 item.2) entry)
      (stubbed.find? (·.1.signature.name == name))
      ((stubEntries stubbed outcome).find? (·.name == name)) := by
  cases outcome with
  | error fault =>
      rw [stubEntries, List.find?_map]
      change Option.Rel _ _ ((stubbed.find? (·.1.signature.name == name)).map _)
      cases stubbed.find? (·.1.signature.name == name) with
      | none => exact .none
      | some item => exact .some (.failed _ _ _)
  | ok granted =>
      obtain ⟨block, installed⟩ := granted
      have counted := (Stub.holding_of_run_attach attached).2
      have whole : (stubbed.zip installed).map (·.1) = stubbed :=
        List.map_fst_zip (by simp [counted])
      rw [stubEntries, List.find?_map]
      conv => arg 2; rw [← whole]
      rw [List.find?_map]
      change Option.Rel _ (((stubbed.zip installed).find? fun pair =>
        pair.1.1.signature.name == name).map _) (((stubbed.zip installed).find? fun pair =>
          pair.1.1.signature.name == name).map _)
      cases (stubbed.zip installed).find? fun pair => pair.1.1.signature.name == name with
      | none => exact .none
      | some pair => exact .some (.attached _ _ _ _)

theorem Fate.rel_foremost? (fates : List Fate) {entries : List EntryPoint} {name : String}
    (related : Option.Rel (fun item entry => EntryPoint.Of (.pending item.1 item.2) entry)
      ((fates.filterMap Fate.pending?).find? (·.1.signature.name == name))
      (entries.find? (·.name == name))) :
    Option.Rel EntryPoint.Of (foremost? fates name)
      ((fates.filterMap built? ++ entries).find? (·.name == name)) := by
  rw [List.find?_append, List.find?_filterMap, foremost?]
  cases first : fates.find? fun fate => fate.built?.any (·.name == name) with
  | some fate =>
      cases fate with
      | built entry => exact .some (.built entry)
      | pending function stub => cases List.find?_some first
  | none =>
      -- nothing of the name is built, so what is pending counts
      have pending : ∀ fate ∈ fates,
          (fate.name == name) = fate.pending?.any (·.1.signature.name == name) := by
        intro fate known
        cases fate with
        | built entry => exact eq_false_of_ne_true (List.find?_eq_none.1 first _ known)
        | pending function stub => rfl
      rw [List.find?_congr pending]
      rw [List.find?_filterMap] at related
      generalize entries.find? (·.name == name) = later at *
      cases found : fates.find? fun fate => fate.pending?.any (·.1.signature.name == name) with
      | none =>
          rw [found] at related
          cases related with
          | none => exact .none
      | some fate =>
          rw [found] at related
          cases fate with
          | built entry => cases List.find?_some found
          | pending function stub =>
              cases related with
              | some came => exact .some came

namespace World

theorem fst_publish (table : DispatchTable) (name : String) (entry : EntryPoint) (world : World) :
    ((publish table name entry).run world).1 = table.publish name entry := by
  rw [publish]
  cases (table.find? name).isSome <;> rfl

theorem function?_bindLate (symbols : SymbolTable) (library : Library)
    (declaration : FunctionDeclaration) (world : World) :
    let after := ((bindLate symbols library declaration).run world).1.2
    after.binder = library.binder ∧ ∀ name, after.function? name = (library.function? name).or
      (if name = declaration.name then
        some ((bindFunction symbols library.binder declaration).run world).1 else none) := by
  rw [bindLate]
  cases taken : library.function? declaration.name with
  | some entry =>
      refine ⟨rfl, fun name => ?_⟩
      change library.function? name = _
      by_cases same : name = declaration.name
      · rw [same, taken, Option.some_or]
      · rw [if_neg same, Option.or_none]
  | none =>
      refine ⟨rfl, fun name => ?_⟩
      let built := (bindFunction symbols library.binder declaration).run world
      change ((publish library.functions declaration.name built.1).run built.2).1.find? name = _
      rw [fst_publish, DispatchTable.find?_publish]
      rfl

def bindAllLate (symbols : SymbolTable) (library : Library)
    (declarations : List FunctionDeclaration) : StateM World Library :=
  declarations.foldlM (fun library declaration => (·.2) <$> bindLate symbols library declaration)
    library

theorem run_bindAllLate_cons (symbols : SymbolTable) (library : Library)
    (declaration : FunctionDeclaration) (rest : List FunctionDeclaration) (world : World) :
    (bindAllLate symbols library (declaration :: rest)).run world =
      let once := (bindLate symbols library declaration).run world
      (bindAllLate symbols once.1.2 rest).run once.2 := rfl

theorem run_bindAllLate_append (symbols : SymbolTable) (library : Library)
    (earlier rest : List FunctionDeclaration) (world : World) :
    (bindAllLate symbols library (earlier ++ rest)).run world =
      let between := (bindAllLate symbols library earlier).run world
      (bindAllLate symbols between.1 rest).run between.2 := by
  rw [bindAllLate, List.foldlM_append]
  rfl

theorem function?_bindAllLate (symbols : SymbolTable) (library : Library)
    (declarations : List FunctionDeclaration) (world : World) :
    let after := ((bindAllLate symbols library declarations).run world).1
    after.binder = library.binder ∧ ∀ name,
      (∀ entry, library.function? name = some entry → after.function? name = some entry) ∧
        ((∀ declaration ∈ declarations, declaration.name ≠ name) →
          after.function? name = library.function? name) := by
  induction declarations generalizing library world with
  | nil => exact ⟨rfl, fun name => ⟨fun _ known => known, fun _ => rfl⟩⟩
  | cons declaration rest ih =>
      rw [run_bindAllLate_cons]
      obtain ⟨binder, once⟩ := function?_bindLate symbols library declaration world
      obtain ⟨same, others⟩ := ih ((bindLate symbols library declaration).run world).1.2
        ((bindLate symbols library declaration).run world).2
      refine ⟨same.trans binder, fun name => ⟨fun entry known => ?_, fun different => ?_⟩⟩
      · exact (others name).1 entry (by rw [once, known, Option.some_or])
      · obtain ⟨first, later⟩ := List.forall_mem_cons.1 different
        rw [(others name).2 later, once, if_neg (Ne.symm first), Option.or_none]

/-- Of the functions that a library declares under one name the first that needs no stub is
published, or the first of all if each needs one. A function that is bound later is published if it
is the first of its name. Nothing that is published is replaced. -/
theorem foremost_published (symbols : SymbolTable) (interface : InterfaceDeclaration)
    (options : LibraryOptions) (world : World) (later : List FunctionDeclaration) (name : String) :
    let opened := (newBinder options).run world
    let fates := ((fates symbols opened.1 interface.functions).run opened.2).1
    let bound := (bindLibrary symbols interface options).run world
    let library := ((bindAllLate symbols bound.1 later).run bound.2).1
    fates.map Fate.name = interface.functions.map (·.name) ∧
      Option.Rel EntryPoint.Of (Fate.foremost? fates name) (bound.1.function? name) ∧
      (∀ entry, bound.1.function? name = some entry → library.function? name = some entry) ∧
      ∀ earlier declaration rest, later = earlier ++ declaration :: rest →
        declaration.name = name → (∀ other ∈ earlier, other.name ≠ name) →
        bound.1.function? name = none →
          let before := (bindAllLate symbols bound.1 earlier).run bound.2
          library.function? name =
            some ((bindFunction symbols opened.1 declaration).run before.2).1 := by
  intro opened fates bound library
  cases attached : (Stub.attach ((fates.filterMap Fate.pending?).map (·.2))).run.run
    ((World.fates symbols opened.1 interface.functions).run opened.2).2.toPageStore with
  | mk outcome after =>
  have opens : (newBinder options).run world = (opened.1, opened.2) := rfl
  obtain ⟨binder, offered, _⟩ := run_bindLibrary opens rfl attached
  refine ⟨(fates_proper symbols opened.1 interface.functions opened.2).1, ?_,
    fun entry known => ?_, ?_⟩
  · rw [Library.function?, offered, ← DispatchTable.offer_append, DispatchTable.find?_offer]
    exact Fate.rel_foremost? fates (find?_stubEntries attached name)
  · exact ((function?_bindAllLate symbols bound.1 later bound.2).2 name).1 entry known
  · rintro earlier declaration rest rfl rfl fresh free before
    obtain ⟨same, unchanged⟩ := function?_bindAllLate symbols bound.1 earlier bound.2
    have unpublished := ((unchanged declaration.name).2 fresh).trans free
    have published := (function?_bindLate symbols before.1 declaration before.2).2 declaration.name
    rw [unpublished, if_pos rfl, same, binder] at published
    dsimp only [library]
    rw [run_bindAllLate_append, run_bindAllLate_cons]
    exact ((function?_bindAllLate symbols _ rest _).2 declaration.name).1 _ published

/-- A function that goes through a stub is not published when one of its name follows that does
not. -/
example :
    let symbols : SymbolTable := ⟨[("sum", 0x10000)]⟩
    let addressed : FunctionDeclaration :=
      { name := "sum", parameters := [{ type := .address }, { type := .int }]
        result := { type := .long } }
    let listed : FunctionDeclaration :=
      { addressed with parameters := [{ type := .array .int }, { type := .int }] }
    let published (functions : List FunctionDeclaration) : Option Strategy :=
      let library := ((bindLibrary symbols ⟨functions, []⟩ {}).run
        (initial {} (.limited 4096 none true))).1
      (library.function? "sum").bind (·.strategy?)
    published [addressed] = some .stub ∧ published [addressed, listed] = some .buffer := by
  decide +kernel

end World

end ForeignCall
