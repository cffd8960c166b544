import ForeignCall.Proofs.Binding.Preparing

/-! What becomes of a declaration: an entry point, or a stub that is still to be installed. Binding
a single function and binding a whole interface both begin with that. -/

namespace ForeignCall

/-- What becomes of a declaration before any stub is installed. -/
inductive Fate
  | built (entry : EntryPoint)
  | pending (function : PreparedFunction) (stub : PendingStub)

namespace Fate

def essence : Fate → Fate
  | built entry => built entry.essence
  | pending function stub => pending function.essence stub

def name : Fate → String
  | built entry => entry.name
  | pending function _ => function.signature.name

def built? : Fate → Option EntryPoint
  | built entry => some entry
  | pending .. => none

def pending? : Fate → Option (PreparedFunction × PendingStub)
  | built _ => none
  | pending function stub => some (function, stub)

theorem mem_filterMap_built? {fates : List Fate} {entry : EntryPoint} :
    entry ∈ fates.filterMap built? ↔ built entry ∈ fates := by
  rw [List.mem_filterMap]
  constructor
  · rintro ⟨fate, known, found⟩
    cases fate with
    | built other =>
        cases found
        exact known
    | pending function stub => cases found
  · exact fun known => ⟨_, known, rfl⟩

theorem mem_filterMap_pending? {fates : List Fate} {function : PreparedFunction}
    {stub : PendingStub} :
    (function, stub) ∈ fates.filterMap pending? ↔ pending function stub ∈ fates := by
  rw [List.mem_filterMap]
  constructor
  · rintro ⟨fate, known, found⟩
    cases fate with
    | built other => cases found
    | pending function stub =>
        cases found
        exact known
  · exact fun known => ⟨_, known, rfl⟩

inductive Proper : Fate → Prop
  | built {entry : EntryPoint} (plain : entry.block? = none) : Proper (.built entry)
  | pending {function : PreparedFunction} {stub : PendingStub}
      (assembled : function.pending? = some stub) : Proper (.pending function stub)

end Fate

def EntryPoint.ofOutcome (name : String) : Except Fault EntryPoint → EntryPoint
  | .ok entry => entry
  | .error fault => ⟨name, .error fault⟩

namespace World

def withJournal (world : World) (journal : Journal) : World :=
  { world with events := journal.events, counters := journal.counters }

theorem run_concludeEntry (name : String) (outcome : Except Fault EntryPoint) (world : World) :
    ∃ journal, (concludeEntry name outcome).run world =
      (.ofOutcome name outcome, world.withJournal journal) := by
  cases outcome with
  | error fault => exact ⟨_, rfl⟩
  | ok entry =>
      simp only [concludeEntry]
      cases known : entry.strategy? with
      | none => exact ⟨world.toJournal, rfl⟩
      | some strategy => exact ⟨_, rfl⟩

def fate (symbols : SymbolTable) (binder : Binder) (declaration : FunctionDeclaration) :
    StateM World Fate := do
  match ← (prepare symbols binder declaration).run with
  | .error fault => return .built (← concludeEntry declaration.name (.error fault))
  | .ok function =>
    match function.pending? with
    | some stub => return .pending function stub
    | none =>
      return .built (← concludeEntry declaration.name (← (buildUnstubbed binder function).run))

theorem run_fate (symbols : SymbolTable) (binder : Binder) (declaration : FunctionDeclaration)
    (world : World) :
    (fate symbols binder declaration).run world =
      match (prepare symbols binder declaration).run.run world with
      | (.error fault, after) =>
        let (entry, last) := (concludeEntry declaration.name (.error fault)).run after
        (.built entry, last)
      | (.ok function, after) =>
        match function.pending? with
        | some stub => (.pending function stub, after)
        | none =>
          let (outcome, between) := (buildUnstubbed binder function).run.run after
          let (entry, last) := (concludeEntry declaration.name outcome).run between
          (.built entry, last) := by
  rw [fate, StateT.run_bind]
  generalize (prepare symbols binder declaration).run.run world = prepared
  obtain ⟨outcome, after⟩ : Except Fault PreparedFunction × World := prepared
  cases outcome with
  | error fault => rfl
  | ok function =>
      change StateT.run _ after = _
      dsimp only
      cases function.pending? <;> rfl

theorem returns_prepare (symbols : SymbolTable) (binder : Binder)
    (declaration : FunctionDeclaration) :
    (prepare symbols binder declaration).Returns fun function =>
      function.signature.name = declaration.name := by
  have resolved : (resolveSignature binder.defaults declaration).Returns fun signature =>
      signature.name = declaration.name := by
    refine .bind (Act.returns_true _) fun parameters _ => ?_
    exact .bind (Act.returns_true _) fun result _ =>
      .bind (Act.returns_true _) fun world _ => .pure rfl
  refine .bind (Act.returns_true _) fun address _ => resolved.bind fun signature named => ?_
  exact .bind (Act.returns_true _) fun strategy _ => .pure named

theorem strategy_of_plainPath {signature : Signature} {strategy : Strategy} {path : CallPath}
    (built : plainPath signature strategy = .ok path) : path.strategy = strategy := by
  cases strategy with
  | stub => cases built
  | fastInt | fastLong => cases built; rfl
  | fastNumeric =>
      simp only [plainPath, CallInterface.prepare_named_all] at built
      cases built
      rfl
  | buffer =>
      simp only [plainPath, CallInterface.prepare_named_all] at built
      split at built <;> cases built <;> rfl

theorem block?_of_plainPath {signature : Signature} {strategy : Strategy} {path : CallPath}
    (built : plainPath signature strategy = .ok path) : path.block? = none := by
  have same := strategy_of_plainPath built
  cases path with
  | stub start block =>
      cases same
      cases built
  | _ => rfl

structure EntryPoint.Plain (name : String) (entry : EntryPoint) : Prop where
  name : entry.name = name
  block : entry.block? = none

theorem returns_buildUnstubbed (binder : Binder) (function : PreparedFunction) :
    (buildUnstubbed binder function).Returns (EntryPoint.Plain function.signature.name) := by
  have plain : ∀ strategy, (buildPlain function.signature function.address strategy).Returns
      (EntryPoint.Plain function.signature.name) := by
    intro strategy
    refine .bind (.ofExcept fun path built => block?_of_plainPath built) fun path direct => ?_
    exact .bind (Act.returns_true _) fun _ _ => .pure ⟨rfl, direct⟩
  rw [buildUnstubbed]
  split
  next => exact .bind (Act.returns_true _) fun strategy _ => plain strategy
  next => exact plain function.strategy

theorem fate_proper (symbols : SymbolTable) (binder : Binder) (declaration : FunctionDeclaration)
    (world : World) :
    let fate := ((fate symbols binder declaration).run world).1
    fate.name = declaration.name ∧ fate.Proper := by
  rw [run_fate]
  cases prepared : (prepare symbols binder declaration).run.run world with
  | mk outcome after =>
  cases outcome with
  | error fault => exact ⟨rfl, .built rfl⟩
  | ok function =>
      have named := (returns_prepare symbols binder declaration).of_run prepared
      dsimp only
      cases pending : function.pending? with
      | some stub => exact ⟨named, .pending pending⟩
      | none =>
          dsimp only
          cases built : (buildUnstubbed binder function).run.run after with
          | mk outcome between =>
          obtain ⟨journal, concluded⟩ := run_concludeEntry declaration.name outcome between
          dsimp only
          rw [concluded]
          cases outcome with
          | error fault => exact ⟨rfl, .built rfl⟩
          | ok entry =>
              have plain := (returns_buildUnstubbed binder function).of_run built
              exact ⟨plain.name.trans named, .built plain.block⟩

def fates (symbols : SymbolTable) (binder : Binder) (declarations : List FunctionDeclaration) :
    StateM World (List Fate) :=
  declarations.mapM (fate symbols binder)

theorem run_fates_cons (symbols : SymbolTable) (binder : Binder)
    (declaration : FunctionDeclaration) (rest : List FunctionDeclaration) (world : World) :
    (fates symbols binder (declaration :: rest)).run world =
      let (first, between) := (fate symbols binder declaration).run world
      let (others, after) := (fates symbols binder rest).run between
      (first :: others, after) := by
  rw [fates, List.mapM_cons]
  rfl

theorem fates_proper (symbols : SymbolTable) (binder : Binder)
    (declarations : List FunctionDeclaration) (world : World) :
    let fates := ((fates symbols binder declarations).run world).1
    fates.map Fate.name = declarations.map (·.name) ∧ ∀ fate ∈ fates, fate.Proper := by
  induction declarations generalizing world with
  | nil => exact ⟨rfl, fun _ known => nomatch known⟩
  | cons declaration rest ih =>
      rw [run_fates_cons]
      obtain ⟨named, proper⟩ := fate_proper symbols binder declaration world
      obtain ⟨names, others⟩ := ih ((fate symbols binder declaration).run world).2
      exact ⟨List.cons_eq_cons.2 ⟨named, names⟩, List.forall_mem_cons.2 ⟨proper, others⟩⟩

section Kindred

variable {origin : World} {behind : Nat → CacheKey → Except Fault (Option ConverterBody)}
  (closures : origin.Stocks behind origin.closureConverters) {binder : Binder}
  (encodes : binder.defaults.encoding = origin.encoding)
  (stocks : origin.Stocks behind binder.defaults.converters)

theorem Kindred.withJournal {world : World} (kindred : origin.Kindred behind world)
    (journal : Journal) : origin.Kindred behind (world.withJournal journal) :=
  ⟨{ kindred.toResembles with }, kindred.opened, kindred.passable⟩

end Kindred

def attachAlone (binder : Binder) (function : PreparedFunction) (stub : PendingStub) :
    Act World EntryPoint := do
  let (block, installed) ← Stub.attach [stub]
  let entry ← match installed with
    | stub :: _ => liftM (buildStubbed function stub block)
    | [] => buildUnstubbed binder function
  PageStore.release block
  return entry

theorem run_bindFunction (symbols : SymbolTable) (binder : Binder)
    (declaration : FunctionDeclaration) (world : World) :
    (bindFunction symbols binder declaration).run world =
      match (fate symbols binder declaration).run world with
      | (.built entry, after) => (entry, after)
      | (.pending function stub, after) =>
        let (outcome, between) := (attachAlone binder function stub).run.run after
        (concludeEntry declaration.name outcome).run between := by
  rw [run_fate, bindFunction]
  dsimp only
  rw [StateT.run_bind, Act.run_bind]
  generalize (prepare symbols binder declaration).run.run world = prepared
  obtain ⟨outcome, after⟩ : Except Fault PreparedFunction × World := prepared
  cases outcome with
  | error fault => rfl
  | ok function =>
      dsimp only
      change (concludeEntry declaration.name _ : StateM World _).run _ = _
      cases function.pending? <;> rfl

end World

end ForeignCall
