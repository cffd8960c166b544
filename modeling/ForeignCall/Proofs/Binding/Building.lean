import ForeignCall.Proofs.Binding.Isolation
import ForeignCall.Proofs.Call.Suitability

/-! Strategies and what builds their call paths. The choice of a strategy, the kinds of the
parameters and the assignment of registers cover one another: a signature that was resolved gets a
strategy whose call path can be built, so that only pages that run out keep it from being bound. -/

namespace ForeignCall

structure Signature.FewIntegers (signature : Signature) : Prop where
  few : signature.parameters.length ≤ 6
  integers : ∀ parameter ∈ signature.parameters,
    parameter.kind = .integer ∧ parameter.native.isIntegral = true

def Signature.interface (signature : Signature) : CallInterface :=
  ⟨signature.natives, signature.result.native, signature.model⟩

/-- What the call path of a strategy is built from is there. -/
inductive Strategy.Builds (signature : Signature) : Strategy → Prop
  | stub (assembled : ∀ target, ∃ code, Stub.assemble? target signature.argumentClasses
      signature.result.native signature.model = some code) : Builds signature .stub
  | fastInt (direct : signature.FewIntegers)
      (path : World.plainPath signature .fastInt = .ok .fastInt) : Builds signature .fastInt
  | fastLong (direct : signature.FewIntegers)
      (path : World.plainPath signature .fastLong = .ok .fastLong) : Builds signature .fastLong
  | fastNumeric (path : World.plainPath signature .fastNumeric = .ok (.numeric signature.interface))
      (valued : .void ∉ signature.interface.arguments) : Builds signature .fastNumeric
  | buffer (fixed : signature.variadic = false)
      (path : World.plainPath signature .buffer = .ok (.buffer (some signature.interface)))
      (valued : .void ∉ signature.interface.arguments) : Builds signature .buffer
  | trailing (variadic : signature.variadic = true)
      (path : World.plainPath signature .buffer = .ok (.buffer none)) : Builds signature .buffer

theorem EntryPoint.fault?_eq_some (entry : EntryPoint) (fault : Fault) :
    entry.fault? = some fault ↔ entry.outcome = .error fault := by
  rw [fault?]
  cases entry.outcome with
  | ok bound => exact ⟨nofun, nofun⟩
  | error other => simp

theorem EntryPoint.bound?_eq_some (entry : EntryPoint) (bound : BoundFunction) :
    entry.bound? = some bound ↔ entry.outcome = .ok bound := by
  rw [bound?]
  cases entry.outcome with
  | ok other => simp [Except.toOption]
  | error fault => simp [Except.toOption]

namespace Strategy

variable {signature : Signature} {setting : StrategySetting}

theorem fewIntegers_of_isDirectCall (coherent : signature.Coherent)
    (valued : .void ∉ signature.natives) (direct : isDirectCall signature = true) :
    signature.FewIntegers := by
  simp only [isDirectCall, Bool.and_eq_true, decide_eq_true_eq, List.all_eq_true,
    beq_iff_eq] at direct
  obtain ⟨⟨-, few⟩, integers⟩ := direct
  refine ⟨few, fun parameter within => ⟨integers parameter within, ?_⟩⟩
  rw [CType.isIntegral_iff]
  refine ⟨fun void => valued ?_, (coherent parameter within).integer (integers parameter within)⟩
  exact List.mem_map.2 ⟨parameter, within, void⟩

theorem builds_of_accepts (coherent : signature.Coherent) (valued : .void ∉ signature.natives)
    {strategy : Strategy} (accepted : strategy.accepts signature setting = true) :
    strategy.Builds signature := by
  cases strategy with
  | stub =>
    simp only [accepts, Bool.and_eq_true] at accepted
    refine .stub fun target => Option.isSome_iff_exists.1 ?_
    rw [Stub.isSome_assemble?]
    exact accepted.2
  | fastInt =>
    simp only [accepts, Bool.and_eq_true] at accepted
    exact .fastInt (fewIntegers_of_isDirectCall coherent valued accepted.1.1.2) rfl
  | fastLong =>
    simp only [accepts, Bool.and_eq_true] at accepted
    exact .fastLong (fewIntegers_of_isDirectCall coherent valued accepted.1.2) rfl
  | fastNumeric =>
    refine .fastNumeric ?_ valued
    rw [World.plainPath, CallInterface.prepare_named_all]
    rfl
  | buffer =>
    cases variadic : signature.variadic with
    | true =>
      refine .trailing variadic ?_
      rw [World.plainPath, if_pos variadic]
    | false =>
      refine .buffer variadic ?_ valued
      rw [World.plainPath, if_neg (by simp [variadic]), CallInterface.prepare_named_all]
      rfl

theorem exists_select (signature : Signature) (setting : StrategySetting) :
    ∃ strategy, select signature setting = .ok strategy := by
  cases selected : select signature setting with
  | ok strategy => exact ⟨strategy, rfl⟩
  | error fault => exact absurd selected (select_ne_error signature setting fault)

theorem exists_selectFrom_tail (signature : Signature) (setting : StrategySetting) :
    ∃ strategy, selectFrom order.tail signature setting = .ok strategy ∧ strategy ≠ .stub := by
  rw [selectFrom]
  split
  next strategy found =>
    have within : strategy ∈ order.tail := List.mem_of_find?_eq_some found
    exact ⟨strategy, rfl, fun same => absurd (same ▸ within) (by decide)⟩
  next missing =>
    exact absurd rfl (List.find?_eq_none.1 missing .buffer (by decide))

end Strategy

namespace World

theorem exists_plainPath (signature : Signature) {strategy : Strategy} (plain : strategy ≠ .stub) :
    ∃ path, plainPath signature strategy = .ok path := by
  cases strategy with
  | stub => exact absurd rfl plain
  | fastInt | fastLong => exact ⟨_, rfl⟩
  | fastNumeric =>
    rw [plainPath, CallInterface.prepare_named_all]
    exact ⟨_, rfl⟩
  | buffer =>
    rw [plainPath, CallInterface.prepare_named_all]
    split
    next => exact ⟨_, rfl⟩
    next => exact ⟨_, rfl⟩

theorem returns_carrier (carrier : HostType) (native : CType) (annotations : Annotations) :
    (parameterKind carrier native annotations).Returns fun _ =>
      carrier.isReference = true ∨ carrier.isScalar = true := by
  unfold parameterKind
  split
  next => exact .pure (.inl rfl)
  next => exact .pure (.inl rfl)
  next => exact .bind (Act.returns_true _) fun _ _ => .pure (.inl rfl)
  next =>
    split
    next scalar => exact .pure (.inr scalar)
    next => exact .throw _

theorem valued_resolveParameter (defaults : SignatureDefaults) (declaration : ValueDeclaration) :
    (resolveParameter defaults declaration).Returns fun parameter => parameter.native ≠ .void := by
  refine .bind (Act.returns_true _) fun converter _ => ?_
  refine .bind (ensures_onTypes (LoweringTable.returns_resolve _ _)) fun layout lowered => ?_
  refine .bind (returns_carrier _ _ _) fun kind carried => .pure ?_
  rcases carried with reference | scalar
  · rw [show Passage.native _ = CType.pointer from eq_pointer_of_lower lowered reference]
    decide
  · exact HostType.ne_void_of_lower scalar lowered

theorem valued_resolveSignature (defaults : SignatureDefaults)
    (declaration : FunctionDeclaration) :
    (resolveSignature defaults declaration).Returns fun signature => .void ∉ signature.natives := by
  refine (returns_parameters (valued_resolveParameter defaults) declaration).weaken ?_
  intro signature valued within
  obtain ⟨parameter, known, void⟩ := List.mem_map.1 within
  exact valued parameter known void

section Entries

variable (binder : Binder) (function : PreparedFunction) (world : World)

theorem run_buildPlain {signature : Signature} {strategy : Strategy} (plain : strategy ≠ .stub)
    (address : Nat) :
    ∃ bound after, (buildPlain signature address strategy).run.run world =
      (.ok ⟨signature.name, .ok bound⟩, after) := by
  obtain ⟨path, built⟩ := exists_plainPath signature plain
  rw [buildPlain, built]
  exact ⟨_, _, rfl⟩

theorem run_buildUnstubbed : ∃ bound after, (buildUnstubbed binder function).run.run world =
    (.ok ⟨function.signature.name, .ok bound⟩, after) := by
  rw [buildUnstubbed]
  split
  next =>
    obtain ⟨strategy, selected, plain⟩ :=
      Strategy.exists_selectFrom_tail function.signature binder.setting
    rw [selected]
    exact run_buildPlain world plain function.address
  next plain => exact run_buildPlain world plain function.address

end Entries

/-- A declaration is refused for a symbol that is missing or for a signature that is not there. -/
def Refuses (symbols : SymbolTable) (binder : Binder) (declaration : FunctionDeclaration)
    (fault : Fault) (world : World) : Prop :=
  symbols.lookup (binder.naming.apply declaration.name) = .error fault ∨
    ∃ after, (resolveSignature binder.defaults declaration).run.run world = (.error fault, after)

section Fates

variable {symbols : SymbolTable} {binder : Binder} {declaration : FunctionDeclaration}
  {fault : Fault} {world after : World}

theorem refuses_of_prepare
    (ran : (prepare symbols binder declaration).run.run world = (.error fault, after)) :
    Refuses symbols binder declaration fault world := by
  rw [prepare, Act.run_bind] at ran
  cases looked : symbols.lookup (binder.naming.apply declaration.name) with
  | error missing =>
    rw [looked] at ran
    cases ran
    exact .inl looked
  | ok address =>
    rw [looked] at ran
    change (resolveSignature binder.defaults declaration >>= _).run.run world = _ at ran
    rw [Act.run_bind] at ran
    split at ran
    next signature between resolved =>
      obtain ⟨strategy, selected⟩ := Strategy.exists_select signature binder.setting
      rw [selected] at ran
      cases ran
    next refused between resolved =>
      cases ran
      exact .inr ⟨_, resolved⟩

theorem refuses_of_fate {entry : EntryPoint}
    (ran : (fate symbols binder declaration).run world = (.built entry, after))
    (failed : entry.outcome = .error fault) : Refuses symbols binder declaration fault world := by
  rw [run_fate] at ran
  cases prepared : (prepare symbols binder declaration).run.run world with
  | mk outcome between =>
  rw [prepared] at ran
  cases outcome with
  | error refused =>
    cases ran
    cases failed
    exact refuses_of_prepare prepared
  | ok function =>
    dsimp only at ran
    cases pending : function.pending? with
    | some stub =>
      rw [pending] at ran
      cases ran
    | none =>
      obtain ⟨bound, last, built⟩ := run_buildUnstubbed binder function between
      obtain ⟨journal, concluded⟩ :=
        run_concludeEntry declaration.name (.ok ⟨function.signature.name, .ok bound⟩) last
      rw [pending] at ran
      dsimp only at ran
      rw [built] at ran
      dsimp only at ran
      rw [concluded] at ran
      cases ran
      cases failed

theorem exists_of_mem_fates {declarations : List FunctionDeclaration} {known : Fate}
    (within : known ∈ ((fates symbols binder declarations).run world).1) :
    ∃ earlier declaration later, declarations = earlier ++ declaration :: later ∧
      ((fate symbols binder declaration).run ((fates symbols binder earlier).run world).2).1 =
        known := by
  induction declarations generalizing world with
  | nil => cases within
  | cons first rest ih =>
    rw [run_fates_cons] at within
    rcases List.mem_cons.1 within with rfl | inside
    · exact ⟨[], first, rest, rfl, rfl⟩
    · obtain ⟨earlier, declaration, later, rfl, same⟩ := ih inside
      refine ⟨first :: earlier, declaration, later, rfl, ?_⟩
      rw [run_fates_cons]
      exact same

theorem exhausted_of_mem_stubEntries {stubbed : List (PreparedFunction × PendingStub)}
    {pages left : PageStore} {outcome : Except Fault (Nat × List InstalledStub)}
    (attached : (Stub.attach (stubbed.map (·.2))).run.run pages = (outcome, left))
    {entry : EntryPoint} (within : entry ∈ stubEntries stubbed outcome)
    (failed : entry.outcome = .error fault) : ∃ bytes, fault = .memoryExhausted bytes := by
  rcases Stub.of_run_attach attached with ⟨rfl, -⟩ | ⟨-, rfl, -⟩ | ⟨-, -, base, rfl, -⟩
  · obtain ⟨item, -, rfl⟩ := List.mem_map.1 within
    cases failed
    exact ⟨_, rfl⟩
  · obtain ⟨item, -, rfl⟩ := List.mem_map.1 within
    cases failed
    exact ⟨_, rfl⟩
  · obtain ⟨item, -, rfl⟩ := List.mem_map.1 within
    cases failed

theorem refuses_of_bindFunction
    (failed : ((bindFunction symbols binder declaration).run world).1.outcome = .error fault) :
    Refuses symbols binder declaration fault world ∨ ∃ bytes, fault = .memoryExhausted bytes := by
  obtain ⟨named, -⟩ := fate_proper symbols binder declaration world
  rw [run_bindFunction] at failed
  cases decides : (fate symbols binder declaration).run world with
  | mk decided between =>
  rw [decides] at failed named
  cases decided with
  | built entry => exact .inl (refuses_of_fate decides failed)
  | pending function stub =>
    cases attached : (Stub.attach ([(function, stub)].map (·.2))).run.run
      between.toPageStore with
    | mk granted pages =>
    obtain ⟨entries, -⟩ := run_attachAlone binder function attached
    dsimp only at failed
    generalize (attachAlone binder function stub).run.run between = attaching at *
    obtain ⟨outcome, last⟩ : Except Fault EntryPoint × World := attaching
    obtain ⟨journal, concluded⟩ := run_concludeEntry declaration.name outcome last
    dsimp only at failed
    rw [concluded, ← show function.signature.name = declaration.name from named] at failed
    have listed : EntryPoint.ofOutcome function.signature.name outcome ∈
        stubEntries [(function, stub)] granted := by
      rw [entries]
      exact List.mem_singleton_self _
    exact .inr (exhausted_of_mem_stubEntries attached listed failed)

end Fates

theorem refuses_of_bindLibrary {symbols : SymbolTable} {interface : InterfaceDeclaration}
    {options : LibraryOptions} {world opened : World} {binder : Binder} {name : String}
    {entry : EntryPoint} {fault : Fault} (opens : (newBinder options).run world = (binder, opened))
    (published : ((bindLibrary symbols interface options).run world).1.function? name = some entry)
    (failed : entry.outcome = .error fault) :
    (∃ bytes, fault = .memoryExhausted bytes) ∨
      ∃ earlier declaration later, interface.functions = earlier ++ declaration :: later ∧
        declaration.name = name ∧
          Refuses symbols binder declaration fault
            ((fates symbols binder earlier).run opened).2 := by
  cases decides : (fates symbols binder interface.functions).run opened with
  | mk known decided =>
  cases attached : (Stub.attach ((known.filterMap Fate.pending?).map (·.2))).run.run
    decided.toPageStore with
  | mk outcome pages =>
  obtain ⟨-, functions, -⟩ := run_bindLibrary opens decides attached
  rw [Library.function?, functions, ← DispatchTable.offer_append,
    DispatchTable.find?_offer] at published
  have named : entry.name = name := by simpa using List.find?_some published
  rcases List.mem_append.1 (List.mem_of_find?_eq_some published) with plain | stubbed
  · have within := Fate.mem_filterMap_built?.1 plain
    rw [← show ((fates symbols binder interface.functions).run opened).1 = known from
      congrArg Prod.fst decides] at within
    obtain ⟨earlier, declaration, later, split, fate⟩ := exists_of_mem_fates within
    refine .inr ⟨earlier, declaration, later, split, ?_,
      refuses_of_fate (Prod.ext fate rfl) failed⟩
    obtain ⟨same, -⟩ := fate_proper symbols binder declaration
      ((fates symbols binder earlier).run opened).2
    rw [fate] at same
    exact same.symm.trans named
  · exact .inl (exhausted_of_mem_stubEntries attached stubbed failed)

/-- A signature that was resolved gets a strategy, and the call path of that strategy can be built.
So a declaration with a symbol and a signature is bound, alone or with its library, unless there
are no pages for a stub. -/
theorem bound_of_resolved {symbols : SymbolTable} {binder : Binder}
    {declaration : FunctionDeclaration} {world after : World} {signature : Signature}
    (resolved : (resolveSignature binder.defaults declaration).run.run world =
      (.ok signature, after)) :
    (∀ setting, ∃ strategy, Strategy.select signature setting = .ok strategy ∧
      strategy.Builds signature) ∧
    (∀ address, symbols.lookup (binder.naming.apply declaration.name) = .ok address →
      ∀ fault, ((bindFunction symbols binder declaration).run world).1.outcome = .error fault →
        ∃ bytes, fault = .memoryExhausted bytes) ∧
    ∀ (interface : InterfaceDeclaration) (options : LibraryOptions) (start : World) (name : String)
      (entry : EntryPoint) (fault : Fault),
      let opened := (newBinder options).run start
      ((bindLibrary symbols interface options).run start).1.function? name = some entry →
        entry.outcome = .error fault →
          (∃ bytes, fault = .memoryExhausted bytes) ∨
            ∃ earlier declaration later, interface.functions = earlier ++ declaration :: later ∧
              declaration.name = name ∧ Refuses symbols opened.1 declaration fault
                ((fates symbols opened.1 earlier).run opened.2).2 := by
  have coherent := (returns_resolveSignature binder.defaults declaration).of_run resolved
  have valued := (valued_resolveSignature binder.defaults declaration).of_run resolved
  refine ⟨fun setting => ?_, fun address known fault failed => ?_,
    fun interface options start name entry fault published failed => ?_⟩
  · obtain ⟨strategy, selected⟩ := Strategy.exists_select signature setting
    have accepted := Strategy.accepts_of_selectFrom selected
    exact ⟨strategy, selected, Strategy.builds_of_accepts coherent valued accepted⟩
  · rcases refuses_of_bindFunction failed with (missing | ⟨other, refused⟩) | exhausted
    · cases missing.symm.trans known
    · cases refused.symm.trans resolved
    · exact exhausted
  · exact refuses_of_bindLibrary rfl published failed

/-- Two integers are added by a stub, for which there is no page. -/
theorem bound_of_resolved_exhausted :
    let symbols : SymbolTable := ⟨[("add", 64)]⟩
    let add : FunctionDeclaration :=
      { name := "add", parameters := [{ type := .int }, { type := .int }]
        result := { type := .int } }
    let opened := (newBinder {}).run (initial {} (.limited 4096 (some 0) true))
    ∃ signature after, (resolveSignature opened.1.defaults add).run.run opened.2 =
        (.ok signature, after) ∧
      (∃ strategy, Strategy.select signature opened.1.setting = .ok strategy ∧
        strategy.Builds signature) ∧
      ∃ fault, ((bindFunction symbols opened.1 add).run opened.2).1.outcome = .error fault ∧
        ∃ bytes, fault = .memoryExhausted bytes := by
  intro symbols add opened
  obtain ⟨signature, after, resolved⟩ : ∃ signature after,
      (resolveSignature opened.1.defaults add).run.run opened.2 = (.ok signature, after) :=
    ⟨_, _, rfl⟩
  obtain ⟨builds, alone, -⟩ :=
    @bound_of_resolved symbols opened.1 add opened.2 after signature resolved
  have failed := (EntryPoint.fault?_eq_some _ (.memoryExhausted 4096)).1
    (show ((bindFunction symbols opened.1 add).run opened.2).1.fault? = _ by decide +kernel)
  exact ⟨signature, after, resolved, builds opened.1.setting, _, failed, alone 64 rfl _ failed⟩

end World

end ForeignCall
