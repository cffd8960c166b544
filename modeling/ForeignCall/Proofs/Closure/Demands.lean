import ForeignCall.Proofs.Closure.Entries

/-! Demands for callback types, by themselves, for a callable or in a signature: each type gets an
entry, and one that cannot be passed makes the demand fail. -/

namespace ForeignCall

namespace World

/-- The callback type that a parameter asks for. It comes to that once a converter was found and the
type that carries the parameter has a C type. -/
def asksFor (defaults : SignatureDefaults) (declaration : ValueDeclaration) (world : World) :
    Option CallbackType :=
  let context : ConversionContext := ⟨declaration.annotations, defaults.encoding⟩
  let choose : Act World (Option Converter) := liftM
    (defaults.converters.choose .toNative declaration.converter declaration.type context)
  match (choose.run.run world).1 with
  | .ok converter =>
    let carrier := (converter.map (·.carrier)).getD declaration.type
    let annotations := match converter with
      | some converter => declaration.annotations.union converter.annotations
      | none => declaration.annotations
    match lower carrier annotations with
    | .ok _ => CallbackType.ofHostType? carrier
    | .error _ => none
  | .error _ => none

def asksForAll (defaults : SignatureDefaults) : List ValueDeclaration → World → List CallbackType
  | [], _ => []
  | declaration :: rest, world =>
    (world.asksFor defaults declaration).toList ++
      match (resolveParameter defaults declaration).run.run world with
      | (.ok _, after) => asksForAll defaults rest after
      | (.error _, _) => []

section Signing

variable {pipeline : Pipeline} {encoding : TextEncoding} {model : DataModel}
  {asked : List CallbackType} {stats : PoolStats} {world after : World}

/-- What an effect comes to that asks for some callback types: they are entered, and if one of them
cannot be passed, that is how the effect fails. -/
structure AsksOf (pipeline : Pipeline) (encoding : TextEncoding) (model : DataModel)
    (asked asks : List CallbackType) (stats : PoolStats) {Result : Type}
    (outcome : Except Fault Result) (after : World) : Prop where
  admits : after.Admits pipeline encoding model (asked ++ asks) stats
  refused : ∀ type ∈ asks, ∀ fault, type.check = .error fault → outcome = .error fault

theorem Admits.asksNothing {Result : Type}
    (admits : world.Admits pipeline encoding model asked stats) (outcome : Except Fault Result) :
    AsksOf pipeline encoding model asked [] stats outcome world :=
  ⟨(List.append_nil asked).symm ▸ admits, fun _ none => nomatch none⟩

namespace AsksOf

variable {asks more : List CallbackType} {between : World} {Result Final : Type}
  {outcome : Except Fault Result} {final : Except Fault Final}

theorem carry (first : AsksOf pipeline encoding model asked asks stats outcome after)
    (fails : ∀ fault, outcome = .error fault → final = .error fault) :
    AsksOf pipeline encoding model asked asks stats final after :=
  ⟨first.admits, fun type known fault refused =>
    fails fault (first.refused type known fault refused)⟩

theorem andThen {result : Result}
    (first : AsksOf pipeline encoding model asked asks stats (.ok result : Except Fault Result)
      between)
    (second : AsksOf pipeline encoding model (asked ++ asks) more stats final after) :
    AsksOf pipeline encoding model asked (asks ++ more) stats final after := by
  refine ⟨List.append_assoc asked asks more ▸ second.admits, fun type known fault refused => ?_⟩
  rcases List.mem_append.1 known with earlier | later
  · cases first.refused type earlier fault refused
  · exact second.refused type later fault refused

end AsksOf

theorem Admits.onMappers {Result : Type} {action : Act MapperState Result}
    (admits : world.Admits pipeline encoding model asked stats)
    (ignores : action.Ignores pipeline.cache) {outcome : Except Fault Result}
    (ran : (liftM action : Act World Result).run.run world = (outcome, after)) :
    after.Admits pipeline encoding model asked stats := by
  obtain ⟨⟨plain, listed⟩, entered, counted⟩ := admits
  have same := ignores.cache_eq listed
  have room := ignores.room _ listed
  cases ran
  refine ⟨⟨{ plain with converters := ⟨plain.converters.builtin, ?_⟩ }, room⟩,
    entered.congr rfl, counted⟩
  intro way type annotations found known
  exact plain.converters.cached way type annotations found (by rw [← same]; exact known)

theorem Admits.onTypes {type : HostType} {annotations : Annotations}
    (admits : world.Admits pipeline encoding model asked stats) {outcome : Except Fault CLayout}
    (ran : (liftM (LoweringTable.resolve type annotations) : Act World CLayout).run.run world =
      (outcome, after)) :
    after.Admits pipeline encoding model asked stats ∧
      outcome.map CLayout.type = lower type annotations := by
  have kept := (resolvable_kept.resolve type annotations world _ _ admits.kept ran).1
  have lowers := (world.types.run_resolve type annotations).2
  cases ran
  exact ⟨⟨kept, admits.entered.congr rfl, admits.counted⟩, lowers⟩

theorem run_parameterKind {carrier : HostType} (plain : CallbackType.ofHostType? carrier = none)
    (native : CType) (annotations : Annotations) (world : World) :
    ∃ outcome, (parameterKind carrier native annotations).run.run world = (outcome, world) := by
  cases carrier with
  | callback => cases plain
  | _ => exact ⟨_, rfl⟩

theorem asks_openPool (admits : world.Admits pipeline encoding model asked stats)
    (type : CallbackType) {outcome : Except Fault Nat}
    (ran : (openPool type).run.run world = (outcome, after)) :
    AsksOf pipeline encoding model asked [type] stats outcome after := by
  obtain ⟨later, checked⟩ := admits_openPool admits type ran
  refine ⟨later, fun query known fault refused => ?_⟩
  rw [List.mem_singleton.1 known, ← checked] at refused
  cases outcome with
  | ok number => cases refused
  | error other =>
    cases refused
    rfl

theorem asks_newSite (admits : world.Admits pipeline encoding model asked stats)
    (type : CallbackType) {outcome : Except Fault Nat}
    (ran : (newSite type).run.run world = (outcome, after)) :
    AsksOf pipeline encoding model asked [type] stats outcome after := by
  rw [newSite, Act.run_bind] at ran
  generalize opens : (openPool type).run.run world = opened at ran
  obtain ⟨fault | number, between⟩ := opened
  all_goals
    obtain ⟨later, refused⟩ := asks_openPool admits type opens
    cases ran
  · exact ⟨later, fun query known other refuses =>
      congrArg _ (Except.error.inj (refused query known other refuses))⟩
  · exact ⟨⟨indifferent_kept.sites between _ later.kept, later.entered.congr rfl, later.counted⟩,
      fun query known fault refuses => by cases refused query known fault refuses⟩

theorem asks_parameterKind (admits : world.Admits pipeline encoding model asked stats)
    {carrier : HostType} {native : CType} {annotations : Annotations}
    {outcome : Except Fault ParameterKind}
    (ran : (parameterKind carrier native annotations).run.run world = (outcome, after)) :
    AsksOf pipeline encoding model asked (CallbackType.ofHostType? carrier).toList stats outcome
      after := by
  cases called : CallbackType.ofHostType? carrier with
  | none =>
    obtain ⟨_, still⟩ := run_parameterKind called native annotations world
    cases ran.symm.trans still
    exact admits.asksNothing outcome
  | some type =>
    cases carrier with
    | callback parameters result convention =>
      cases called
      change (newSite ⟨parameters, result, convention⟩ >>= fun site => pure (.callback site) :
        Act World ParameterKind).run.run world = _ at ran
      rw [Act.run_bind] at ran
      generalize made : (newSite ⟨parameters, result, convention⟩).run.run world = ended at ran
      obtain ⟨fault | number, between⟩ := ended <;> cases ran
      · exact (asks_newSite admits _ made).carry fun _ failed =>
          congrArg _ (Except.error.inj failed)
      · exact (asks_newSite admits _ made).carry fun _ failed => by cases failed
    | _ => cases called

variable {defaults : SignatureDefaults}

theorem asks_resolveParameter
    (alone : pipeline.cache ∉ defaults.converters.mapper.caches.map Prod.fst)
    (admits : world.Admits pipeline encoding model asked stats) (declaration : ValueDeclaration)
    {outcome : Except Fault Parameter}
    (ran : (resolveParameter defaults declaration).run.run world = (outcome, after)) :
    AsksOf pipeline encoding model asked (world.asksFor defaults declaration).toList stats outcome
      after := by
  -- converters are looked for in other caches than that for callback types
  have ignores := Asking.ignores_ask alone
    ⟨.toNative, declaration.type, ⟨declaration.annotations, defaults.encoding⟩,
      declaration.converter⟩
  rw [← Pipeline.choose_eq_ask] at ignores
  dsimp only at ignores
  rw [resolveParameter, Act.run_bind] at ran
  rw [asksFor]
  dsimp only at ran ⊢
  generalize chosen : (liftM (defaults.converters.choose .toNative declaration.converter
    declaration.type ⟨declaration.annotations, defaults.encoding⟩) :
      Act World (Option Converter)).run.run world = found at ran ⊢
  obtain ⟨fault | converter, found⟩ := found
  · cases ran
    exact (admits.onMappers ignores chosen).asksNothing _
  have admits := admits.onMappers ignores chosen
  dsimp only at ran ⊢
  rw [Act.run_bind] at ran
  generalize resolves : (liftM (LoweringTable.resolve _ _) : Act World CLayout).run.run found =
    resolved at ran
  obtain ⟨layout, resolved⟩ := resolved
  obtain ⟨admits, lowered⟩ := admits.onTypes resolves
  generalize lowers : lower _ _ = lowering
  obtain rfl : layout.map CLayout.type = lowering := lowered.trans lowers
  cases layout with
  | error fault =>
    cases ran
    exact admits.asksNothing _
  | ok layout =>
    dsimp only at ran
    rw [Act.run_bind] at ran
    generalize kinded : (parameterKind _ _ _).run.run resolved = ended at ran
    obtain ⟨fault | kind, last⟩ := ended <;> cases ran
    · exact (asks_parameterKind admits kinded).carry fun _ failed =>
        congrArg _ (Except.error.inj failed)
    · exact (asks_parameterKind admits kinded).carry fun _ failed => by cases failed

theorem asks_resolveParameters
    (alone : pipeline.cache ∉ defaults.converters.mapper.caches.map Prod.fst)
    (declarations : List ValueDeclaration) {outcome : Except Fault (List Parameter)}
    (admits : world.Admits pipeline encoding model asked stats)
    (ran : (declarations.mapM (resolveParameter defaults)).run.run world = (outcome, after)) :
    AsksOf pipeline encoding model asked (asksForAll defaults declarations world) stats outcome
      after := by
  induction declarations generalizing world asked outcome with
  | nil =>
    cases ran
    exact admits.asksNothing _
  | cons declaration rest ih =>
    rw [List.mapM_cons, Act.run_bind] at ran
    rw [asksForAll]
    generalize resolves : (resolveParameter defaults declaration).run.run world = first at ran ⊢
    have asks := asks_resolveParameter alone admits declaration resolves
    obtain ⟨fault | parameter, between⟩ := first
    · cases ran
      rw [List.append_nil]
      exact asks.carry fun _ failed => congrArg _ (Except.error.inj failed)
    · dsimp only at ran ⊢
      rw [Act.run_bind] at ran
      generalize others : (rest.mapM (resolveParameter defaults)).run.run between = last at ran
      obtain ⟨fault | parameters, last⟩ := last <;> cases ran
      · exact asks.andThen ((ih asks.admits others).carry fun _ failed =>
          congrArg _ (Except.error.inj failed))
      · exact asks.andThen ((ih asks.admits others).carry fun _ failed => by cases failed)

theorem keeps_admits_resolveResult
    (alone : pipeline.cache ∉ defaults.converters.mapper.caches.map Prod.fst)
    (declaration : ValueDeclaration) :
    (resolveResult defaults declaration).Keeps
      (World.Admits pipeline encoding model asked stats) := by
  have ignores := Asking.ignores_ask alone
    ⟨.fromNative, declaration.type, ⟨declaration.annotations, defaults.encoding⟩,
      declaration.converter⟩
  rw [← Pipeline.choose_eq_ask] at ignores
  refine .bind (show Act.Keeps _ _ from fun _ _ _ admits chosen =>
    ⟨admits.onMappers ignores chosen, fun _ _ => trivial⟩) fun converter _ => ?_
  dsimp only
  split
  next =>
    exact .bind (show Act.Keeps _ _ from fun _ _ _ admits resolves =>
      ⟨(admits.onTypes resolves).1, fun _ _ => trivial⟩) fun _ _ => .pure trivial
  next => exact .throw_bind _ _

theorem asks_resolveSignature
    (alone : pipeline.cache ∉ defaults.converters.mapper.caches.map Prod.fst)
    (admits : world.Admits pipeline encoding model asked stats) (declaration : FunctionDeclaration)
    {outcome : Except Fault Signature}
    (ran : (resolveSignature defaults declaration).run.run world = (outcome, after)) :
    AsksOf pipeline encoding model asked (asksForAll defaults declaration.parameters world) stats
      outcome after := by
  rw [resolveSignature, Act.run_bind] at ran
  generalize resolves : (declaration.parameters.mapM (resolveParameter defaults)).run.run world =
    first at ran
  have asks := asks_resolveParameters alone declaration.parameters admits resolves
  obtain ⟨fault | parameters, between⟩ := first
  · cases ran
    exact asks.carry fun _ failed => congrArg _ (Except.error.inj failed)
  · dsimp only at ran
    rw [Act.run_bind] at ran
    generalize ends : (resolveResult defaults declaration.result).run.run between = last at ran
    obtain ⟨outcome, last⟩ := last
    have later := Act.Keeps.of_run _ ends asks.admits
      (keeps_admits_resolveResult alone declaration.result)
    have passable : ∀ type ∈ asksForAll defaults declaration.parameters world, ∀ fault,
        type.check ≠ .error fault :=
      fun type known fault refused => nomatch asks.refused type known fault refused
    cases outcome <;> cases ran <;>
      exact ⟨later, fun type known fault refused => absurd refused (passable type known fault)⟩

end Signing

/-- What happens aside: neither the entries of callback types nor what they are converted with
change. -/
structure Aside (world after : World) : Prop where
  pools : after.pools = world.pools
  closures : after.closureConverters = world.closureConverters
  cached : after.closureCache = world.closureCache
  listed : world.mappers.caches.length ≤ after.mappers.caches.length
  encodes : after.encoding = world.encoding
  lowers : after.model = world.model

inductive Demand
  | openPool (type : CallbackType)
  | closureFor (type : CallbackType) (serial : Nat)
  | reclaim
  | signature (defaults : SignatureDefaults) (declaration : FunctionDeclaration)
  | aside (change : World → World)

namespace Demand

def meet : Demand → Act World Unit
  | openPool type => do let _ ← World.openPool type
  | closureFor type serial => do let _ ← World.closureFor type serial
  | reclaim => do let _ ← World.reclaim
  | signature defaults declaration => do let _ ← resolveSignature defaults declaration
  | aside change => modify change

def types : Demand → World → List CallbackType
  | openPool type, _ | closureFor type _, _ => [type]
  | signature defaults declaration, world => asksForAll defaults declaration.parameters world
  | reclaim, _ | aside _, _ => []

/-- The mappers of a signature are not in front of the cache for callback types, and what happens
aside is no matter of these. -/
def Proper (cache : Nat) : Demand → Prop
  | signature defaults _ => cache ∉ defaults.converters.mapper.caches.map Prod.fst
  | aside change => ∀ world : World, world.Aside (change world)
  | openPool _ | closureFor .. | reclaim => True

end Demand

def meetAll : List Demand → World → World
  | [], world => world
  | demand :: rest, world => meetAll rest (demand.meet.run.run world).2

def typesAll : List Demand → World → List CallbackType
  | [], _ => []
  | demand :: rest, world => demand.types world ++ typesAll rest (demand.meet.run.run world).2

section Demands

variable {pipeline : Pipeline} {encoding : TextEncoding} {model : DataModel}
  {asked : List CallbackType} {stats : PoolStats} {world after : World}

theorem Admits.aside (admits : world.Admits pipeline encoding model asked stats)
    (aside : world.Aside after) : after.Admits pipeline encoding model asked stats := by
  obtain ⟨⟨plain, listed⟩, entered, counted⟩ := admits
  have same : after.mappers.cache pipeline.cache = world.mappers.cache pipeline.cache := by
    have cached := aside.cached
    rwa [closureCache, closureCache, aside.closures, plain.closures] at cached
  refine ⟨⟨⟨aside.closures.trans plain.closures, ⟨plain.converters.builtin, ?_⟩,
    aside.encodes.trans plain.encodes, aside.lowers.trans plain.lowers⟩,
    Nat.lt_of_lt_of_le listed aside.listed⟩, entered.congr ?_,
    (poolStats_congr aside.pools).trans counted⟩
  · rw [same]
    exact plain.converters.cached
  · rw [entries, entries, aside.pools]

/-- What became of a demand: what it asked for is entered, and if it asked for a type that cannot be
passed, that is how it failed, and nothing was counted. -/
structure Met (pipeline : Pipeline) (encoding : TextEncoding) (model : DataModel)
    (asked asks : List CallbackType) (stats : PoolStats) {Result : Type}
    (outcome : Except Fault Result) (after : World) : Prop where
  kept : after.Kept pipeline encoding model
  entered : after.Entered (asked ++ asks)
  refused : ∀ type ∈ asks, ∀ fault, type.check = .error fault →
    outcome = .error fault ∧ after.poolStats = stats

theorem AsksOf.met {asks : List CallbackType} {Result : Type} {outcome : Except Fault Result}
    (asksOf : AsksOf pipeline encoding model asked asks stats outcome after) :
    Met pipeline encoding model asked asks stats outcome after :=
  ⟨asksOf.admits.kept, asksOf.admits.entered, fun type known fault fails =>
    ⟨asksOf.refused type known fault fails, asksOf.admits.counted⟩⟩

theorem met_closureFor (admits : world.Admits pipeline encoding model asked stats)
    (type : CallbackType) (serial : Nat) {outcome : Except Fault Nat}
    (ran : (closureFor type serial).run.run world = (outcome, after)) :
    Met pipeline encoding model asked [type] stats outcome after := by
  rw [closureFor, Act.run_bind] at ran
  generalize opens : (openPool type).run.run world = opened at ran
  obtain ⟨fault | number, between⟩ := opened
  · cases ran
    exact (asks_openPool admits type opens).met
  · obtain ⟨later, checked⟩ := admits_openPool admits type opens
    dsimp only at ran
    rw [Act.run_bind] at ran
    generalize given : (slotFor number serial).run.run between = ended at ran
    obtain ⟨ended, last⟩ := ended
    have kept := Act.Keeps.of_run _ given later.kept (indifferent_kept.slotFor number serial)
    have entries := (handles_entries between.entries).slotFor number serial
    have entered := later.entered.congr (entries between _ _ rfl given).1
    have passable : ∀ query ∈ [type], ∀ fault, query.check ≠ .error fault := by
      intro query known fault refused
      rw [List.mem_singleton.1 known, ← checked] at refused
      cases refused
    cases ended <;> cases ran <;>
      exact ⟨kept, entered, fun query known fault fails =>
        absurd fails (passable query known fault)⟩

theorem Demand.met {demand : Demand} (proper : demand.Proper pipeline.cache)
    (admits : world.Admits pipeline encoding model asked stats) {outcome : Except Fault Unit}
    (ran : demand.meet.run.run world = (outcome, after)) :
    Met pipeline encoding model asked (demand.types world) stats outcome after := by
  have carry {Result : Type} {action : Act World Result} {asks : List CallbackType}
      (each : ∀ outcome after, action.run.run world = (outcome, after) →
        Met pipeline encoding model asked asks stats outcome after)
      (ran : (do let _ ← action : Act World Unit).run.run world = (outcome, after)) :
      Met pipeline encoding model asked asks stats outcome after := by
    rw [Act.run_bind] at ran
    generalize first : action.run.run world = ended at ran
    obtain ⟨fault | result, last⟩ := ended
    all_goals
      obtain ⟨kept, entered, refused⟩ := each _ _ first
      cases ran
    · refine ⟨kept, entered, fun type known other fails => ?_⟩
      obtain ⟨same, still⟩ := refused type known other fails
      exact ⟨congrArg _ (Except.error.inj same), still⟩
    · exact ⟨kept, entered, fun type known fault fails =>
        nomatch (refused type known fault fails).1⟩
  cases demand with
  | openPool type => exact carry (fun _ _ opens => (asks_openPool admits type opens).met) ran
  | closureFor type serial =>
    exact carry (fun _ _ given => met_closureFor admits type serial given) ran
  | signature defaults declaration =>
    exact carry (fun _ _ resolves => (asks_resolveSignature proper admits declaration resolves).met)
      ran
  | reclaim =>
    cases ran
    have kept := indifferent_kept.reclaim admits.kept
    have entered := admits.entered.congr ((handles_entries world.entries).reclaim rfl)
    exact ⟨kept, (List.append_nil asked).symm ▸ entered, fun _ none => nomatch none⟩
  | aside change =>
    cases ran
    have later := admits.aside (proper world)
    exact (later.asksNothing (.ok () : Except Fault Unit)).met

theorem entered_meetAll (demands : List Demand)
    (proper : ∀ demand ∈ demands, demand.Proper pipeline.cache)
    (kept : world.Kept pipeline encoding model) (entered : world.Entered asked) :
    (meetAll demands world).Kept pipeline encoding model ∧
      (meetAll demands world).Entered (asked ++ typesAll demands world) := by
  induction demands generalizing world asked with
  | nil => exact ⟨kept, (List.append_nil asked).symm ▸ entered⟩
  | cons demand rest ih =>
    obtain ⟨first, others⟩ := List.forall_mem_cons.1 proper
    have met := Demand.met first ⟨kept, entered, rfl⟩
      (rfl : demand.meet.run.run world = (_, _))
    rw [typesAll, ← List.append_assoc]
    exact ih others met.kept met.entered

end Demands

theorem kept_of_start {config : Config} {policy : Option PagePolicy} {world : World}
    (started : World.start config policy = .ok world) :
    world.Kept world.closureConverters config.encoding config.model ∧ world.Entered [] := by
  have plain := plain_of_start started
  obtain ⟨granting, event, rfl⟩ := eq_of_start started
  exact ⟨⟨plain, Nat.zero_lt_one⟩, List.nodup_nil, fun _ => .rfl, fun _ none => nomatch none⟩

/-- There is an entry for each callback type that was ever asked for, and a pool for each of them
that can be passed. So there are as many entries as pools as long as all can be passed. A demand
that asks for another type fails each time; it counts no closures, but the type has an entry. -/
theorem entries_as_asked {config : Config} {policy : Option PagePolicy} {start : World}
    (started : World.start config policy = .ok start) (demands : List Demand)
    (proper : ∀ demand ∈ demands, demand.Proper start.closureConverters.cache) :
    let world := meetAll demands start
    let asked := typesAll demands start
    let built := fun world : World => (world.pools.filterMap (·.2)).length
    world.pools.length = asked.dedup.length ∧
      (world.pools.isEmpty = true ↔ asked = []) ∧
      built world = (asked.filter (·.isPassable)).dedup.length ∧
      (world.pools.length = built world ↔ ∀ type ∈ asked, type.isPassable = true) ∧
      ∀ demand : Demand, demand.Proper start.closureConverters.cache →
        ∀ type ∈ demand.types world, type.isPassable = false →
          let after := (demand.meet.run.run world).2
          let all := asked ++ demand.types world
          (∃ fault, type.check = .error fault ∧ (demand.meet.run.run world).1 = .error fault) ∧
            after.poolStats = world.poolStats ∧ after.pools.length = all.dedup.length ∧
              built after = (all.filter (·.isPassable)).dedup.length := by
  intro world asked built
  obtain ⟨kept, empty⟩ := kept_of_start started
  obtain ⟨kept, entered⟩ := entered_meetAll demands proper kept empty
  rw [List.nil_append] at entered
  have length : world.pools.length = asked.dedup.length := entered.length_pools
  have opened : built world = (asked.filter (·.isPassable)).dedup.length := entered.length_built
  have inside : asked.filter (·.isPassable) ⊆ asked := List.filter_subset_self _
  refine ⟨length, ?_, opened, ?_, ?_⟩
  · rw [List.isEmpty_iff, ← List.length_eq_zero_iff, length, List.length_eq_zero_iff]
    exact List.dedup_eq_nil asked
  · rw [length, opened, length_dedup_eq_iff inside]
    exact forall₂_congr fun type known => by rw [List.mem_filter, and_iff_right known]
  · intro demand proper type known impassable after all
    have met := Demand.met proper ⟨kept, entered, rfl⟩ (rfl : demand.meet.run.run world = (_, _))
    have fails : ∃ fault, type.check = .error fault := by
      cases checked : type.check with
      | error fault => exact ⟨fault, rfl⟩
      | ok done =>
        rw [type.check_eq_ok_iff.1 checked] at impassable
        cases impassable
    obtain ⟨fault, refused⟩ := fails
    obtain ⟨same, uncounted⟩ := met.refused type known fault refused
    exact ⟨⟨fault, refused, same⟩, uncounted, met.entered.length_pools, met.entered.length_built⟩

def listing : CallbackType := ⟨[.array .int], .int, .default⟩

theorem entries_as_asked_listing :
    let world := meetAll [.openPool signal, .closureFor listing 0] small
    world.pools.length = 2 ∧ (world.pools.filterMap (·.2)).length = 1 ∧
      ((Demand.openPool listing).meet.run.run world).1.toBool = false := by
  intro world
  have booted : start {} (some (.limited 256 none true)) = .ok small := rfl
  obtain ⟨length, -, built, -, refused⟩ := entries_as_asked booted
    [.openPool signal, .closureFor listing 0] (by simp [Demand.Proper])
  obtain ⟨⟨fault, -, fails⟩, -⟩ := refused (.openPool listing) trivial listing
    (List.mem_singleton.2 rfl) (by decide)
  refine ⟨length.trans (by decide), built.trans (by decide), ?_⟩
  rw [fails]
  rfl

end World

end ForeignCall
