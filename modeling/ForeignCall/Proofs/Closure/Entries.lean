import ForeignCall.Proofs.Closure.Handing
import ForeignCall.Proofs.Closure.Passable
import ForeignCall.Proofs.Closure.Shaping
import ForeignCall.Proofs.Closure.Totals
import ForeignCall.Proofs.Converter.Counting

/-! Entries of callback types: a type gets one when it is first asked for, and a pool only if it can
be passed. Nothing that is done with closures changes that. -/

namespace ForeignCall

theorem Asking.room_cached {number : Nat} {inner : Asking} {question : Question}
    (ignores : (inner question).Ignores number) {state : MapperState}
    (inside : number < state.caches.length) :
    number < ((inner.cached number question).run.run state).2.caches.length := by
  cases own : question.own with
  | some converter =>
    rw [cached, own]
    exact inside
  | none =>
    have room := ignores.room state inside
    have step := run_cached ignores inside (state.cache number) own
    rw [MapperState.setCache_eq_self inside rfl] at step
    rw [step]
    dsimp only
    split
    · exact inside
    all_goals rwa [MapperState.length_setCache]

theorem Act.Ignores.cache_eq {Result : Type} {number : Nat} {action : Act MapperState Result}
    (ignores : action.Ignores number) {state : MapperState}
    (inside : number < state.caches.length) :
    (action.run.run state).2.cache number = state.cache number := by
  have framed := congrArg Prod.snd (ignores.frame state (state.cache number))
  rw [MapperState.setCache_eq_self inside rfl] at framed
  dsimp only at framed
  rw [framed, MapperState.cache_setCache (ignores.room state inside)]

namespace World

def entries (world : World) : List (CallbackType × Bool) :=
  world.pools.map fun (type, pool) => (type, pool.isSome)

theorem entries_withPool {world : World} {number : Nat} {pool : Pool}
    (found : world.pool? number = some pool) (after : Pool) :
    (world.withPool number after).entries = world.entries := by
  obtain ⟨⟨type, there⟩, known, rfl⟩ := Option.bind_eq_some_iff.1 found
  apply List.ext_getElem?
  intro index
  simp only [entries, withPool, List.getElem?_map, List.getElem?_modify]
  by_cases same : number = index
  · subst same
    simp [known]
  · simp [same]

theorem entries_takeSlot {world after : World} {number : Nat} {pool : Pool}
    (found : world.pool? number = some pool) {outcome : Except Fault ClosureSlot}
    (ran : (takeSlot number pool).run.run world = (outcome, after)) :
    after.entries = world.entries := by
  rcases cases_of_run_takeSlot ran with
    ⟨pages, source, slot, recycled, taken, -, -, rfl, rfl⟩ | ⟨-, fault, pages, -, rfl, rfl⟩
  · have there : ({ world with toPageStore := pages } : World).pool? number = some pool := found
    exact entries_withPool there taken
  · rfl

theorem handles_entries (entries : List (CallbackType × Bool)) :
    Handles fun world => world.entries = entries where
  replace _ _ _ later found _ same := (entries_withPool found later).trans same
  events _ _ same := same
  takeSlot _ _ _ _ _ found same ran := (entries_takeSlot found ran).trans same

/-- Each callback type that was asked for has one entry, and no other has one; there is a pool where
the type can be passed. -/
structure Entered (asked : List CallbackType) (world : World) : Prop where
  single : (world.entries.map Prod.fst).Nodup
  same : ∀ type, type ∈ world.entries.map Prod.fst ↔ type ∈ asked
  opened : ∀ entry ∈ world.entries, entry.2 = entry.1.isPassable

namespace Entered

variable {asked : List CallbackType} {world after : World}

theorem congr (entered : world.Entered asked) (same : after.entries = world.entries) :
    after.Entered asked :=
  ⟨same ▸ entered.single, same ▸ entered.same, same ▸ entered.opened⟩

theorem again (entered : world.Entered asked) {type : CallbackType} (known : type ∈ asked) :
    world.Entered (asked ++ [type]) := by
  refine ⟨entered.single, fun query => (entered.same query).trans ?_, entered.opened⟩
  rw [List.mem_append, List.mem_singleton]
  exact ⟨.inl, fun either => either.elim id fun here => here ▸ known⟩

theorem length_pools (entered : world.Entered asked) :
    world.pools.length = asked.dedup.length := by
  have same : (world.entries.map Prod.fst).Perm asked.dedup :=
    (List.perm_ext_iff_of_nodup entered.single asked.nodup_dedup).2 fun type =>
      (entered.same type).trans List.mem_dedup.symm
  rw [← same.length_eq, List.length_map, entries, List.length_map]

theorem length_built (entered : world.Entered asked) :
    (world.pools.filterMap (·.2)).length = (asked.filter (·.isPassable)).dedup.length := by
  have counted : (world.pools.filterMap (·.2)).length =
      ((world.entries.filter (·.2)).map Prod.fst).length := by
    rw [entries]
    generalize world.pools = pools
    induction pools with
    | nil => rfl
    | cons entry rest ih =>
      obtain ⟨type, _ | pool⟩ := entry <;> simpa using ih
  have single : ((world.entries.filter (·.2)).map Prod.fst).Nodup :=
    entered.single.sublist (List.filter_sublist.map Prod.fst)
  rw [counted]
  refine ((List.perm_ext_iff_of_nodup single (List.nodup_dedup _)).2 fun type => ?_).length_eq
  rw [List.mem_dedup, List.mem_filter, ← entered.same, List.mem_map, List.mem_map]
  constructor
  · rintro ⟨entry, known, rfl⟩
    obtain ⟨there, open_⟩ := List.mem_filter.1 known
    exact ⟨⟨entry, there, rfl⟩, entered.opened entry there ▸ open_⟩
  · rintro ⟨⟨entry, there, rfl⟩, passable⟩
    exact ⟨entry, List.mem_filter.2 ⟨there, (entered.opened entry there).trans passable⟩, rfl⟩

end Entered

structure Kept (pipeline : Pipeline) (encoding : TextEncoding) (model : DataModel) (world : World) :
    Prop extends World.Plain pipeline encoding model world where
  listed : pipeline.cache < world.mappers.caches.length

section Opening

variable {pipeline : Pipeline} {encoding : TextEncoding} {model : DataModel}

theorem indifferent_kept : Indifferent (World.Kept pipeline encoding model) where
  pools _ pools kept := ⟨indifferent_plain.pools _ pools kept.toPlain, kept.listed⟩
  sites _ sites kept := ⟨indifferent_plain.sites _ sites kept.toPlain, kept.listed⟩
  journal _ journal kept := ⟨indifferent_plain.journal _ journal kept.toPlain, kept.listed⟩
  allocate count := by
    intro world outcome after kept ran
    have plain := (indifferent_plain.allocate count world outcome after kept.toPlain ran).1
    cases ran
    exact ⟨⟨plain, kept.listed⟩, fun _ _ => trivial⟩

theorem resolvable_kept : Resolvable (World.Kept pipeline encoding model) where
  choose world other kept known way type := by
    intro state outcome after holds ran
    have plain := (resolvable_plain.choose world other kept.toPlain known.toPlain way type state
      outcome after holds.toPlain ran).1
    rw [kept.closures] at ran
    cases ran
    let question : Question := { way, type, context := ⟨.empty, other.encoding⟩ }
    have absent : pipeline.cache ∉ (Mapper.chain [.builtin]).caches.map Prod.fst :=
      List.not_mem_nil
    have room := Asking.room_cached (Asking.ignores_ask absent question) holds.listed
    have same : pipeline.choose way none type ⟨.empty, other.encoding⟩ =
        Asking.cached pipeline.cache (Question.ask (.chain [.builtin])) question := by
      rw [Pipeline.choose, Pipeline.mapper_eq holds.converters.builtin]
      rfl
    rw [← same] at room
    exact ⟨⟨plain, room⟩, fun _ _ => trivial⟩
  resolve type annotations := by
    intro world outcome after kept ran
    have plain := (resolvable_plain.resolve type annotations world outcome after kept.toPlain ran).1
    cases ran
    exact ⟨⟨plain, kept.listed⟩, fun _ _ => trivial⟩

variable {asked : List CallbackType} {world : World}

theorem Entered.insert (entered : world.Entered asked) {type : CallbackType}
    (fresh : type ∉ world.entries.map Prod.fst) {after : World}
    (grown : after.entries = world.entries ++ [(type, type.isPassable)]) :
    after.Entered (asked ++ [type]) := by
  have types : after.entries.map Prod.fst = world.entries.map Prod.fst ++ [type] := by
    rw [grown, List.map_append]
    rfl
  refine ⟨?_, fun query => ?_, fun entry known => ?_⟩
  · rw [types, List.nodup_append]
    refine ⟨entered.single, List.nodup_singleton type, ?_⟩
    rintro query known here there rfl
    exact fresh (List.mem_singleton.1 there ▸ known)
  · rw [types, List.mem_append, List.mem_append, entered.same]
  · rw [grown] at known
    rcases List.mem_append.1 known with earlier | last
    · exact entered.opened entry earlier
    · rw [List.mem_singleton.1 last]

theorem isSome_pool? {number : Nat} {type : CallbackType} {opened : Bool}
    (known : world.entries[number]? = some (type, opened)) :
    (world.pool? number).isSome = opened := by
  rw [entries, List.getElem?_map] at known
  obtain ⟨⟨_, pool⟩, there, same⟩ := Option.map_eq_some_iff.1 known
  rw [pool?, there]
  exact (Prod.mk.inj same).2

theorem entries_withPool_last {earlier : List (CallbackType × Bool)} {type : CallbackType}
    {opened : Bool} (last : world.entries = earlier ++ [(type, opened)]) (pool : Pool) :
    (world.withPool earlier.length pool).entries = earlier ++ [(type, true)] := by
  have changed : (world.withPool earlier.length pool).entries =
      world.entries.modify earlier.length fun (type, _) => (type, true) := by
    apply List.ext_getElem?
    intro index
    simp only [entries, withPool, List.getElem?_map, List.getElem?_modify]
    cases world.pools[index]? with
    | none => rfl
    | some entry => by_cases same : earlier.length = index <;> simp [same]
  rw [changed, last]
  rw [List.modify_eq_take_drop]
  simp

theorem entries_poolNumber (entered : world.Entered asked) (type : CallbackType) :
    let number := ((poolNumber type).run world).1
    let between := ((poolNumber type).run world).2
    type ∈ asked ∧ between = world ∧ world.entries[number]? = some (type, type.isPassable) ∨
      type ∉ world.entries.map Prod.fst ∧ number = world.entries.length ∧
        between.entries = world.entries ++ [(type, false)] := by
  rw [run_poolNumber]
  split
  next number found =>
    obtain ⟨inside, same, -⟩ := List.findIdx?_eq_some_iff_getElem.1 found
    have type_eq : world.pools[number].1 = type := eq_of_beq same
    have there : world.entries[number]? = some (type, world.pools[number].2.isSome) := by
      rw [entries, List.getElem?_map, List.getElem?_eq_getElem inside, ← type_eq]
      rfl
    have known := List.mem_of_getElem? there
    refine .inl ⟨(entered.same type).1 (List.mem_map_of_mem known), rfl, ?_⟩
    exact there.trans (congrArg (fun opened => some (type, opened)) (entered.opened _ known))
  next missing =>
    refine .inr ⟨fun known => ?_, ?_, ?_⟩
    · obtain ⟨_, there, rfl⟩ := List.mem_map.1 known
      obtain ⟨entry, held, rfl⟩ := List.mem_map.1 there
      simpa using List.findIdx?_eq_none_iff.1 missing entry held
    · simp [entries]
    · simp [entries]

structure Admits (pipeline : Pipeline) (encoding : TextEncoding) (model : DataModel)
    (asked : List CallbackType) (stats : PoolStats) (world : World) : Prop where
  kept : world.Kept pipeline encoding model
  entered : world.Entered asked
  counted : world.poolStats = stats

theorem admits_openPool {stats : PoolStats}
    (admits : world.Admits pipeline encoding model asked stats) (type : CallbackType)
    {outcome : Except Fault Nat} {after : World}
    (ran : (openPool type).run.run world = (outcome, after)) :
    after.Admits pipeline encoding model (asked ++ [type]) stats ∧
      outcome.map (fun _ => ()) = type.check := by
  obtain ⟨kept, entered, counted⟩ := admits
  have still := (resolvable_kept.keeps_openPool indifferent_kept.pools type world _ _ kept ran).1
  have entering := holds_poolNumber indifferent_kept.pools type kept
  have uncounted := (poolStats_poolNumber world type).trans counted
  have entry := entries_poolNumber entered type
  rw [run_openPool] at ran
  generalize (poolNumber type).run world = made at *
  obtain ⟨number, between⟩ := made
  dsimp only at *
  cases there : between.pool? number with
  | some pool =>
    rw [there] at ran
    cases ran
    obtain ⟨known, rfl, at_⟩ | ⟨fresh, rfl, grown⟩ := entry
    · have passable := (isSome_pool? at_).symm.trans (congrArg Option.isSome there)
      exact ⟨⟨still, entered.again known, uncounted⟩, (type.check_eq_ok_iff.2 passable).symm⟩
    · have closed : after.entries[world.entries.length]? = some (type, false) := by simp [grown]
      have absent := isSome_pool? closed
      rw [there] at absent
      cases absent
  | none =>
    rw [there] at ran
    have builds := (meets_buildShape type between entering.toPlain).2
    have pools : ((buildShape type).run.run between).2.pools = between.pools :=
      ((resolvable_pools between.pools).keeps_buildShape type between _ _ rfl rfl).1
    generalize (buildShape type).run.run between = built at *
    obtain ⟨shaped, built⟩ := built
    dsimp only at *
    have entries : built.entries = between.entries := by rw [World.entries, World.entries, pools]
    have stats := (poolStats_congr pools).trans uncounted
    cases shaped with
    | ok shape =>
      cases ran
      have passable := type.check_eq_ok_iff.1 builds.symm
      obtain ⟨known, rfl, at_⟩ | ⟨fresh, rfl, grown⟩ := entry
      · have opened := (isSome_pool? at_).trans passable
        rw [there] at opened
        cases opened
      · have missing : built.pool? world.entries.length = none := by rw [pool?, pools]; exact there
        have last := entries_withPool_last (entries.trans grown)
          { shape, magazinePages := built.config.magazinePages }
        rw [← passable] at last
        exact ⟨⟨still, entered.insert fresh last,
          (poolStats_withPool_new missing _ _).trans stats⟩, builds⟩
    | error fault =>
      -- no pool is built, but an entry that was made for it stays
      cases ran
      obtain ⟨known, rfl, at_⟩ | ⟨fresh, rfl, grown⟩ := entry
      · exact ⟨⟨still, (entered.again known).congr entries, stats⟩, builds⟩
      · have impassable : type.isPassable = false := by
          rw [← Bool.not_eq_true, ← type.check_eq_ok_iff, ← builds]
          intro done
          cases done
        rw [← impassable] at grown
        exact ⟨⟨still, entered.insert fresh (entries.trans grown), stats⟩, builds⟩

end Opening

end World

end ForeignCall
