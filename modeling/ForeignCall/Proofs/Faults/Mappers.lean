import ForeignCall.Proofs.Binding.Finding
import ForeignCall.Proofs.Faults.Converters

/-! Faults of mappers. A regular mapper fails only for what is declared, and what it finds fails
only for single values. The mappers of the library are regular, and caches and chains of regular
mappers are so again. -/

namespace ForeignCall

namespace MapperState

def Remembers (state : MapperState) (converter : Converter) : Prop :=
  ∃ number key, (state.cache number).find? key = some (.shared (some converter))

def Regular (state : MapperState) : Prop :=
  ∀ converter, state.Remembers converter → converter.FailsPassing

variable {state : MapperState} {converter : Converter}

theorem remembers_putCell {number : Nat} {key : CacheKey} {cell : CacheCell}
    (known : ((putCell number key cell).run state).2.Remembers converter) :
    state.Remembers converter ∨ cell = .shared (some converter) := by
  obtain ⟨other, query, found⟩ := known
  rw [find?_putCell] at found
  split at found
  next here => exact .inr (Option.some.inj found)
  next => exact .inl ⟨other, query, found⟩

theorem Regular.of_empty (empty : ∀ number, state.cache number = []) : state.Regular := by
  rintro converter ⟨number, key, found⟩
  rw [empty] at found
  cases found

theorem cache_newCache (number : Nat) :
    (newCache.run state).2.cache number = state.cache number := by
  change (state.caches ++ [[]])[number]?.getD [] = state.caches[number]?.getD []
  rw [List.getElem?_append]
  split
  next => rfl
  next outside =>
    rw [List.getElem?_eq_none (Nat.le_of_not_lt outside)]
    cases number - state.caches.length <;> rfl

theorem Regular.newCache (regular : state.Regular) : (newCache.run state).2.Regular := by
  rintro converter ⟨number, key, found⟩
  rw [cache_newCache] at found
  exact regular converter ⟨number, key, found⟩

end MapperState

def Act.Files (action : Act MapperState (Option Converter)) : Prop :=
  ∀ state converter, (action.run.run state).2.Remembers converter →
    state.Remembers converter ∨ (action.run.run state).1 = .ok (some converter)

namespace Mapper

theorem files_fileAnswer (number : Nat) (key : CacheKey)
    {inner : Act MapperState (Option Converter)} (files : inner.Files) :
    (fileAnswer number key inner).Files := by
  intro state converter known
  rw [run_fileAnswer] at known ⊢
  -- the cell is opened before the mapper is asked, and remembers nothing until that answers
  have opened : ((MapperState.putCell number key .unsettled).run state).2.Remembers converter →
      state.Remembers converter :=
    fun before => (MapperState.remembers_putCell before).resolve_right nofun
  generalize ((MapperState.putCell number key .unsettled).run state).2 = between at *
  have asked := files between converter
  generalize inner.run.run between = ran at *
  obtain ⟨outcome, after⟩ : Except Fault (Option Converter) × MapperState := ran
  cases outcome with
  | error fault => exact .inl (opened ((asked known).resolve_right nofun))
  | ok found =>
    rcases MapperState.remembers_putCell known with earlier | filed
    · exact (asked earlier).imp_left opened
    · split at filed
      next => exact .inr (congrArg Except.ok (CacheCell.shared.inj filed))
      next => cases filed

theorem files_lookupCached (number : Nat) (way : Way) (type : HostType)
    (context : ConversionContext) {inner : Act MapperState (Option Converter)}
    (files : inner.Files) : (lookupCached number way type context inner).Files := by
  intro state converter
  rw [run_lookupCached]
  split
  next => exact .inl
  next => exact files state converter
  next => exact files_fileAnswer number _ files state converter

mutual

theorem files_lookup (way : Way) (type : HostType) (context : ConversionContext) :
    (mapper : Mapper) → (mapper.lookup way type context).Files
  | builtin => by
    intro state converter
    rw [lookup]
    cases ConverterBody.builtin? way type context with
    | error fault => exact .inl
    | ok found => cases found <;> exact .inl
  | fixed answer => by
    intro state converter
    rw [lookup]
    cases answer way type context <;> exact .inl
  | building known body => by
    intro state converter
    rw [lookup]
    split <;> exact .inl
  | chain mappers => by
    rw [lookup]
    exact files_lookupFirst way type context mappers
  | caching cache inner => by
    rw [lookup]
    exact files_lookupCached cache way type context (files_lookup way type context inner)

theorem files_lookupFirst (way : Way) (type : HostType) (context : ConversionContext) :
    (mappers : List Mapper) → (lookupFirst way type context mappers).Files
  | [] => fun _ _ => .inl
  | mapper :: rest => by
    intro state converter
    rw [lookupFirst, Act.run_bind]
    have first := files_lookup way type context mapper state converter
    generalize (mapper.lookup way type context).run.run state = asked at *
    obtain ⟨outcome, after⟩ : Except Fault (Option Converter) × MapperState := asked
    rcases outcome with fault | found | other
    · exact first
    · intro known
      rcases files_lookupFirst way type context rest after converter known with earlier | answered
      · exact .inl ((first earlier).resolve_right nofun)
      · exact .inr answered
    · exact first

end

/-- Where caches hold only converters that fail for single values, a mapper fails only for what is
declared, and what it finds fails only for single values. -/
structure Regular (mapper : Mapper) : Prop where
  lasting : ∀ way type context state, state.Regular →
    OnlyFaults Fault.Lasting ((mapper.lookup way type context).run.run state).1
  finds : ∀ way type context state converter, state.Regular →
    ((mapper.lookup way type context).run.run state).1 = .ok (some converter) →
      converter.FailsPassing

abbrev Found (found : Option Converter) : Prop :=
  ∀ converter, found = some converter → converter.FailsPassing

theorem found_none : Found none := nofun

theorem regular_of_confines {mapper : Mapper}
    (confines : ∀ way type context,
      (mapper.lookup way type context).Confines MapperState.Regular Fault.Lasting Found) :
    mapper.Regular where
  lasting way type context state regular fault failed :=
    (confines way type context).fails state fault _ regular (Prod.ext failed rfl)
  finds way type context state converter regular answered :=
    ((confines way type context).ensures state _ _ regular rfl).2 _ answered converter rfl

theorem Regular.confines {mapper : Mapper} (regular : mapper.Regular) (way : Way) (type : HostType)
    (context : ConversionContext) :
    (mapper.lookup way type context).Confines MapperState.Regular Fault.Lasting Found := by
  constructor
  case fails =>
    intro state fault after holds ran
    exact regular.lasting way type context state holds fault (congrArg Prod.fst ran)
  case ensures =>
    intro state outcome after holds ran
    refine ⟨fun converter known => ?_, ?_⟩
    · have files := files_lookup way type context mapper state converter
      rw [ran] at files
      rcases files known with earlier | rfl
      · exact holds converter earlier
      · exact regular.finds way type context state converter holds (congrArg Prod.fst ran)
    · rintro found rfl converter rfl
      exact regular.finds way type context state converter holds (congrArg Prod.fst ran)

theorem regular_builtin : builtin.Regular := by
  refine regular_of_confines fun way type context => ?_
  rw [lookup]
  have built : (liftM (ConverterBody.builtin? way type context) :
      Act MapperState (Option ConverterBody)).Confines MapperState.Regular Fault.Lasting
        fun found => ∀ body, found = some body → body.FailsPassing := by
    refine .ofExcept (ConverterBody.lasting_builtin? way type context) ?_
    rintro found built body rfl
    exact ConverterBody.failsPassing_of_builtin? built
  refine built.bind ?_
  rintro (- | body) fails
  · exact .pure nofun
  have made : (liftM (MapperState.instantiate body) : Act MapperState Converter).Confines
      MapperState.Regular Fault.Lasting fun converter => converter.FailsPassing :=
    .ofState (fun _ holds => holds) fun _ _ => fails body rfl
  refine made.bind fun converter passing => .pure ?_
  rintro _ ⟨⟩
  exact passing

theorem regular_fixed
    {answer : Way → HostType → ConversionContext → Except Fault (Option Converter)}
    (lasting : ∀ way type context, OnlyFaults Fault.Lasting (answer way type context))
    (finds : ∀ way type context found, answer way type context = .ok found → Found found) :
    (fixed answer).Regular := by
  refine regular_of_confines fun way type context => ?_
  rw [lookup]
  exact .ofExcept (lasting way type context) (finds way type context)

theorem regular_refusing (refused : HostType) : (refusing refused).Regular := by
  refine regular_fixed (fun way type context => ?_) fun way type context found answered => ?_
  · split
    next => exact .error rfl
    next => exact .ok none
  · split at answered
    next => cases answered
    next =>
      cases answered
      exact found_none

theorem regular_building {body : Way → ConverterBody} (fails : ∀ way, (body way).FailsPassing)
    (known : HostType) : (building known body).Regular := by
  refine regular_of_confines fun way type context => ?_
  rw [lookup]
  split
  next =>
    have counts : (liftM (modify fun state => { state with built := state.built + 1 } :
        StateM MapperState PUnit) : Act MapperState PUnit).Confines MapperState.Regular
          Fault.Lasting fun _ => True := .ofState (fun _ holds => holds) fun _ _ => trivial
    have makes : (liftM (MapperState.instantiate (body way)) : Act MapperState Converter).Confines
        MapperState.Regular Fault.Lasting fun converter => converter.FailsPassing :=
      .ofState (fun _ holds => holds) fun _ _ => fails way
    refine counts.bind fun _ _ => makes.bind fun converter passing => .pure ?_
    rintro _ ⟨⟩
    exact passing
  next => exact .pure found_none

theorem regular_chain {mappers : List Mapper} (all : ∀ mapper ∈ mappers, mapper.Regular) :
    (chain mappers).Regular := by
  refine regular_of_confines fun way type context => ?_
  rw [lookup]
  induction mappers with
  | nil => exact .pure nofun
  | cons first rest ih =>
    obtain ⟨head, others⟩ := List.forall_mem_cons.1 all
    rw [lookupFirst]
    refine (head.confines way type context).bind ?_
    rintro (- | converter) found
    · exact ih others
    · exact .pure found

theorem confines_putCell (number : Nat) (key : CacheKey) {cell : CacheCell}
    (files : ∀ converter, cell = .shared (some converter) → converter.FailsPassing) :
    (liftM (MapperState.putCell number key cell) : Act MapperState Unit).Confines
      MapperState.Regular Fault.Lasting fun _ => True := by
  refine .ofState (fun state holds converter known => ?_) fun _ _ => trivial
  rcases MapperState.remembers_putCell known with earlier | filed
  · exact holds converter earlier
  · exact files converter filed

theorem Regular.caching {inner : Mapper} (regular : inner.Regular) (number : Nat) :
    (caching number inner).Regular := by
  refine regular_of_confines fun way type context => ?_
  have asks := regular.confines way type context
  have filing (key : CacheKey) : (fileAnswer number key (inner.lookup way type context)).Confines
      MapperState.Regular Fault.Lasting Found := by
    refine .bind (confines_putCell number key nofun) fun _ _ => asks.bind fun found good => ?_
    refine .bind (confines_putCell number key fun converter filed => ?_) fun _ _ => .pure good
    split at filed
    next => exact good converter (CacheCell.shared.inj filed)
    next => cases filed
  rw [lookup]
  refine .bind .get fun state holds => ?_
  split
  next answer known =>
    refine .pure ?_
    rintro converter rfl
    exact holds converter ⟨number, _, known⟩
  next => exact asks
  next => exact filing _
  next => exact filing _

end Mapper

theorem Pipeline.regular_mapper {pipeline : Pipeline}
    (custom : ∀ mapper, pipeline.custom = some mapper → mapper.Regular) :
    pipeline.mapper.Regular := by
  refine Mapper.Regular.caching (Mapper.regular_chain fun mapper known => ?_) pipeline.cache
  rcases List.mem_append.1 known with added | last
  · exact custom mapper (Option.mem_toList.1 added)
  · rw [List.mem_singleton.1 last]
    exact Mapper.regular_builtin

theorem Pipeline.confines_choose {pipeline : Pipeline}
    (custom : ∀ mapper, pipeline.custom = some mapper → mapper.Regular)
    {own : Option Converter} (known : Mapper.Found own) (way : Way) (type : HostType)
    (context : ConversionContext) :
    (pipeline.choose way own type context).Confines MapperState.Regular Fault.Lasting
      Mapper.Found := by
  cases own with
  | some converter => exact .pure known
  | none => exact (Pipeline.regular_mapper custom).confines way type context

end ForeignCall
