import ForeignCall.Converter.Mapper
import ForeignCall.Proofs.Binding.Alike

/-! What mappers find. A mapper answers by what it is asked alone, but for the identity of the
instance; a cache remembers an answer and does not change it. -/

namespace ForeignCall

abbrev Answering := Way → HostType → ConversionContext → Except Fault (Option ConverterBody)

namespace Mapper

mutual

@[simp] def answering (state : MapperState) : Mapper → Answering
  | builtin => ConverterBody.builtin?
  | fixed answer => fun way type context =>
    (answer way type context).map (·.map (·.toConverterBody))
  | building known body => fun way type _ => .ok (if type = known then some (body way) else none)
  | chain mappers => answeringFirst state mappers
  | caching cache inner => fun way type context =>
    match (state.cache cache).find? ⟨way, type, context.annotations⟩ with
    | some (.shared found) => .ok (found.map (·.toConverterBody))
    | _ => answering state inner way type context

@[simp] def answeringFirst (state : MapperState) : List Mapper → Answering
  | [] => fun _ _ _ => .ok none
  | mapper :: rest => fun way type context =>
    match answering state mapper way type context with
    | .ok none => answeringFirst state rest way type context
    | answer => answer

end

mutual

def caches : Mapper → List (Nat × Mapper)
  | chain mappers => cachesOf mappers
  | caching cache inner => (cache, inner) :: caches inner
  | _ => []

def cachesOf : List Mapper → List (Nat × Mapper)
  | [] => []
  | mapper :: rest => caches mapper ++ cachesOf rest

end

theorem run_fileAnswer (number : Nat) (key : CacheKey)
    (inner : Act MapperState (Option Converter)) (state : MapperState) :
    (fileAnswer number key inner).run.run state =
      match inner.run.run ((MapperState.putCell number key .unsettled).run state).2 with
      | (.ok found, after) => (.ok found, ((MapperState.putCell number key
          (if found.all (·.cacheable) then .shared found else .perUse)).run after).2)
      | (.error fault, after) => (.error fault, after) := by
  let opened := ((MapperState.putCell number key .unsettled).run state).2
  rw [fileAnswer, Act.run_bind]
  change ((inner >>= _ : Act MapperState (Option Converter)).run.run opened) = _
  rw [Act.run_bind]
  change _ = match inner.run.run opened with | (.ok _, _) => _ | (.error _, _) => _
  generalize inner.run.run opened = asked
  obtain ⟨outcome, after⟩ : Except Fault (Option Converter) × MapperState := asked
  cases outcome <;> rfl

theorem run_lookupCached (number : Nat) (way : Way) (type : HostType)
    (context : ConversionContext) (inner : Act MapperState (Option Converter))
    (state : MapperState) :
    (lookupCached number way type context inner).run.run state =
      match (state.cache number).find? ⟨way, type, context.annotations⟩ with
      | some (.shared found) => (.ok found, state)
      | some .perUse => inner.run.run state
      | _ => (fileAnswer number ⟨way, type, context.annotations⟩ inner).run.run state := by
  rw [lookupCached, Act.run_bind, Act.run_get]
  dsimp only
  cases (state.cache number).find? ⟨way, type, context.annotations⟩ with
  | none => rfl
  | some cell => cases cell <;> rfl

end Mapper

namespace MapperState

/-- Caches have forgotten nothing and remember nothing but what was behind them. -/
structure Grown (origin : MapperState)
    (behind : Nat → CacheKey → Except Fault (Option ConverterBody)) (state : MapperState) :
    Prop where
  kept : ∀ number key found, (origin.cache number).find? key = some (.shared found) →
    (state.cache number).find? key = some (.shared found)
  faithful : ∀ number key found, (state.cache number).find? key = some (.shared found) →
    (origin.cache number).find? key = some (.shared found) ∨
      .ok (found.map (·.toConverterBody)) = behind number key

theorem find?_putCell (state : MapperState) (number other : Nat) (key query : CacheKey)
    (cell : CacheCell) :
    (((putCell number key cell).run state).2.cache other).find? query =
      if other = number ∧ query = key ∧ number < state.caches.length then some cell
      else (state.cache other).find? query := by
  change ((state.caches.modify number (·.put key cell))[other]?.getD []).find? query = _
  rw [List.getElem?_modify, cache]
  by_cases same : number = other
  · subst same
    cases present : state.caches[number]? with
    | none =>
        have outside := List.getElem?_eq_none_iff.1 present
        rw [if_neg (by omega)]
        rfl
    | some found =>
        have inside := (List.getElem?_eq_some_iff.1 present).1
        simp [ConverterCache.find?_put, inside]
  · rw [if_neg fun both => same both.1.symm]
    simp [same]

variable {origin state : MapperState}
  {behind : Nat → CacheKey → Except Fault (Option ConverterBody)}

theorem Grown.refl (origin : MapperState) : origin.Grown behind origin :=
  ⟨fun _ _ _ known => known, fun _ _ _ known => .inl known⟩

theorem Grown.putCell (grown : origin.Grown behind state) {number : Nat} {key : CacheKey}
    {cell : CacheCell} (unshared : ∀ found, (origin.cache number).find? key ≠ some (.shared found))
    (right : ∀ found, cell = .shared found →
      .ok (found.map (·.toConverterBody)) = behind number key) :
    origin.Grown behind ((MapperState.putCell number key cell).run state).2 := by
  constructor
  · intro other query found known
    rw [find?_putCell]
    split
    next here =>
      obtain ⟨rfl, rfl, _⟩ := here
      exact absurd known (unshared found)
    next => exact grown.kept other query found known
  · intro other query found known
    rw [find?_putCell] at known
    split at known
    next here =>
      obtain ⟨rfl, rfl, _⟩ := here
      exact .inr (right found (Option.some.inj known))
    next => exact grown.faithful other query found known

end MapperState

namespace Mapper

/-- What is behind each cache in a mapper, at one encoding, is what the cached mapper answers. -/
def Backed (origin : MapperState) (behind : Nat → CacheKey → Except Fault (Option ConverterBody))
    (encoding : TextEncoding) (mapper : Mapper) : Prop :=
  ∀ number inner, (number, inner) ∈ mapper.caches → ∀ way type annotations,
    inner.answering origin way type ⟨annotations, encoding⟩ = behind number ⟨way, type, annotations⟩

def Single (all : List (Nat × Mapper)) : Prop :=
  ∀ number inner other, (number, inner) ∈ all → (number, other) ∈ all → inner = other

theorem Single.cons {all : List (Nat × Mapper)} (single : Single all) {number : Nat}
    {mapper : Mapper} (fresh : ∀ inner, (number, inner) ∉ all) :
    Single ((number, mapper) :: all) := by
  intro query inner other first second
  rcases List.mem_cons.1 first with here | there
  · cases here
    rcases List.mem_cons.1 second with same | elsewhere
    · cases same
      rfl
    · exact absurd elsewhere (fresh other)
  · rcases List.mem_cons.1 second with same | elsewhere
    · cases same
      exact absurd there (fresh inner)
    · exact single query inner other there elsewhere

theorem exists_behind (origin : MapperState) (encoding : TextEncoding) {all : List (Nat × Mapper)}
    (single : Single all) :
    ∃ behind : Nat → CacheKey → Except Fault (Option ConverterBody), ∀ mapper : Mapper,
      mapper.caches ⊆ all → mapper.Backed origin behind encoding := by
  classical
  refine ⟨fun number key => if known : ∃ inner, (number, inner) ∈ all then
    known.choose.answering origin key.way key.type ⟨key.annotations, encoding⟩ else .ok none, ?_⟩
  intro mapper inside number inner known way type annotations
  have listed : ∃ inner, (number, inner) ∈ all := ⟨inner, inside known⟩
  dsimp only
  rw [dif_pos listed, single number _ inner listed.choose_spec (inside known)]

section Lookup

variable {origin : MapperState} {behind : Nat → CacheKey → Except Fault (Option ConverterBody)}
  {encoding : TextEncoding}

def Answers (origin : MapperState) (behind : Nat → CacheKey → Except Fault (Option ConverterBody))
    (asking : Act MapperState (Option Converter)) (answer : Except Fault (Option ConverterBody)) :
    Prop :=
  ∀ state, origin.Grown behind state → origin.Grown behind (asking.run.run state).2 ∧
    (asking.run.run state).1.map (·.map (·.toConverterBody)) = answer

theorem answering_of_shared {number : Nat} {inner : Mapper} {way : Way} {type : HostType}
    {context : ConversionContext} {found : Option Converter}
    (shared : (origin.cache number).find? ⟨way, type, context.annotations⟩ = some (.shared found)) :
    (caching number inner).answering origin way type context =
      .ok (found.map (·.toConverterBody)) := by
  rw [answering]
  dsimp only
  rw [shared]

theorem answering_of_unshared {number : Nat} {inner : Mapper} {way : Way} {type : HostType}
    {context : ConversionContext} (unshared : ∀ found,
      (origin.cache number).find? ⟨way, type, context.annotations⟩ ≠ some (.shared found)) :
    (caching number inner).answering origin way type context =
      inner.answering origin way type context := by
  rw [answering]
  dsimp only
  split
  next found known => exact absurd known (unshared found)
  next => rfl

theorem answers_caching {number : Nat} {inner : Mapper} {way : Way} {type : HostType}
    {annotations : Annotations}
    (answers : Answers origin behind (inner.lookup way type ⟨annotations, encoding⟩)
      (inner.answering origin way type ⟨annotations, encoding⟩))
    (backed : inner.answering origin way type ⟨annotations, encoding⟩ =
      behind number ⟨way, type, annotations⟩) :
    Answers origin behind ((caching number inner).lookup way type ⟨annotations, encoding⟩)
      ((caching number inner).answering origin way type ⟨annotations, encoding⟩) := by
  intro state grown
  let key : CacheKey := ⟨way, type, annotations⟩
  have open_ : (∀ found, (state.cache number).find? key ≠ some (.shared found)) →
      ∀ found, (origin.cache number).find? key ≠ some (.shared found) :=
    fun unshared found known => unshared found (grown.kept number key found known)
  have filed : (∀ found, (state.cache number).find? key ≠ some (.shared found)) →
      let run := (fileAnswer number key
        (inner.lookup way type ⟨annotations, encoding⟩)).run.run state
      origin.Grown behind run.2 ∧ run.1.map (·.map (·.toConverterBody)) =
        (caching number inner).answering origin way type ⟨annotations, encoding⟩ := by
    intro unshared
    have opened : origin.Grown behind ((MapperState.putCell number key .unsettled).run state).2 :=
      grown.putCell (open_ unshared) (by rintro _ ⟨⟩)
    obtain ⟨kept, answered⟩ := answers _ opened
    rw [run_fileAnswer, answering_of_unshared (open_ unshared), ← answered]
    generalize (inner.lookup way type ⟨annotations, encoding⟩).run.run
      ((MapperState.putCell number key .unsettled).run state).2 = asked at *
    obtain ⟨outcome, after⟩ : Except Fault (Option Converter) × MapperState := asked
    cases outcome with
    | error fault => exact ⟨kept, rfl⟩
    | ok found =>
        refine ⟨kept.putCell (open_ unshared) ?_, rfl⟩
        rintro other known
        split at known
        next =>
          cases known
          exact answered.trans backed
        next => cases known
  simp only [lookup, lookupCached]
  rw [Act.run_bind, Act.run_get]
  dsimp only
  split
  next found known =>
    refine ⟨grown, ?_⟩
    by_cases shared : ∃ other, (origin.cache number).find? key = some (.shared other)
    · obtain ⟨other, there⟩ := shared
      cases known.symm.trans (grown.kept number key other there)
      exact (answering_of_shared there).symm
    · have unshared := fun other there => shared ⟨other, there⟩
      rw [answering_of_unshared unshared, backed]
      exact (grown.faithful number key found known).resolve_left (unshared found)
  next known =>
    rw [answering_of_unshared (open_ (by rw [known]; rintro _ ⟨⟩))]
    exact answers state grown
  next known => exact filed (by rw [known]; rintro _ ⟨⟩)
  next known => exact filed (by rw [known]; rintro _ ⟨⟩)

theorem answers_builtin (way : Way) (type : HostType) (context : ConversionContext) :
    Answers origin behind (builtin.lookup way type context)
      (builtin.answering origin way type context) := by
  intro state grown
  simp only [lookup, answering]
  cases ConverterBody.builtin? way type context with
  | error fault => exact ⟨grown, rfl⟩
  | ok found =>
      cases found with
      | none => exact ⟨grown, rfl⟩
      | some body => exact ⟨⟨grown.kept, grown.faithful⟩, rfl⟩

theorem answers_fixed
    (answer : Way → HostType → ConversionContext → Except Fault (Option Converter)) (way : Way)
    (type : HostType) (context : ConversionContext) :
    Answers origin behind ((fixed answer).lookup way type context)
      ((fixed answer).answering origin way type context) := by
  intro state grown
  simp only [lookup, answering]
  cases answer way type context <;> exact ⟨grown, rfl⟩

theorem answers_building (known : HostType) (body : Way → ConverterBody) (way : Way)
    (type : HostType) (context : ConversionContext) :
    Answers origin behind ((building known body).lookup way type context)
      ((building known body).answering origin way type context) := by
  intro state grown
  simp only [lookup, answering]
  split
  next => exact ⟨⟨grown.kept, grown.faithful⟩, rfl⟩
  next => exact ⟨grown, rfl⟩

theorem answers_lookupFirst_cons {head : Mapper} {rest : List Mapper} {way : Way} {type : HostType}
    {context : ConversionContext}
    (first : Answers origin behind (head.lookup way type context)
      (head.answering origin way type context))
    (others : Answers origin behind (lookupFirst way type context rest)
      (answeringFirst origin rest way type context)) :
    Answers origin behind (lookupFirst way type context (head :: rest))
      (answeringFirst origin (head :: rest) way type context) := by
  intro state grown
  obtain ⟨kept, answered⟩ := first state grown
  simp only [lookupFirst, answeringFirst, ← answered]
  rw [Act.run_bind]
  generalize (head.lookup way type context).run.run state = asked at *
  obtain ⟨outcome, after⟩ : Except Fault (Option Converter) × MapperState := asked
  rcases outcome with fault | found
  · exact ⟨kept, rfl⟩
  · cases found with
    | some converter => exact ⟨kept, rfl⟩
    | none => exact others after kept

mutual

theorem answers_lookup (way : Way) (type : HostType) (annotations : Annotations) :
    (mapper : Mapper) → mapper.Backed origin behind encoding →
      Answers origin behind (mapper.lookup way type ⟨annotations, encoding⟩)
        (mapper.answering origin way type ⟨annotations, encoding⟩)
  | builtin, _ => answers_builtin way type _
  | fixed answer, _ => answers_fixed answer way type _
  | building known body, _ => answers_building known body way type _
  | chain mappers, backed => by
    simpa only [lookup, answering] using answers_lookupFirst way type annotations mappers backed
  | caching cache inner, backed =>
    answers_caching
      (answers_lookup way type annotations inner fun number other known =>
        backed number other (List.mem_cons_of_mem _ known))
      (backed cache inner List.mem_cons_self way type annotations)

theorem answers_lookupFirst (way : Way) (type : HostType) (annotations : Annotations) :
    (mappers : List Mapper) → (chain mappers).Backed origin behind encoding →
      Answers origin behind (lookupFirst way type ⟨annotations, encoding⟩ mappers)
        (answeringFirst origin mappers way type ⟨annotations, encoding⟩)
  | [], _ => fun _ grown => ⟨grown, rfl⟩
  | mapper :: rest, backed =>
    answers_lookupFirst_cons
      (answers_lookup way type annotations mapper fun number inner known =>
        backed number inner (List.mem_append_left _ known))
      (answers_lookupFirst way type annotations rest fun number inner known =>
        backed number inner (List.mem_append_right _ known))

end

end Lookup

end Mapper

end ForeignCall
