import ForeignCall.Proofs.Converter.Caching
import Mathlib.Data.List.Dedup
import Mathlib.Data.List.Perm.Subperm

/-! How many keys a cache counts: all that were ever looked up, also those of which every look-up
failed. Such a look-up is forgotten but for that. -/

namespace ForeignCall

namespace ConverterCache

def Lists (cells : ConverterCache) (keys : List CacheKey) : Prop :=
  (cells.map Prod.fst).Nodup ∧ ∀ key, key ∈ cells.map Prod.fst ↔ key ∈ keys

variable {cells other : ConverterCache} {keys : List CacheKey} {key : CacheKey}

theorem keys_put (cells : ConverterCache) (key : CacheKey) (cell : CacheCell) :
    (cells.put key cell).map Prod.fst =
      if key ∈ cells.map Prod.fst then cells.map Prod.fst else cells.map Prod.fst ++ [key] := by
  induction cells with
  | nil => rfl
  | cons head rest ih =>
    obtain ⟨head, old⟩ := head
    by_cases same : head = key
    · simp [put, same]
    · rw [put, if_neg same, List.map_cons, ih]
      by_cases known : key ∈ rest.map Prod.fst
      · simp [known]
      · simp [known, Ne.symm same]

theorem find?_eq_none_iff : cells.find? key = none ↔ key ∉ cells.map Prod.fst := by
  induction cells with
  | nil => simp [find?]
  | cons head rest ih =>
    obtain ⟨head, old⟩ := head
    rw [find?, lookup_cons_eq_ite]
    by_cases same : key = head
    · simp [same]
    · rw [if_neg same, List.map_cons, List.mem_cons, not_or]
      exact ⟨fun absent => ⟨same, ih.1 absent⟩, fun both => ih.2 both.2⟩

namespace Lists

theorem length (lists : cells.Lists keys) : cells.length = keys.dedup.length := by
  have same : (cells.map Prod.fst).Perm keys.dedup :=
    (List.perm_ext_iff_of_nodup lists.1 keys.nodup_dedup).2 fun key =>
      (lists.2 key).trans List.mem_dedup.symm
  exact (List.length_map Prod.fst).symm.trans same.length_eq

theorem put (lists : cells.Lists keys) (key : CacheKey) (cell : CacheCell) :
    (cells.put key cell).Lists (keys ++ [key]) := by
  obtain ⟨single, same⟩ := lists
  rw [Lists, keys_put]
  split
  next known =>
    refine ⟨single, fun query => ?_⟩
    rw [List.mem_append, List.mem_singleton, same]
    exact ⟨.inl, fun either => either.elim id fun here => here ▸ (same key).1 known⟩
  next fresh =>
    refine ⟨List.nodup_append.2 ⟨single, List.nodup_singleton key, ?_⟩, fun query => ?_⟩
    · rintro query known here there rfl
      exact fresh (List.mem_singleton.1 there ▸ known)
    · rw [List.mem_append, List.mem_append, same]

theorem again (lists : cells.Lists keys) (known : key ∈ keys) : cells.Lists (keys ++ [key]) := by
  refine ⟨lists.1, fun query => (lists.2 query).trans ?_⟩
  rw [List.mem_append, List.mem_singleton]
  exact ⟨.inl, fun either => either.elim id fun here => here ▸ known⟩

theorem mem_of_settled (lists : cells.Lists keys)
    (settled : (cells.find? key).getD .unsettled ≠ .unsettled) : key ∈ keys := by
  rw [← lists.2]
  by_contra absent
  rw [find?_eq_none_iff.2 absent] at settled
  exact settled rfl

end Lists

/-- Caches that differ at most in which keys have failed so far. -/
def Alike (cells other : ConverterCache) : Prop :=
  ∀ key, (cells.find? key).getD .unsettled = (other.find? key).getD .unsettled

theorem Alike.refl (cells : ConverterCache) : cells.Alike cells := fun _ => rfl

theorem Alike.put (alike : cells.Alike other) (key : CacheKey) (cell : CacheCell) :
    (cells.put key cell).Alike (other.put key cell) := by
  intro query
  rw [find?_put, find?_put]
  split
  next => rfl
  next => exact alike query

theorem alike_put_unsettled (still : (cells.find? key).getD .unsettled = .unsettled) :
    (cells.put key .unsettled).Alike cells := by
  intro query
  rw [find?_put]
  split
  next here => rw [here, still, Option.getD_some]
  next => rfl

end ConverterCache

def Question.filed? (question : Question) : Option CacheKey :=
  if question.own.isNone then some question.key else none

def lookedUp (questions : List Question) : List CacheKey :=
  questions.filterMap Question.filed?

def succeeded (questions : List Question) (answers : List (Except Fault (Option Converter))) :
    List CacheKey :=
  ((questions.zip answers).filter (·.2.isOk)).filterMap (·.1.filed?)

theorem succeeded_subset (questions : List Question)
    (answers : List (Except Fault (Option Converter))) :
    succeeded questions answers ⊆ lookedUp questions := by
  intro key known
  obtain ⟨pair, there, filed⟩ := List.mem_filterMap.1 known
  have listed := (List.of_mem_zip (List.mem_filter.1 there).1).1
  exact List.mem_filterMap.2 ⟨pair.1, listed, filed⟩

section Run

variable {number : Nat} {inner : Asking}

theorem lists_cached {question : Question} (ignores : (inner question).Ignores number)
    {state : MapperState} (inside : number < state.caches.length) {keys : List CacheKey}
    (lists : (state.cache number).Lists keys) :
    let after := ((inner.cached number question).run.run state).2
    (after.cache number).Lists (keys ++ question.filed?.toList) ∧
      number < after.caches.length := by
  intro after
  cases own : question.own with
  | some converter =>
    have same : after = state := by
      simp only [after, Asking.cached, own]
      rfl
    rw [same, Question.filed?, own]
    simpa using ⟨lists, inside⟩
  | none =>
    have room := ignores.room state inside
    have step := Asking.run_cached ignores inside (state.cache number) own
    rw [MapperState.setCache_eq_self inside rfl] at step
    rw [Question.filed?, own]
    simp only [after, step]
    split
    next settled =>
      have filed := lists.mem_of_settled fun same => by cases settled.symm.trans same
      exact ⟨lists.again filed, inside⟩
    next settled =>
      rw [MapperState.cache_setCache room, MapperState.length_setCache]
      have filed := lists.mem_of_settled fun same => by cases settled.symm.trans same
      exact ⟨lists.again filed, room⟩
    next =>
      rw [MapperState.cache_setCache room, MapperState.length_setCache]
      exact ⟨lists.put _ _, room⟩

variable (ignores : ∀ question, (inner question).Ignores number)
include ignores

theorem lists_askAll (questions : List Question) {state : MapperState}
    (inside : number < state.caches.length) {keys : List CacheKey}
    (lists : (state.cache number).Lists keys) :
    let after := ((askAll (inner.cached number) questions).run state).2
    (after.cache number).Lists (keys ++ lookedUp questions) ∧ number < after.caches.length := by
  induction questions generalizing state keys with
  | nil => exact ⟨(List.append_nil keys).symm ▸ lists, inside⟩
  | cons question rest ih =>
    obtain ⟨filed, room⟩ := lists_cached (ignores question) inside lists
    have later := ih room filed
    rw [List.append_assoc] at later
    have split : lookedUp (question :: rest) = question.filed?.toList ++ lookedUp rest := by
      rw [lookedUp, List.filterMap_cons]
      cases question.filed? <;> rfl
    rw [run_askAll_cons, split]
    exact later

/-- Keys that have only failed make no difference to an answer. -/
theorem cached_alike (question : Question) {state : MapperState}
    (inside : number < state.caches.length) {cells other : ConverterCache}
    (alike : cells.Alike other) :
    ∃ (answer : Except Fault (Option Converter)) (left : MapperState)
        (after others : ConverterCache), number < left.caches.length ∧ after.Alike others ∧
      (inner.cached number question).run.run (state.setCache number cells) =
        (answer, left.setCache number after) ∧
      (inner.cached number question).run.run (state.setCache number other) =
        (answer, left.setCache number others) := by
  cases own : question.own with
  | some converter =>
    refine ⟨.ok (some converter), state, cells, other, inside, alike, ?_, ?_⟩ <;>
    · rw [Asking.cached, own]
      rfl
  | none =>
    have room := (ignores question).room state inside
    rw [Asking.run_cached (ignores question) inside cells own,
      Asking.run_cached (ignores question) inside other own, alike question.key]
    cases (other.find? question.key).getD .unsettled with
    | shared found => exact ⟨_, state, cells, other, inside, alike, rfl, rfl⟩
    | perUse => exact ⟨_, _, cells, other, room, alike, rfl, rfl⟩
    | unsettled => exact ⟨_, _, _, _, room, alike.put _ _, rfl, rfl⟩

theorem askAll_alike (questions : List Question) {state : MapperState}
    (inside : number < state.caches.length) {cells other : ConverterCache}
    (alike : cells.Alike other) :
    ((askAll (inner.cached number) questions).run (state.setCache number cells)).1 =
      ((askAll (inner.cached number) questions).run (state.setCache number other)).1 := by
  induction questions generalizing state cells other with
  | nil => rfl
  | cons question rest ih =>
    obtain ⟨answer, left, after, others, room, still, first, second⟩ :=
      cached_alike ignores question inside alike
    rw [run_askAll_cons, run_askAll_cons, first, second]
    exact congrArg (answer :: ·) (ih room still)

theorem cached_of_error {question : Question} {fault : Fault} {state after : MapperState}
    (inside : number < state.caches.length)
    (failed : (inner.cached number question).run.run state = (.error fault, after)) :
    question.own = none ∧ ((inner question).run.run state).1 = .error fault ∧
      ∃ (left : MapperState) (cells others : ConverterCache), number < left.caches.length ∧
        cells.Alike others ∧ after = left.setCache number cells ∧
          ((inner question).run.run state).2 = left.setCache number others := by
  cases own : question.own with
  | some converter =>
    rw [Asking.cached, own] at failed
    cases failed
  | none =>
    have room := (ignores question).room state inside
    have framed := (ignores question).frame state (state.cache number)
    have step := Asking.run_cached (ignores question) inside (state.cache number) own
    rw [MapperState.setCache_eq_self inside rfl] at framed step
    have behind := congrArg Prod.snd framed
    rw [failed] at step
    generalize settled : ((state.cache number).find? question.key).getD .unsettled = cell at step
    cases cell with
    | shared found => cases step
    | perUse =>
      obtain ⟨refused, rfl⟩ := Prod.mk.inj step
      exact ⟨rfl, refused.symm, _, _, _, room, .refl _, rfl, behind⟩
    | unsettled =>
      obtain ⟨refused, rfl⟩ := Prod.mk.inj step
      rw [← refused]
      exact ⟨rfl, rfl, _, _, _, room, ConverterCache.alike_put_unsettled settled, rfl, behind⟩

end Run

/-- What a cache counts after some questions, and what another question does that fails. -/
structure Counted (number : Nat) (inner asking : Asking) (before : MapperState)
    (questions : List Question) : Prop where
  keys : ((askAll asking questions).run before).2.cachedKeys number =
    (lookedUp questions).dedup.length
  exact_iff : ((askAll asking questions).run before).2.cachedKeys number =
      (succeeded questions ((askAll asking questions).run before).1).dedup.length ↔
    ∀ key ∈ lookedUp questions, key ∈ succeeded questions ((askAll asking questions).run before).1
  failure : ∀ (question : Question) (fault : Fault) (after : MapperState),
    (asking question).run.run ((askAll asking questions).run before).2 = (.error fault, after) →
      let behind := (inner question).run.run ((askAll asking questions).run before).2
      behind.1 = .error fault ∧
        after.cachedKeys number = ((askAll asking questions).run before).2.cachedKeys number +
          (if question.key ∈ lookedUp questions then 0 else 1) ∧
        ∀ later, ((askAll asking later).run after).1 = ((askAll asking later).run behind.2).1

theorem length_dedup_eq_iff {Item : Type} [DecidableEq Item] {part all : List Item}
    (inside : part ⊆ all) : all.dedup.length = part.dedup.length ↔ ∀ item ∈ all, item ∈ part := by
  constructor
  · intro same item known
    have within : part.dedup ⊆ all.dedup := fun query there =>
      List.mem_dedup.2 (inside (List.mem_dedup.1 there))
    have whole := (part.nodup_dedup.subperm within).perm_of_length_le (Nat.le_of_eq same)
    exact List.mem_dedup.1 (whole.mem_iff.2 (List.mem_dedup.2 known))
  · intro each
    have whole : all.dedup.Perm part.dedup :=
      (List.perm_ext_iff_of_nodup all.nodup_dedup part.nodup_dedup).2 fun item => by
        rw [List.mem_dedup, List.mem_dedup]
        exact ⟨each item, fun known => inside known⟩
    exact whole.length_eq

theorem length_dedup_concat {Item : Type} [DecidableEq Item] (items : List Item) (last : Item) :
    (items ++ [last]).dedup.length = items.dedup.length + if last ∈ items then 0 else 1 := by
  rw [(List.perm_append_singleton last items).dedup.length_eq]
  split
  next known => rw [List.dedup_cons_of_mem known, Nat.add_zero]
  next fresh => rw [List.dedup_cons_of_notMem fresh, List.length_cons]

theorem counted_of_ignores {number : Nat} {inner : Asking}
    (ignores : ∀ question, (inner question).Ignores number) {before : MapperState}
    (inside : number < before.caches.length) (fresh : before.setCache number [] = before)
    (questions : List Question) :
    Counted number inner (inner.cached number) before questions := by
  have empty : (before.cache number).Lists [] := by
    rw [← fresh, MapperState.cache_setCache inside]
    exact ⟨List.nodup_nil, fun _ => .rfl⟩
  obtain ⟨lists, room⟩ := lists_askAll ignores questions inside empty
  rw [List.nil_append] at lists
  have keys := lists.length
  refine ⟨keys, ?_, ?_⟩
  · rw [show MapperState.cachedKeys _ number = _ from keys]
    exact length_dedup_eq_iff (succeeded_subset _ _)
  · intro question fault after failed
    obtain ⟨mapped, refused, left, cells, others, there, alike, same, behind⟩ :=
      cached_of_error ignores room failed
    have filed := (lists_cached (ignores question) room lists).1.length
    rw [failed, Question.filed?, mapped] at filed
    refine ⟨refused, ?_, fun later => ?_⟩
    · rw [show MapperState.cachedKeys _ number = _ from keys, ← length_dedup_concat]
      exact filed
    · rw [same, behind]
      exact askAll_alike ignores later there alike

namespace Mapper

variable (way : Way) (type : HostType) (context : ConversionContext)

mutual

theorem state_of_lookup : (mapper : Mapper) → mapper.caches = [] → (state : MapperState) →
    (∃ converter, ((mapper.lookup way type context).run.run state).1 = .ok (some converter)) ∨
      ((mapper.lookup way type context).run.run state).2 = state
  | builtin, _, state => by
    rw [lookup]
    cases ConverterBody.builtin? way type context with
    | error fault => exact .inr rfl
    | ok found =>
      cases found with
      | some body => exact .inl ⟨_, rfl⟩
      | none => exact .inr rfl
  | fixed answer, _, state => by
    rw [lookup]
    cases answer way type context <;> exact .inr rfl
  | building known body, _, state => by
    rw [lookup]
    split
    · exact .inl ⟨_, rfl⟩
    · exact .inr rfl
  | chain mappers, plain, state => by
    rw [lookup]
    exact state_of_lookupFirst mappers plain state

theorem state_of_lookupFirst : (mappers : List Mapper) → cachesOf mappers = [] →
    (state : MapperState) →
    (∃ converter, ((lookupFirst way type context mappers).run.run state).1 =
        .ok (some converter)) ∨
      ((lookupFirst way type context mappers).run.run state).2 = state
  | [], _, _ => .inr rfl
  | mapper :: rest, plain, state => by
    obtain ⟨first, others⟩ := List.append_eq_nil_iff.1 plain
    have asked := state_of_lookup mapper first state
    rw [lookupFirst, Act.run_bind]
    generalize (mapper.lookup way type context).run.run state = ran at asked
    obtain ⟨outcome, after⟩ : Except Fault (Option Converter) × MapperState := ran
    rcases outcome with fault | found | converter
    · rcases asked with ⟨converter, ⟨⟩⟩ | rfl
      exact .inr rfl
    · rcases asked with ⟨converter, ⟨⟩⟩ | rfl
      exact state_of_lookupFirst rest others _
    · exact .inl ⟨converter, rfl⟩

end

theorem state_of_ask_error {mapper : Mapper} (plain : mapper.caches = []) {question : Question}
    {fault : Fault} {state : MapperState}
    (failed : ((question.ask mapper).run.run state).1 = .error fault) :
    ((question.ask mapper).run.run state).2 = state := by
  obtain ⟨way, type, context, own⟩ := question
  cases own with
  | some converter => cases failed
  | none =>
    rcases state_of_lookup way type context mapper plain state with ⟨converter, found⟩ | same
    · cases failed.symm.trans found
    · exact same

end Mapper

/-- A cache, or a pipeline, counts the keys that were ever looked up. That is more than were looked
up with success if a key has only failed. But for that key, a look-up that fails is forgotten, and
where no other caches are involved, later answers are those that would have been given anyway. -/
theorem cachedKeys_counted {inner : Asking} {start : MapperState}
    (ignores : ∀ question, (inner question).Ignores start.caches.length) {custom : Option Mapper}
    (plain : ∀ mapper ∈ custom, mapper.caches = []) (questions : List Question) :
    let made := MapperState.newCache.run start
    let piped := (Pipeline.create custom).run start
    let choose : Asking := fun question =>
      piped.1.choose question.way question.own question.type question.context
    let ran := (askAll choose questions).run piped.2
    Counted made.1 inner (inner.cached made.1) made.2 questions ∧
      Counted piped.1.cache (Question.ask (.chain (custom.toList ++ [.builtin]))) choose piped.2
        questions ∧
      ∀ (question : Question) (fault : Fault) (after : MapperState),
        (choose question).run.run ran.2 = (.error fault, after) →
          ∀ later, ((askAll choose later).run after).1 = ((askAll choose later).run ran.2).1 := by
  intro made piped choose ran
  let behind : Mapper := .chain (custom.toList ++ [.builtin])
  obtain ⟨inside, fresh⟩ := MapperState.fresh_newCache start
  have chooses : choose = Asking.cached made.1 (Question.ask behind) :=
    (funext (Pipeline.choose_eq_ask piped.1)).trans (Asking.ask_caching made.1 behind)
  have simple : behind.caches = [] := by
    cases custom with
    | none => rfl
    | some mapper =>
        change mapper.caches ++ [] = []
        rw [List.append_nil, plain mapper rfl]
  have apart (question : Question) : (question.ask behind).Ignores made.1 :=
    Asking.ignores_ask (by simp [simple]) question
  have counted : Counted made.1 (Question.ask behind) choose piped.2 questions := by
    rw [chooses]
    exact counted_of_ignores apart inside fresh questions
  refine ⟨counted_of_ignores ignores inside fresh questions, counted, ?_⟩
  intro question fault after failed later
  obtain ⟨refused, -, answers⟩ := counted.failure question fault after failed
  rw [answers later, Mapper.state_of_ask_error simple refused]

theorem cachedKeys_counted_unknown :
    let unknown : Question :=
      { way := .toNative, type := .text, context := ⟨⟨[.encoding "klingon"]⟩, .utf8⟩ }
    let questions := [unknown, .passing .utf8]
    let made := MapperState.newCache.run {}
    let piped := (Pipeline.create none).run {}
    let ran := (askAll (Asking.cached made.1 (Question.ask .builtin)) questions).run made.2
    let chosen := (askAll (fun question => piped.1.choose question.way question.own question.type
      question.context) questions).run piped.2
    ran.2.cachedKeys made.1 = 2 ∧ chosen.2.cachedKeys piped.1.cache = 2 ∧
      (succeeded questions ran.1).dedup.length = 1 := by
  intro unknown questions made piped ran chosen
  have absent : 0 ∉ Mapper.builtin.caches.map Prod.fst := by decide
  obtain ⟨counted, piped, -⟩ :=
    @cachedKeys_counted (Question.ask .builtin) {} (Asking.ignores_ask absent) none (by simp)
      questions
  have both : (lookedUp questions).dedup.length = 2 := by decide +kernel
  exact ⟨counted.keys.trans both, piped.keys.trans both, by decide +kernel⟩

end ForeignCall
