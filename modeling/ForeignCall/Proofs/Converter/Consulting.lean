import ForeignCall.Proofs.Converter.Caching

/-! How often a cache passes look-ups on. Where every key keeps to one kind of answer, it asks once
for an answer that lasts and each time for any other, and no key has to do with another. -/

namespace ForeignCall

inductive AnswerKind
  | failure
  | absence
  | cacheable
  | uncacheable
  deriving DecidableEq

namespace AnswerKind

def ofBehaviour : Except Fault (Option ConverterBody) → AnswerKind
  | .error _ => failure
  | .ok none => absence
  | .ok (some body) => if body.cacheable then cacheable else uncacheable

def of (answer : Except Fault (Option Converter)) : AnswerKind := ofBehaviour (behaviour answer)

/-- Whether one answer serves all look-ups. -/
def lasting : AnswerKind → Bool
  | absence | cacheable => true
  | failure | uncacheable => false

end AnswerKind

namespace CacheCell

variable {answer other : Except Fault (Option Converter)}

theorem of_lasting (lasts : (AnswerKind.of answer).lasting = true) :
    ∃ found, answer = .ok found ∧ of answer = .shared found := by
  rcases answer with fault | found | converter
  · cases lasts
  · exact ⟨none, rfl, rfl⟩
  · by_cases shareable : converter.cacheable = true
    · exact ⟨some converter, rfl, if_pos shareable⟩
    · rw [AnswerKind.of, behaviour, Except.map] at lasts
      simp [AnswerKind.ofBehaviour, AnswerKind.lasting, shareable] at lasts

theorem of_eq_unsettled_or_perUse (passing : (AnswerKind.of answer).lasting = false) :
    of answer = .unsettled ∧ AnswerKind.of answer = .failure ∨
      of answer = .perUse ∧ AnswerKind.of answer = .uncacheable := by
  rcases answer with fault | found | converter
  · exact .inl ⟨rfl, rfl⟩
  · cases passing
  · by_cases shareable : converter.cacheable = true
    · rw [AnswerKind.of, behaviour, Except.map] at passing
      simp [AnswerKind.ofBehaviour, AnswerKind.lasting, shareable] at passing
    · exact .inr ⟨if_neg shareable, if_neg shareable⟩

theorem of_congr (same : AnswerKind.of answer = AnswerKind.of other)
    (passing : (AnswerKind.of answer).lasting = false) : of answer = of other := by
  rcases of_eq_unsettled_or_perUse passing with ⟨noted, kind⟩ | ⟨noted, kind⟩ <;>
    rcases of_eq_unsettled_or_perUse (same ▸ passing) with ⟨again, sort⟩ | ⟨again, sort⟩
  · rw [noted, again]
  · exact absurd (kind.symm.trans (same.trans sort)) (by decide)
  · exact absurd (kind.symm.trans (same.trans sort)) (by decide)
  · rw [noted, again]

theorem eq_of_of_eq (lasts : (AnswerKind.of answer).lasting = true)
    (same : of answer = of other) (kinds : AnswerKind.of answer = AnswerKind.of other) :
    answer = other := by
  obtain ⟨found, rfl, first⟩ := of_lasting lasts
  obtain ⟨given, rfl, second⟩ := of_lasting (kinds ▸ lasts)
  rw [first, second] at same
  cases same
  rfl

end CacheCell

def CacheKey.question (encoding : TextEncoding) (key : CacheKey) : Question :=
  { way := key.way, type := key.type, context := ⟨key.annotations, encoding⟩ }

/-- The look-ups that a cache passes on, of those that follow some earlier ones. -/
def needed (kind : CacheKey → AnswerKind) : (earlier keys : List CacheKey) → List CacheKey
  | _, [] => []
  | earlier, key :: rest =>
    if (kind key).lasting = true ∧ key ∈ earlier then needed kind (key :: earlier) rest
    else key :: needed kind (key :: earlier) rest

theorem count_needed (kind : CacheKey → AnswerKind) (earlier keys : List CacheKey)
    (key : CacheKey) : (needed kind earlier keys).count key =
      if (kind key).lasting = true then if key ∈ earlier then 0 else min 1 (keys.count key)
      else keys.count key := by
  induction keys generalizing earlier with
  | nil => simp [needed]
  | cons first rest ih =>
    rw [needed]
    by_cases same : first = key
    · subst same
      by_cases lasts : (kind first).lasting = true
      · by_cases seen : first ∈ earlier <;> simp [lasts, seen, ih]
      · simp [lasts, ih]
    · have still : key ∈ first :: earlier ↔ key ∈ earlier := by simp [Ne.symm same]
      split <;> simp [ih, still, same]

structure Knows (kind : CacheKey → AnswerKind) (earlier : List CacheKey)
    (cells : ConverterCache) : Prop where
  seen : ∀ key ∈ earlier, ∃ answer, AnswerKind.of answer = kind key ∧
    cells.find? key = some (.of answer)
  unseen : ∀ key ∉ earlier, cells.find? key = none

theorem Knows.cons {kind : CacheKey → AnswerKind} {earlier : List CacheKey}
    {cells after : ConverterCache} {key : CacheKey} {answer : Except Fault (Option Converter)}
    (knows : Knows kind earlier cells) (answered : .of answer = kind key)
    (noted : ∀ query, after.find? query =
      if query = key then some (.of answer) else cells.find? query) :
    Knows kind (key :: earlier) after := by
  constructor
  · intro query known
    rw [noted]
    by_cases here : query = key
    · exact ⟨answer, here ▸ answered, if_pos here⟩
    · rw [if_neg here]
      exact knows.seen query ((List.mem_cons.1 known).resolve_left here)
  · intro query absent
    obtain ⟨different, before⟩ := List.ne_and_not_mem_of_not_mem_cons absent
    rw [noted, if_neg different]
    exact knows.unseen query before

def lookUpAll (ask : Asking) (encoding : TextEncoding) (keys : List CacheKey) :
    StateM MapperState (List (Except Fault (Option Converter))) :=
  askAll ask (keys.map (·.question encoding))

theorem run_lookUpAll_cons (ask : Asking) (encoding : TextEncoding) (key : CacheKey)
    (rest : List CacheKey) (state : MapperState) :
    (lookUpAll ask encoding (key :: rest)).run state =
      let once := (ask (key.question encoding)).run.run state
      let later := (lookUpAll ask encoding rest).run once.2
      (once.1 :: later.1, later.2) :=
  run_askAll_cons ask (key.question encoding) _ state

theorem run_needed_cons (inner : Asking) (encoding : TextEncoding) (kind : CacheKey → AnswerKind)
    (earlier rest : List CacheKey) (first : CacheKey) (state : MapperState) :
    let asked := (inner (first.question encoding)).run.run state
    let kept := (kind first).lasting = true ∧ first ∈ earlier
    let later := (lookUpAll inner encoding (needed kind (first :: earlier) rest)).run
      (if kept then state else asked.2)
    (lookUpAll inner encoding (needed kind earlier (first :: rest))).run state =
      ((if kept then [] else [asked.1]) ++ later.1, later.2) := by
  dsimp only
  rw [needed]
  split
  next => rfl
  next => rw [run_lookUpAll_cons]; rfl

theorem length_needed_cons {Item : Type} (kind : CacheKey → AnswerKind)
    (earlier rest : List CacheKey) (first : CacheKey) (item : Item) :
    (needed kind earlier (first :: rest)).length =
      (if (kind first).lasting = true ∧ first ∈ earlier then [] else [item]).length +
        (needed kind (first :: earlier) rest).length := by
  rw [needed]
  split
  next => exact (Nat.zero_add _).symm
  next => exact Nat.add_comm _ 1

section Run

variable {number : Nat} {inner : Asking} (ignores : ∀ question, (inner question).Ignores number)
  {encoding : TextEncoding} {kind : CacheKey → AnswerKind}
  (steady : ∀ key state, .of ((inner (key.question encoding)).run.run state).1 = kind key)
include ignores steady

/-- A look-up is answered from the cell of its key or passed on. Then the cell holds its answer, as
it already did if there was an earlier look-up. -/
theorem run_lookUp {earlier : List CacheKey} {cells : ConverterCache}
    (knows : Knows kind earlier cells) (key : CacheKey) {state : MapperState}
    (inside : number < state.caches.length) :
    let asked := (inner (key.question encoding)).run.run state
    let kept := (kind key).lasting = true ∧ key ∈ earlier
    ∃ answer after, (inner.cached number (key.question encoding)).run.run
        (state.setCache number cells) =
          (answer, (if kept then state else asked.2).setCache number after) ∧
      (¬kept → answer = asked.1) ∧ .of answer = kind key ∧
      (key ∈ earlier → cells.find? key = some (.of answer)) ∧
      ∀ query, after.find? query =
        if query = key then some (.of answer) else cells.find? query := by
  intro asked kept
  have kinds : AnswerKind.of asked.1 = kind key := steady key state
  have put (query : CacheKey) : (cells.put key (.of asked.1)).find? query =
      if query = key then some (.of asked.1) else cells.find? query :=
    ConverterCache.find?_put _ _ _ _
  have stays {answer : Except Fault (Option Converter)}
      (found : cells.find? key = some (.of answer)) (query : CacheKey) :
      cells.find? query = if query = key then some (.of answer) else cells.find? query := by
    split
    next here => rw [here, found]
    next => rfl
  have step := Asking.run_cached (ignores (key.question encoding)) inside cells rfl
  rw [show (key.question encoding).key = key from rfl] at step
  by_cases seen : key ∈ earlier
  · obtain ⟨answer, answered, found⟩ := knows.seen key seen
    by_cases lasts : (kind key).lasting = true
    · obtain ⟨given, rfl, noted⟩ := CacheCell.of_lasting (answered.symm ▸ lasts)
      refine ⟨.ok given, cells, step.trans ?_, fun passed => absurd ⟨lasts, seen⟩ passed, answered,
        fun _ => found, stays found⟩
      rw [if_pos ⟨lasts, seen⟩, found, noted]
      rfl
    · have passing := eq_false_of_ne_true lasts
      have alike : CacheCell.of answer = .of asked.1 :=
        CacheCell.of_congr (answered.trans kinds.symm) (answered.symm ▸ passing)
      rw [alike] at found
      have passed : ¬kept := fun both => lasts both.1
      rcases CacheCell.of_eq_unsettled_or_perUse (kinds.symm ▸ passing) with
        ⟨noted, -⟩ | ⟨noted, -⟩
      · refine ⟨asked.1, _, step.trans ?_, fun _ => rfl, kinds, fun _ => found, put⟩
        rw [if_neg passed, found.trans (congrArg some noted)]
        rfl
      · refine ⟨asked.1, cells, step.trans ?_, fun _ => rfl, kinds, fun _ => found, stays found⟩
        rw [if_neg passed, found, noted]
        rfl
  · have passed : ¬kept := fun both => seen both.2
    refine ⟨asked.1, _, step.trans ?_, fun _ => rfl, kinds, fun known => absurd known seen, put⟩
    rw [if_neg passed, knows.unseen key seen]
    rfl

theorem run_lookUps (keys : List CacheKey) {earlier : List CacheKey} {cells : ConverterCache}
    (knows : Knows kind earlier cells) {state : MapperState}
    (inside : number < state.caches.length) :
    let own := (lookUpAll inner encoding (needed kind earlier keys)).run state
    let ran := (lookUpAll (inner.cached number) encoding keys).run (state.setCache number cells)
    ∃ after, ran.2 = own.2.setCache number after ∧ number < own.2.caches.length ∧
      (∀ key, key ∈ earlier ∨ key ∉ keys → after.find? key = cells.find? key) ∧
      ran.1.length = keys.length ∧
      ∀ (index : Nat) key answer, keys[index]? = some key → ran.1[index]? = some answer →
        .of answer = kind key ∧ after.find? key = some (.of answer) ∧
        (((kind key).lasting = true → key ∉ earlier ∧ key ∉ keys.take index) →
          own.1[(needed kind earlier (keys.take index)).length]? = some answer) := by
  induction keys generalizing earlier cells state with
  | nil => exact ⟨cells, rfl, inside, fun _ _ => rfl, rfl, by simp⟩
  | cons first rest ih =>
    let asked := (inner (first.question encoding)).run.run state
    obtain ⟨answer, between, once, passed, answered, found, noted⟩ :=
      run_lookUp ignores steady knows first inside
    have room : number < (if (kind first).lasting = true ∧ first ∈ earlier then state
        else asked.2).caches.length := by
      split
      next => exact inside
      next => exact (ignores _).room state inside
    obtain ⟨after, ended, last, stays, counted, all⟩ := ih (knows.cons answered noted) room
    have sits : after.find? first = some (.of answer) := by
      rw [stays first (.inl List.mem_cons_self), noted, if_pos rfl]
    intro own ran
    have owned : own = _ := run_needed_cons inner encoding kind earlier rest first state
    have spread : ran = _ := run_lookUpAll_cons (inner.cached number) encoding first rest _
    rw [once] at spread
    rw [spread, owned]
    refine ⟨after, ended, last, fun key either => ?_, congrArg (· + 1) counted, ?_⟩
    · by_cases here : key = first
      · subst here
        rw [sits, found (either.resolve_right fun absent => absent List.mem_cons_self)]
      · have later : key ∈ first :: earlier ∨ key ∉ rest := either.imp
          (List.mem_cons_of_mem first) fun absent there => absent (List.mem_cons_of_mem first there)
        rw [stays key later, noted, if_neg here]
    · intro index key given listed present
      cases index with
      | zero =>
          cases listed
          cases present
          refine ⟨answered, sits, fun alone => ?_⟩
          have once : ¬((kind first).lasting = true ∧ first ∈ earlier) :=
            fun both => (alone both.1).1 both.2
          rw [if_neg once, passed once]
          rfl
      | succ index =>
          obtain ⟨answered, noted, consulted⟩ := all index key given listed present
          refine ⟨answered, noted, fun alone => ?_⟩
          rw [List.take_succ_cons] at alone ⊢
          rw [length_needed_cons kind earlier (rest.take index) first asked.1,
            List.getElem?_append_right (Nat.le_add_right _ _), Nat.add_sub_cancel_left]
          refine consulted fun lasts => ?_
          obtain ⟨before, absent⟩ := alone lasts
          obtain ⟨different, later⟩ := List.ne_and_not_mem_of_not_mem_cons absent
          exact ⟨fun either => (List.mem_cons.1 either).elim different before, later⟩

end Run

theorem tally_lookUpAll {inner : Asking} {encoding : TextEncoding} {key : CacheKey}
    {tally : MapperState → Nat}
    (counts : ∀ other state, tally ((inner (other.question encoding)).run.run state).2 =
      tally state + if other = key then 1 else 0)
    (keys : List CacheKey) (state : MapperState) :
    tally ((lookUpAll inner encoding keys).run state).2 = tally state + keys.count key := by
  induction keys generalizing state with
  | nil => rfl
  | cons first rest ih =>
    rw [run_lookUpAll_cons]
    dsimp only
    rw [ih, counts, List.count_cons]
    simp only [beq_iff_eq]
    omega

theorem find?_cached_of_ne {number : Nat} {inner : Asking} {question : Question}
    (ignores : (inner question).Ignores number) {key : CacheKey} (different : key ≠ question.key)
    {state : MapperState} (inside : number < state.caches.length) :
    (((inner.cached number question).run.run state).2.cache number).find? key =
      (state.cache number).find? key := by
  cases own : question.own with
  | some converter =>
    rw [Asking.cached, own]
    rfl
  | none =>
    have step := Asking.run_cached ignores inside (state.cache number) own
    have room := ignores.room state inside
    rw [MapperState.setCache_eq_self inside rfl] at step
    rw [step]
    dsimp only
    split
    next => rfl
    next => rw [MapperState.cache_setCache room]
    next => rw [MapperState.cache_setCache room, ConverterCache.find?_put, if_neg different]

theorem AnswerKind.of_run_ask {mapper : Mapper} (plain : mapper.caches = [])
    (encoding : TextEncoding) (key : CacheKey) (state : MapperState) :
    .of (((key.question encoding).ask mapper).run.run state).1 =
      ofBehaviour (mapper.answering {} key.way key.type ⟨key.annotations, encoding⟩) :=
  congrArg ofBehaviour (Mapper.steady_lookup _ _ _ mapper plain state).1

/-- A new cache asks the mapper behind it once about a key whose answer lasts, and at every look-up
about any other. It answers with what it was told then, the same at every look-up where the answer
lasts. What it does about one key has nothing to do with the others. -/
theorem consulted_as_needed {inner : Asking} {start : MapperState}
    (ignores : ∀ question, (inner question).Ignores start.caches.length)
    {encoding : TextEncoding} {kind : CacheKey → AnswerKind}
    (steady : ∀ key state, .of ((inner (key.question encoding)).run.run state).1 = kind key)
    (keys : List CacheKey) :
    let made := MapperState.newCache.run start
    let ran := (lookUpAll (inner.cached made.1) encoding keys).run made.2
    let own := (lookUpAll inner encoding (needed kind [] keys)).run made.2
    ran.2 = own.2.setCache made.1 (ran.2.cache made.1) ∧ ran.1.length = keys.length ∧
      (∀ (key : CacheKey) (tally : MapperState → Nat),
        (∀ state cells, tally (state.setCache made.1 cells) = tally state) →
        (∀ other state, tally ((inner (other.question encoding)).run.run state).2 =
          tally state + if other = key then 1 else 0) →
        tally ran.2 = tally made.2 +
          if (kind key).lasting = true then min 1 (keys.count key) else keys.count key) ∧
      (∀ (index : Nat) key answer, keys[index]? = some key → ran.1[index]? = some answer →
        .of answer = kind key ∧
        (((kind key).lasting = true → key ∉ keys.take index) →
          own.1[(needed kind [] (keys.take index)).length]? = some answer) ∧
        ((kind key).lasting = true → ∀ (other : Nat) again, keys[other]? = some key →
          ran.1[other]? = some again → again = answer)) ∧
      ∀ question key state, key ≠ question.key → made.1 < state.caches.length →
        (((inner.cached made.1 question).run.run state).2.cache made.1).find? key =
          (state.cache made.1).find? key := by
  intro made ran own
  obtain ⟨inside, fresh⟩ : made.1 < made.2.caches.length ∧ made.2.setCache made.1 [] = made.2 :=
    MapperState.fresh_newCache start
  have ignores (question : Question) : (inner question).Ignores made.1 := ignores question
  have knows : Knows kind [] [] := ⟨by simp, fun _ _ => rfl⟩
  obtain ⟨after, ended, room, -, counted, all⟩ := run_lookUps ignores steady keys knows inside
  rw [fresh] at ended counted all
  have ended : ran.2 = own.2.setCache made.1 after := ended
  have holds : ran.2.cache made.1 = after := by
    rw [ended, MapperState.cache_setCache room]
  refine ⟨by rw [holds]; exact ended, counted, ?_, ?_, ?_⟩
  · intro key tally blind counts
    rw [ended, blind, tally_lookUpAll counts, count_needed]
    simp
  · intro index key answer listed present
    obtain ⟨answered, noted, consulted⟩ := all index key answer listed present
    refine ⟨answered, fun alone => consulted fun lasts => ⟨List.not_mem_nil, alone lasts⟩, ?_⟩
    intro lasts other again known given
    obtain ⟨kinds, same, -⟩ := all other key again known given
    rw [noted] at same
    exact (CacheCell.eq_of_of_eq (answered ▸ lasts) (Option.some.inj same)
      (answered.trans kinds.symm)).symm
  · intro question key state different room
    exact find?_cached_of_ne (ignores question) different room

def freshIntegers : Mapper :=
  .chain [.building .int fun _ => { carrier := .int, convert := fun value _ => return value },
    .builtin]

theorem consulted_as_needed_mixed :
    let integer : CacheKey := ⟨.toNative, .int, .empty⟩
    let text : CacheKey := ⟨.fromNative, .text, .empty⟩
    let unknown : CacheKey := ⟨.fromNative, .text, ⟨[.encoding "klingon"]⟩⟩
    let inner : Asking := Question.ask freshIntegers
    let made := MapperState.newCache.run {}
    let ran := (lookUpAll (inner.cached made.1) .utf8
      [integer, text, unknown, integer, text, unknown]).run made.2
    let own := (lookUpAll inner .utf8 [integer, text, unknown, integer, unknown]).run made.2
    ran.2 = own.2.setCache made.1 (ran.2.cache made.1) ∧
      ∀ first again, ran.1[1]? = some first → ran.1[4]? = some again →
        own.1[1]? = some first ∧ again = first := by
  intro integer text unknown inner made ran own
  let keys := [integer, text, unknown, integer, text, unknown]
  let kind (key : CacheKey) : AnswerKind :=
    .ofBehaviour (freshIntegers.answering {} key.way key.type ⟨key.annotations, .utf8⟩)
  have passed : needed kind [] keys = [integer, text, unknown, integer, unknown] := by
    decide +kernel
  have absent : 0 ∉ freshIntegers.caches.map Prod.fst := by decide
  obtain ⟨effects, -, -, answers, -⟩ := @consulted_as_needed inner {} (Asking.ignores_ask absent)
    .utf8 kind (AnswerKind.of_run_ask rfl .utf8) keys
  rw [passed] at effects answers
  refine ⟨effects, fun first again given later => ?_⟩
  obtain ⟨-, consulted, shared⟩ := answers 1 text first rfl given
  exact ⟨consulted fun _ => by decide, shared (by decide +kernel) 4 again rfl later⟩

end ForeignCall
