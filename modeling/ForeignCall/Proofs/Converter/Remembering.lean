import ForeignCall.Proofs.Binding.Finding

/-! Histories of look-ups. A cache in front of a mapper answers every question as the mapper itself
does, unless an earlier question differed from it in nothing but the default encoding: a shareable
answer to the first such question serves the others too. -/

namespace ForeignCall

/-- What is asked about one value of a declaration, which may bring a converter of its own. -/
structure Question where
  way : Way
  type : HostType
  context : ConversionContext
  own : Option Converter := none

namespace Question

def key (question : Question) : CacheKey :=
  ⟨question.way, question.type, question.context.annotations⟩

def ask (mapper : Mapper) (question : Question) : Act MapperState (Option Converter) :=
  match question.own with
  | some converter => return some converter
  | none => mapper.lookup question.way question.type question.context

end Question

theorem Pipeline.choose_eq_ask (pipeline : Pipeline) (question : Question) :
    pipeline.choose question.way question.own question.type question.context =
      question.ask pipeline.mapper := by
  obtain ⟨way, type, context, own⟩ := question
  cases own <;> rfl

def askAll (ask : Question → Act MapperState (Option Converter)) (questions : List Question) :
    StateM MapperState (List (Except Fault (Option Converter))) :=
  questions.mapM fun question => (ask question).run

def behaviour (answer : Except Fault (Option Converter)) : Except Fault (Option ConverterBody) :=
  answer.map (·.map (·.toConverterBody))

def Mapper.alone (mapper : Mapper) (question : Question) : Except Fault (Option ConverterBody) :=
  behaviour ((question.ask mapper).run.run {}).1

/-- An answer for later questions as well: a converter that allows it, or that there is none. -/
def shareable : Except Fault (Option ConverterBody) → Bool
  | .ok found => found.all (·.cacheable)
  | .error _ => false

/-- A question that does not fail fixes what a cache does about its key. -/
def settles (uncached : Question → Except Fault (Option ConverterBody)) (key : CacheKey)
    (question : Question) : Bool :=
  question.own.isNone && decide (question.key = key) && (uncached question).isOk

/-- The question whose answer a cache gives, after some earlier questions. -/
def governing (uncached : Question → Except Fault (Option ConverterBody))
    (earlier : List Question) (question : Question) : Question :=
  if question.own.isSome then question
  else
    match earlier.find? (settles uncached question.key) with
    | some first => if shareable (uncached first) then first else question
    | none => question

/-- Answers are those of the governing questions. They are those of the questions themselves as long
as the earlier questions of a key had the same default encoding, or would have been answered alike
anyway. -/
structure AnsweredFirst (uncached : Question → Except Fault (Option ConverterBody))
    (questions : List Question) (answers : List (Except Fault (Option Converter))) : Prop where
  counted : answers.length = questions.length
  governed : ∀ (index : Nat) question answer, questions[index]? = some question →
    answers[index]? = some answer →
      behaviour answer = uncached (governing uncached (questions.take index) question)
  transparent : ∀ (index : Nat) question answer, questions[index]? = some question →
    answers[index]? = some answer →
      (∀ other ∈ questions.take index, other.own = none → other.key = question.key →
        other.context.encoding = question.context.encoding ∨
          uncached other = uncached question) →
        behaviour answer = uncached question

namespace Mapper

def Steady (mapper : Mapper) (answers : Answering) : Prop :=
  ∀ way type context state,
    behaviour ((mapper.lookup way type context).run.run state).1 = answers way type context ∧
      ((mapper.lookup way type context).run.run state).2.caches = state.caches

theorem steady_lookupFirst_cons {head : Mapper} {rest : List Mapper} {way : Way} {type : HostType}
    {context : ConversionContext} {state : MapperState}
    (first : behaviour ((head.lookup way type context).run.run state).1 =
        head.answering {} way type context ∧
      ((head.lookup way type context).run.run state).2.caches = state.caches)
    (others : ∀ state, behaviour ((lookupFirst way type context rest).run.run state).1 =
        answeringFirst {} rest way type context ∧
      ((lookupFirst way type context rest).run.run state).2.caches = state.caches) :
    behaviour ((lookupFirst way type context (head :: rest)).run.run state).1 =
        answeringFirst {} (head :: rest) way type context ∧
      ((lookupFirst way type context (head :: rest)).run.run state).2.caches = state.caches := by
  obtain ⟨answered, kept⟩ := first
  simp only [lookupFirst, answeringFirst, ← answered]
  rw [Act.run_bind]
  generalize (head.lookup way type context).run.run state = asked at *
  obtain ⟨outcome, after⟩ : Except Fault (Option Converter) × MapperState := asked
  rcases outcome with fault | found
  · exact ⟨rfl, kept⟩
  · cases found with
    | some converter => exact ⟨rfl, kept⟩
    | none =>
        obtain ⟨same, unchanged⟩ := others after
        exact ⟨same, unchanged.trans kept⟩

mutual

theorem steady_lookup (way : Way) (type : HostType) (context : ConversionContext) :
    (mapper : Mapper) → mapper.caches = [] → (state : MapperState) →
      behaviour ((mapper.lookup way type context).run.run state).1 =
          mapper.answering {} way type context ∧
        ((mapper.lookup way type context).run.run state).2.caches = state.caches
  | builtin, _, state => by
    simp only [lookup, answering]
    cases ConverterBody.builtin? way type context with
    | error fault => exact ⟨rfl, rfl⟩
    | ok found => cases found <;> exact ⟨rfl, rfl⟩
  | fixed answer, _, state => by
    simp only [lookup, answering]
    cases answer way type context <;> exact ⟨rfl, rfl⟩
  | building known body, _, state => by
    simp only [lookup, answering]
    split <;> exact ⟨rfl, rfl⟩
  | chain mappers, plain, state => by
    simpa only [lookup, answering] using steady_lookupFirst way type context mappers plain state

theorem steady_lookupFirst (way : Way) (type : HostType) (context : ConversionContext) :
    (mappers : List Mapper) → cachesOf mappers = [] → (state : MapperState) →
      behaviour ((lookupFirst way type context mappers).run.run state).1 =
          answeringFirst {} mappers way type context ∧
        ((lookupFirst way type context mappers).run.run state).2.caches = state.caches
  | [], _, _ => ⟨rfl, rfl⟩
  | mapper :: rest, plain, state => by
    obtain ⟨first, others⟩ := List.append_eq_nil_iff.1 plain
    exact steady_lookupFirst_cons (steady_lookup way type context mapper first state)
      (steady_lookupFirst way type context rest others)

end

theorem steady_of_caches {mapper : Mapper} (plain : mapper.caches = []) :
    mapper.Steady (mapper.answering {}) :=
  fun way type context state => steady_lookup way type context mapper plain state

theorem Steady.alone {mapper : Mapper} {answers : Answering} (steady : mapper.Steady answers)
    {question : Question} (mapped : question.own = none) :
    mapper.alone question = answers question.way question.type question.context := by
  rw [Mapper.alone, Question.ask, mapped]
  exact (steady question.way question.type question.context {}).1

end Mapper

inductive CacheCell.Fits (uncached : Question → Except Fault (Option ConverterBody)) :
    Option Question → Option CacheCell → Prop
  | absent : Fits uncached none none
  | unsettled : Fits uncached none (some .unsettled)
  | shared {first : Question} {found : Option Converter}
      (same : .ok (found.map (·.toConverterBody)) = uncached first)
      (allowed : shareable (uncached first) = true) :
      Fits uncached (some first) (some (.shared found))
  | perUse {first : Question} (refused : shareable (uncached first) = false) :
      Fits uncached (some first) (some .perUse)

def ConverterCache.Remembers (uncached : Question → Except Fault (Option ConverterBody))
    (asked : List Question) (cache : ConverterCache) : Prop :=
  ∀ key, CacheCell.Fits uncached (asked.find? (settles uncached key)) (cache.find? key)

theorem find?_settles_append (uncached : Question → Except Fault (Option ConverterBody))
    (asked : List Question) (question : Question) (key : CacheKey) :
    (asked ++ [question]).find? (settles uncached key) =
      (asked.find? (settles uncached key)).or
        (if settles uncached key question then some question else none) := by
  rw [List.find?_append, List.find?_singleton]

namespace ConverterCache.Remembers

variable {uncached : Question → Except Fault (Option ConverterBody)} {asked : List Question}
  {cache after : ConverterCache} {question : Question}

theorem of_open (remembers : cache.Remembers uncached asked)
    (idle : ∀ key, settles uncached key question = false) :
    cache.Remembers uncached (asked ++ [question]) := by
  intro key
  rw [find?_settles_append, idle key, if_neg Bool.false_ne_true, Option.or_none]
  exact remembers key

theorem ask (remembers : cache.Remembers uncached asked)
    (elsewhere : ∀ key, key ≠ question.key → after.find? key = cache.find? key)
    (here : CacheCell.Fits uncached ((asked ++ [question]).find? (settles uncached question.key))
      (after.find? question.key)) : after.Remembers uncached (asked ++ [question]) := by
  intro key
  by_cases same : key = question.key
  · rw [same]
    exact here
  · have idle : settles uncached key question = false := by
      simp [settles, Ne.symm same]
    rw [find?_settles_append, idle, if_neg Bool.false_ne_true, Option.or_none, elsewhere key same]
    exact remembers key

end ConverterCache.Remembers

theorem run_ask_caching {question : Question} (mapped : question.own = none) (number : Nat)
    (inner : Mapper) (state : MapperState) :
    (question.ask (.caching number inner)).run.run state =
      match (state.cache number).find? question.key with
      | some (.shared found) => (.ok found, state)
      | some .perUse => (question.ask inner).run.run state
      | _ => (Mapper.fileAnswer number question.key (question.ask inner)).run.run state := by
  obtain ⟨way, type, context, own⟩ := question
  cases mapped
  exact Mapper.run_lookupCached number way type context (inner.lookup way type context) state

section Step

variable {inner : Mapper} {answers : Answering} (steady : inner.Steady answers) {number : Nat}
  {asked : List Question} {question : Question} (mapped : question.own = none)
include steady mapped

theorem run_ask_steady (state : MapperState) :
    behaviour ((question.ask inner).run.run state).1 = inner.alone question ∧
      ((question.ask inner).run.run state).2.caches = state.caches := by
  rw [steady.alone mapped, Question.ask, mapped]
  exact steady question.way question.type question.context state

theorem run_fileAnswer_steady {state : MapperState} (inside : number < state.caches.length)
    (remembers : (state.cache number).Remembers inner.alone asked)
    (unsettled : asked.find? (settles inner.alone question.key) = none) :
    let run := (Mapper.fileAnswer number question.key (question.ask inner)).run.run state
    behaviour run.1 = inner.alone question ∧
      (run.2.cache number).Remembers inner.alone (asked ++ [question]) ∧
        run.2.caches.length = state.caches.length := by
  rw [Mapper.run_fileAnswer]
  have reads (key : CacheKey) := state.find?_putCell number number question.key key .unsettled
  have room : ((MapperState.putCell number question.key .unsettled).run state).2.caches.length =
      state.caches.length := List.length_modify _ _ _
  generalize ((MapperState.putCell number question.key .unsettled).run state).2 = opened at *
  obtain ⟨answered, kept⟩ := run_ask_steady steady mapped opened
  generalize (question.ask inner).run.run opened = ran at *
  obtain ⟨outcome, after⟩ : Except Fault (Option Converter) × MapperState := ran
  have same (key : CacheKey) : (after.cache number).find? key =
      if key = question.key then some .unsettled else (state.cache number).find? key := by
    have agrees : after.cache number = opened.cache number := congrArg (·[number]?.getD []) kept
    rw [agrees]
    simpa [inside] using reads key
  cases outcome with
  | error fault =>
      refine ⟨answered, remembers.ask (fun key different => ?_) ?_, ?_⟩
      · rw [same, if_neg different]
      · have failed : settles inner.alone question.key question = false := by
          rw [settles, ← answered]
          simp [behaviour, Except.map, Except.isOk, Except.toBool]
        rw [find?_settles_append, unsettled, failed, same, if_pos rfl]
        exact .unsettled
      · rw [kept, room]
  | ok found =>
      have there : number < after.caches.length := by
        rw [kept, room]
        exact inside
      have filed (cell : CacheCell) (key : CacheKey) :
          (((MapperState.putCell number question.key cell).run after).2.cache number).find? key =
            if key = question.key then some cell else (state.cache number).find? key := by
        rw [MapperState.find?_putCell, same]
        by_cases here : key = question.key <;> simp [here, there]
      refine ⟨answered, remembers.ask (fun key different => ?_) ?_, ?_⟩
      · rw [filed, if_neg different]
      · have settled : settles inner.alone question.key question = true := by
          rw [settles, ← answered, mapped]
          simp [behaviour, Except.map, Except.isOk, Except.toBool]
        have allows : shareable (inner.alone question) = found.all (·.cacheable) := by
          rw [← answered]
          cases found <;> rfl
        rw [find?_settles_append, unsettled, settled, filed, if_pos rfl, if_pos rfl]
        split
        next shared => exact .shared answered (allows.trans shared)
        next refused => exact .perUse (allows.trans (eq_false_of_ne_true refused))
      · change (after.caches.modify number _).length = _
        rw [List.length_modify, kept, room]

/-- A question to a cache is answered as its governing question, and becomes part of what the cache
remembers. -/
theorem run_ask_remembers {state : MapperState} (inside : number < state.caches.length)
    (remembers : (state.cache number).Remembers inner.alone asked) :
    let run := (question.ask (.caching number inner)).run.run state
    behaviour run.1 = inner.alone (governing inner.alone asked question) ∧
      (run.2.cache number).Remembers inner.alone (asked ++ [question]) ∧
        run.2.caches.length = state.caches.length := by
  have governed : governing inner.alone asked question =
      match asked.find? (settles inner.alone question.key) with
      | some first => if shareable (inner.alone first) then first else question
      | none => question := by
    rw [governing, mapped]
    rfl
  have fits := remembers question.key
  rw [run_ask_caching mapped, governed]
  generalize settling : asked.find? (settles inner.alone question.key) = settled at fits
  generalize (state.cache number).find? question.key = cell at fits
  -- once a key is settled, its cell stays as it is
  have stays (after : MapperState) (kept : after.caches = state.caches) {first : Question}
      (known : asked.find? (settles inner.alone question.key) = some first) :
      (after.cache number).Remembers inner.alone (asked ++ [question]) := by
    have same : after.cache number = state.cache number := congrArg (·[number]?.getD []) kept
    rw [same]
    refine remembers.ask (fun _ _ => rfl) ?_
    have fits := remembers question.key
    rw [find?_settles_append, known, Option.some_or]
    rwa [known] at fits
  cases fits with
  | absent | unsettled => exact run_fileAnswer_steady steady mapped inside remembers settling
  | shared same allowed =>
      dsimp only
      rw [if_pos allowed]
      exact ⟨same, stays state rfl settling, rfl⟩
  | perUse refused =>
      dsimp only
      rw [refused, if_neg Bool.false_ne_true]
      obtain ⟨answered, kept⟩ := run_ask_steady steady mapped state
      exact ⟨answered, stays _ kept settling, congrArg List.length kept⟩

end Step

theorem run_ask_own_remembers {inner : Mapper} {answers : Answering} (steady : inner.Steady answers)
    {number : Nat} {asked : List Question} (question : Question) {state : MapperState}
    (inside : number < state.caches.length)
    (remembers : (state.cache number).Remembers inner.alone asked) :
    let run := (question.ask (.caching number inner)).run.run state
    behaviour run.1 = inner.alone (governing inner.alone asked question) ∧
      (run.2.cache number).Remembers inner.alone (asked ++ [question]) ∧
        run.2.caches.length = state.caches.length := by
  cases own : question.own with
  | none => exact run_ask_remembers steady own inside remembers
  | some converter =>
      have idle (key : CacheKey) : settles inner.alone key question = false := by
        simp [settles, own]
      have itself : governing inner.alone asked question = question := by simp [governing, own]
      rw [itself]
      simp only [Question.ask, Mapper.alone, own]
      exact ⟨rfl, remembers.of_open idle, rfl⟩

theorem run_askAll_cons (ask : Question → Act MapperState (Option Converter)) (question : Question)
    (rest : List Question) (state : MapperState) :
    (askAll ask (question :: rest)).run state =
      let once := (ask question).run.run state
      let later := (askAll ask rest).run once.2
      (once.1 :: later.1, later.2) := by
  rw [askAll, List.mapM_cons]
  rfl

theorem governed_of_remembers {inner : Mapper} {answers : Answering} (steady : inner.Steady answers)
    {number : Nat} (questions : List Question) {asked : List Question} {state : MapperState}
    (inside : number < state.caches.length)
    (remembers : (state.cache number).Remembers inner.alone asked) :
    let given := ((askAll (·.ask (.caching number inner)) questions).run state).1
    given.length = questions.length ∧ ∀ (index : Nat) question answer,
      questions[index]? = some question → given[index]? = some answer →
        behaviour answer =
          inner.alone (governing inner.alone (asked ++ questions.take index) question) := by
  induction questions generalizing asked state with
  | nil => exact ⟨rfl, by simp⟩
  | cons first rest ih =>
      rw [run_askAll_cons]
      obtain ⟨answered, remembers, room⟩ := run_ask_own_remembers steady first inside remembers
      obtain ⟨counted, governed⟩ := ih (room ▸ inside) remembers
      refine ⟨congrArg (· + 1) counted, ?_⟩
      intro index question answer known present
      cases index with
      | zero =>
          cases known
          cases present
          rw [List.take_zero, List.append_nil]
          exact answered
      | succ index =>
          have later := governed index question answer known present
          rwa [List.append_assoc] at later

/-- A governing question differs in nothing but the default encoding. -/
theorem governing_cases (uncached : Question → Except Fault (Option ConverterBody))
    (earlier : List Question) (question : Question) :
    governing uncached earlier question = question ∨ question.own = none ∧
      ∃ first ∈ earlier, governing uncached earlier question = first ∧ first.own = none ∧
        first.key = question.key := by
  rw [governing]
  split
  next => exact .inl rfl
  next mapped =>
    split
    next first found =>
      have settled := List.find?_some found
      simp only [settles, Bool.and_eq_true, Option.isNone_iff_eq_none, decide_eq_true_eq] at settled
      split
      next =>
        have unowned : question.own = none := by simpa using mapped
        exact .inr ⟨unowned, first, List.mem_of_find?_eq_some found, rfl, settled.1⟩
      next => exact .inl rfl
    next => exact .inl rfl

theorem Question.eq_of_key {first question : Question} (unowned : question.own = none)
    (mapped : first.own = none) (key : first.key = question.key)
    (encoding : first.context.encoding = question.context.encoding) : first = question := by
  obtain ⟨way, type, ⟨annotations, default⟩, own⟩ := first
  obtain ⟨other, kind, ⟨extra, usual⟩, brought⟩ := question
  cases unowned
  cases mapped
  cases key
  cases encoding
  rfl

theorem answeredFirst_of_steady {inner : Mapper} {answers : Answering}
    (steady : inner.Steady answers) {number : Nat} {state : MapperState}
    (inside : number < state.caches.length) (fresh : state.cache number = [])
    (questions : List Question) :
    AnsweredFirst inner.alone questions
      ((askAll (·.ask (.caching number inner)) questions).run state).1 := by
  have remembers : (state.cache number).Remembers inner.alone [] := fun key => by
    rw [fresh]
    exact .absent
  obtain ⟨counted, governed⟩ := governed_of_remembers steady questions inside remembers
  refine ⟨counted, governed, ?_⟩
  intro index question answer known present alike
  refine (governed index question answer known present).trans ?_
  rw [List.nil_append]
  rcases governing_cases inner.alone (questions.take index) question with
    itself | ⟨unowned, first, earlier, governs, mapped, key⟩
  · rw [itself]
  · rw [governs]
    rcases alike first earlier mapped key with encoding | same
    · rw [Question.eq_of_key unowned mapped key encoding]
    · exact same

/-- Where no mapper was added that knows texts, they are converted by the encoding that their
context selects. -/
theorem alone_text {custom : Option Mapper}
    (silent : ∀ way context, (Mapper.chain custom.toList).alone ⟨way, .text, context, none⟩ =
      .ok none)
    (way : Way) (context : ConversionContext) :
    (Mapper.chain (custom.toList ++ [.builtin])).alone ⟨way, .text, context, none⟩ =
      (ConverterBody.contextEncoding context).map fun encoding => some (.text encoding way) := by
  have builtin (state : MapperState) :
      behaviour ((Mapper.lookupFirst way .text context [.builtin]).run.run state).1 =
        (ConverterBody.contextEncoding context).map fun encoding => some (.text encoding way) := by
    simp only [Mapper.lookupFirst, Mapper.lookup, ConverterBody.builtin?]
    cases ConverterBody.contextEncoding context <;> rfl
  have missing := silent way context
  simp only [Mapper.alone, Question.ask, Mapper.lookup] at missing ⊢
  cases custom with
  | none => exact builtin {}
  | some mapper =>
      simp only [Option.toList_some, List.singleton_append] at missing ⊢
      rw [Mapper.lookupFirst, Act.run_bind] at missing ⊢
      generalize (mapper.lookup way .text context).run.run {} = asked at *
      obtain ⟨outcome, after⟩ : Except Fault (Option Converter) × MapperState := asked
      rcases outcome with fault | found
      · cases missing
      · cases found with
        | some converter => cases missing
        | none => exact builtin after

theorem contextEncoding_of_labelled {first second : ConversionContext}
    (same : first.annotations = second.annotations)
    (labelled : second.annotations.encoding?.isSome = true) :
    ConverterBody.contextEncoding first = ConverterBody.contextEncoding second := by
  obtain ⟨label, known⟩ := Option.isSome_iff_exists.1 labelled
  simp only [ConverterBody.contextEncoding, same, known]

/-- Look-ups in a cache, or in a pipeline, are answered as the mapper behind it answers the first of
their key, if that may be shared, and else as it answers themselves. Texts get the encoding of their
own context where an annotation names it, or where the default has always been the same. -/
theorem lookups_answered_first {inner : Mapper} (plain : inner.caches = [])
    {custom : Option Mapper} (plainCustom : ∀ mapper ∈ custom, mapper.caches = [])
    (state : MapperState) (questions : List Question) :
    let cached := MapperState.newCache.run state
    let piped := (Pipeline.create custom).run state
    let answers := ((askAll (fun question => piped.1.choose question.way question.own
      question.type question.context) questions).run piped.2).1
    AnsweredFirst inner.alone questions
        ((askAll (·.ask (.caching cached.1 inner)) questions).run cached.2).1 ∧
      AnsweredFirst (Mapper.chain (custom.toList ++ [.builtin])).alone questions answers ∧
        ((∀ way context, (Mapper.chain custom.toList).alone ⟨way, .text, context, none⟩ =
            .ok none) →
          ∀ (index : Nat) question answer, questions[index]? = some question →
            answers[index]? = some answer → question.own = none → question.type = .text →
              (question.context.annotations.encoding?.isSome = true ∨
                ∀ other ∈ questions.take index, other.key = question.key →
                  other.context.encoding = question.context.encoding) →
                behaviour answer = (ConverterBody.contextEncoding question.context).map
                  fun encoding => some (.text encoding question.way)) := by
  have behind {mapper : Mapper} (plain : mapper.caches = []) :
      AnsweredFirst mapper.alone questions ((askAll
        (·.ask (.caching (MapperState.newCache.run state).1 mapper)) questions).run
          (MapperState.newCache.run state).2).1 := by
    refine answeredFirst_of_steady (Mapper.steady_of_caches plain) ?_ ?_ questions
    · change state.caches.length < (state.caches ++ [[]]).length
      simp
    · change (state.caches ++ [[]])[state.caches.length]?.getD [] = []
      simp
  have plainChain : (Mapper.chain (custom.toList ++ [.builtin])).caches = [] := by
    cases custom with
    | none => rfl
    | some mapper =>
        change mapper.caches ++ [] = []
        rw [List.append_nil, plainCustom mapper rfl]
  intro cached piped answers
  refine ⟨behind plain, ?_⟩
  have answered : AnsweredFirst (Mapper.chain (custom.toList ++ [.builtin])).alone questions
      answers := by
    have asks : (fun question : Question => piped.1.choose question.way question.own question.type
        question.context) = Question.ask piped.1.mapper :=
      funext (Pipeline.choose_eq_ask piped.1)
    simp only [answers, asks]
    exact behind plainChain
  refine ⟨answered, ?_⟩
  intro silent index question answer known present unowned text selects
  rw [answered.transparent index question answer known present ?_]
  · obtain ⟨way, type, context, own⟩ := question
    cases unowned
    cases text
    exact alone_text silent way context
  · intro other earlier mapped key
    rcases selects with labelled | defaults
    · refine .inr ?_
      obtain ⟨way, type, context, own⟩ := question
      obtain ⟨otherWay, otherType, otherContext, otherOwn⟩ := other
      cases unowned
      cases mapped
      cases text
      obtain ⟨rfl, typed, annotations⟩ := CacheKey.mk.inj key
      cases (typed : otherType = .text)
      rw [alone_text silent, alone_text silent, contextEncoding_of_labelled annotations labelled]
    · exact .inl (defaults other earlier key)

def Question.passing (encoding : TextEncoding) : Question :=
  { way := .toNative, type := .text, context := ⟨.empty, encoding⟩ }

/-- A text in UTF-16, twice. -/
theorem lookups_answered_first_wide :
    let questions := [Question.passing .utf16le, .passing .utf16le]
    let cached := MapperState.newCache.run {}
    let piped := (Pipeline.create none).run {}
    let answers := ((askAll (fun question => piped.1.choose question.way question.own
      question.type question.context) questions).run piped.2).1
    AnsweredFirst Mapper.builtin.alone questions
        ((askAll (·.ask (.caching cached.1 .builtin)) questions).run cached.2).1 ∧
      AnsweredFirst (Mapper.chain [.builtin]).alone questions answers ∧
        ∀ answer, answers[1]? = some answer →
          behaviour answer = .ok (some (.text .utf16le .toNative)) := by
  intro questions cached piped answers
  obtain ⟨alone, chained, texts⟩ :=
    @lookups_answered_first .builtin rfl none (by simp) {} questions
  refine ⟨alone, chained, fun answer present => ?_⟩
  refine texts (fun _ _ => rfl) 1 (.passing .utf16le) answer rfl present rfl rfl (.inr ?_)
  intro other earlier _
  obtain rfl : other = .passing .utf16le := by simpa [questions] using earlier
  rfl

def arraysAfter (answer : Except Fault (Option ConverterBody)) (text : String)
    (context : ConversionContext) : List Elements :=
  match answer with
  | .ok (some body) => ((body.convert (.text text) context).run.run {}).2.heap.arrays
  | _ => []

/-- After a question in UTF-8, the same question in UTF-16 gets a converter to UTF-8. -/
theorem default_encoding_forgotten :
    let cached := MapperState.newCache.run {}
    let wide := Question.passing .utf16le
    let answers := ((askAll (·.ask (.caching cached.1 .builtin)) [.passing .utf8, wide]).run
      cached.2).1
    ∃ answer, answers[1]? = some answer ∧
      arraysAfter (behaviour answer) "é" wide.context = [.bytes [-61, -87, 0, 0, 0, 0]] ∧
        arraysAfter (Mapper.builtin.alone wide) "é" wide.context =
          [.bytes [-23, 0, 0, 0, 0, 0]] := by
  refine ⟨_, rfl, ?_, ?_⟩ <;> decide +kernel

end ForeignCall
