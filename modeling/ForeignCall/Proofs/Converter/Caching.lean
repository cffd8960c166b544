import ForeignCall.Proofs.Converter.Remembering

/-! A cache in front of anything that can be asked for converters. What its cells hold depends on
nothing but the answers that it gets; all else is left as the one behind it leaves it. -/

namespace ForeignCall

namespace MapperState

variable {state : MapperState} {number : Nat}

def setCache (state : MapperState) (number : Nat) (cells : ConverterCache) : MapperState :=
  { state with caches := state.caches.set number cells }

theorem cache_setCache (inside : number < state.caches.length) (cells : ConverterCache) :
    (state.setCache number cells).cache number = cells := by
  rw [cache, setCache, List.getElem?_set_self inside]
  rfl

theorem cache_setCache_of_ne {other : Nat} (different : other ≠ number) (cells : ConverterCache) :
    (state.setCache number cells).cache other = state.cache other := by
  rw [cache, setCache, List.getElem?_set_ne different.symm]
  rfl

theorem length_setCache (cells : ConverterCache) :
    (state.setCache number cells).caches.length = state.caches.length :=
  List.length_set

theorem setCache_eq_self {cells : ConverterCache} (inside : number < state.caches.length)
    (holds : state.cache number = cells) : state.setCache number cells = state := by
  rw [cache, List.getElem?_eq_getElem inside] at holds
  subst holds
  rw [setCache]
  congr 1
  exact List.set_getElem_self inside

theorem fresh_newCache (start : MapperState) :
    let made := newCache.run start
    made.1 < made.2.caches.length ∧ made.2.setCache made.1 [] = made.2 := by
  intro made
  have inside : made.1 < made.2.caches.length := by
    change start.caches.length < (start.caches ++ [[]]).length
    simp
  refine ⟨inside, setCache_eq_self inside ?_⟩
  change (start.caches ++ [[]])[start.caches.length]?.getD [] = []
  simp

theorem run_putCell_setCache (inside : number < state.caches.length) (cells : ConverterCache)
    (key : CacheKey) (cell : CacheCell) :
    ((putCell number key cell).run (state.setCache number cells)).2 =
      state.setCache number (cells.put key cell) := by
  change ({ state with caches := (state.caches.set number cells).modify number _ } :
    MapperState) = _
  rw [List.modify_eq_set_getElem?, List.getElem?_set_self inside]
  exact congrArg (fun caches => { state with caches }) (List.set_set ..)

theorem run_putCell_of_ne {other : Nat} (different : other ≠ number) (cells : ConverterCache)
    (key : CacheKey) (cell : CacheCell) :
    ((putCell other key cell).run (state.setCache number cells)).2 =
      (((putCell other key cell).run state).2).setCache number cells := by
  change ({ state with caches := (state.caches.set number cells).modify other _ } :
    MapperState) = { state with caches := (state.caches.modify other _).set number cells }
  congr 1
  rw [List.modify_eq_set_getElem?, List.modify_eq_set_getElem?, List.getElem?_set_ne different.symm]
  cases state.caches[other]? with
  | none => rfl
  | some found => exact List.set_comm _ _ different.symm

end MapperState

namespace Act

variable {Result Final : Type} {number : Nat}

/-- An effect that has nothing to do with a cache: it goes as with any other cells in it, and leaves
them as they are. -/
structure Ignores (number : Nat) (action : Act MapperState Result) : Prop where
  room (state : MapperState) : number < state.caches.length →
    number < (action.run.run state).2.caches.length
  frame (state : MapperState) (cells : ConverterCache) :
    action.run.run (state.setCache number cells) =
      ((action.run.run state).1, (action.run.run state).2.setCache number cells)

namespace Ignores

theorem pure (result : Result) : Ignores number (Pure.pure result : Act MapperState Result) :=
  ⟨fun _ inside => inside, fun _ _ => rfl⟩

theorem ofExcept (outcome : Except Fault Result) :
    Ignores number (liftM outcome : Act MapperState Result) := by
  cases outcome <;> exact ⟨fun _ inside => inside, fun _ _ => rfl⟩

theorem bind {action : Act MapperState Result} {next : Result → Act MapperState Final}
    (first : action.Ignores number) (others : ∀ result, (next result).Ignores number) :
    (action >>= next).Ignores number := by
  constructor
  · intro state inside
    have between := first.room state inside
    rw [run_bind]
    generalize action.run.run state = ran at between
    obtain ⟨outcome, after⟩ : Except Fault Result × MapperState := ran
    cases outcome with
    | ok result => exact (others result).room after between
    | error fault => exact between
  · intro state cells
    rw [run_bind, run_bind, first.frame]
    generalize action.run.run state = ran
    obtain ⟨outcome, after⟩ : Except Fault Result × MapperState := ran
    cases outcome with
    | ok result => exact (others result).frame after cells
    | error fault => rfl

theorem instantiate (body : ConverterBody) :
    Ignores number (liftM (MapperState.instantiate body) : Act MapperState Converter) :=
  ⟨fun _ inside => inside, fun _ _ => rfl⟩

theorem putCell {other : Nat} (different : other ≠ number) (key : CacheKey) (cell : CacheCell) :
    Ignores number (liftM (MapperState.putCell other key cell) : Act MapperState Unit) where
  room state inside := by
    change number < (state.caches.modify other _).length
    rwa [List.length_modify]
  frame state cells := congrArg (Except.ok (), ·) (MapperState.run_putCell_of_ne different ..)

end Ignores

end Act

namespace Mapper

variable {number : Nat} (way : Way) (type : HostType) (context : ConversionContext)

theorem ignores_fileAnswer {other : Nat} (different : other ≠ number) (key : CacheKey)
    {inner : Act MapperState (Option Converter)} (behind : inner.Ignores number) :
    (fileAnswer other key inner).Ignores number := by
  refine .bind (.putCell different key .unsettled) fun _ => .bind behind fun found => ?_
  exact .bind (.putCell different key _) fun _ => .pure found

theorem ignores_lookupCached {other : Nat} (different : other ≠ number)
    {inner : Act MapperState (Option Converter)} (behind : inner.Ignores number) :
    (lookupCached other way type context inner).Ignores number := by
  have filing := ignores_fileAnswer different ⟨way, type, context.annotations⟩ behind
  constructor
  · intro state inside
    rw [run_lookupCached]
    split
    next => exact inside
    next => exact behind.room state inside
    next => exact filing.room state inside
  · intro state cells
    rw [run_lookupCached, run_lookupCached, MapperState.cache_setCache_of_ne different]
    split
    next => rfl
    next => exact behind.frame state cells
    next => exact filing.frame state cells

mutual

theorem ignores_lookup : (mapper : Mapper) → number ∉ mapper.caches.map Prod.fst →
    (mapper.lookup way type context).Ignores number
  | builtin, _ => by
    rw [lookup]
    refine .bind (.ofExcept _) fun found => ?_
    cases found with
    | some body => exact .bind (.instantiate body) fun _ => .pure _
    | none => exact .pure none
  | fixed answer, _ => by
    rw [lookup]
    exact .ofExcept _
  | building known body, _ => by
    rw [lookup]
    split
    · refine .bind ⟨fun _ inside => inside, fun _ _ => rfl⟩ fun _ => ?_
      exact .bind (.instantiate (body way)) fun _ => .pure _
    · exact .pure none
  | chain mappers, absent => by
    rw [lookup]
    exact ignores_lookupFirst mappers absent
  | caching cache inner, absent => by
    rw [lookup]
    obtain ⟨different, others⟩ := List.ne_and_not_mem_of_not_mem_cons absent
    exact ignores_lookupCached way type context different.symm (ignores_lookup inner others)

theorem ignores_lookupFirst : (mappers : List Mapper) → number ∉ (cachesOf mappers).map Prod.fst →
    (lookupFirst way type context mappers).Ignores number
  | [], _ => .pure none
  | mapper :: rest, absent => by
    rw [cachesOf, List.map_append, List.mem_append, not_or] at absent
    rw [lookupFirst]
    refine .bind (ignores_lookup mapper absent.1) fun found => ?_
    cases found with
    | some converter => exact .pure _
    | none => exact ignores_lookupFirst rest absent.2

end

end Mapper

def CacheCell.of : Except Fault (Option Converter) → CacheCell
  | .error _ => .unsettled
  | .ok found => if found.all (·.cacheable) then .shared found else .perUse

theorem ConverterCache.put_put (cells : ConverterCache) (key : CacheKey)
    (first second : CacheCell) : (cells.put key first).put key second = cells.put key second := by
  induction cells with
  | nil => simp [put]
  | cons head rest ih =>
    obtain ⟨head, old⟩ := head
    by_cases same : head = key
    · simp [put, same]
    · simp [put, same, ih]

/-- Whatever can be asked for converters. -/
abbrev Asking := Question → Act MapperState (Option Converter)

namespace Asking

def cached (number : Nat) (inner : Asking) : Asking := fun question =>
  match question.own with
  | some converter => return some converter
  | none => Mapper.lookupCached number question.way question.type question.context (inner question)

theorem ask_caching (number : Nat) (mapper : Mapper) :
    Question.ask (.caching number mapper) = cached number (Question.ask mapper) := by
  funext question
  obtain ⟨way, type, context, own⟩ := question
  cases own <;> rfl

theorem ignores_ask {number : Nat} {mapper : Mapper}
    (absent : number ∉ mapper.caches.map Prod.fst) (question : Question) :
    (question.ask mapper).Ignores number := by
  obtain ⟨way, type, context, own⟩ := question
  cases own with
  | some converter => exact .pure _
  | none => exact Mapper.ignores_lookup way type context mapper absent

section Run

variable {number : Nat} {inner : Asking} {question : Question}
  (ignores : (inner question).Ignores number) {state : MapperState}
  (inside : number < state.caches.length) (cells : ConverterCache)
include ignores inside

theorem run_fileAnswer_setCache (key : CacheKey) :
    (Mapper.fileAnswer number key (inner question)).run.run (state.setCache number cells) =
      let asked := (inner question).run.run state
      (asked.1, asked.2.setCache number (cells.put key (.of asked.1))) := by
  have room := ignores.room state inside
  rw [Mapper.run_fileAnswer, MapperState.run_putCell_setCache inside, ignores.frame]
  generalize (inner question).run.run state = asked at room
  obtain ⟨outcome, after⟩ : Except Fault (Option Converter) × MapperState := asked
  cases outcome with
  | error fault => rfl
  | ok found =>
    dsimp only
    rw [MapperState.run_putCell_setCache room, ConverterCache.put_put]
    rfl

/-- A question to a cache either is answered from the cell of its key or is passed on. Where all
look-ups have failed so far, it is as if there had been none. -/
theorem run_cached (mapped : question.own = none) :
    (cached number inner question).run.run (state.setCache number cells) =
      let asked := (inner question).run.run state
      match (cells.find? question.key).getD .unsettled with
      | .shared found => (.ok found, state.setCache number cells)
      | .perUse => (asked.1, asked.2.setCache number cells)
      | .unsettled =>
        (asked.1, asked.2.setCache number (cells.put question.key (.of asked.1))) := by
  have filed := run_fileAnswer_setCache ignores inside cells question.key
  have framed := ignores.frame state cells
  rw [cached, mapped]
  dsimp only
  rw [Mapper.run_lookupCached, MapperState.cache_setCache inside, ← Question.key]
  cases cells.find? question.key with
  | none => exact filed
  | some cell =>
    cases cell with
    | unsettled => exact filed
    | shared found => rfl
    | perUse => exact framed

end Run

end Asking

end ForeignCall
