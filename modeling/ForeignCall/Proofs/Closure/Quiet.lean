import ForeignCall.Closure.Shape
import ForeignCall.Proofs.Running

/-! Conversions that leave native memory alone. The converters that come with the library do, and so
do all that are found where no mapper was added to them. -/

namespace ForeignCall

def ConverterBody.Quiet (body : ConverterBody) : Prop :=
  ∀ (memory : Memory) (value : Value) (context : ConversionContext),
    (body.convert value context).Keeps fun store => store.memory = memory

structure Store.Lasting (invariant : Store → Prop) : Prop where
  record : ∀ store event, invariant store → invariant ((record event).run store).2
  newArray : ∀ store elements, invariant store → invariant ((newArray elements).run store).2

theorem Store.keeps_encodeText {invariant : Store → Prop}
    (records : ∀ store event, invariant store → invariant ((record event).run store).2)
    (encoding : TextEncoding) (text : String) :
    (encodeText encoding text).Keeps invariant := by
  refine .bind (.forM _ fun growth _ => ?_) fun _ _ => .ofExcept fun _ _ => trivial
  exact .ofState (fun store => records store _) fun _ _ => trivial

theorem Store.keeps_textAt (invariant : Store → Prop) (encoding : TextEncoding)
    (address : UInt64) :
    (textAt encoding address).Keeps invariant := by
  have read : Act.Keeps invariant (liftM (get : StateM Store Store)) :=
    .ofState (fun _ same => same) fun _ _ => trivial
  exact read.bind fun _ _ => .ofExcept fun _ _ => trivial

namespace ConverterBody

/-- Conversions do no more than keep a journal and make arrays. -/
def Mild (body : ConverterBody) : Prop :=
  ∀ invariant : Store → Prop, Store.Lasting invariant →
    ∀ (value : Value) (context : ConversionContext), (body.convert value context).Keeps invariant

def Still (body : ConverterBody) : Prop :=
  ∀ (invariant : Store → Prop) (value : Value) (context : ConversionContext),
    (body.convert value context).Keeps invariant

def Detached (body : ConverterBody) : Prop :=
  ∀ (value : Value) (context : ConversionContext), ∃ outcome : Except Fault Value,
    body.convert value context = liftM outcome

theorem Still.mild {body : ConverterBody} (still : body.Still) : body.Mild :=
  fun invariant _ => still invariant

theorem Detached.still {body : ConverterBody} (detached : body.Detached) : body.Still := by
  intro invariant value context
  obtain ⟨outcome, same⟩ := detached value context
  rw [same]
  exact .ofExcept fun _ _ => trivial

theorem mild_textToNative (encoding : TextEncoding) : (textToNative encoding).Mild := by
  intro invariant lasting value context
  cases value with
  | text text =>
      refine .bind (Store.keeps_encodeText lasting.record encoding text) fun bytes _ => ?_
      exact .ofState (fun store => lasting.newArray store _) fun _ _ => trivial
  | null => exact .pure trivial
  | _ => exact .throw _

theorem still_textFromNative (encoding : TextEncoding) : (textFromNative encoding).Still := by
  intro invariant value context
  simp only [textFromNative]
  split
  next integer =>
    split
    next => exact .pure trivial
    next => exact .bind (Store.keeps_textAt invariant encoding _) fun text _ => .pure trivial
  next => exact .throw _

theorem lift_bind_pure {Part : Type} (outcome : Except Fault Part) (whole : Part → Value) :
    (do return whole (← outcome) : Act Store Value) = liftM (outcome.map whole) := by
  cases outcome <;> rfl

theorem detached_enum (enumeration : Enumeration) (way : Way) :
    (enum enumeration way).Detached := by
  intro value context
  cases way with
  | toNative =>
      cases value with
      | enum constant => exact ⟨_, lift_bind_pure _ _⟩
      | _ => exact ⟨.error _, rfl⟩
  | fromNative =>
      simp only [enum, enumFromNative]
      split
      next => exact ⟨_, lift_bind_pure _ _⟩
      next => exact ⟨.error _, rfl⟩

theorem detached_enumSet (enumeration : Enumeration) (way : Way) :
    (enumSet enumeration way).Detached := by
  intro value context
  cases way with
  | toNative =>
      simp only [enumSet, enumSetToNative]
      split
      next =>
        split
        next => exact ⟨_, lift_bind_pure _ _⟩
        next => exact ⟨.error _, rfl⟩
      next => exact ⟨.error _, rfl⟩
  | fromNative =>
      simp only [enumSet, enumSetFromNative]
      split
      next => exact ⟨.ok _, rfl⟩
      next => exact ⟨.error _, rfl⟩

theorem exists_encoding_of_builtin?_text {way : Way} {context : ConversionContext}
    {found : Option ConverterBody} (answered : builtin? way .text context = .ok found) :
    ∃ encoding, found = some (text encoding way) := by
  cases selected : contextEncoding context with
  | error fault => simp [builtin?, selected, bind, Except.bind] at answered
  | ok encoding =>
      refine ⟨encoding, ?_⟩
      simpa [builtin?, selected, bind, Except.bind, pure, Except.pure] using answered.symm

theorem mild_of_builtin? {way : Way} {type : HostType} {context : ConversionContext}
    {body : ConverterBody} (found : builtin? way type context = .ok (some body)) : body.Mild := by
  cases type with
  | enum enumeration =>
      cases found
      exact (detached_enum enumeration way).still.mild
  | enumSet enumeration =>
      cases found
      exact (detached_enumSet enumeration way).still.mild
  | text =>
      obtain ⟨encoding, ⟨⟩⟩ := exists_encoding_of_builtin?_text found
      cases way with
      | toNative => exact mild_textToNative encoding
      | fromNative => exact (still_textFromNative encoding).mild
  | _ => cases found

theorem still_of_builtin? {type : HostType} {context : ConversionContext} {body : ConverterBody}
    (found : builtin? .fromNative type context = .ok (some body)) : body.Still := by
  cases type with
  | enum enumeration =>
      cases found
      exact (detached_enum enumeration .fromNative).still
  | enumSet enumeration =>
      cases found
      exact (detached_enumSet enumeration .fromNative).still
  | text =>
      obtain ⟨encoding, ⟨⟩⟩ := exists_encoding_of_builtin?_text found
      exact still_textFromNative encoding
  | _ => cases found

theorem of_builtin?_toNative {type : HostType} {context : ConversionContext} {body : ConverterBody}
    (found : builtin? .toNative type context = .ok (some body))
    (scalar : body.carrier.isScalar = true) :
    body.Detached ∧ body.annotations = .empty := by
  cases type with
  | enum enumeration =>
      cases found
      exact ⟨detached_enum enumeration .toNative, rfl⟩
  | enumSet enumeration =>
      cases found
      exact ⟨detached_enumSet enumeration .toNative, rfl⟩
  | text =>
      obtain ⟨encoding, ⟨⟩⟩ := exists_encoding_of_builtin?_text found
      cases scalar
  | _ => cases found

theorem Mild.quiet {body : ConverterBody} (mild : body.Mild) : body.Quiet :=
  fun _ => mild _ ⟨fun _ _ => id, fun _ _ => id⟩

end ConverterBody

def ConverterCache.Quiet (cache : ConverterCache) : Prop :=
  ∀ key converter, cache.find? key = some (.shared (some converter)) → converter.Quiet

section Sources

variable {good : ConverterBody → Prop}

def ConverterCache.All (good : ConverterBody → Prop) (cache : ConverterCache) : Prop :=
  ∀ key converter, cache.find? key = some (.shared (some converter)) →
    good converter.toConverterBody

def Finds (good : ConverterBody → Prop) (outcome : Except Fault (Option Converter)) : Prop :=
  ∀ converter, outcome = .ok (some converter) → good converter.toConverterBody

namespace ConverterCache.All

variable {cache : ConverterCache}

theorem put (all : cache.All good) (key : CacheKey) {cell : CacheCell}
    (settled : ∀ converter, cell = .shared (some converter) → good converter.toConverterBody) :
    (cache.put key cell).All good := by
  intro query converter found
  rw [find?_put] at found
  split at found
  next => exact settled converter (Option.some.inj found)
  next => exact all query converter found

theorem putCell {state : MapperState} {number : Nat} (all : (state.cache number).All good)
    (key : CacheKey) {cell : CacheCell}
    (settled : ∀ converter, cell = .shared (some converter) → good converter.toConverterBody) :
    (((MapperState.putCell number key cell).run state).2.cache number).All good := by
  have read : ((MapperState.putCell number key cell).run state).2.cache number =
      (state.caches[number]?.map (·.put key cell)).getD [] := by
    change ((state.caches.modify number (·.put key cell))[number]?).getD [] = _
    rw [List.getElem?_modify_eq]
    rfl
  rw [read]
  rw [MapperState.cache] at all
  cases present : state.caches[number]? with
  | none =>
      intro query converter found
      simp [find?] at found
  | some cache =>
      rw [present] at all
      exact all.put key settled

end ConverterCache.All

namespace Mapper

theorem run_lookup_builtin (way : Way) (type : HostType) (context : ConversionContext)
    (state : MapperState) :
    ∃ (outcome : Except Fault (Option Converter)) (next : Nat),
      (lookup way type context (.chain [.builtin])).run.run state =
        (outcome, { state with nextIdentity := next }) ∧ Finds ConverterBody.Mild outcome := by
  simp only [lookup, lookupFirst]
  cases found : ConverterBody.builtin? way type context with
  | error fault => exact ⟨.error fault, _, rfl, by rintro _ ⟨⟩⟩
  | ok body =>
      cases body with
      | none =>
          refine ⟨.ok none, _, rfl, ?_⟩
          rintro converter ⟨⟩
      | some body =>
          refine ⟨.ok (some { body with identity := state.nextIdentity }), _, rfl, ?_⟩
          rintro converter ⟨⟩
          exact ConverterBody.mild_of_builtin? found

theorem finds_fileAnswer {number : Nat} {inner : Act MapperState (Option Converter)}
    (asks : ∀ (state : MapperState) (outcome : Except Fault (Option Converter))
      (after : MapperState), (state.cache number).All good →
        inner.run.run state = (outcome, after) →
          (after.cache number).All good ∧ Finds good outcome)
    (key : CacheKey) {state after : MapperState} {outcome : Except Fault (Option Converter)}
    (all : (state.cache number).All good)
    (ran : (fileAnswer number key inner).run.run state = (outcome, after)) :
    (after.cache number).All good ∧ Finds good outcome := by
  have unsettled : ∀ converter, CacheCell.unsettled = .shared (some converter) →
      good converter.toConverterBody := by
    rintro converter ⟨⟩
  have opened := all.putCell key unsettled
  rw [fileAnswer, Act.run_bind] at ran
  change ((inner >>= _ : Act MapperState (Option Converter)).run.run _) = _ at ran
  rw [Act.run_bind] at ran
  split at ran
  next answer between asked =>
    obtain ⟨kept, found⟩ := asks _ _ _ opened asked
    cases ran
    refine ⟨kept.putCell key ?_, found⟩
    intro converter settled
    split at settled
    next => exact found converter (congrArg Except.ok (CacheCell.shared.inj settled))
    next => cases settled
  next fault between asked =>
    obtain ⟨kept, _⟩ := asks _ _ _ opened asked
    cases ran
    exact ⟨kept, by rintro _ ⟨⟩⟩

theorem finds_lookup (mild : ∀ body : ConverterBody, body.Mild → good body) {number : Nat}
    {way : Way} {type : HostType} {context : ConversionContext} {state after : MapperState}
    {outcome : Except Fault (Option Converter)} (all : (state.cache number).All good)
    (ran : ((Pipeline.mapper ⟨number, none⟩).lookup way type context).run.run state =
      (outcome, after)) :
    (after.cache number).All good ∧ Finds good outcome := by
  have asks : ∀ (state : MapperState) (outcome : Except Fault (Option Converter))
      (after : MapperState), (state.cache number).All good →
        (lookup way type context (.chain [.builtin])).run.run state = (outcome, after) →
          (after.cache number).All good ∧ Finds good outcome := by
    intro state outcome after all ran
    obtain ⟨answer, next, asked, found⟩ := run_lookup_builtin way type context state
    rw [asked] at ran
    cases ran
    exact ⟨all, fun converter same => mild _ (found converter same)⟩
  change (lookupCached number way type context
    (lookup way type context (.chain [.builtin]))).run.run state = _ at ran
  rw [lookupCached, Act.run_bind, Act.run_get] at ran
  dsimp only at ran
  split at ran
  next answer shared =>
    cases ran
    refine ⟨all, ?_⟩
    rintro converter ⟨⟩
    exact all _ converter shared
  next => exact asks state _ _ all ran
  next => exact finds_fileAnswer asks _ all ran
  next => exact finds_fileAnswer asks _ all ran

end Mapper

end Sources

def Passage.Quiet (passage : Passage) : Prop :=
  ∀ converter, passage.converter = some converter → converter.Quiet

def ClosureShape.Quiet (shape : ClosureShape) : Prop :=
  shape.result.Quiet ∧ ∀ passage ∈ shape.parameters, passage.Quiet

namespace Passage.Quiet

variable {passage : Passage}

theorem keeps_convert (quiet : passage.Quiet) (memory : Memory) (value : Value)
    (context : ConversionContext) :
    (passage.convert value context).Keeps fun store => store.memory = memory := by
  rw [Passage.convert]
  split
  next converter present => exact quiet converter present memory value context
  next => exact .pure trivial

theorem keeps_receive (quiet : passage.Quiet) (memory : Memory) (image : UInt64)
    (context : ConversionContext) (model : DataModel) :
    (passage.receive image context model).Keeps fun store => store.memory = memory :=
  .bind (.ofExcept fun _ _ => trivial) fun value _ => quiet.keeps_convert memory value context

theorem keeps_send (quiet : passage.Quiet) (memory : Memory) (value : Value)
    (context : ConversionContext) (model : DataModel) :
    (passage.send value context model).Keeps fun store => store.memory = memory :=
  (quiet.keeps_convert memory value context).bind fun _ _ => .ofExcept fun _ _ => trivial

end Passage.Quiet

namespace ClosureShape.Quiet

variable {shape : ClosureShape}

theorem keeps_receiveAll (quiet : shape.Quiet) (memory : Memory) (images : List UInt64) :
    (shape.receiveAll images).Keeps fun store => store.memory = memory := by
  have each : ∀ item ∈ shape.parameters.zip images,
      Act.Keeps (fun store => store.memory = memory)
        (item.1.receive item.2 shape.context shape.interface.model) :=
    fun item known => (quiet.2 _ (List.of_mem_zip known).1).keeps_receive memory _ _ _
  exact (Act.Ensures.mapM _ each).weaken fun _ _ => trivial

theorem keeps_sendResult (quiet : shape.Quiet) (memory : Memory) (value : Value) :
    (shape.sendResult value).Keeps fun store => store.memory = memory := by
  rw [sendResult]
  split
  next => exact .pure trivial
  next => exact quiet.1.keeps_send memory value _ _

end ClosureShape.Quiet

end ForeignCall
