import ForeignCall.Proofs.Binding.Finding
import ForeignCall.Proofs.Closure.Quiet

/-! Plain converters: where no mapper was added to those that come with the library, a type crosses
the boundary in one way, whichever cache was asked and whatever was asked before. -/

namespace ForeignCall

def libraryBehind (encoding : TextEncoding) : Nat → CacheKey → Except Fault (Option ConverterBody) :=
  fun _ key => ConverterBody.builtin? key.way key.type ⟨key.annotations, encoding⟩

theorem Mapper.answering_library (state : MapperState) (way : Way) (type : HostType)
    (context : ConversionContext) :
    (chain [.builtin]).answering state way type context =
      ConverterBody.builtin? way type context := by
  simp only [answering, answeringFirst]
  cases ConverterBody.builtin? way type context with
  | error fault => rfl
  | ok found => cases found <;> rfl

namespace Pipeline

variable {pipeline : Pipeline} (builtin : pipeline.custom = none)
include builtin

theorem mapper_eq : pipeline.mapper = .caching pipeline.cache (.chain [.builtin]) := by
  rw [mapper, builtin]
  rfl

theorem answering_cases (state : MapperState) (way : Way) (type : HostType)
    (context : ConversionContext) :
    (∃ found, (state.cache pipeline.cache).find? ⟨way, type, context.annotations⟩ =
        some (.shared found) ∧
      pipeline.mapper.answering state way type context =
        .ok (found.map (·.toConverterBody))) ∨
      pipeline.mapper.answering state way type context =
        ConverterBody.builtin? way type context := by
  rw [mapper_eq builtin]
  by_cases shared : ∃ found,
      (state.cache pipeline.cache).find? ⟨way, type, context.annotations⟩ = some (.shared found)
  · obtain ⟨found, known⟩ := shared
    exact .inl ⟨found, known, Mapper.answering_of_shared known⟩
  · refine .inr ?_
    rw [Mapper.answering_of_unshared fun found known => shared ⟨found, known⟩,
      Mapper.answering_library]

theorem run_choose (way : Way) (type : HostType) (context : ConversionContext)
    (state : MapperState) :
    let run := (pipeline.choose way none type context).run.run state
    state.Grown (libraryBehind context.encoding) run.2 ∧
      run.1.map (·.map (·.toConverterBody)) =
        pipeline.mapper.answering state way type context := by
  have backed : pipeline.mapper.Backed state (libraryBehind context.encoding)
      context.encoding := by
    rw [mapper_eq builtin]
    intro number inner known way type annotations
    obtain ⟨_, rfl⟩ : number = pipeline.cache ∧ inner = .chain [.builtin] := by
      simpa [Mapper.caches, Mapper.cachesOf] using known
    exact Mapper.answering_library state way type _
  exact Mapper.answers_lookup way type context.annotations pipeline.mapper backed state
    (.refl state)

end Pipeline

/-- No mapper was added, and the cache remembers only what comes with the library. -/
structure Pipeline.Standard (pipeline : Pipeline) (state : MapperState) : Prop where
  builtin : pipeline.custom = none
  cached : ∀ way type annotations found,
    (state.cache pipeline.cache).find? ⟨way, type, annotations⟩ = some (.shared found) →
      ∃ encoding, .ok (found.map (·.toConverterBody)) =
        ConverterBody.builtin? way type ⟨annotations, encoding⟩

namespace Pipeline.Standard

variable {pipeline other : Pipeline} {state : MapperState}

theorem of_empty (builtin : pipeline.custom = none) (empty : state.cache pipeline.cache = []) :
    pipeline.Standard state := by
  refine ⟨builtin, fun way type annotations found known => ?_⟩
  rw [empty] at known
  cases known

theorem grow (standard : pipeline.Standard state) (builtin : other.custom = none) (way : Way)
    (type : HostType) (context : ConversionContext) :
    pipeline.Standard ((other.choose way none type context).run.run state).2 := by
  have grown := (run_choose builtin way type context state).1
  refine ⟨standard.builtin, fun way type annotations found known => ?_⟩
  rcases grown.faithful _ _ found known with earlier | same
  · exact standard.cached way type annotations found earlier
  · exact ⟨context.encoding, same⟩

theorem choose (standard : pipeline.Standard state) (way : Way) (type : HostType)
    (context : ConversionContext) :
    ∃ encoding, ((pipeline.choose way none type context).run.run state).1.map
        (·.map (·.toConverterBody)) =
      ConverterBody.builtin? way type ⟨context.annotations, encoding⟩ := by
  have answered := (run_choose standard.builtin way type context state).2
  rcases answering_cases standard.builtin state way type context with ⟨found, known, same⟩ | same
  · obtain ⟨encoding, cached⟩ := standard.cached way type context.annotations found known
    exact ⟨encoding, (answered.trans same).trans cached⟩
  · exact ⟨context.encoding, answered.trans same⟩

end Pipeline.Standard

/-- No mapper was added, and the cache remembers only what comes with the library at an encoding. -/
structure Pipeline.Plain (pipeline : Pipeline) (encoding : TextEncoding) (state : MapperState) :
    Prop where
  builtin : pipeline.custom = none
  cached : ∀ way type annotations found,
    (state.cache pipeline.cache).find? ⟨way, type, annotations⟩ = some (.shared found) →
      .ok (found.map (·.toConverterBody)) =
        ConverterBody.builtin? way type ⟨annotations, encoding⟩

namespace Pipeline.Plain

variable {pipeline : Pipeline} {encoding : TextEncoding} {state : MapperState}

theorem of_empty (builtin : pipeline.custom = none) (empty : state.cache pipeline.cache = []) :
    pipeline.Plain encoding state := by
  refine ⟨builtin, fun way type annotations found known => ?_⟩
  rw [empty] at known
  cases known

theorem create (encoding : TextEncoding) (state : MapperState) :
    ((Pipeline.create none).run state).1.Plain encoding ((Pipeline.create none).run state).2 := by
  refine of_empty rfl ?_
  change ((state.caches ++ [[]])[state.caches.length]?).getD [] = []
  simp

theorem answering (plain : pipeline.Plain encoding state) (way : Way) (type : HostType)
    (annotations : Annotations) :
    pipeline.mapper.answering state way type ⟨annotations, encoding⟩ =
      ConverterBody.builtin? way type ⟨annotations, encoding⟩ := by
  rcases answering_cases plain.builtin state way type ⟨annotations, encoding⟩ with
    ⟨found, known, same⟩ | same
  · exact same.trans (plain.cached way type annotations found known)
  · exact same

theorem choose (plain : pipeline.Plain encoding state) (way : Way) (type : HostType)
    (annotations : Annotations) :
    let run := (pipeline.choose way none type ⟨annotations, encoding⟩).run.run state
    pipeline.Plain encoding run.2 ∧
      run.1.map (·.map (·.toConverterBody)) =
        ConverterBody.builtin? way type ⟨annotations, encoding⟩ := by
  obtain ⟨grown, answered⟩ := run_choose plain.builtin way type ⟨annotations, encoding⟩ state
  refine ⟨⟨plain.builtin, fun way type annotations found known => ?_⟩, ?_⟩
  · rcases grown.faithful _ _ found known with earlier | same
    · exact plain.cached way type annotations found earlier
    · exact same
  · exact answered.trans (plain.answering way type annotations)

end Pipeline.Plain

theorem ConverterBody.carrier_ne_void_of_builtin? {way : Way} {type : HostType}
    {context : ConversionContext} {body : ConverterBody}
    (found : builtin? way type context = .ok (some body)) : body.carrier ≠ .void := by
  cases type with
  | enum | enumSet =>
      cases found
      cases way <;> rintro ⟨⟩
  | text =>
      obtain ⟨encoding, ⟨⟩⟩ := exists_encoding_of_builtin?_text found
      cases way <;> rintro ⟨⟩
  | _ => cases found

structure Passage.Plain (passage : Passage) (way : Way) (type : HostType)
    (encoding : TextEncoding) : Prop where
  found : ConverterBody.builtin? way type ⟨.empty, encoding⟩ =
    .ok (passage.converter.map (·.toConverterBody))
  carried : passage.carrier = (passage.converter.map (·.carrier)).getD type
  lowered : lower passage.carrier .empty = .ok passage.native

namespace Passage.Plain

variable {passage other : Passage} {way : Way} {type : HostType} {encoding : TextEncoding}

section Unique

variable (plain : passage.Plain way type encoding) (too : other.Plain way type encoding)
include plain too

theorem bodies_eq : passage.converter.map (·.toConverterBody) =
    other.converter.map (·.toConverterBody) :=
  Except.ok.inj (plain.found.symm.trans too.found)

theorem carrier_eq : passage.carrier = other.carrier := by
  have carriers := congrArg (Option.map ConverterBody.carrier) (plain.bodies_eq too)
  rw [Option.map_map, Option.map_map] at carriers
  rw [plain.carried, too.carried]
  exact congrArg (·.getD type) carriers

theorem native_eq : passage.native = other.native := by
  have lowered := plain.lowered
  rw [plain.carrier_eq too, too.lowered] at lowered
  exact (Except.ok.inj lowered).symm

theorem convert_eq : passage.convert = other.convert := by
  have bodies := plain.bodies_eq too
  funext value context
  rw [convert, convert]
  cases first : passage.converter with
  | none =>
      cases second : other.converter with
      | none => rfl
      | some converter => simp [first, second] at bodies
  | some converter =>
      cases second : other.converter with
      | none => simp [first, second] at bodies
      | some twin =>
          rw [first, second] at bodies
          have body : converter.toConverterBody = twin.toConverterBody := Option.some.inj bodies
          exact congrArg (fun body => ConverterBody.convert body value context) body

theorem receive_eq : passage.receive = other.receive := by
  funext image context model
  rw [receive, receive, plain.convert_eq too, plain.carrier_eq too, plain.native_eq too]

theorem send_eq : passage.send = other.send := by
  funext value context model
  rw [send, send, plain.convert_eq too, plain.carrier_eq too, plain.native_eq too]

end Unique

theorem native_eq_void_iff (plain : passage.Plain way type encoding) :
    passage.native = .void ↔ type = .void := by
  obtain ⟨found, carried, lowered⟩ := plain
  constructor
  · intro nothing
    rw [nothing] at lowered
    have carrier : passage.carrier = .void := by
      cases carrier : passage.carrier <;>
        simp [carrier, lower, Annotations.native?, Annotations.empty] at lowered ⊢
    cases present : passage.converter with
    | none => simpa [present, carrier] using carried.symm
    | some converter =>
        rw [present] at found carried
        have converted : converter.carrier = .void := carried.symm.trans carrier
        exact absurd converted (ConverterBody.carrier_ne_void_of_builtin? found)
  · rintro rfl
    have absent : passage.converter = none :=
      Option.map_eq_none_iff.1 (Except.ok.inj found).symm
    rw [carried, absent] at lowered
    exact (Except.ok.inj lowered).symm

theorem isScalar_of_ne_void (plain : passage.Plain way type encoding) (some : type ≠ .void)
    (fits : (passage.carrier.isScalar || passage.carrier.isVoid) = true) :
    passage.carrier.isScalar = true := by
  rcases Bool.or_eq_true_iff.1 fits with scalar | nothing
  · exact scalar
  · have carrier : passage.carrier = .void := by
      cases carrier : passage.carrier <;> simp [carrier, HostType.isVoid] at nothing ⊢
    have lowered := plain.lowered
    rw [carrier] at lowered
    exact absurd (plain.native_eq_void_iff.1 (Except.ok.inj lowered).symm) some

theorem keeps_receive (plain : passage.Plain .fromNative type encoding) (invariant : Store → Prop)
    (image : UInt64) (context : ConversionContext) (model : DataModel) :
    (passage.receive image context model).Keeps invariant := by
  refine .bind (.ofExcept fun _ _ => trivial) fun value _ => ?_
  rw [convert]
  split
  next converter present =>
    have found := plain.found
    rw [present] at found
    exact ConverterBody.still_of_builtin? found invariant value context
  next => exact .pure trivial

theorem run_receive (plain : passage.Plain .fromNative type encoding) (image : UInt64)
    (context : ConversionContext) (model : DataModel) (store : Store) :
    (passage.receive image context model).run.run store =
      (((passage.receive image context model).run.run store).1, store) := by
  have same := (plain.keeps_receive (· = store) image context model store _ _ rfl rfl).1
  exact Prod.ext rfl same

theorem exists_send_eq (plain : passage.Plain .toNative type encoding)
    (scalar : passage.carrier.isScalar = true) (value : Value) (context : ConversionContext)
    (model : DataModel) :
    ∃ outcome : Except Fault UInt64, passage.send value context model = liftM outcome := by
  cases present : passage.converter with
  | none =>
      refine ⟨value.toImage passage.carrier passage.native model, ?_⟩
      rw [send, convert, present]
      rfl
  | some converter =>
      have found := plain.found
      have carried := plain.carried
      rw [present] at found carried
      rw [carried] at scalar
      obtain ⟨detached, _⟩ := ConverterBody.of_builtin?_toNative found scalar
      obtain ⟨outcome, same⟩ := detached value context
      refine ⟨outcome >>= fun value => value.toImage passage.carrier passage.native model, ?_⟩
      rw [send, convert, present]
      change (converter.convert value context >>= _ : Act Store UInt64) = _
      rw [same]
      cases outcome <;> rfl

end Passage.Plain

end ForeignCall
