import ForeignCall.Passage
import ForeignCall.Proofs.Closure.Quiet
import ForeignCall.Proofs.Converter.Flags
import ForeignCall.Proofs.Numeric

/-! Constants on their way through C types. A constant is sent as its integer, cut to 32 bits and
then by the C type; what comes back is the last constant with the integer that is left. -/

namespace ForeignCall

/-- The `int` that is left of an integer that goes through a C type. -/
def CType.remnant (native : CType) (model : DataModel) (value : Int) : Int32 :=
  .ofInt (residue (native.bits model) native.isSigned value)

theorem toInt32_convert {native : CType} (integral : native.isIntegral = true) {model : DataModel}
    (valid : model.Valid) (value : Int64) :
    (convert value .int native model).toInt32 = native.remnant model value.toInt := by
  have inside := CType.bits_le_of_valid valid native
  have same : (normalize value native model).toInt % 2 ^ 32 =
      residue (native.bits model) native.isSigned value.toInt % 2 ^ 32 := by
    rw [normalize_eq_fromLow value integral]
    exact emod_eq_of_le (by decide) (toInt_fromLow_emod value inside)
  rw [← Int32.toInt_inj]
  change (normalize value native model).toInt32.toInt64.toInt32.toInt = _
  rw [Int32.toInt32_toInt64, Int64.toInt_toInt32, CType.remnant, Int32.toInt_ofInt]
  change Int.bmod _ (2 ^ 32) = Int.bmod _ (2 ^ 32)
  rw [← Int.emod_bmod, ← Int.emod_bmod (residue _ _ _)]
  exact congrArg (Int.bmod · (2 ^ 32)) same

theorem remnant_normalize {native : CType} (integral : native.isIntegral = true)
    {model : DataModel} (valid : model.Valid) (value : Int64) :
    native.remnant model (normalize value native model).toInt =
      native.remnant model value.toInt := by
  rw [← toInt32_convert integral valid, ← toInt32_convert integral valid, convert,
    normalize_normalize integral valid, convert]

namespace Enumeration

def escape? (enumeration : Enumeration) : Option Nat := enumeration.indexOf? escapeName

/-- A constant has an integer, and no later one has it. -/
def IsLast (enumeration : Enumeration) (value : Int32) (index : Nat) : Prop :=
  enumeration.ints[index]? = some value ∧
    ∀ later, index < later → enumeration.ints[later]? ≠ some value

inductive Denotes (enumeration : Enumeration) (seen : Int32) : Except Fault Value → Prop
  | own {index : Nat} (last : enumeration.IsLast seen index) :
      Denotes enumeration seen (.ok (.enum ⟨enumeration, index⟩))
  | escape {index : Nat} (foreign : seen ∉ enumeration.ints)
      (escapes : enumeration.escape? = some index) :
      Denotes enumeration seen (.ok (.enum ⟨enumeration, index⟩))
  | unknown (foreign : seen ∉ enumeration.ints) (strict : enumeration.escape? = none) :
      Denotes enumeration seen (.error (.unknownEnumValue enumeration.name seen.toInt64))

variable {enumeration : Enumeration} {seen : Int32}

theorem isLast_of_indexOfInt? {index : Nat} (found : enumeration.indexOfInt? seen = some index) :
    enumeration.IsLast seen index := by
  obtain ⟨⟨value, position⟩, final, rfl⟩ := Option.map_eq_some_iff.1 found
  obtain ⟨front, split⟩ := List.getLast?_eq_some_iff.1 final
  have belongs (other : Nat) : (seen, other) ∈ enumeration.ints.zipIdx.filter (·.1 == seen) ↔
      enumeration.ints[other]? = some seen := by
    simp [List.mem_zipIdx_iff_getElem?]
  have present : (value, position) ∈ enumeration.ints.zipIdx.filter (·.1 == seen) := by
    rw [split]
    simp
  obtain rfl : value = seen := by simpa using (List.mem_filter.1 present).2
  refine ⟨(belongs position).1 present, ?_⟩
  intro later below known
  have increasing := enumeration.increasing_positions (·.1 == value)
  rw [split, List.map_append, List.pairwise_append] at increasing
  have member := (belongs later).2 known
  rw [split, List.mem_append, List.mem_singleton] at member
  rcases member with earlier | same
  · have before := increasing.2.2 later (List.mem_map.2 ⟨_, earlier, rfl⟩) position (by simp)
    omega
  · simp at same
    omega

theorem not_mem_of_indexOfInt? (missing : enumeration.indexOfInt? seen = none) :
    seen ∉ enumeration.ints := by
  intro known
  obtain ⟨index, present⟩ := List.mem_iff_getElem?.1 known
  rw [indexOfInt?, Option.map_eq_none_iff, List.getLast?_eq_none_iff, List.filter_eq_nil_iff]
    at missing
  exact missing (seen, index) (List.mem_zipIdx_iff_getElem?.2 present) (by simp)

theorem denotes_constantOf (enumeration : Enumeration) (seen : Int32) :
    enumeration.Denotes seen ((enumeration.constantOf seen.toInt64).map .enum) := by
  rw [constantOf, Int32.toInt32_toInt64]
  cases found : enumeration.indexOfInt? seen with
  | some index => exact .own (isLast_of_indexOfInt? found)
  | none =>
      have foreign := not_mem_of_indexOfInt? found
      cases escapes : enumeration.indexOf? escapeName with
      | some index => exact .escape foreign escapes
      | none => exact .unknown foreign escapes

theorem IsLast.unique {first second : Nat} (one : enumeration.IsLast seen first)
    (two : enumeration.IsLast seen second) : first = second := by
  rcases Nat.lt_trichotomy first second with before | same | after
  · exact absurd two.1 (one.2 second before)
  · exact same
  · exact absurd one.1 (two.2 first after)

namespace Denotes

variable {outcome : Except Fault Value}

theorem sound (denotes : enumeration.Denotes seen outcome) {constant : EnumConstant}
    (answered : outcome = .ok (.enum constant)) :
    enumeration.ints[constant.index]? = some seen ∨
      enumeration.escape? = some constant.index := by
  cases denotes with
  | own last =>
      cases answered
      exact .inl last.1
  | escape foreign escapes =>
      cases answered
      exact .inr escapes
  | unknown => cases answered

theorem eq_of_isLast (denotes : enumeration.Denotes seen outcome) {index : Nat}
    (last : enumeration.IsLast seen index) : outcome = .ok (.enum ⟨enumeration, index⟩) := by
  have known : seen ∈ enumeration.ints := List.mem_iff_getElem?.2 ⟨index, last.1⟩
  cases denotes with
  | own other => rw [other.unique last]
  | escape foreign => exact absurd known foreign
  | unknown foreign => exact absurd known foreign

theorem isLast_of_eq (denotes : enumeration.Denotes seen outcome) {index : Nat}
    (ordinary : enumeration.escape? ≠ some index)
    (answered : outcome = .ok (.enum ⟨enumeration, index⟩)) : enumeration.IsLast seen index := by
  cases denotes with
  | own last =>
      cases answered
      exact last
  | escape foreign escapes =>
      cases answered
      exact absurd escapes ordinary
  | unknown => cases answered

end Denotes

end Enumeration

namespace Passage

/-- A constant crosses through the converter of its enumeration, in an `int` or what replaces it. -/
structure Enumerates (passage : Passage) (way : Way) (enumeration : Enumeration) : Prop where
  carried : passage.carrier = .int
  converted : passage.converter.map (·.toConverterBody) = some (.enum enumeration way)

variable {passage : Passage} {enumeration : Enumeration}

theorem Enumerates.convert_eq {way : Way} (enumerates : passage.Enumerates way enumeration) :
    passage.convert = (ConverterBody.enum enumeration way).convert := by
  funext value context
  obtain ⟨converter, present, body⟩ := Option.map_eq_some_iff.1 enumerates.converted
  rw [convert, present, ← body]

theorem Enumerates.send_eq (sends : passage.Enumerates .toNative enumeration)
    (integral : passage.native.isIntegral = true) {index : Nat} {value : Int32}
    (declared : enumeration.ints[index]? = some value) (context : ConversionContext)
    (model : DataModel) :
    passage.send (.enum ⟨enumeration, index⟩) context model =
      pure (normalize value.toInt64 passage.native model).toUInt64 := by
  have converted : passage.convert (.enum ⟨enumeration, index⟩) context = pure (.int value) := by
    have known : enumeration.intOf ⟨enumeration, index⟩ = .ok value := by
      rw [Enumeration.intOf, if_pos rfl, declared]
    rw [sends.convert_eq]
    simp only [ConverterBody.enum, ConverterBody.enumToNative, known]
    rfl
  have held : narrow value.toInt64 .int = value.toInt64 := by
    rw [narrow, Int32.toInt32_toInt64]
  have image : (Value.int value).toImage .int passage.native model =
      .ok (normalize value.toInt64 passage.native model).toUInt64 := by
    have sent := @Value.toImage_valueOfInt64 .int .int _ model integral rfl _ held
    rwa [HostType.valueOfInt64, Int32.toInt32_toInt64] at sent
  rw [send, converted, sends.carried, pure_bind, image]
  rfl

theorem Enumerates.receive_eq (receives : passage.Enumerates .fromNative enumeration)
    (integral : passage.native.isIntegral = true) {model : DataModel} (valid : model.Valid)
    (image : UInt64) (context : ConversionContext) :
    ∃ outcome, passage.receive image context model = liftM outcome ∧
      enumeration.Denotes (passage.native.remnant model image.toInt64.toInt) outcome := by
  let seen := passage.native.remnant model image.toInt64.toInt
  have converted : (ConverterBody.enum enumeration .fromNative).convert
      (.int (ForeignCall.convert image.toInt64 .int passage.native model).toInt32) context =
        liftM ((enumeration.constantOf seen.toInt64).map Value.enum) := by
    rw [toInt32_convert integral valid]
    exact ConverterBody.lift_bind_pure _ _
  refine ⟨_, ?_, enumeration.denotes_constantOf seen⟩
  rw [receive, receives.carried, Value.ofImage_of_isIntegral integral rfl, receives.convert_eq,
    HostType.valueOfInt64]
  exact converted

/-- What comes back of a constant is decided by the `int` that is left of its integer. A constant
that is not the escape constant comes back itself just when its integer is whole and no later
constant has it, and only the escape constant stands for integers other than its own. -/
theorem constant_round_trip {out back : Passage} (sends : out.Enumerates .toNative enumeration)
    (receives : back.Enumerates .fromNative enumeration) (alike : back.native = out.native)
    (integral : out.native.isIntegral = true) {model : DataModel} (valid : model.Valid)
    {index : Nat} {value : Int32} (declared : enumeration.ints[index]? = some value)
    (context other : ConversionContext) :
    let seen := out.native.remnant model value.toInt
    (∃ image outcome, out.send (.enum ⟨enumeration, index⟩) context model = pure image ∧
      back.receive image other model = liftM outcome ∧ enumeration.Denotes seen outcome ∧
        (enumeration.escape? ≠ some index →
          (outcome = .ok (.enum ⟨enumeration, index⟩) ↔ seen = value ∧
            ∀ later, index < later → enumeration.ints[later]? ≠ some value))) ∧
      ∀ raw : UInt64, ∃ outcome, back.receive raw other model = liftM outcome ∧
        enumeration.Denotes (out.native.remnant model raw.toInt64.toInt) outcome ∧
        ∀ constant, outcome = .ok (.enum constant) →
          enumeration.ints[constant.index]? =
              some (out.native.remnant model raw.toInt64.toInt) ∨
            enumeration.escape? = some constant.index := by
  intro seen
  have wide : back.native.isIntegral = true := by rw [alike, integral]
  constructor
  · obtain ⟨outcome, received, denotes⟩ := receives.receive_eq wide valid
      (normalize value.toInt64 out.native model).toUInt64 other
    have same : back.native.remnant model
        (normalize value.toInt64 out.native model).toUInt64.toInt64.toInt = seen := by
      rw [alike, Int64.toInt64_toUInt64, remnant_normalize integral valid, Int32.toInt_toInt64]
    rw [same] at denotes
    refine ⟨_, outcome, sends.send_eq integral declared context model, received, denotes, ?_⟩
    intro ordinary
    constructor
    · intro answered
      obtain ⟨known, final⟩ := denotes.isLast_of_eq ordinary answered
      have whole : seen = value := Option.some.inj (known.symm.trans declared)
      rw [whole] at final
      exact ⟨whole, final⟩
    · rintro ⟨whole, final⟩
      apply denotes.eq_of_isLast
      rw [whole]
      exact ⟨declared, final⟩
  · intro raw
    obtain ⟨outcome, received, denotes⟩ := receives.receive_eq wide valid raw other
    rw [alike] at denotes
    exact ⟨outcome, received, denotes, fun constant => denotes.sound⟩

def ofEnum (enumeration : Enumeration) (way : Way) (native : CType) : Passage :=
  ⟨.int, native, some { ConverterBody.enum enumeration way with identity := 0 }⟩

/-- Two constants have one integer, and one is cut to the integer of the escape constant. -/
def levels : Enumeration :=
  ⟨"Level", [("LOW", 1), ("HIGH", 0x1ff), ("ONE", 1), (Enumeration.escapeName, -1)]⟩

theorem constant_round_trip_cut :
    CType.signedChar.isIntegral = true ∧ DataModel.lp64.Valid ∧ levels.ints[1]? = some 0x1ff ∧
      ∃ image, (ofEnum levels .toNative .signedChar).send (.enum ⟨levels, 1⟩) ⟨.empty, .utf8⟩
          .lp64 = pure image ∧
        (ofEnum levels .fromNative .signedChar).receive image ⟨.empty, .utf8⟩ .lp64 =
          pure (.enum ⟨levels, 3⟩) := by
  obtain ⟨⟨image, outcome, sent, received, denotes, -⟩, -⟩ :=
    @constant_round_trip levels (ofEnum levels .toNative .signedChar)
      (ofEnum levels .fromNative .signedChar) ⟨rfl, rfl⟩ ⟨rfl, rfl⟩ rfl rfl .lp64 (by decide) 1
      0x1ff rfl ⟨.empty, .utf8⟩ ⟨.empty, .utf8⟩
  have seen : CType.signedChar.remnant .lp64 (0x1ff : Int32).toInt = -1 := by decide
  have last : levels.IsLast (-1) 3 := by
    refine ⟨rfl, fun later below known => ?_⟩
    have inside := (List.getElem?_eq_some_iff.1 known).1
    change later < 4 at inside
    omega
  have answered : outcome = .ok (.enum ⟨levels, 3⟩) := by
    change levels.Denotes (CType.signedChar.remnant .lp64 (0x1ff : Int32).toInt) outcome at denotes
    rw [seen] at denotes
    exact denotes.eq_of_isLast last
  rw [answered] at received
  exact ⟨rfl, by decide, rfl, image, sent, received⟩

end Passage

end ForeignCall
