import ForeignCall.Proofs.Image
import Mathlib.Algebra.Group.Int.Defs
import Mathlib.Algebra.Group.Nat.Defs

/-! Integers on their way through C types and host types, by arithmetic: both kinds of types keep a
residue and read it with or without a sign, so that what a narrow type has cut off does not come
back and what a wide one has added is lost again. -/

namespace ForeignCall

/-- The integer that the low bits of another one stand for, with or without a sign. -/
def residue (bits : Nat) (signed : Bool) (value : Int) : Int :=
  let reduced := value % 2 ^ bits
  if signed ∧ 2 ^ bits ≤ 2 * reduced then reduced - 2 ^ bits else reduced

section Residues

variable {bits : Nat}

theorem residue_signed (value : Int) : residue bits true value = value.bmod (2 ^ bits) := by
  simp only [residue, true_and, Int.bmod]
  push_cast
  generalize (2 : Int) ^ bits = modulus
  generalize value % modulus = reduced
  split <;> split <;> omega

theorem residue_unsigned (value : Int) : residue bits false value = value % 2 ^ bits := by
  simp [residue]

theorem residue_congr {left right : Int} (same : left % 2 ^ bits = right % 2 ^ bits)
    (signed : Bool) : residue bits signed left = residue bits signed right := by
  simp only [residue, same]

theorem residue_emod (signed : Bool) (value : Int) :
    residue bits signed value % 2 ^ bits = value % 2 ^ bits := by
  simp only [residue]
  split
  next => rw [Int.sub_emod_right, Int.emod_emod]
  next => exact Int.emod_emod value _

theorem residue_zero (signed : Bool) : residue bits signed 0 = 0 := by
  have least : (0 : Int) < 2 ^ bits := Int.pow_pos (by decide)
  have empty : ¬(2 : Int) ^ bits ≤ 2 * 0 := by omega
  simp only [residue, Int.zero_emod, empty, and_false, ↓reduceIte]

theorem residue_one_ne_zero (some : 0 < bits) (signed : Bool) : residue bits signed 1 ≠ 0 := by
  have least : (2 : Int) ≤ 2 ^ bits := by
    exact_mod_cast Nat.pow_le_pow_right (show 0 < 2 by decide) some
  have whole : (1 : Int) % 2 ^ bits = 1 := Int.emod_eq_of_lt (by decide) (by omega)
  simp only [residue, whole]
  split <;> omega

theorem emod_eq_of_le {wide : Nat} (inside : bits ≤ wide) {left right : Int}
    (same : left % 2 ^ wide = right % 2 ^ wide) : left % 2 ^ bits = right % 2 ^ bits := by
  have divides : (2 : Int) ^ bits ∣ 2 ^ wide := by exact_mod_cast Nat.pow_dvd_pow 2 inside
  rw [← Int.emod_emod_of_dvd left divides, same, Int.emod_emod_of_dvd right divides]

end Residues

section Words

variable {bits : Nat} (word : BitVec 64)

theorem toInt_emod_eq_toNat (inside : bits ≤ 64) :
    word.toInt % 2 ^ bits = word.toNat % 2 ^ bits := by
  have whole : word.toInt % 2 ^ 64 = word.toNat % 2 ^ 64 := by
    rw [BitVec.toInt_eq_toNat_bmod]
    exact Int.bmod_emod
  exact emod_eq_of_le inside whole

theorem toInt_zeroExtend_low (inside : bits < 64) :
    ((word.setWidth bits).setWidth 64).toInt = residue bits false word.toInt := by
  have low : word.toNat % 2 ^ bits < 2 ^ bits := Nat.mod_lt _ (Nat.two_pow_pos bits)
  have small : 2 ^ bits ≤ 2 ^ 63 := Nat.pow_le_pow_right (by decide) (by omega)
  have value : ((word.setWidth bits).setWidth 64).toNat = word.toNat % 2 ^ bits := by
    rw [BitVec.toNat_setWidth, BitVec.toNat_setWidth, Nat.mod_eq_of_lt (by omega)]
  rw [BitVec.toInt_eq_toNat_of_lt (by omega), value, residue_unsigned,
    toInt_emod_eq_toNat word (by omega)]
  push_cast
  rfl

theorem toInt_signExtend_low (inside : bits ≤ 64) :
    ((word.setWidth bits).signExtend 64).toInt = residue bits true word.toInt := by
  rw [BitVec.toInt_signExtend, BitVec.toInt_setWidth, Nat.min_eq_right inside, Int.bmod_bmod,
    residue_signed, BitVec.toInt_eq_toNat_bmod word,
    Int.bmod_bmod_of_dvd (Nat.pow_dvd_pow 2 inside)]

end Words

def fromLow (bits : Nat) (signed : Bool) (value : Int64) : Int64 :=
  let cut := value.toBitVec.setWidth bits
  .ofBitVec (if signed then cut.signExtend 64 else cut.setWidth 64)

section FromLow

variable {bits : Nat} {signed : Bool} (value : Int64)

theorem fromLow_word : fromLow 64 signed value = value := by
  cases signed <;> simp [fromLow]

theorem toInt_fromLow (inside : bits < 64 ∨ signed = true ∧ bits = 64) :
    (fromLow bits signed value).toInt = residue bits signed value.toInt := by
  rw [fromLow, Int64.toInt_ofBitVec]
  cases signed with
  | true => exact toInt_signExtend_low value.toBitVec (by omega)
  | false => exact toInt_zeroExtend_low value.toBitVec (by simpa using inside)

-- An unsigned integer of 64 bits is a word that is read with a sign here, so only its residue is
-- the one that arithmetic gives.
theorem toInt_fromLow_emod (inside : bits ≤ 64) :
    (fromLow bits signed value).toInt % 2 ^ 64 = residue bits signed value.toInt % 2 ^ 64 := by
  rcases Nat.lt_or_eq_of_le inside with below | rfl
  · rw [toInt_fromLow value (.inl below)]
  · rw [fromLow_word, residue_emod]

theorem toInt_fromLow_eq_zero (inside : bits ≤ 64) :
    (fromLow bits signed value).toInt = 0 ↔ residue bits signed value.toInt = 0 := by
  rcases Nat.lt_or_eq_of_le inside with below | rfl
  · rw [toInt_fromLow value (.inl below)]
  · have least := value.le_toInt
    have greatest := value.toInt_lt
    rw [fromLow_word]
    simp only [residue]
    split <;> omega

theorem setWidth_fromLow {low : Nat} (below : low ≤ bits) (inside : bits ≤ 64) :
    (fromLow bits signed value).toBitVec.setWidth low = value.toBitVec.setWidth low := by
  cases signed with
  | true =>
      change ((value.toBitVec.setWidth bits).signExtend 64).setWidth low = _
      rw [setWidth_signExtend_of_le _ below inside, BitVec.setWidth_setWidth_of_le _ below]
  | false =>
      change ((value.toBitVec.setWidth bits).setWidth 64).setWidth low = _
      rw [BitVec.setWidth_setWidth_of_le _ (Nat.le_trans below inside),
        BitVec.setWidth_setWidth_of_le _ below]

/-- A narrow type gets the same from what a wider one has left. -/
theorem fromLow_fromLow {low : Nat} (below : low ≤ bits) (inside : bits ≤ 64) (sign : Bool) :
    fromLow low sign (fromLow bits signed value) = fromLow low sign value := by
  rw [fromLow, setWidth_fromLow value below inside, fromLow]

end FromLow

namespace IntegerKind

def bits : IntegerKind → Nat
  | boolean => 1
  | byte => 8
  | short | char => 16
  | int => 32
  | long => 64

def isSigned : IntegerKind → Bool
  | boolean | char => false
  | byte | short | int | long => true

def keep (kind : IntegerKind) (value : Int) : Int :=
  if kind = boolean then if value = 0 then 0 else 1
  else residue kind.bits kind.isSigned value

theorem bits_le (kind : IntegerKind) : kind.bits ≤ 64 := by
  cases kind <;> decide

theorem keep_congr (kind : IntegerKind) {left right : Int}
    (same : left % 2 ^ 64 = right % 2 ^ 64) (zero : left = 0 ↔ right = 0) :
    kind.keep left = kind.keep right := by
  simp only [keep, zero, residue_congr (emod_eq_of_le kind.bits_le same)]

end IntegerKind

theorem normalize_eq_fromLow (value : Int64) {type : CType} (integral : type.isIntegral = true)
    (model : DataModel) :
    normalize value type model = fromLow (type.bits model) type.isSigned value := by
  rw [normalize, if_pos integral, fromLow]

theorem narrow_eq_fromLow (value : Int64) {kind : IntegerKind} (number : kind ≠ .boolean) :
    narrow value kind = fromLow kind.bits kind.isSigned value := by
  cases kind with
  | boolean => exact absurd rfl number
  | char => rfl
  | long => exact (fromLow_word value).symm
  | byte | short | int =>
      rw [← Int64.toInt_inj, toInt_fromLow value (.inl (by decide))]
      simp [narrow, IntegerKind.bits, IntegerKind.isSigned, residue_signed]

theorem narrow_boolean_congr {left right : Int64} (zero : left = 0 ↔ right = 0) :
    narrow left .boolean = narrow right .boolean := by
  simp only [narrow, zero]

theorem toInt_narrow (value : Int64) (kind : IntegerKind) :
    (narrow value kind).toInt = kind.keep value.toInt := by
  by_cases number : kind = .boolean
  · subst number
    simp only [narrow, IntegerKind.keep, ← Int64.toInt_inj, Int64.toInt_zero, ↓reduceIte]
    split <;> rfl
  · rw [narrow_eq_fromLow value number, IntegerKind.keep, if_neg number]
    apply toInt_fromLow
    cases kind <;> decide

/-- An integer that is received through a C type is what arithmetic makes of it: the residue at the
width of the C type, read as that type is, and of it what the host integer keeps. No bit above that
width counts. -/
theorem convert_arithmetic {type : CType} (integral : type.isIntegral = true) {model : DataModel}
    (valid : model.Valid) (value : Int64) (kind : IntegerKind) :
    (convert value kind type model).toInt =
        kind.keep (residue (type.bits model) type.isSigned value.toInt) ∧
      ∀ other : Int64, (∀ position < type.bits model,
        other.toBitVec.getLsbD position = value.toBitVec.getLsbD position) →
          convert other kind type model = convert value kind type model := by
  have inside := CType.bits_le_of_valid valid type
  constructor
  · rw [convert, toInt_narrow, normalize_eq_fromLow value integral]
    exact kind.keep_congr (toInt_fromLow_emod value inside) (toInt_fromLow_eq_zero value inside)
  · intro other same
    have low : other.toBitVec.setWidth (type.bits model) =
        value.toBitVec.setWidth (type.bits model) := by
      apply BitVec.eq_of_getLsbD_eq
      intro position below
      simp only [BitVec.getLsbD_setWidth, below, same position below]
    simp only [convert, normalize_eq_fromLow _ integral, fromLow, low]

theorem convert_arithmetic_signed_char :
    (convert 384 .char .signedChar .ilp32).toInt = 65408 ∧
      convert (-128) .char .signedChar .ilp32 = convert 384 .char .signedChar .ilp32 := by
  have arithmetic := @convert_arithmetic .signedChar rfl .ilp32 (by decide) 384 .char
  exact ⟨arithmetic.1.trans (by decide), arithmetic.2 (-128) (by decide)⟩

section RoundTrip

variable {native : CType} (integral : native.isIntegral = true) {model : DataModel}

theorem narrow_narrow (value : Int64) (kind : IntegerKind) :
    narrow (narrow value kind) kind = narrow value kind := by
  by_cases number : kind = .boolean
  · subst number
    apply narrow_boolean_congr
    simp only [narrow]
    split <;> simp_all
  · rw [narrow_eq_fromLow _ number, narrow_eq_fromLow _ number,
      fromLow_fromLow value (Nat.le_refl _) kind.bits_le]

include integral

theorem normalize_narrow_of_wide (value : Int64) {kind : IntegerKind} (number : kind ≠ .boolean)
    (wide : native.bits model ≤ kind.bits) :
    normalize (narrow value kind) native model = normalize value native model := by
  rw [normalize_eq_fromLow _ integral, narrow_eq_fromLow _ number,
    fromLow_fromLow value wide kind.bits_le, normalize_eq_fromLow _ integral]

variable (valid : model.Valid)
include valid

theorem normalize_normalize (value : Int64) :
    normalize (normalize value native model) native model = normalize value native model := by
  simp only [normalize_eq_fromLow _ integral,
    fromLow_fromLow value (Nat.le_refl _) (CType.bits_le_of_valid valid native)]

theorem CType.bits_pos_of_valid : 0 < native.bits model := by
  obtain ⟨pointer | pointer, long | long⟩ := valid <;>
    cases native <;> simp_all [bits, size, isIntegral]

theorem normalize_eq_zero_iff_of_boolean (value : Int64) :
    normalize (narrow value .boolean) native model = 0 ↔ value = 0 := by
  have inside := CType.bits_le_of_valid valid native
  have some := CType.bits_pos_of_valid integral valid
  rw [normalize_eq_fromLow _ integral, ← Int64.toInt_inj, Int64.toInt_zero,
    toInt_fromLow_eq_zero _ inside]
  simp only [narrow]
  split
  next zero => simp [zero, residue_zero]
  next other => simp [other, residue_one_ne_zero some]

theorem convert_normalize_convert (value : Int64) (kind : IntegerKind) :
    convert (normalize (convert value kind native model) native model) kind native model =
      convert value kind native model := by
  have inside := CType.bits_le_of_valid valid native
  simp only [convert, normalize_normalize integral valid]
  by_cases number : kind = .boolean
  · subst number
    apply narrow_boolean_congr
    exact normalize_eq_zero_iff_of_boolean integral valid _
  · rcases Nat.le_total (native.bits model) kind.bits with wide | below
    · rw [normalize_narrow_of_wide integral _ number wide,
        normalize_normalize integral valid]
    · rw [narrow_eq_fromLow (normalize _ _ _) number, normalize_eq_fromLow _ integral,
        fromLow_fromLow _ below inside, ← narrow_eq_fromLow _ number, narrow_narrow]

end RoundTrip

namespace HostType

theorem integerOperand_valueOfInt64 {type : HostType} {kind : IntegerKind}
    (numbered : type.integerKind? = some kind) {value : Int64} (held : narrow value kind = value) :
    (type.valueOfInt64 value).integerOperand type = .ok value := by
  cases type with
  | boolean =>
      cases numbered
      simp only [narrow] at held
      split at held
      all_goals subst held; rfl
  | byte | short | char | int =>
      cases numbered
      exact congrArg Except.ok held
  | long | address => rfl
  | _ => cases numbered

end HostType

namespace Value

variable {type : HostType} {kind : IntegerKind} {native : CType} {model : DataModel}

theorem ofImage_of_isIntegral (integral : native.isIntegral = true)
    (numbered : type.integerKind? = some kind) (image : UInt64) :
    ofImage image type native model =
      .ok (type.valueOfInt64 (convert image.toInt64 kind native model)) := by
  cases native with
  | void | float | double => cases integral
  | _ => simp only [ofImage, numbered]

theorem toImage_valueOfInt64 (integral : native.isIntegral = true)
    (numbered : type.integerKind? = some kind) {value : Int64} (held : narrow value kind = value) :
    (type.valueOfInt64 value).toImage type native model =
      .ok (normalize value native model).toUInt64 := by
  have operand := HostType.integerOperand_valueOfInt64 numbered held
  cases native with
  | void | float | double => cases integral
  | _ =>
      simp only [toImage, operand, numbered, Option.map_some, Option.getD_some]
      change Except.ok (normalize (narrow value kind) _ model).toUInt64 = _
      rw [held]

/-- Every image of an integer can be received as any host integer, the value can be sent back, and
what was sent back is received as the same value. A host integer that is no boolean and at least as
wide as the C type loses nothing. -/
theorem image_round_trip (integral : native.isIntegral = true) (valid : model.Valid)
    (numbered : type.integerKind? = some kind) (raw : UInt64) :
    ∃ value image, ofImage raw type native model = .ok value ∧
      value.toImage type native model = .ok image ∧
      ofImage image type native model = .ok value ∧
      (type ≠ .boolean → native.bits model ≤ kind.bits →
        image = (normalize raw.toInt64 native model).toUInt64) := by
  have held : narrow (convert raw.toInt64 kind native model) kind =
      convert raw.toInt64 kind native model := narrow_narrow _ kind
  refine ⟨_, _, ofImage_of_isIntegral integral numbered raw,
    toImage_valueOfInt64 integral numbered held, ?_, ?_⟩
  · rw [ofImage_of_isIntegral integral numbered, Int64.toInt64_toUInt64,
      convert_normalize_convert integral valid]
  · intro other wide
    have number : kind ≠ .boolean := by
      rintro rfl
      cases type with
      | boolean => exact other rfl
      | _ => cases numbered
    rw [convert, normalize_narrow_of_wide integral _ number wide,
      normalize_normalize integral valid]

theorem image_round_trip_char_as_short :
    ofImage 0x18000 .char .short .ilp32 = .ok (.char 0x8000) ∧
      (char 0x8000).toImage .char .short .ilp32 = .ok 0xffffffffffff8000 ∧
      ofImage 0xffffffffffff8000 .char .short .ilp32 = .ok (.char 0x8000) := by
  obtain ⟨value, image, received, sent, again, whole⟩ :=
    @image_round_trip .char .char .short .ilp32 rfl (by decide) rfl 0x18000
  obtain rfl : image = 0xffffffffffff8000 := whole (by decide) (by decide)
  obtain rfl : Value.char 0x8000 = value := Except.ok.inj received
  exact ⟨received, sent, again⟩

end Value

end ForeignCall
