import ForeignCall.Text.Encoding
import Mathlib.Algebra.Group.Nat.Defs

/-! Characters as code units of 16 and 32 bits and code units as bytes, in both directions. -/

namespace ForeignCall

theorem shiftLeft_mod_or {high low shift width : Nat} (fits : high * 2 ^ shift < 2 ^ width)
    (below : low < 2 ^ shift) :
    high <<< shift % 2 ^ width ||| low = high * 2 ^ shift + low := by
  rw [Nat.mod_eq_of_lt (by rwa [Nat.shiftLeft_eq]), ← Nat.shiftLeft_add_eq_or_of_lt below,
    Nat.shiftLeft_eq]

theorem toNat_ofLittleEndian_cons (byte : UInt8) (rest : List UInt8)
    (below : (ofLittleEndian rest).toNat < 2 ^ 56) :
    (ofLittleEndian (byte :: rest)).toNat = byte.toNat + 256 * (ofLittleEndian rest).toNat := by
  have small := byte.toNat_lt
  rw [ofLittleEndian, UInt64.toNat_or, UInt64.toNat_shiftLeft, UInt8.toNat_toUInt64]
  change byte.toNat ||| (ofLittleEndian rest).toNat <<< 8 % 2 ^ 64 = _
  rw [Nat.or_comm, shiftLeft_mod_or (by omega) (by omega)]
  omega

namespace TextEncoding

theorem toNat_pair (high low : UInt8) :
    (high.toUInt16 <<< 8 ||| low.toUInt16).toNat = high.toNat * 256 + low.toNat := by
  have small := low.toNat_lt
  have other := high.toNat_lt
  rw [UInt16.toNat_or, UInt16.toNat_shiftLeft, UInt8.toNat_toUInt16, UInt8.toNat_toUInt16]
  change high.toNat <<< 8 % 2 ^ 16 ||| low.toNat = _
  exact shiftLeft_mod_or (by omega) (by omega)

theorem unitOfPair_pair (bigEndian : Bool) (unit : UInt16) :
    unitOfPair bigEndian (pair bigEndian unit) = unit := by
  have bound := unit.toNat_lt
  have joined : (unit >>> 8).toUInt8.toUInt16 <<< 8 ||| unit.toUInt8.toUInt16 = unit := by
    apply UInt16.toNat.inj
    rw [toNat_pair, UInt16.toNat_toUInt8, UInt16.toNat_toUInt8, UInt16.toNat_shiftRight]
    change unit.toNat >>> 8 % 256 * 256 + _ = _
    rw [Nat.shiftRight_eq_div_pow]
    omega
  cases bigEndian <;> exact joined

theorem pair_unitOfPair (bigEndian : Bool) {bytes : List UInt8} (whole : bytes.length = 2) :
    pair bigEndian (unitOfPair bigEndian bytes) = bytes := by
  match bytes, whole with
  | [first, second], _ =>
  have parts : ∀ high low : UInt8,
      (high.toUInt16 <<< 8 ||| low.toUInt16).toUInt8 = low ∧
        ((high.toUInt16 <<< 8 ||| low.toUInt16) >>> 8).toUInt8 = high := by
    intro high low
    have small := low.toNat_lt
    have other := high.toNat_lt
    constructor
    · apply UInt8.toNat.inj
      rw [UInt16.toNat_toUInt8, toNat_pair]
      omega
    · apply UInt8.toNat.inj
      rw [UInt16.toNat_toUInt8, UInt16.toNat_shiftRight, toNat_pair]
      change (high.toNat * 256 + low.toNat) >>> 8 % 256 = _
      rw [Nat.shiftRight_eq_div_pow]
      omega
  cases bigEndian <;> simp [pair, unitOfPair, parts]

theorem length_pair (bigEndian : Bool) (unit : UInt16) : (pair bigEndian unit).length = 2 := by
  cases bigEndian <;> rfl

theorem toNat_quadruple (first second third fourth : UInt8) :
    (ofLittleEndian [first, second, third, fourth]).toUInt32.toNat =
      first.toNat + 256 * (second.toNat + 256 * (third.toNat + 256 * fourth.toNat)) := by
  have one := first.toNat_lt
  have two := second.toNat_lt
  have three := third.toNat_lt
  have four := fourth.toNat_lt
  have none : (ofLittleEndian []).toNat = 0 := rfl
  have last := toNat_ofLittleEndian_cons fourth [] (by omega)
  have later := toNat_ofLittleEndian_cons third [fourth] (by omega)
  have early := toNat_ofLittleEndian_cons second [third, fourth] (by omega)
  rw [UInt64.toNat_toUInt32, toNat_ofLittleEndian_cons _ _ (by omega)]
  omega

theorem codeOfQuadruple_quadruple (bigEndian : Bool) (code : UInt32) :
    codeOfQuadruple bigEndian (quadruple bigEndian code) = code := by
  have bound := code.toNat_lt
  have joined : (ofLittleEndian [code.toUInt8, (code >>> 8).toUInt8, (code >>> 16).toUInt8,
      (code >>> 24).toUInt8]).toUInt32 = code := by
    apply UInt32.toNat.inj
    rw [toNat_quadruple]
    simp only [UInt32.toNat_toUInt8, UInt32.toNat_shiftRight]
    change _ + 256 * (code.toNat >>> 8 % 256 + 256 * (code.toNat >>> 16 % 256 +
      256 * (code.toNat >>> 24 % 256))) = _
    simp only [Nat.shiftRight_eq_div_pow]
    omega
  cases bigEndian <;> exact joined

theorem quadruple_codeOfQuadruple (bigEndian : Bool) {bytes : List UInt8}
    (whole : bytes.length = 4) : quadruple bigEndian (codeOfQuadruple bigEndian bytes) = bytes := by
  match bytes, whole with
  | [first, second, third, fourth], _ =>
  have parts : ∀ one two three four : UInt8,
      quadruple false (ofLittleEndian [one, two, three, four]).toUInt32 =
        [one, two, three, four] := by
    intro one two three four
    have number := toNat_quadruple one two three four
    have below := one.toNat_lt
    have below' := two.toNat_lt
    have below'' := three.toNat_lt
    have below''' := four.toNat_lt
    generalize (ofLittleEndian [one, two, three, four]).toUInt32 = code at number
    have byte : ∀ shift : UInt32, (code >>> shift).toUInt8.toNat =
        code.toNat / 2 ^ (shift.toNat % 32) % 256 := by
      intro shift
      rw [UInt32.toNat_toUInt8, UInt32.toNat_shiftRight, Nat.shiftRight_eq_div_pow]
    simp only [quadruple, Bool.false_eq_true, ↓reduceIte, List.cons.injEq, and_true]
    refine ⟨?_, ?_, ?_, ?_⟩
    · apply UInt8.toNat.inj
      rw [UInt32.toNat_toUInt8]
      omega
    · apply UInt8.toNat.inj
      rw [byte]
      change code.toNat / 2 ^ 8 % 256 = _
      omega
    · apply UInt8.toNat.inj
      rw [byte]
      change code.toNat / 2 ^ 16 % 256 = _
      omega
    · apply UInt8.toNat.inj
      rw [byte]
      change code.toNat / 2 ^ 24 % 256 = _
      omega
  cases bigEndian with
  | false => exact parts first second third fourth
  | true => exact congrArg List.reverse (parts fourth third second first)

theorem length_quadruple (bigEndian : Bool) (code : UInt32) :
    (quadruple bigEndian code).length = 4 := by
  cases bigEndian <;> rfl

theorem charOfCode?_eq_some_iff {code : UInt32} {character : Char} :
    charOfCode? code = some character ↔ character.val = code := by
  rw [charOfCode?]
  split
  next valid =>
    rw [Option.some.injEq]
    exact ⟨fun same => same ▸ rfl, fun same => Char.ext same.symm⟩
  next invalid =>
    constructor
    · rintro ⟨⟩
    · rintro rfl
      exact absurd character.valid invalid

theorem toNat_val_cases (character : Char) :
    character.val.toNat < 0xd800 ∨ 0xdfff < character.val.toNat ∧ character.val.toNat < 0x10000 ∨
      0x10000 ≤ character.val.toNat ∧ character.val.toNat < 0x110000 := by
  have valid : character.val.toNat < 0xd800 ∨
      0xdfff < character.val.toNat ∧ character.val.toNat < 0x110000 := character.valid
  omega

theorem isHighSurrogate_iff (unit : UInt16) :
    isHighSurrogate unit = true ↔ 0xd800 ≤ unit.toNat ∧ unit.toNat ≤ 0xdbff := by
  rw [isHighSurrogate, Bool.and_eq_true, decide_eq_true_iff, decide_eq_true_iff]
  rfl

theorem isLowSurrogate_iff (unit : UInt16) :
    isLowSurrogate unit = true ↔ 0xdc00 ≤ unit.toNat ∧ unit.toNat ≤ 0xdfff := by
  rw [isLowSurrogate, Bool.and_eq_true, decide_eq_true_iff, decide_eq_true_iff]
  rfl

theorem utf16Units_of_small {character : Char} (small : character.val.toNat < 0x10000) :
    utf16Units character = [character.val.toUInt16] := by
  have below : character.val < 0x10000 := small
  rw [utf16Units, if_pos below]

theorem toUInt32_toUInt16 {code : UInt32} (small : code.toNat < 0x10000) :
    code.toUInt16.toUInt32 = code := by
  apply UInt32.toNat.inj
  rw [UInt16.toNat_toUInt32, UInt32.toNat_toUInt16]
  omega

/-- A character beyond 16 bits is two surrogates with ten bits each. -/
theorem utf16Units_of_large (character : Char) (large : 0x10000 ≤ character.val.toNat) :
    ∃ high low, utf16Units character = [high, low] ∧
      high.toNat = 0xd800 + (character.val.toNat - 0x10000) / 1024 ∧
        low.toNat = 0xdc00 + (character.val.toNat - 0x10000) % 1024 := by
  have range := toNat_val_cases character
  have above : ¬ character.val < 0x10000 := by
    intro small
    have : character.val.toNat < 0x10000 := small
    omega
  have reached : (0x10000 : UInt32) ≤ character.val := large
  have offset : (character.val - 0x10000).toNat = character.val.toNat - 0x10000 :=
    UInt32.toNat_sub_of_le _ _ reached
  refine ⟨_, _, by rw [utf16Units, if_neg above], ?_, ?_⟩
  · rw [UInt16.toNat_add, UInt32.toNat_toUInt16, UInt32.toNat_shiftRight, offset,
      Nat.shiftRight_eq_div_pow]
    change (0xd800 + (character.val.toNat - 0x10000) / 1024 % 65536) % 65536 = _
    omega
  · rw [UInt16.toNat_add, UInt32.toNat_toUInt16, UInt32.toNat_and, offset]
    change (0xdc00 + ((character.val.toNat - 0x10000) &&& 2 ^ 10 - 1) % 65536) % 65536 = _
    rw [Nat.and_two_pow_sub_one_eq_mod]
    omega

theorem charOfSurrogates?_eq_some_iff {high low : UInt16} (first : isHighSurrogate high = true)
    (second : isLowSurrogate low = true) {character : Char} :
    charOfSurrogates? high low = some character ↔
      character.val.toNat = 0x10000 + (high.toNat - 0xd800) * 1024 + (low.toNat - 0xdc00) := by
  rw [isHighSurrogate_iff] at first
  rw [isLowSurrogate_iff] at second
  have lowBits : ∀ unit : UInt16, (unit.toUInt32 &&& 0x3ff).toNat = unit.toNat % 1024 := by
    intro unit
    rw [UInt32.toNat_and, UInt16.toNat_toUInt32]
    exact Nat.and_two_pow_sub_one_eq_mod unit.toNat 10
  have number : ((high.toUInt32 &&& 0x3ff) <<< 10 ||| (low.toUInt32 &&& 0x3ff)).toNat =
      (high.toNat - 0xd800) * 1024 + (low.toNat - 0xdc00) := by
    rw [UInt32.toNat_or, UInt32.toNat_shiftLeft, lowBits, lowBits]
    change (high.toNat % 1024) <<< 10 % 2 ^ 32 ||| low.toNat % 1024 = _
    rw [shiftLeft_mod_or (by omega) (by omega)]
    omega
  rw [charOfSurrogates?, charOfCode?_eq_some_iff, ← UInt32.toNat_inj, UInt32.toNat_add, number]
  change _ = (_ + 0x10000) % 2 ^ 32 ↔ _
  omega

end TextEncoding

end ForeignCall
