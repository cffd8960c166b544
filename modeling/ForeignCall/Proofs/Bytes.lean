import ForeignCall.Bytes

/-! Words by their bytes: the low bytes of a word are its low bits, and bytes that make up a word
can be taken from it again. -/

namespace ForeignCall

theorem littleEndian_congr {width : Nat} {left right : UInt64}
    (alike : ∀ index < 8 * width, left.toBitVec.getLsbD index = right.toBitVec.getLsbD index) :
    littleEndian width left = littleEndian width right := by
  induction width generalizing left right with
  | zero => rfl
  | succ width ih =>
      have first : left.toUInt8 = right.toUInt8 := by
        apply UInt8.eq_of_toBitVec_eq
        rw [UInt64.toBitVec_toUInt8, UInt64.toBitVec_toUInt8]
        apply BitVec.eq_of_getLsbD_eq
        intro index below
        simp only [BitVec.getLsbD_setWidth, below, decide_true, Bool.true_and]
        exact alike index (by omega)
      have others : littleEndian width (left >>> 8) = littleEndian width (right >>> 8) := by
        refine ih fun index below => ?_
        simp only [UInt64.toBitVec_shiftRight, BitVec.ushiftRight_eq', BitVec.getLsbD_ushiftRight]
        exact alike _ (by simp; omega)
      rw [littleEndian, littleEndian, first, others]

theorem littleEndian_ofLittleEndian {bytes : List UInt8} (short : bytes.length ≤ 8) :
    littleEndian bytes.length (ofLittleEndian bytes) = bytes := by
  induction bytes with
  | nil => rfl
  | cons byte rest ih =>
      have inner : rest.length ≤ 7 := Nat.le_of_succ_le_succ short
      have low : (byte.toUInt64 ||| ofLittleEndian rest <<< 8).toUInt8 = byte := by
        apply UInt8.eq_of_toBitVec_eq
        apply BitVec.eq_of_getLsbD_eq
        intro index below
        simp [below]
      have high : littleEndian rest.length ((byte.toUInt64 ||| ofLittleEndian rest <<< 8) >>> 8) =
          littleEndian rest.length (ofLittleEndian rest) := by
        refine littleEndian_congr fun index below => ?_
        have beyond : ¬ 8 + index < 8 := by omega
        have inside : 8 + index < 64 := by omega
        have known : index < 64 := by omega
        simp [beyond, inside, BitVec.getLsbD_eq_getElem known]
      rw [ofLittleEndian, List.length_cons, littleEndian, low, high, ih (by omega)]

theorem take_littleEndian {short width : Nat} (shorter : short ≤ width) (word : UInt64) :
    (littleEndian width word).take short = littleEndian short word := by
  induction short generalizing width word with
  | zero => rfl
  | succ short ih =>
    cases width with
    | zero => omega
    | succ width => rw [littleEndian, List.take_succ_cons, ih (by omega), littleEndian]

theorem ofLittleEndian_replicate_zero (count : Nat) :
    ofLittleEndian (List.replicate count 0) = 0 := by
  induction count with
  | zero => rfl
  | succ count ih =>
    rw [List.replicate_succ, ofLittleEndian, ih]
    rfl

theorem getLsbD_of_littleEndian {width : Nat} {left right : UInt64}
    (same : littleEndian width left = littleEndian width right) {index : Nat}
    (low : index < 8 * width) (inside : index < 64) :
    left.toBitVec.getLsbD index = right.toBitVec.getLsbD index := by
  have first := getLsbD_ofLittleEndian width left index inside
  rw [same, getLsbD_ofLittleEndian width right index inside] at first
  simpa only [low, decide_true, Bool.true_and] using first.symm

end ForeignCall
