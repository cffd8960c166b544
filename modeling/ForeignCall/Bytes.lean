/-! Little-endian words and byte strings that are written into one another. -/

namespace ForeignCall

def littleEndian : Nat → UInt64 → List UInt8
  | 0, _ => []
  | width + 1, word => word.toUInt8 :: littleEndian width (word >>> 8)

def ofLittleEndian : List UInt8 → UInt64
  | [] => 0
  | byte :: rest => byte.toUInt64 ||| (ofLittleEndian rest <<< 8)

@[simp] theorem length_littleEndian (width : Nat) (word : UInt64) :
    (littleEndian width word).length = width := by
  induction width generalizing word with
  | zero => rfl
  | succ width ih => simp [littleEndian, ih]

theorem getLsbD_ofLittleEndian (width : Nat) (word : UInt64) (index : Nat) (below : index < 64) :
    (ofLittleEndian (littleEndian width word)).toBitVec.getLsbD index =
      (decide (index < 8 * width) && word.toBitVec.getLsbD index) := by
  induction width generalizing word index with
  | zero => simp [littleEndian, ofLittleEndian]
  | succ width ih =>
    simp only [littleEndian, ofLittleEndian, UInt64.toBitVec_or, UInt64.toBitVec_shiftLeft,
      BitVec.getLsbD_or, UInt8.toBitVec_toUInt64, UInt64.toBitVec_toUInt8, BitVec.shiftLeft_eq',
      BitVec.getLsbD_setWidth, BitVec.getLsbD_shiftLeft]
    by_cases low : index < 8
    · have inside : index < 8 * (width + 1) := by omega
      simp [low, inside, below]
    · have edge : index < 8 * (width + 1) ↔ index - 8 < 8 * width := by omega
      have back : 8 + (index - 8) = index := by omega
      have shifted := ih (word >>> 8) (index - 8) (by omega)
      simp only [UInt64.toBitVec_shiftRight, BitVec.ushiftRight_eq',
        BitVec.getLsbD_ushiftRight] at shifted
      simp [low, below, edge, shifted, back]

theorem ofLittleEndian_littleEndian (word : UInt64) :
    ofLittleEndian (littleEndian 8 word) = word := by
  apply UInt64.eq_of_toBitVec_eq
  apply BitVec.eq_of_getLsbD_eq
  intro index below
  rw [getLsbD_ofLittleEndian 8 word index below]
  simp [below]

/-- Whole chunks of a given size; a shorter tail is left out. -/
def wholeChunks (size : Nat) (bytes : List UInt8) : List (List UInt8) :=
  if _whole : 0 < size ∧ (bytes.take size).length = size then
    bytes.take size :: wholeChunks size (bytes.drop size)
  else []
termination_by bytes.length
decreasing_by simp only [List.length_take, List.length_drop] at _whole ⊢; omega

theorem wholeChunks_eq_ite (size : Nat) (bytes : List UInt8) :
    wholeChunks size bytes =
      if 0 < size ∧ size ≤ bytes.length then
        bytes.take size :: wholeChunks size (bytes.drop size)
      else [] := by
  have whole : (bytes.take size).length = size ↔ size ≤ bytes.length := by
    rw [List.length_take]; omega
  rw [wholeChunks]
  simp only [whole, dite_eq_ite]

/-- Bytes with others written over them from a position on; a gap is filled with zeros. -/
def overwrite (bytes : List UInt8) (position : Nat) (written : List UInt8) : List UInt8 :=
  bytes.take position ++ List.replicate (position - bytes.length) 0 ++ written ++
    bytes.drop (position + written.length)

theorem length_overwrite (bytes : List UInt8) (position : Nat) (written : List UInt8)
    (inside : position + written.length ≤ bytes.length) :
    (overwrite bytes position written).length = bytes.length := by
  simp only [overwrite, List.length_append, List.length_take, List.length_replicate,
    List.length_drop]
  omega

theorem overwrite_middle (before old written after : List UInt8)
    (same : old.length = written.length) :
    overwrite (before ++ old ++ after) before.length written = before ++ written ++ after := by
  simp [overwrite, ← same, List.drop_append]

end ForeignCall
