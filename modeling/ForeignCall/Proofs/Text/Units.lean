import ForeignCall.Text.Encoding

/-! Bytes as code units: the front of a byte string up to its first zero unit. -/

namespace ForeignCall

theorem wholeChunks_append {size : Nat} {chunk : List UInt8} (some_byte : 0 < size)
    (whole : chunk.length = size) (rest : List UInt8) :
    wholeChunks size (chunk ++ rest) = chunk :: wholeChunks size rest := by
  rw [wholeChunks_eq_ite, if_pos ⟨some_byte, by simp [whole]⟩, ← whole, List.take_left,
    List.drop_left]

theorem wholeChunks_of_short {size : Nat} {bytes : List UInt8} (short : bytes.length < size) :
    wholeChunks size bytes = [] := by
  rw [wholeChunks_eq_ite, if_neg (by omega)]

theorem wholeChunks_flatMap {Item : Type} {size : Nat} (some_byte : 0 < size)
    (chunk : Item → List UInt8) (whole : ∀ item, (chunk item).length = size)
    (items : List Item) : wholeChunks size (items.flatMap chunk) = items.map chunk := by
  induction items with
  | nil => exact wholeChunks_of_short some_byte
  | cons head rest ih =>
      rw [List.flatMap_cons, wholeChunks_append some_byte (whole head), ih, List.map_cons]

theorem length_of_mem_wholeChunks {size : Nat} {bytes chunk : List UInt8}
    (known : chunk ∈ wholeChunks size bytes) : chunk.length = size := by
  induction bytes using wholeChunks.induct size with
  | case1 bytes whole ih =>
      rw [wholeChunks, dif_pos whole, List.mem_cons] at known
      rcases known with rfl | later
      · exact whole.2
      · exact ih later
  | case2 bytes short =>
      rw [wholeChunks, dif_neg short] at known
      cases known

def Whole (size : Nat) (bytes : List UInt8) : Prop := (wholeChunks size bytes).flatten = bytes

/-- Whole units read one by one, where reading a unit undoes writing it. -/
theorem map_wholeChunks_eq_iff {Item : Type} {size : Nat} (some_byte : 0 < size)
    {chunk : Item → List UInt8} {item : List UInt8 → Item}
    (sized : ∀ item, (chunk item).length = size) (read : ∀ each, item (chunk each) = each)
    (written : ∀ {bytes}, bytes.length = size → chunk (item bytes) = bytes) {bytes : List UInt8}
    (whole : Whole size bytes) {items : List Item} :
    (wholeChunks size bytes).map item = items ↔ bytes = items.flatMap chunk := by
  constructor
  · rintro rfl
    have same : (wholeChunks size bytes).map (chunk ∘ item) = (wholeChunks size bytes).map id :=
      List.map_congr_left fun unit known => written (length_of_mem_wholeChunks known)
    rw [List.flatMap_def, List.map_map, same, List.map_id, whole]
  · rintro rfl
    have same : items.map (item ∘ chunk) = items.map id :=
      List.map_congr_left fun each _ => read each
    rw [wholeChunks_flatMap some_byte chunk sized, List.map_map, same, List.map_id]

theorem whole_flatten {size : Nat} (some_byte : 0 < size) {chunks : List (List UInt8)}
    (sized : ∀ chunk ∈ chunks, chunk.length = size) : Whole size chunks.flatten := by
  induction chunks with
  | nil => rw [Whole, List.flatten_nil, wholeChunks_of_short some_byte]; rfl
  | cons head rest ih =>
      have inner : Whole size rest.flatten := ih fun chunk known => sized chunk (by simp [known])
      rw [Whole, List.flatten_cons, wholeChunks_append some_byte (sized head (by simp)),
        List.flatten_cons, inner]

namespace TextEncoding

variable (encoding : TextEncoding)

theorem body_append {unit : List UInt8} (whole : unit.length = encoding.unitSize)
    (rest : List UInt8) :
    encoding.body (unit ++ rest) =
      if unit.any (· != 0) then unit ++ encoding.body rest else [] := by
  rw [body, wholeChunks_append encoding.unitSize_pos whole, List.takeWhile_cons]
  split <;> rfl

theorem body_of_short {bytes : List UInt8} (short : bytes.length < encoding.unitSize) :
    encoding.body bytes = [] := by
  rw [body, wholeChunks_of_short short]
  rfl

theorem body_nil : encoding.body [] = [] := encoding.body_of_short encoding.unitSize_pos

theorem body_zero (rest : List UInt8) :
    encoding.body (List.replicate terminatorSize 0 ++ rest) = [] := by
  have split : List.replicate terminatorSize (0 : UInt8) =
      List.replicate encoding.unitSize 0 ++
        List.replicate (terminatorSize - encoding.unitSize) 0 := by
    cases encoding <;> rfl
  rw [split, List.append_assoc, body_append _ (by simp)]
  simp

theorem body_flatten {units : List (List UInt8)}
    (each : ∀ unit ∈ units, unit.length = encoding.unitSize ∧ unit.any (· != 0) = true)
    (rest : List UInt8) :
    encoding.body (units.flatten ++ rest) = units.flatten ++ encoding.body rest := by
  induction units with
  | nil => rfl
  | cons head others ih =>
      obtain ⟨whole, nonzero⟩ := each head (by simp)
      rw [List.flatten_cons, List.append_assoc, body_append _ whole, if_pos nonzero,
        ih fun unit known => each unit (by simp [known]), List.append_assoc]

theorem whole_body (bytes : List UInt8) : Whole encoding.unitSize (encoding.body bytes) := by
  apply whole_flatten encoding.unitSize_pos
  intro chunk known
  exact length_of_mem_wholeChunks (List.takeWhile_subset _ known)

theorem body_body (bytes : List UInt8) :
    encoding.body (encoding.body bytes) = encoding.body bytes := by
  have each : ∀ unit ∈ (wholeChunks encoding.unitSize bytes).takeWhile (·.any (· != 0)),
      unit.length = encoding.unitSize ∧ unit.any (· != 0) = true := by
    intro unit known
    exact ⟨length_of_mem_wholeChunks (List.takeWhile_subset _ known),
      List.all_eq_true.1 List.all_takeWhile unit known⟩
  have fixed := encoding.body_flatten each []
  rwa [body_nil, List.append_nil] at fixed

/-- Bytes cut where a reader stops: before their first zero unit, or behind the last whole one. -/
structure CutAt (bytes front : List UInt8) : Prop where
  starts : front <+: bytes
  whole : encoding.unitSize ∣ front.length
  nonzero : ∀ index, index * encoding.unitSize < front.length →
    ∃ byte ∈ (front.drop (index * encoding.unitSize)).take encoding.unitSize, byte ≠ 0
  stops : bytes.length < front.length + encoding.unitSize ∨
    (bytes.drop front.length).take encoding.unitSize = List.replicate encoding.unitSize 0

namespace CutAt

variable {encoding}

theorem nil_of_short {bytes : List UInt8} (short : bytes.length < encoding.unitSize) :
    encoding.CutAt bytes [] :=
  ⟨List.nil_prefix, ⟨0, rfl⟩, by simp, .inl (by simpa using short)⟩

theorem nil_of_zero {unit : List UInt8} (whole : unit.length = encoding.unitSize)
    (zero : unit.any (· != 0) = false) (rest : List UInt8) :
    encoding.CutAt (unit ++ rest) [] := by
  refine ⟨List.nil_prefix, ⟨0, rfl⟩, by simp, .inr ?_⟩
  rw [List.length_nil, List.drop_zero, ← whole, List.take_left]
  exact List.eq_replicate_iff.2 ⟨rfl, by simpa using zero⟩

theorem append {unit : List UInt8} (whole : unit.length = encoding.unitSize)
    (nonzero : unit.any (· != 0) = true) {bytes front : List UInt8}
    (cut : encoding.CutAt bytes front) : encoding.CutAt (unit ++ bytes) (unit ++ front) := by
  refine ⟨(List.prefix_append_right_inj unit).2 cut.starts, ?_, ?_, ?_⟩
  · rw [List.length_append, whole]
    exact (Nat.dvd_add_right (Nat.dvd_refl _)).2 cut.whole
  · intro index inside
    cases index with
    | zero =>
        rw [Nat.zero_mul, List.drop_zero, ← whole, List.take_left]
        simpa using nonzero
    | succ index =>
        rw [Nat.succ_mul, List.length_append, whole] at inside
        rw [Nat.succ_mul, Nat.add_comm, ← List.drop_drop, ← whole, List.drop_left, whole]
        exact cut.nonzero index (by omega)
  · rw [List.length_append, List.length_append, ← List.drop_drop, List.drop_left]
    rcases cut.stops with short | zero
    · exact .inl (by omega)
    · exact .inr zero

end CutAt

theorem cutAt_body (bytes : List UInt8) : encoding.CutAt bytes (encoding.body bytes) := by
  induction bytes using wholeChunks.induct encoding.unitSize with
  | case1 bytes whole ih =>
      have split : bytes.take encoding.unitSize ++ bytes.drop encoding.unitSize = bytes :=
        List.take_append_drop _ _
      rw [← split, body_append _ whole.2]
      split
      next nonzero => exact ih.append whole.2 nonzero
      next zero => exact .nil_of_zero whole.2 (by simpa using zero) _
  | case2 bytes short =>
      rw [List.length_take] at short
      have short : bytes.length < encoding.unitSize := by
        have := encoding.unitSize_pos
        omega
      rw [body_of_short _ short]
      exact .nil_of_short short

end TextEncoding

end ForeignCall
