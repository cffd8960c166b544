import ForeignCall.Memory

/-! What a write does to the runs of bytes of a memory: it can be read back, runs that lie apart
from it read as before, and no byte is mapped or unmapped. -/

namespace ForeignCall

/-- Two runs of bytes that do not meet. -/
def Apart (start count other length : Nat) : Prop :=
  start + count ≤ other ∨ other + length ≤ start

theorem getD_overwrite (bytes written : List UInt8) (position index : Nat) :
    (overwrite bytes position written)[index]?.getD 0 =
      if position ≤ index ∧ index < position + written.length then
        written[index - position]?.getD 0
      else bytes[index]?.getD 0 := by
  rw [overwrite, List.append_assoc, List.append_assoc]
  by_cases before : index < position
  · rw [if_neg (by omega)]
    by_cases held : index < bytes.length
    · rw [List.getElem?_append_left (by rw [List.length_take]; omega),
        List.getElem?_take_of_lt before]
    · rw [List.getElem?_append_right (by rw [List.length_take]; omega),
        List.getElem?_append_left (by rw [List.length_take, List.length_replicate]; omega),
        List.getElem?_replicate, List.getElem?_eq_none (Nat.le_of_not_lt held)]
      split <;> rfl
  · have filled : (bytes.take position).length + (position - bytes.length) = position := by
      rw [List.length_take]
      omega
    rw [List.getElem?_append_right (by omega), List.getElem?_append_right
      (by rw [List.length_replicate]; omega), List.length_replicate, Nat.sub_sub, filled]
    by_cases within : index < position + written.length
    · rw [if_pos ⟨by omega, within⟩, List.getElem?_append_left (by omega)]
    · rw [if_neg (by omega), List.getElem?_append_right (by omega), List.getElem?_drop]
      congr 2
      omega

theorem getElem?_overwrite {bytes written : List UInt8} {position : Nat}
    (inside : position + written.length ≤ bytes.length) (index : Nat) :
    (overwrite bytes position written)[index]? =
      if position ≤ index ∧ index < position + written.length then written[index - position]?
      else bytes[index]? := by
  have whole := length_overwrite bytes position written inside
  by_cases held : index < bytes.length
  · have pointwise := getD_overwrite bytes written position index
    rw [List.getElem?_eq_getElem (whole ▸ held)] at pointwise ⊢
    split
    next within =>
      rw [if_pos within, List.getElem?_eq_getElem (by omega)] at pointwise
      rw [List.getElem?_eq_getElem (by omega)]
      exact congrArg some pointwise
    next out =>
      rw [if_neg out, List.getElem?_eq_getElem held] at pointwise
      rw [List.getElem?_eq_getElem held]
      exact congrArg some pointwise
  · rw [if_neg (by omega), List.getElem?_eq_none (by omega), List.getElem?_eq_none (by omega)]

theorem prefix_drop_overwrite {code bytes : List UInt8} {start position : Nat}
    (held : code <+: bytes.drop start) (behind : start + code.length ≤ position)
    (written : List UInt8) : code <+: (overwrite bytes position written).drop start := by
  rw [overwrite, List.append_assoc, List.append_assoc, List.drop_append, List.drop_take]
  exact (List.prefix_take_iff.2 ⟨held, by omega⟩).trans (List.prefix_append _ _)

namespace Region

variable {region : Region} {address : Nat} {bytes : List UInt8}

theorem byte_write {other : Nat} (above : region.base ≤ address) (later : region.base ≤ other) :
    (region.write address bytes).byte other =
      if address ≤ other ∧ other < address + bytes.length then bytes[other - address]?.getD 0
      else region.byte other := by
  have moved : other - region.base - (address - region.base) = other - address := by omega
  have same : (address - region.base ≤ other - region.base ∧
      other - region.base < address - region.base + bytes.length) ↔
      (address ≤ other ∧ other < address + bytes.length) := by omega
  rw [byte, write, getD_overwrite, moved]
  simp only [same]
  rfl

theorem getElem?_slice (region : Region) {start count index : Nat} (inside : index < count)
    (above : region.base ≤ start) :
    (region.slice start count)[index]? = some (region.byte (start + index)) := by
  have place : start - region.base + index = start + index - region.base := by omega
  rw [slice, byte]
  by_cases known : index < ((region.writtenFrom start).take count).length
  · rw [List.getElem?_append_left known, List.getElem?_take_of_lt inside, writtenFrom,
      List.getElem?_drop, place]
    rw [List.length_take, writtenFrom, List.length_drop] at known
    rw [List.getElem?_eq_getElem (by omega)]
    rfl
  · rw [List.getElem?_append_right (by omega), List.getElem?_replicate, if_pos (by omega)]
    rw [List.length_take, writtenFrom, List.length_drop] at known
    rw [List.getElem?_eq_none (by omega)]
    rfl

theorem slice_congr {left right : Region} {start count : Nat} (first : left.base ≤ start)
    (second : right.base ≤ start)
    (same : ∀ index < count, left.byte (start + index) = right.byte (start + index)) :
    left.slice start count = right.slice start count := by
  apply List.ext_getElem?
  intro index
  by_cases inside : index < count
  · rw [getElem?_slice left inside first, getElem?_slice right inside second, same index inside]
  · rw [List.getElem?_eq_none (by simp; omega), List.getElem?_eq_none (by simp; omega)]

theorem slice_write_of_apart {start count : Nat} (above : region.base ≤ address)
    (later : region.base ≤ start) (apart : Apart address bytes.length start count) :
    (region.write address bytes).slice start count = region.slice start count := by
  refine slice_congr later later fun index inside => ?_
  rw [byte_write above (by omega), if_neg]
  rintro ⟨low, high⟩
  obtain behind | ahead := apart
  · omega
  · omega

theorem slice_write (above : region.base ≤ address) :
    (region.write address bytes).slice address bytes.length = bytes := by
  apply List.ext_getElem?
  intro index
  by_cases inside : index < bytes.length
  · rw [getElem?_slice (region.write address bytes) inside above, byte_write above (by omega),
      if_pos (by omega),
      Nat.add_sub_cancel_left, List.getElem?_eq_getElem inside]
    rfl
  · rw [List.getElem?_eq_none (by simp; omega), List.getElem?_eq_none (by omega)]

theorem take_slice (region : Region) {start long short : Nat} (shorter : short ≤ long)
    (above : region.base ≤ start) :
    (region.slice start long).take short = region.slice start short := by
  apply List.ext_getElem?
  intro index
  by_cases inside : index < short
  · rw [List.getElem?_take_of_lt inside, getElem?_slice region (by omega) above,
      getElem?_slice region inside above]
  · rw [List.getElem?_eq_none (by simp; omega), List.getElem?_eq_none (by simp; omega)]

end Region

namespace Memory

variable {memory : Memory} {address count : Nat} {bytes : List UInt8}

theorem holds_of_find? {region : Region} (found : memory.find? address = some region) :
    region.holds address = true := by
  have held := List.find?_some found
  exact held

theorem above_of_find? {region : Region} (found : memory.find? address = some region) :
    region.base ≤ address := by
  have held := holds_of_find? found
  simp only [Region.holds, Bool.and_eq_true, decide_eq_true_eq] at held
  exact held.1

theorem find?_write (memory : Memory) (address : Nat) (bytes : List UInt8) (other : Nat) :
    (memory.write address bytes).find? other = (memory.find? other).map fun region =>
      if region.holds address && address + bytes.length ≤ region.base + region.length then
        region.write address bytes
      else region := by
  rw [find?, write, List.find?_map]
  congr 2
  funext region
  rw [Function.comp_apply]
  split
  next => rfl
  next => rfl

theorem readable_write (memory : Memory) (address : Nat) (bytes : List UInt8)
    (start count : Nat) :
    (memory.write address bytes).readable start count = memory.readable start count := by
  rw [readable, readable, find?_write]
  cases memory.find? start with
  | none => rfl
  | some region =>
    dsimp only [Option.map]
    split
    next => rfl
    next => rfl

theorem read?_write (mapped : memory.readable address bytes.length = true) :
    (memory.write address bytes).read? address bytes.length = some bytes := by
  rw [read?, find?_write]
  rw [readable] at mapped
  cases found : memory.find? address with
  | none => rw [found] at mapped; cases mapped
  | some region =>
    rw [found] at mapped
    have fits : address + bytes.length ≤ region.base + region.length := of_decide_eq_true mapped
    have held := holds_of_find? found
    simp only [Option.map, held, fits, decide_true, Bool.and_self, if_true]
    exact (if_pos fits).trans
      (congrArg some (Region.slice_write (above_of_find? found)))

theorem read?_write_of_apart {start count : Nat} (apart : Apart address bytes.length start count) :
    (memory.write address bytes).read? start count = memory.read? start count := by
  rw [read?, read?, find?_write]
  cases found : memory.find? start with
  | none => rfl
  | some region =>
    dsimp only [Option.map]
    split
    next written =>
      have above : region.base ≤ address := by
        simp only [Region.holds, Bool.and_eq_true, decide_eq_true_eq] at written
        exact written.1.1
      rw [Region.slice_write_of_apart above (above_of_find? found) apart]
      rfl
    next => rfl

theorem take_read? {long short : Nat} (shorter : short ≤ long)
    (ran : memory.read? address long = some bytes) :
    memory.read? address short = some (bytes.take short) := by
  rw [read?] at ran ⊢
  cases found : memory.find? address with
  | none => rw [found] at ran; cases ran
  | some region =>
    rw [found] at ran
    dsimp only at ran ⊢
    split at ran
    next fits =>
      cases ran
      rw [if_pos (by omega), Region.take_slice region shorter (above_of_find? found)]
    next => cases ran

theorem isSome_read? (memory : Memory) (address count : Nat) :
    (memory.read? address count).isSome = memory.readable address count := by
  rw [read?, readable]
  cases memory.find? address with
  | none => rfl
  | some region =>
    dsimp only
    split
    next fits => exact (decide_eq_true fits).symm
    next tight => exact (decide_eq_false tight).symm

theorem readable_of_le {short long : Nat} (shorter : short ≤ long)
    (mapped : memory.readable address long = true) : memory.readable address short = true := by
  rw [readable] at mapped ⊢
  cases found : memory.find? address with
  | none => rw [found] at mapped; cases mapped
  | some region =>
    rw [found] at mapped
    have inside := of_decide_eq_true mapped
    exact decide_eq_true (by omega)

theorem length_of_read? (ran : memory.read? address count = some bytes) :
    bytes.length = count := by
  have sized := memory.length_read address count
  rwa [read, ran] at sized

def writeAll (memory : Memory) (runs : List (Nat × List UInt8)) : Memory :=
  runs.foldl (fun memory run => memory.write run.1 run.2) memory

section WriteAll

variable {runs : List (Nat × List UInt8)}

theorem read?_writeAll_of_apart {start count : Nat}
    (apart : ∀ run ∈ runs, Apart run.1 run.2.length start count) :
    (memory.writeAll runs).read? start count = memory.read? start count := by
  induction runs generalizing memory with
  | nil => rfl
  | cons first rest ih =>
    obtain ⟨here, later⟩ := List.forall_mem_cons.1 apart
    exact (ih later).trans (read?_write_of_apart here)

theorem read?_writeAll
    (apart : runs.Pairwise fun first second =>
      Apart second.1 second.2.length first.1 first.2.length)
    (mapped : ∀ run ∈ runs, memory.readable run.1 run.2.length = true) :
    ∀ run ∈ runs, (memory.writeAll runs).read? run.1 run.2.length = some run.2 := by
  induction runs generalizing memory with
  | nil => exact fun _ known => nomatch known
  | cons first rest ih =>
    obtain ⟨here, later⟩ := List.pairwise_cons.1 apart
    obtain ⟨room, rooms⟩ := List.forall_mem_cons.1 mapped
    refine List.forall_mem_cons.2 ⟨?_, ih later fun run known => ?_⟩
    · exact (read?_writeAll_of_apart here).trans (read?_write room)
    · exact (readable_write memory first.1 first.2 run.1 run.2.length).trans (rooms run known)

end WriteAll

theorem find?_granted (memory : Memory) (alignment : Nat) {length : Nat} (bytes : List UInt8)
    {offset : Nat} (inside : offset < length) :
    let granted := memory.allocate alignment length bytes
    granted.2.find? (granted.1 + offset) = some ⟨granted.1, length, bytes⟩ := by
  intro granted
  refine List.find?_cons_of_pos ?_
  simp only [Region.holds, Bool.and_eq_true, decide_eq_true_eq]
  exact ⟨Nat.le_add_right _ _, Nat.add_lt_add_left inside _⟩

theorem readable_granted (memory : Memory) (alignment : Nat) {length : Nat} (bytes : List UInt8)
    {offset count : Nat} (starts : offset < length) (ends : offset + count ≤ length) :
    let granted := memory.allocate alignment length bytes
    granted.2.readable (granted.1 + offset) count = true := by
  intro granted
  rw [readable, memory.find?_granted alignment bytes starts]
  change decide (granted.1 + offset + count ≤ granted.1 + length) = true
  exact decide_eq_true (by omega)

end Memory

end ForeignCall
