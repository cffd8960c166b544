import ForeignCall.Proofs.Memory
import ForeignCall.X86.Code

/-! Machine code in which the call targets were filled in: it is as long as before, holds each
target where that goes, and is the same everywhere else. -/

namespace ForeignCall

namespace X86

def Relocation.Covers (relocation : Relocation) (index : Nat) : Prop :=
  relocation.offset ≤ index ∧ index < relocation.offset + 8

namespace Code

inductive Assembled : Code → Prop
  | empty : Assembled {}
  | append {code : Code} (instruction : Instruction) (assembled : Assembled code) :
      Assembled (code.append instruction)
  | appendCall {code : Code} (target : UInt64) (assembled : Assembled code) :
      Assembled (code.appendCall target)

def fill (bytes : List UInt8) (relocations : List Relocation) : List UInt8 :=
  relocations.foldl
    (fun bytes relocation => overwrite bytes relocation.offset (littleEndian 8 relocation.target))
    bytes

/-- The bytes of some code in which all targets, and nothing else, are filled in. -/
structure Filled (code : Code) (bytes : List UInt8) : Prop where
  whole : bytes.length = code.bytes.length
  targets : ∀ relocation ∈ code.relocations,
    (bytes.drop relocation.offset).take 8 = littleEndian 8 relocation.target
  others : ∀ index, (∀ relocation ∈ code.relocations, ¬relocation.Covers index) →
    bytes[index]? = code.bytes[index]?

section Fill

variable {relocations : List Relocation} {bytes : List UInt8}

theorem length_overwrite_target {relocation : Relocation}
    (inside : relocation.offset + 8 ≤ bytes.length) :
    (overwrite bytes relocation.offset (littleEndian 8 relocation.target)).length =
      bytes.length :=
  length_overwrite bytes relocation.offset _ (by simpa using inside)

theorem length_fill (inside : ∀ relocation ∈ relocations, relocation.offset + 8 ≤ bytes.length) :
    (fill bytes relocations).length = bytes.length := by
  induction relocations generalizing bytes with
  | nil => rfl
  | cons relocation rest ih =>
    have same := length_overwrite_target (inside relocation List.mem_cons_self)
    refine Eq.trans (ih fun other later => ?_) same
    rw [same]
    exact inside other (List.mem_cons_of_mem relocation later)

theorem getElem?_fill (inside : ∀ relocation ∈ relocations, relocation.offset + 8 ≤ bytes.length)
    {index : Nat} (uncovered : ∀ relocation ∈ relocations, ¬relocation.Covers index) :
    (fill bytes relocations)[index]? = bytes[index]? := by
  induction relocations generalizing bytes with
  | nil => rfl
  | cons relocation rest ih =>
    have first := inside relocation List.mem_cons_self
    have same := length_overwrite_target first
    have kept : (overwrite bytes relocation.offset (littleEndian 8 relocation.target))[index]? =
        bytes[index]? := by
      rw [getElem?_overwrite (by simpa using first), length_littleEndian, if_neg]
      exact uncovered relocation List.mem_cons_self
    refine Eq.trans (ih (fun other later => ?_) fun other later => ?_) kept
    · rw [same]
      exact inside other (List.mem_cons_of_mem relocation later)
    · exact uncovered other (List.mem_cons_of_mem relocation later)

/-- A target that later relocations do not reach is there in the end. -/
theorem take_drop_fill {relocation : Relocation} (known : relocation ∈ relocations)
    (inside : ∀ relocation ∈ relocations, relocation.offset + 8 ≤ bytes.length)
    (apart : relocations.Pairwise fun first second => first.offset + 8 ≤ second.offset) :
    ((fill bytes relocations).drop relocation.offset).take 8 =
      littleEndian 8 relocation.target := by
  induction relocations generalizing bytes with
  | nil => cases known
  | cons head rest ih =>
    obtain ⟨ahead, others⟩ := List.pairwise_cons.1 apart
    have first := inside head List.mem_cons_self
    have later : ∀ other ∈ rest, other.offset + 8 ≤
        (overwrite bytes head.offset (littleEndian 8 head.target)).length := by
      intro other there
      rw [length_overwrite_target first]
      exact inside other (List.mem_cons_of_mem head there)
    rcases List.mem_cons.1 known with rfl | there
    · apply List.ext_getElem?
      intro index
      by_cases low : index < 8
      · have uncovered : ∀ other ∈ rest, ¬other.Covers (relocation.offset + index) := by
          rintro other there ⟨starts, -⟩
          have behind := ahead other there
          omega
        rw [List.getElem?_take_of_lt low, List.getElem?_drop]
        refine (getElem?_fill later uncovered).trans ?_
        rw [getElem?_overwrite (by simpa using first), length_littleEndian,
          if_pos ⟨by omega, by omega⟩, Nat.add_sub_cancel_left]
      · rw [List.getElem?_eq_none (by rw [List.length_take]; omega),
          List.getElem?_eq_none (by rw [length_littleEndian]; omega)]
    · exact ih there later others

end Fill

namespace Assembled

variable {code : Code}

theorem inside (assembled : code.Assembled) :
    ∀ relocation ∈ code.relocations, relocation.offset + 8 ≤ code.bytes.length := by
  induction assembled with
  | empty => simp
  | append instruction _ ih =>
    intro relocation known
    have before := ih relocation known
    rw [Code.append, List.length_append]
    omega
  | @appendCall code target _ ih =>
    intro relocation known
    have longer : (code.appendCall target).bytes.length = code.bytes.length + 12 := by
      simp [Code.appendCall, Instruction.encode]
    rcases List.mem_append.1 known with earlier | last
    · have before := ih relocation earlier
      omega
    · rw [List.mem_singleton.1 last]
      change code.bytes.length + 2 + 8 ≤ _
      omega

theorem apart (assembled : code.Assembled) :
    code.relocations.Pairwise fun first second => first.offset + 8 ≤ second.offset := by
  induction assembled with
  | empty => exact .nil
  | append _ _ ih => exact ih
  | @appendCall code target assembled ih =>
    refine List.pairwise_append.2 ⟨ih, List.pairwise_singleton _ _, ?_⟩
    intro relocation known last there
    rw [List.mem_singleton.1 there]
    have before := assembled.inside relocation known
    dsimp only
    omega

theorem appendAll (assembled : code.Assembled) (instructions : List Instruction) :
    (code.appendAll instructions).Assembled := by
  induction instructions generalizing code with
  | nil => exact assembled
  | cons first rest ih => exact ih (.append first assembled)

theorem filled (assembled : code.Assembled) : code.Filled code.relocated where
  whole := length_fill assembled.inside
  targets _ known := take_drop_fill known assembled.inside assembled.apart
  others _ uncovered := getElem?_fill assembled.inside uncovered

end Assembled

end Code

end X86

end ForeignCall
