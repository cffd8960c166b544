import ForeignCall.X86.Machine

/-! Machine code that is executed instruction by instruction, and words that lie in memory without
touching each other. -/

namespace ForeignCall

namespace X86

def Instruction.isStraight : Instruction → Bool
  | .callRax | .ret => false
  | _ => true

namespace Cpu

def passing (cpu : Cpu) (instruction : Instruction) : Cpu :=
  { cpu with next := cpu.next + UInt64.ofNat instruction.encode.length }

def advance (cpu : Cpu) (instruction : Instruction) : Cpu :=
  (cpu.passing instruction).step instruction

@[simp] theorem general_passing (cpu : Cpu) (instruction : Instruction) :
    (cpu.passing instruction).general = cpu.general := rfl

@[simp] theorem vector_passing (cpu : Cpu) (instruction : Instruction) :
    (cpu.passing instruction).vector = cpu.vector := rfl

@[simp] theorem memory_passing (cpu : Cpu) (instruction : Instruction) :
    (cpu.passing instruction).memory = cpu.memory := rfl

@[simp] theorem general_setGeneral (cpu : Cpu) (register query : Register) (value : UInt64) :
    (cpu.setGeneral register value).general query =
      if query = register then value else cpu.general query := rfl

@[simp] theorem vector_setGeneral (cpu : Cpu) (register : Register) (value : UInt64) :
    (cpu.setGeneral register value).vector = cpu.vector := rfl

@[simp] theorem memory_setGeneral (cpu : Cpu) (register : Register) (value : UInt64) :
    (cpu.setGeneral register value).memory = cpu.memory := rfl

@[simp] theorem general_setVector (cpu : Cpu) (register : VectorRegister) (value : UInt64) :
    (cpu.setVector register value).general = cpu.general := rfl

@[simp] theorem vector_setVector (cpu : Cpu) (register query : VectorRegister) (value : UInt64) :
    (cpu.setVector register value).vector query =
      if query = register then value else cpu.vector query := rfl

@[simp] theorem memory_setVector (cpu : Cpu) (register : VectorRegister) (value : UInt64) :
    (cpu.setVector register value).memory = cpu.memory := rfl

@[simp] theorem general_store (cpu : Cpu) (address value : UInt64) :
    (cpu.store address value).general = cpu.general := rfl

@[simp] theorem vector_store (cpu : Cpu) (address value : UInt64) :
    (cpu.store address value).vector = cpu.vector := rfl

theorem load_congr {left right : Cpu} (same : left.memory = right.memory) :
    left.load = right.load := by
  funext address
  simp [load, same]

def Apart (left right : UInt64) : Prop :=
  8 ≤ (left - right).toNat ∧ 8 ≤ (right - left).toNat

theorem distance_of_apart {left right : UInt64} (apart : Apart left right) (offset : Nat)
    (inside : offset < 8) : 8 ≤ (left + UInt64.ofNat offset - right).toNat := by
  obtain ⟨above, below⟩ := apart
  have small : (UInt64.ofNat offset).toNat = offset :=
    UInt64.toNat_ofNat_of_lt (by simp [UInt64.size]; omega)
  simp only [UInt64.toNat_sub, UInt64.toNat_add, small] at above below ⊢
  have leftBound := left.toNat_lt
  have rightBound := right.toNat_lt
  omega

theorem apart_add (address : UInt64) (distance : Nat) (least : 8 ≤ distance)
    (most : distance ≤ 1024) : Apart (address + UInt64.ofNat distance) address := by
  have small : (UInt64.ofNat distance).toNat = distance :=
    UInt64.toNat_ofNat_of_lt (by simp only [UInt64.size]; omega)
  constructor
  · simp only [UInt64.toNat_sub, UInt64.toNat_add, small]
    have bound := address.toNat_lt
    omega
  · simp only [UInt64.toNat_sub, UInt64.toNat_add, small]
    have bound := address.toNat_lt
    omega

theorem load_store_self (cpu : Cpu) (address value : UInt64) :
    (cpu.store address value).load address = value := by
  have bytes : (List.range 8).map (fun offset =>
      (cpu.store address value).memory (address + UInt64.ofNat offset)) = littleEndian 8 value := by
    apply List.ext_getElem
    · simp
    · intro offset below _
      have inside : offset < 8 := by simpa using below
      have distance : (address + UInt64.ofNat offset - address).toNat = offset := by
        rw [UInt64.add_comm, UInt64.add_sub_cancel]
        exact UInt64.toNat_ofNat_of_lt (by simp [UInt64.size]; omega)
      have present : offset < (littleEndian 8 value).length := by simpa using inside
      simp only [store, List.getElem_map, List.getElem_range, distance,
        List.getElem?_eq_getElem present, Option.getD_some]
  rw [load, bytes, ofLittleEndian_littleEndian]

theorem load_store_apart (cpu : Cpu) {address query : UInt64} (value : UInt64)
    (apart : Apart query address) : (cpu.store address value).load query = cpu.load query := by
  have bytes : (List.range 8).map (fun offset =>
        (cpu.store address value).memory (query + UInt64.ofNat offset)) =
      (List.range 8).map (fun offset => cpu.memory (query + UInt64.ofNat offset)) := by
    apply List.map_congr_left
    intro offset member
    have far := distance_of_apart apart offset (List.mem_range.mp member)
    have absent : (littleEndian 8 value)[(query + UInt64.ofNat offset - address).toNat]? = none :=
      List.getElem?_eq_none (by simpa using far)
    simp [store, absent]
  rw [load, bytes, load]

end Cpu

def Cpu.entering (cpu : Cpu) : Cpu :=
  let passed := cpu.passing .callRax
  { passed.push passed.next with next := cpu.general .rax }

variable {m : Type → Type} [Monad m] (call : UInt64 → Cpu → m Cpu)

theorem execute_straight (instruction : Instruction) (rest : List UInt8) (cpu : Cpu)
    (straight : instruction.isStraight = true) :
    execute call (instruction.encode ++ rest) cpu =
      execute call rest (cpu.advance instruction) := by
  rw [execute]
  split
  next missing => simp [Instruction.decode?_encode] at missing
  next decoded found =>
    rw [Instruction.decode?_encode] at found
    obtain ⟨rfl, rfl⟩ := by simpa using found
    cases instruction <;> simp_all [Instruction.isStraight, Cpu.advance, Cpu.passing]

theorem execute_block (instructions : List Instruction) (rest : List UInt8) (cpu : Cpu)
    (straight : ∀ instruction ∈ instructions, instruction.isStraight = true) :
    execute call (instructions.flatMap Instruction.encode ++ rest) cpu =
      execute call rest (instructions.foldl Cpu.advance cpu) := by
  induction instructions generalizing cpu with
  | nil => rfl
  | cons head tail ih =>
      rw [List.flatMap_cons, List.append_assoc,
        execute_straight call _ _ _ (straight head (by simp)),
        ih _ fun instruction member => straight instruction (by simp [member])]
      rfl

theorem execute_call (rest : List UInt8) (cpu : Cpu) :
    execute call (Instruction.callRax.encode ++ rest) cpu = (do
      let left ← call (cpu.general .rax) cpu.entering
      if left.pop.1 = (cpu.passing .callRax).next then
        execute call rest { left.pop.2 with next := left.pop.1 }
      else return none) := by
  rw [execute]
  split
  next missing => simp [Instruction.decode?_encode] at missing
  next decoded found =>
    rw [Instruction.decode?_encode] at found
    obtain ⟨rfl, rfl⟩ := by simpa using found
    simp only [List.length_append, Nat.add_sub_cancel]
    rfl

theorem execute_return (rest : List UInt8) (cpu : Cpu) :
    execute call (Instruction.ret.encode ++ rest) cpu =
      return some { (cpu.passing .ret).pop.2 with next := (cpu.passing .ret).pop.1 } := by
  rw [execute]
  split
  next missing => simp [Instruction.decode?_encode] at missing
  next decoded found =>
    rw [Instruction.decode?_encode] at found
    obtain ⟨rfl, rfl⟩ := by simpa using found
    simp [Cpu.passing]

end X86

end ForeignCall
