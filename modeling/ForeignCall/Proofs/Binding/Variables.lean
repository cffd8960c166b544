import ForeignCall.Proofs.Binding.Names
import ForeignCall.Proofs.Memory
import ForeignCall.Proofs.Slot

/-! Native globals as places in memory. What is stored is the register image at the width of the C
type, so that a neighbour is never touched; and since a C type covers just the bytes of its size,
what is read back is what the image stands for. Reading looks at no other bytes either, but for
addresses where pointers are shorter than a word. -/

namespace ForeignCall

namespace BoundVariable

def size (bound : BoundVariable) : Nat := bound.native.size bound.model

/-- A run of bytes that belongs to other variables. A variable without a place takes no bytes. -/
def Spares (bound : BoundVariable) (start count : Nat) : Prop :=
  ∀ address, bound.place = .ok address → Apart address bound.size start count

/-- Sets variables in turn; a set that fails leaves the memory as it was. -/
def writeAll : List (BoundVariable × Value) → Memory → Memory
  | [], memory => memory
  | (bound, value) :: rest, memory =>
    match bound.write value memory with
    | .ok after => writeAll rest after
    | .error _ => writeAll rest memory

theorem of_bind {symbols : SymbolTable} {declaration : VariableDeclaration}
    {table later : LoweringTable} {bound : BoundVariable} {address : Nat}
    (binds : (bind symbols declaration).run table = (bound, later))
    (placed : bound.place = .ok address) :
    bound.type = declaration.type ∧ bound.model = table.model := by
  cases scalar : declaration.type.isScalar with
  | false =>
    rw [bind, scalar] at binds
    obtain ⟨rfl, rfl⟩ := Prod.mk.inj binds
    cases placed
  | true =>
    cases lowered : lower declaration.type declaration.annotations with
    | ok native =>
      have settled := bind_of_lower scalar lowered symbols declaration.name table
      rw [binds] at settled
      cases settled
      exact ⟨rfl, rfl⟩
    | error fault =>
      obtain ⟨-, answered⟩ := table.run_resolve declaration.type declaration.annotations
      rw [lowered] at answered
      rw [bind, if_pos scalar, StateT.run_bind] at binds
      change ((LoweringTable.resolve declaration.type declaration.annotations).run.run table >>=
        _) = _ at binds
      generalize (LoweringTable.resolve _ _).run.run table = resolved at answered binds
      obtain ⟨outcome, after⟩ := resolved
      cases outcome with
      | ok layout => cases answered
      | error fault =>
        obtain ⟨rfl, rfl⟩ := Prod.mk.inj binds
        cases placed

theorem of_write {bound : BoundVariable} {value : Value} {memory after : Memory}
    (ran : bound.write value memory = .ok after) :
    ∃ address bytes, bound.place = .ok address ∧ bytes.length ≤ bound.size ∧
      after = memory.write address bytes := by
  rw [write] at ran
  cases placed : bound.place with
  | error fault => rw [placed] at ran; cases ran
  | ok address =>
    cases converted : value.toImage bound.type bound.native bound.model with
    | error fault => rw [placed, converted] at ran; cases ran
    | ok image =>
      rw [placed, converted] at ran
      cases ran
      exact ⟨address, _, rfl, List.length_take_le .., rfl⟩

section WriteAll

variable {writes : List (BoundVariable × Value)} {start count : Nat}
  (spared : ∀ entry ∈ writes, entry.1.Spares start count) (memory : Memory)

include spared in
theorem read?_writeAll :
    (writeAll writes memory).read? start count = memory.read? start count := by
  induction writes generalizing memory with
  | nil => rfl
  | cons entry rest ih =>
    have others : ∀ entry ∈ rest, entry.1.Spares start count :=
      fun entry within => spared entry (List.mem_cons_of_mem _ within)
    rw [writeAll]
    split
    next after ran =>
      obtain ⟨address, bytes, placed, short, rfl⟩ := of_write ran
      have apart : Apart address bytes.length start count := by
        obtain before | behind := spared entry List.mem_cons_self address placed
        · exact .inl (by omega)
        · exact .inr behind
      rw [ih others, Memory.read?_write_of_apart apart]
    next => exact ih others memory

end WriteAll

/-- The register image that is fetched for a variable at an address, unless a byte that is read for
it is not mapped. -/
def fetch? (bound : BoundVariable) (address : Nat) (memory : Memory) : Option UInt64 :=
  (memory.read? address (Slot.readWidth bound.native bound.model)).map
    (Slot.readBytes · bound.native bound.model)

/-- A pointer that takes less than a machine word. -/
def IsShortPointer (bound : BoundVariable) : Prop :=
  bound.native = .pointer ∧ bound.model.pointerBytes = 4

section Fetching

variable {bound : BoundVariable} {address : Nat} {memory : Memory}

theorem isSome_fetch? : (bound.fetch? address memory).isSome =
    memory.readable address (Slot.readWidth bound.native bound.model) := by
  rw [fetch?, Option.isSome_map, Memory.isSome_read?]

theorem read_eq_fetch? (placed : bound.place = .ok address) :
    bound.read memory =
      Value.ofImage ((bound.fetch? address memory).getD 0) bound.type bound.native bound.model := by
  rw [read, placed]
  change Value.ofImage (Slot.readBytes (memory.read address _) _ _) _ _ _ = _
  rw [Memory.read, fetch?]
  cases memory.read? address (Slot.readWidth bound.native bound.model) with
  | none => exact congrArg (Value.ofImage · _ _ _) (Slot.readBytes_replicate_zero _ _)
  | some bytes => rfl

theorem readWidth_of_isShortPointer (short : bound.IsShortPointer) :
    Slot.readWidth bound.native bound.model = 8 ∧ bound.size = 4 := by
  obtain ⟨pointer, four⟩ := short
  rw [size, pointer]
  exact ⟨rfl, four⟩

theorem readWidth_eq_size (valid : bound.model.Valid) (whole : ¬bound.IsShortPointer) :
    Slot.readWidth bound.native bound.model = bound.size := by
  by_cases pointer : bound.native = .pointer
  · have eight : bound.model.pointerBytes = 8 :=
      valid.1.resolve_left fun four => whole ⟨pointer, four⟩
    rw [size, pointer]
    exact eight.symm
  · exact CType.readWidth_eq_size valid pointer

theorem ofImage_fetch?_of_stored (valid : bound.model.Valid) {fetched image : UInt64}
    (ran : bound.fetch? address memory = some fetched)
    (stored : memory.read? address bound.size = some (littleEndian bound.size image)) :
    Value.ofImage fetched bound.type bound.native bound.model =
      Value.ofImage image bound.type bound.native bound.model := by
  obtain ⟨bytes, read, rfl⟩ := Option.map_eq_some_iff.1 ran
  have front := Memory.take_read? (CType.size_le_readWidth valid bound.native) read
  exact Slot.ofImage_readBytes valid (Memory.length_of_read? read)
    (Option.some.inj (front.symm.trans stored)) bound.type

theorem ofImage_fetch? (valid : bound.model.Valid) {image : UInt64} {bytes : List UInt8}
    (fetched : bound.fetch? address memory = some image)
    (stored : memory.read? address bound.size = some bytes) :
    Value.ofImage image bound.type bound.native bound.model =
      Value.ofImage (ofLittleEndian bytes) bound.type bound.native bound.model := by
  refine ofImage_fetch?_of_stored valid fetched ?_
  have sized := Memory.length_of_read? stored
  have small : bytes.length ≤ 8 := by
    rw [sized]
    exact Nat.le_trans (CType.size_le_readWidth valid bound.native) (Slot.readWidth_le _ _)
  have spelled := littleEndian_ofLittleEndian small
  rw [sized] at spelled
  rw [stored, spelled]

theorem isSome_fetch?_iff (valid : bound.model.Valid) :
    (bound.fetch? address memory).isSome = true ↔ memory.readable address bound.size = true ∧
      (bound.IsShortPointer → memory.readable address 8 = true) := by
  rw [isSome_fetch?]
  by_cases short : bound.IsShortPointer
  · obtain ⟨word, four⟩ := readWidth_of_isShortPointer short
    rw [word, four]
    exact ⟨fun mapped => ⟨Memory.readable_of_le (by decide) mapped, fun _ => mapped⟩,
      fun mapped => mapped.2 short⟩
  · rw [readWidth_eq_size valid short]
    exact ⟨fun mapped => ⟨mapped, fun pointer => absurd pointer short⟩, And.left⟩

theorem exists_fetch?_eq_none (short : bound.IsShortPointer) (address : Nat) :
    ∃ memory : Memory, memory.readable address bound.size = true ∧
      bound.fetch? address memory = none := by
  obtain ⟨word, four⟩ := readWidth_of_isShortPointer short
  let memory : Memory := { regions := [⟨address, 4, []⟩] }
  have found : memory.find? address = some ⟨address, 4, []⟩ :=
    List.find?_cons_of_pos (by simp [Region.holds])
  refine ⟨memory, ?_, ?_⟩
  · rw [four, Memory.readable, found]
    exact decide_eq_true (Nat.le_refl _)
  · rw [← Option.not_isSome_iff_eq_none, isSome_fetch?, word, Memory.readable, found]
    simp

end Fetching

/-- What is read for a variable is just its own bytes, so that they are all that has to be mapped,
unless it is a pointer of four bytes: for that a machine word is read, and the four bytes behind it
have to be mapped as well. The value never depends on them. -/
theorem fetches_iff_readable {symbols : SymbolTable} {declaration : VariableDeclaration}
    {table later : LoweringTable} {bound : BoundVariable} {address : Nat}
    (binds : (BoundVariable.bind symbols declaration).run table = (bound, later))
    (placed : bound.place = .ok address) (valid : table.model.Valid) :
    ((∀ memory : Memory, memory.readable address bound.size = true →
        (bound.fetch? address memory).isSome = true) ↔ ¬bound.IsShortPointer) ∧
      (∀ memory, (bound.fetch? address memory).isSome = true ↔
        memory.readable address bound.size = true ∧
          (bound.IsShortPointer → memory.readable address 8 = true)) ∧
      (∀ memory, bound.read memory = Value.ofImage ((bound.fetch? address memory).getD 0)
        declaration.type bound.native table.model) ∧
      ∀ memory image bytes, bound.fetch? address memory = some image →
        memory.read? address bound.size = some bytes →
          bound.read memory = Value.ofImage (ofLittleEndian bytes)
            declaration.type bound.native table.model := by
  obtain ⟨typed, modelled⟩ := of_bind binds placed
  rw [← typed, ← modelled]
  rw [← modelled] at valid
  refine ⟨⟨fun enough short => ?_, fun whole memory mapped => ?_⟩,
    fun memory => isSome_fetch?_iff valid, fun memory => read_eq_fetch? placed, ?_⟩
  · obtain ⟨memory, mapped, missing⟩ := exists_fetch?_eq_none short address
    have fetched := enough memory mapped
    rw [missing] at fetched
    cases fetched
  · exact (isSome_fetch?_iff valid).2 ⟨mapped, fun short => absurd short whole⟩
  · intro memory image bytes fetched stored
    rw [read_eq_fetch? placed, fetched]
    exact ofImage_fetch? valid fetched stored

/-- Where pointers take four bytes, the last one of a region cannot be fetched. -/
theorem fetches_iff_readable_last :
    let handle : BoundVariable := ⟨"handle", .address, .pointer, .ilp32, .ok 0x1000⟩
    let memory : Memory := { regions := [⟨0x1000, 4, [0x78, 0x56, 0x34, 0x12]⟩] }
    ((BoundVariable.bind ⟨[("handle", 0x1000)]⟩ { name := "handle", type := .address }).run
        { model := .ilp32 }).1 = handle ∧ DataModel.ilp32.Valid ∧
      memory.readable 0x1000 handle.size = true ∧
        ¬(handle.fetch? 0x1000 memory).isSome = true := by
  intro handle memory
  obtain ⟨later, binds⟩ : ∃ later, (BoundVariable.bind ⟨[("handle", 0x1000)]⟩
      { name := "handle", type := .address }).run { model := .ilp32 } = (handle, later) := ⟨_, rfl⟩
  obtain ⟨-, needs, -⟩ := fetches_iff_readable binds rfl (by decide)
  refine ⟨congrArg Prod.fst binds, by decide, by decide, fun fetched => ?_⟩
  exact absurd (((needs memory).1 fetched).2 ⟨rfl, rfl⟩) (by decide)

end BoundVariable

end ForeignCall
