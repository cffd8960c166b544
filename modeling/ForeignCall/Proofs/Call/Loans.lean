import ForeignCall.Proofs.Call.Buffers
import ForeignCall.Proofs.Pages
import Mathlib.Data.List.Basic

/-! Buffers that are lent for a call: each lies in a region of its own until it is copied back. -/

namespace ForeignCall

namespace Memory

variable {memory : Memory} {address length : Nat}

def Lends (memory : Memory) (address length : Nat) : Prop :=
  length = 0 ∨ ∃ region, memory.find? address = some region ∧ region.base = address ∧
    length ≤ region.length

theorem find?_release {other : Nat} {region : Region} (found : memory.find? address = some region)
    (apart : region.base ≠ other) : (memory.release other).find? address = some region := by
  rw [find?, List.find?_eq_some_iff_append] at found
  obtain ⟨holds, before, after, regions, first⟩ := found
  rw [find?, List.find?_eq_some_iff_append]
  refine ⟨holds, before.filter (·.base != other), after.filter (·.base != other), ?_, ?_⟩
  · simp [release, regions, apart]
  · exact fun earlier known => first earlier (List.mem_filter.1 known).1

theorem Lends.release (lends : memory.Lends address length) {other : Nat}
    (apart : address ≠ other) :
    (memory.release other).Lends address length ∧
      (memory.release other).read address length = memory.read address length := by
  rcases lends with rfl | ⟨region, found, base, room⟩
  · have none (memory : Memory) : memory.read address 0 = [] :=
      List.length_eq_zero_iff.1 (memory.length_read address 0)
    exact ⟨.inl rfl, (none _).trans (none _).symm⟩
  · have kept := find?_release found (base ▸ apart)
    refine ⟨.inr ⟨region, kept, base, room⟩, ?_⟩
    rw [read, read, read?, read?, kept, found]

theorem find?_allocate {alignment : Nat} (some_byte : 0 < alignment) (size : Nat)
    (bytes : List UInt8) (below : address ≤ memory.unused) :
    (memory.allocate alignment size bytes).2.find? address = memory.find? address := by
  have above := memory.lt_allocate some_byte size bytes
  refine List.find?_cons_of_neg fun holds => ?_
  simp only [Region.holds, Bool.and_eq_true, decide_eq_true_eq] at holds
  exact absurd (Nat.lt_of_lt_of_le above holds.1) (Nat.not_lt.2 below)

theorem read_of_find? {region : Region} (found : memory.find? address = some region)
    (base : region.base = address) (room : length ≤ region.length) :
    memory.read address length = region.slice address length := by
  rw [read, read?, found]
  simp [base, room]

end Memory

/-- Slots and loans of operands, in order: an image lies in its slot, and a buffer lies in memory,
at an address that is in the slot. -/
inductive Lent (model : DataModel) (memory : Memory) :
    List Operand → List UInt64 → List Loan → Prop
  | nil : Lent model memory [] [] []
  | image (native : CType) (image : UInt64) {operands : List Operand} {slots : List UInt64}
      {loans : List Loan} (rest : Lent model memory operands slots loans) :
      Lent model memory (.image native image :: operands)
        (Slot.ofImage image native model :: slots) loans
  | loan {address : Nat} {buffer : List UInt8} (owner : Owner) (direction : Direction)
      {operands : List Operand} {slots : List UInt64} {loans : List Loan}
      (lends : memory.Lends address buffer.length)
      (holds : memory.read address buffer.length = buffer)
      (rest : Lent model memory operands slots loans) :
      Lent model memory (.loan owner direction buffer :: operands)
        (UInt64.ofNat address :: slots) (⟨address, buffer.length, owner, direction⟩ :: loans)

namespace Lent

variable {model : DataModel} {memory : Memory} {operands : List Operand} {slots : List UInt64}
  {loans : List Loan}

theorem of_mem (lent : Lent model memory operands slots loans) {loan : Loan}
    (known : loan ∈ loans) :
    memory.Lends loan.address loan.length ∧ ∃ buffer,
      .loan loan.owner loan.direction buffer ∈ operands ∧ loan.length = buffer.length := by
  induction lent with
  | nil => cases known
  | image native image rest ih =>
      obtain ⟨there, buffer, passed, sized⟩ := ih known
      exact ⟨there, buffer, List.mem_cons_of_mem _ passed, sized⟩
  | loan owner direction lends holds rest ih =>
      rcases List.mem_cons.1 known with rfl | later
      · exact ⟨lends, _, List.mem_cons_self, rfl⟩
      · obtain ⟨there, buffer, passed, sized⟩ := ih later
        exact ⟨there, buffer, List.mem_cons_of_mem _ passed, sized⟩

theorem of_loan (lent : Lent model memory operands slots loans) {index : Nat} {owner : Owner}
    {direction : Direction} {buffer : List UInt8}
    (passed : operands[index]? = some (.loan owner direction buffer)) :
    ∃ address, ⟨address, buffer.length, owner, direction⟩ ∈ loans ∧
      slots[index]? = some (UInt64.ofNat address) ∧
        memory.read address buffer.length = buffer := by
  induction lent generalizing index with
  | nil => simp at passed
  | image native image rest ih =>
      cases index with
      | zero => simp at passed
      | succ index => exact ih passed
  | loan other way lends holds rest ih =>
      cases index with
      | zero =>
          cases passed
          exact ⟨_, List.mem_cons_self, rfl, holds⟩
      | succ index =>
          obtain ⟨address, known, slot, held⟩ := ih passed
          exact ⟨address, List.mem_cons_of_mem _ known, slot, held⟩

end Lent

namespace Store

/-- Lending changes memory only, and only where nothing was given out before. -/
structure Lending (model : DataModel) (operands : List Operand) (before after : Store)
    (slots : List UInt64) (loans : List Loan) : Prop where
  rest : after = { before with memory := after.memory }
  lent : Lent model after.memory operands slots loans
  above : ∀ loan ∈ loans, before.memory.unused < loan.address
  apart : loans.Pairwise (·.address ≠ ·.address)
  grows : before.memory.unused ≤ after.memory.unused
  stays : ∀ address ≤ before.memory.unused,
    after.memory.find? address = before.memory.find? address

theorem run_lend (buffer : List UInt8) (store : Store) : ∃ size, buffer.length ≤ size ∧
    (lend buffer).run store = ((store.memory.allocate 16 size buffer).1,
      { store with memory := (store.memory.allocate 16 size buffer).2 }) :=
  ⟨(buffer.length + 7) / 8 * 8, by omega, rfl⟩

theorem run_lendAll_loan (model : DataModel) (owner : Owner) (direction : Direction)
    (buffer : List UInt8) (rest : List Operand) (store : Store) :
    (lendAll model (.loan owner direction buffer :: rest)).run store =
      let given := (lend buffer).run store
      let others := (lendAll model rest).run given.2
      ((UInt64.ofNat given.1 :: others.1.1,
        ⟨given.1, buffer.length, owner, direction⟩ :: others.1.2), others.2) := rfl

theorem lends_allocate (memory : Memory) {size : Nat} {buffer : List UInt8}
    (room : buffer.length ≤ size) {later : Memory}
    (stays : later.find? (memory.allocate 16 size buffer).1 =
      (memory.allocate 16 size buffer).2.find? (memory.allocate 16 size buffer).1) :
    later.Lends (memory.allocate 16 size buffer).1 buffer.length ∧
      later.read (memory.allocate 16 size buffer).1 buffer.length = buffer := by
  let region : Region := ⟨(memory.allocate 16 size buffer).1, size, buffer⟩
  by_cases none : buffer = []
  · subst none
    exact ⟨.inl rfl, List.length_eq_zero_iff.1 (later.length_read _ 0)⟩
  · have some_byte := List.length_pos_iff.2 none
    have holds : region.holds (memory.allocate 16 size buffer).1 = true := by
      simp only [Region.holds, region, Bool.and_eq_true, decide_eq_true_eq]
      omega
    have found : later.find? (memory.allocate 16 size buffer).1 = some region :=
      stays.trans (List.find?_cons_of_pos holds)
    refine ⟨.inr ⟨region, found, rfl, room⟩, ?_⟩
    rw [Memory.read_of_find? found rfl room]
    simp [Region.slice, Region.writtenFrom, region]

theorem lending_lendAll (model : DataModel) (operands : List Operand) (store : Store) :
    let run := (lendAll model operands).run store
    Lending model operands store run.2 run.1.1 run.1.2 := by
  induction operands generalizing store with
  | nil =>
      exact ⟨rfl, .nil, fun _ => (absurd · List.not_mem_nil), .nil, Nat.le_refl _,
        fun _ _ => rfl⟩
  | cons operand rest ih =>
      cases operand with
      | image native image =>
          obtain ⟨same, lent, above, apart, grows, stays⟩ := ih store
          exact ⟨same, .image native image lent, above, apart, grows, stays⟩
      | loan owner direction buffer =>
          obtain ⟨size, room, ran⟩ := run_lend buffer store
          have fresh := store.memory.lt_allocate (show 0 < 16 by decide) size buffer
          have used : (store.memory.allocate 16 size buffer).2.unused =
              (store.memory.allocate 16 size buffer).1 + size + 1 := rfl
          have others := ih { store with memory := (store.memory.allocate 16 size buffer).2 }
          rw [run_lendAll_loan, ran]
          dsimp only
          generalize (lendAll model rest).run
            { store with memory := (store.memory.allocate 16 size buffer).2 } = run at others
          obtain ⟨same, lent, above, apart, grows, stays⟩ := others
          dsimp only at same above grows stays
          -- later buffers lie above this one, so it stays where it was given out
          obtain ⟨there, holds⟩ := lends_allocate store.memory room (stays _ (by omega))
          refine ⟨same, .loan owner direction there holds lent, ?_, ?_, ?_, ?_⟩
          · refine List.forall_mem_cons.2 ⟨fresh, fun loan known => ?_⟩
            have higher := above loan known
            omega
          · refine .cons (fun loan known => ?_) apart
            have higher := above loan known
            change (store.memory.allocate 16 size buffer).1 ≠ loan.address
            omega
          · exact Nat.le_trans (by omega) grows
          · intro address below
            rw [stays address (by omega)]
            exact Memory.find?_allocate (by decide) size buffer below

section Settling

variable {loan : Loan} {rest : List Loan} {store : Store}

theorem run_settle_of_some {heap : Heap} (copied : store.heap.copyBack? loan.owner
      (store.memory.read loan.address loan.length) loan.direction = some heap) :
    (settle (loan :: rest)).run.run store =
      (settle rest).run.run { store with heap, memory := store.memory.release loan.address } := by
  rw [settle, Act.run_bind, Act.run_get]
  dsimp only
  rw [copied]
  rfl

theorem run_settle_of_none (tight : store.heap.copyBack? loan.owner
      (store.memory.read loan.address loan.length) loan.direction = none) :
    (settle (loan :: rest)).run.run store =
      (.error outgrown, { store with abort? := some .outOfRange }) := by
  rw [settle, Act.run_bind, Act.run_get]
  dsimp only
  rw [tight]
  rfl

end Settling

/-- Buffers that are still there are copied back as they are, up to the first that an array has
outgrown, where the program ends. -/
theorem run_settle {loans : List Loan} (apart : loans.Pairwise (·.address ≠ ·.address))
    {store : Store} (lends : ∀ loan ∈ loans, store.memory.Lends loan.address loan.length) :
    ∃ heap memory, store.heap.copyBackAll?
        (fun loan => store.memory.read loan.address loan.length) (store.heap.returned loans) =
          some heap ∧
      (settle loans).run.run store =
        if loans.all store.heap.fits then (.ok (), { store with heap, memory })
        else (.error outgrown, { store with heap, memory, abort? := some .outOfRange }) := by
  induction loans generalizing store with
  | nil => exact ⟨store.heap, store.memory, rfl, rfl⟩
  | cons loan rest ih =>
      obtain ⟨distinct, others⟩ := List.pairwise_cons.1 apart
      let buffer := store.memory.read loan.address loan.length
      have fits := @Heap.isSome_copyBack? store.heap loan buffer
        (show buffer.length = loan.length from store.memory.length_read _ _)
      rw [Heap.returned, List.takeWhile_cons, List.all_cons, ← fits]
      cases copied : store.heap.copyBack? loan.owner buffer loan.direction with
      | none => exact ⟨store.heap, store.memory, rfl, run_settle_of_none copied⟩
      | some next =>
          have kept (other : Loan) (known : other ∈ rest) :=
            (lends other (List.mem_cons_of_mem _ known)).release (distinct other known).symm
          obtain ⟨heap, memory, all, ran⟩ := @ih others
            { store with heap := next, memory := store.memory.release loan.address }
            fun other known => (kept other known).1
          rw [Heap.fits_copyBack? copied] at ran
          rw [Heap.returned, Heap.fits_copyBack? copied] at all
          refine ⟨heap, memory, ?_, (run_settle_of_some copied).trans ran⟩
          rw [if_pos Option.isSome_some, Heap.copyBackAll?_cons, copied]
          refine (Heap.copyBackAll?_congr fun other known => ?_).trans all
          exact (kept other (Heap.mem_of_mem_returned known)).2.symm

end Store

end ForeignCall
