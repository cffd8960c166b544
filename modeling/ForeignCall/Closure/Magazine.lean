import ForeignCall.Pages

/-! Magazines: blocks of pages that are cut into closure slots. Slots are handed out in order.

Of libffi it is assumed that its closures take `ClosureSlot.stride` bytes each, as they do on 64-bit
x86, and that it prepares each one it is asked for: it refuses closures only for an interface of a
calling convention that it does not know, and no such interface is prepared in the first place. -/

namespace ForeignCall

structure ClosureSlot where
  /-- The address of the slot's code. -/
  code : Nat
  /-- The position in its magazine. -/
  index : Nat
  deriving DecidableEq

namespace ClosureSlot

def stride : Nat := 128

def describe (slot : ClosureSlot) (address : String) : String :=
  s!"ClosureSlot \x7b code: {address}, index: {slot.index} \x7d"

end ClosureSlot

structure Magazine where
  block : Nat
  base : Nat
  capacity : Nat
  taken : Nat := 0

namespace Magazine

def slot (magazine : Magazine) (index : Nat) : ClosureSlot :=
  ⟨magazine.base + index * ClosureSlot.stride, index⟩

def remaining (magazine : Magazine) : Nat := magazine.capacity - magazine.taken

def describe (magazine : Magazine) (address : String) : String :=
  s!"Magazine \x7b address: {address}, capacity: {magazine.capacity}, " ++
    s!"remaining: {magazine.remaining} \x7d"

def next? (magazine : Magazine) : Option (ClosureSlot × Magazine) :=
  if magazine.taken < magazine.capacity then
    some (magazine.slot magazine.taken, { magazine with taken := magazine.taken + 1 })
  else none

theorem remaining_of_next? {magazine after : Magazine} {slot : ClosureSlot}
    (found : magazine.next? = some (slot, after)) :
    after.remaining + 1 = magazine.remaining := by
  rw [next?] at found
  split at found
  next below =>
    obtain ⟨_, rfl⟩ := found
    simp only [remaining]
    omega
  next => simp at found

def slotAt? (magazine : Magazine) (address : Nat) : Option ClosureSlot :=
  let index := (address - magazine.base) / ClosureSlot.stride
  if magazine.base ≤ address ∧ index < magazine.capacity ∧ (magazine.slot index).code = address
  then some (magazine.slot index)
  else none

theorem slotAt?_slot (magazine : Magazine) (index : Nat) (below : index < magazine.capacity) :
    magazine.slotAt? (magazine.slot index).code = some (magazine.slot index) := by
  have position : (magazine.base + index * ClosureSlot.stride - magazine.base) /
      ClosureSlot.stride = index := by
    rw [Nat.add_sub_cancel_left]
    exact Nat.mul_div_cancel index (by decide)
  simp only [slotAt?, slot, position]
  simp [below]

/-- A magazine of some pages, at least one. Pages too small for a slot are given back. -/
def allocate (pages : Nat) : Act PageStore Magazine := do
  let block ← PageStore.allocate ((← get).policy.bytesOf (max pages 1))
  let capacity := (← get).byteSize block / ClosureSlot.stride
  if capacity = 0 then
    PageStore.release block
    throw (.memoryExhausted ClosureSlot.stride)
  PageStore.makeExecutableOrRelease block
  let granted := (← get).block block
  Store.record (.magazineAllocated capacity granted.pages)
  Store.count fun counters =>
    { counters with magazinesAllocated := counters.magazinesAllocated + 1 }
  return { block, base := granted.base, capacity }

end Magazine

end ForeignCall
