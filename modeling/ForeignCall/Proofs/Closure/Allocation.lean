import ForeignCall.Closure.Magazine
import ForeignCall.Proofs.Pages

/-! What asking for a magazine comes to, and where magazines come to lie: above all memory that was
given out before. -/

namespace ForeignCall

def PageStore.noteMagazine (pages : PageStore) (capacity block : Nat) : PageStore :=
  { pages with
    events := .magazineAllocated capacity (pages.block block).pages :: pages.events
    counters :=
      { pages.counters with magazinesAllocated := pages.counters.magazinesAllocated + 1 } }

namespace Magazine

inductive Allocates (pages : PageStore) (count : Nat) : Except Fault Magazine → PageStore → Prop
  | refused {fault : Fault} {after : PageStore}
      (asked : (PageStore.allocate (pages.policy.bytesOf (max count 1))).run.run pages =
        (.error fault, after)) : Allocates pages count (.error fault) after
  /-- Not one slot fits. -/
  | small {block : Nat} {granted : PageStore}
      (asked : (PageStore.allocate (pages.policy.bytesOf (max count 1))).run.run pages =
        (.ok block, granted))
      (tight : granted.byteSize block / ClosureSlot.stride = 0) :
      Allocates pages count (.error (.memoryExhausted ClosureSlot.stride))
        ((PageStore.release block).run granted).2
  | unsealed {block : Nat} {granted after : PageStore} {fault : Fault}
      (asked : (PageStore.allocate (pages.policy.bytesOf (max count 1))).run.run pages =
        (.ok block, granted))
      (failed : (PageStore.makeExecutableOrRelease block).run.run granted = (.error fault, after)) :
      Allocates pages count (.error fault) after
  | cut {block : Nat} {granted sealed : PageStore}
      (asked : (PageStore.allocate (pages.policy.bytesOf (max count 1))).run.run pages =
        (.ok block, granted))
      (fits : granted.byteSize block / ClosureSlot.stride ≠ 0)
      (closed : (PageStore.makeExecutableOrRelease block).run.run granted = (.ok (), sealed)) :
      Allocates pages count
        (.ok ⟨block, (sealed.block block).base, granted.byteSize block / ClosureSlot.stride, 0⟩)
        (sealed.noteMagazine (granted.byteSize block / ClosureSlot.stride) block)

theorem allocates_of_run {count : Nat} {pages after : PageStore} {outcome : Except Fault Magazine}
    (ran : (allocate count).run.run pages = (outcome, after)) :
    Allocates pages count outcome after := by
  change ((PageStore.allocate (pages.policy.bytesOf (max count 1)) >>= _ :
    Act PageStore Magazine).run.run pages) = _ at ran
  rw [Act.run_bind] at ran
  split at ran
  next block granted asked =>
    change ((if granted.byteSize block / ClosureSlot.stride = 0 then _ else _ :
      Act PageStore Magazine).run.run granted) = _ at ran
    split at ran
    next tight =>
      cases ran
      exact .small asked tight
    next fits =>
      rw [Act.run_bind] at ran
      split at ran
      next done sealed closed =>
        cases ran
        exact .cut asked fits closed
      next fault sealed failed =>
        cases ran
        exact .unsealed asked failed
  next fault granted refused =>
    cases ran
    exact .refused refused

theorem of_run_allocate {count : Nat} {pages after : PageStore} {outcome : Except Fault Magazine}
    (ran : (allocate count).run.run pages = (outcome, after)) :
    pages.memory.unused ≤ after.memory.unused ∧ ∀ magazine, outcome = .ok magazine →
      magazine.taken = 0 ∧ pages.memory.unused < magazine.base ∧
        magazine.base + magazine.capacity * ClosureSlot.stride ≤ after.memory.unused := by
  cases allocates_of_run ran with
  | refused asked => exact ⟨(PageStore.above_of_run_allocate asked).1, Act.no_result⟩
  | @small block granted asked =>
      have grown := (PageStore.above_of_run_allocate asked).1
      exact ⟨(PageStore.unused_release block granted).symm ▸ grown, Act.no_result⟩
  | unsealed asked failed =>
      have grown := (PageStore.above_of_run_allocate asked).1
      exact ⟨(PageStore.of_run_seal failed).1.symm ▸ grown, Act.no_result⟩
  | @cut block granted sealed asked fits closed =>
      obtain ⟨grown, placed⟩ := PageStore.above_of_run_allocate asked
      obtain ⟨above, below⟩ := placed block rfl
      obtain ⟨unused, blocks⟩ := PageStore.of_run_seal closed
      have cut := Nat.div_mul_le_self (granted.byteSize block) ClosureSlot.stride
      have same : sealed.block block = granted.block block := by
        rw [PageStore.block, PageStore.block, (blocks rfl).1]
      refine ⟨unused ▸ grown, ?_⟩
      rintro magazine ⟨⟩
      refine ⟨rfl, same ▸ above, ?_⟩
      change (sealed.block block).base +
        granted.byteSize block / ClosureSlot.stride * ClosureSlot.stride ≤ sealed.memory.unused
      rw [same, unused]
      omega

end Magazine

end ForeignCall
