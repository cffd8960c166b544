import ForeignCall.Proofs.Binding.Fate
import ForeignCall.Proofs.Stub.Attachment

/-! Attaching stubs: when it fails, and why. -/

namespace ForeignCall

namespace PageStore

variable (pages : PageStore)

variable {pages} in
theorem noted_of_run_allocate {bytes : Nat} {after : PageStore} {outcome : Except Fault Nat}
    (ran : (allocate bytes).run.run pages = (outcome, after)) :
    let wanted := pages.policy.pagesFor bytes
    outcome = .error (.memoryExhausted (pages.policy.bytesOf wanted)) ∧
        after.history = pages.history ++ [.refused wanted] ∨
      outcome = .ok pages.blocks.length ∧ after.policy = pages.policy ∧
        after.history = pages.history ++ [.allocated pages.blocks.length wanted] ∧
          ∃ base, after.blocks = pages.blocks ++ [{ base, pages := wanted }] := by
  rcases allocate_cases ran with ⟨rfl, rfl⟩ | ⟨rfl, rfl⟩
  · exact .inr ⟨rfl, rfl, rfl, _, rfl⟩
  · exact .inl ⟨rfl, rfl⟩

theorem run_release_of_shared {number : Nat} (shared : 2 ≤ (pages.block number).owners) :
    ((release number).run pages).2 = pages.disowned number := by
  rw [run_release, if_neg (by omega)]

structure Holding (pages : PageStore) (block holders : Nat) : Prop where
  present : block < pages.blocks.length
  holders : holders ≤ (pages.block block).owners

variable {pages} in
theorem Holding.set {block holders : Nat} (holding : pages.Holding block holders)
    {after : PageStore} {owners : Nat} (blocks : after.blocks = pages.blocks.set block
      { pages.block block with owners }) {others : Nat} (enough : others ≤ owners) :
    after.Holding block others := by
  have inside := holding.present
  refine ⟨by simpa [blocks] using inside, ?_⟩
  rw [PageStore.block, blocks]
  simpa [List.getElem?_set, inside] using enough

variable {pages} in
theorem Holding.weaken {block holders fewer : Nat} (holding : pages.Holding block holders)
    (less : fewer ≤ holders) : pages.Holding block fewer :=
  ⟨holding.present, Nat.le_trans less holding.holders⟩

theorem history_release (number : Nat) :
    pages.history <+: ((release number).run pages).2.history := by
  rcases release_cases number pages with same | ⟨block, same⟩
  · exact same ▸ List.prefix_rfl
  · exact same ▸ List.prefix_append _ _

end PageStore

namespace Stub

theorem of_run_attach {stubs : List PendingStub} {pages after : PageStore}
    {outcome : Except Fault (Nat × List InstalledStub)}
    (ran : (attach stubs).run.run pages = (outcome, after)) :
    let wanted := pages.policy.pagesFor (reservedSize stubs)
    let size := pages.policy.bytesOf wanted
    outcome = .error (.memoryExhausted size) ∧
        .refused wanted ∈ after.history.drop pages.history.length ∨
      pages.policy.seals = false ∧ outcome = .error (.memoryExhausted size) ∧
        .allocated pages.blocks.length wanted ∈ after.history ∨
      pages.policy.seals = true ∧ after.policy = pages.policy ∧ ∃ base,
        outcome = .ok (pages.blocks.length, installed base stubs) ∧
          after.blocks = pages.blocks ++ [{ base, pages := wanted }] := by
  intro wanted size
  have given {block : Nat} {granted : PageStore}
      (asked : (PageStore.allocate (reservedSize stubs)).run.run pages = (.ok block, granted)) :
      block = pages.blocks.length ∧ granted.policy = pages.policy ∧
        .allocated pages.blocks.length wanted ∈ granted.history ∧ ∃ base,
          granted.blocks = pages.blocks ++ [{ base, pages := wanted }] ∧
            granted.block block = { base, pages := wanted } := by
    rcases PageStore.noted_of_run_allocate asked with
      ⟨refused, _⟩ | ⟨same, policy, noted, base, blocks⟩
    · cases refused
    · cases same
      refine ⟨rfl, policy, by simp [noted, wanted], base, blocks, ?_⟩
      simp [PageStore.block, blocks, wanted]
  cases attaches_of_run ran with
  | refused asked =>
      rcases PageStore.noted_of_run_allocate asked with ⟨same, noted⟩ | ⟨done, _⟩
      · cases same
        exact .inl ⟨rfl, by simp [noted, wanted]⟩
      · cases done
  | @unsealed block granted _ fault asked failed =>
      obtain ⟨rfl, policy, noted, base, -, last⟩ := given asked
      rw [PageStore.run_makeExecutable] at failed
      by_cases sealing : granted.policy.seals = true
      · cases (if_pos sealing).symm.trans failed
      · cases (if_neg sealing).symm.trans failed
        refine .inr (.inl ⟨policy ▸ Bool.eq_false_iff.2 sealing, ?_, ?_⟩)
        · change Except.error (Fault.memoryExhausted (granted.policy.bytesOf
            (granted.block pages.blocks.length).pages)) = _
          rw [policy, last]
        · exact (PageStore.history_release _ pages.blocks.length).subset
            (List.mem_append_left _ noted)
  | @done block granted sealed _ asked closed told =>
      obtain ⟨rfl, policy, -, base, blocks, last⟩ := given asked
      rw [PageStore.run_makeExecutable] at closed
      by_cases sealing : granted.policy.seals = true
      · cases (if_pos sealing).symm.trans closed
        obtain ⟨journal, noted⟩ := exists_run_journalAll stubs
          (installed (granted.block pages.blocks.length).base stubs) _
        obtain ⟨-, rfl⟩ := Prod.mk.inj (told.symm.trans noted)
        exact .inr (.inr ⟨policy ▸ sealing, policy, base, by rw [last], blocks⟩)
      · cases (if_neg sealing).symm.trans closed

theorem holding_of_run_attach {stubs : List PendingStub} {pages after : PageStore} {block : Nat}
    {entries : List InstalledStub}
    (ran : (attach stubs).run.run pages = (.ok (block, entries), after)) :
    after.Holding block 1 ∧ entries.length = stubs.length := by
  rcases of_run_attach ran with ⟨failed, _⟩ | ⟨_, failed, _⟩ | ⟨_, _, base, same, blocks⟩
  · cases failed
  · cases failed
  · cases same
    refine ⟨⟨?_, ?_⟩, by simp [installed]⟩
    · simp [blocks]
    · simp [PageStore.block, blocks]

end Stub

end ForeignCall
