import ForeignCall.Proofs.Stub.Attachment

/-! How attached stubs are laid out: their block is no larger than it must be, and in it they lie
one behind the other at multiples of eight, each whole and with its targets filled in. The bytes
between them are as they were. -/

namespace ForeignCall

namespace Stub

/-- Memory in which stubs were copied to where their entries say. -/
structure Laid (before after : Memory) (stubs : List PendingStub)
    (entries : List InstalledStub) : Prop where
  filled : List.Forall₂ (fun stub entry => ∃ bytes,
    after.read? entry.address entry.size = some bytes ∧ stub.code.Filled bytes) stubs entries
  elsewhere {start count : Nat}
    (apart : ∀ entry ∈ entries, Apart entry.address entry.size start count) :
    after.read? start count = before.read? start count

theorem forall₂_installed {property : PendingStub → InstalledStub → Prop} {base : Nat}
    {stubs : List PendingStub}
    (each : ∀ pair ∈ stubs.zip (installed base stubs), property pair.1 pair.2) :
    List.Forall₂ property stubs (installed base stubs) :=
  List.forall₂_iff_zip.2 ⟨by simp [installed], fun known => each _ known⟩

theorem pairwise_installed (base : Nat) (stubs : List PendingStub) :
    (installed base stubs).Pairwise fun first second =>
      first.address + first.size ≤ second.address := by
  rw [installed, List.pairwise_map]
  refine (pairwise_offsets 0 stubs).imp fun ahead => ?_
  dsimp only
  omega

theorem laid_writeAll {memory : Memory} {base : Nat} {stubs : List PendingStub}
    (assembled : ∀ stub ∈ stubs, stub.code.Assembled)
    (mapped : ∀ run ∈ copies stubs (installed base stubs),
      memory.readable run.1 run.2.length = true) :
    Laid memory (memory.writeAll (copies stubs (installed base stubs))) stubs
      (installed base stubs) where
  filled := by
    have whole (stub : PendingStub) (known : stub ∈ stubs) :=
      (assembled stub known).filled.whole
    refine forall₂_installed fun pair known => ?_
    have there := (List.of_mem_zip known).1
    have held := Memory.read?_writeAll ((copies_installed whole base).2.imp fun ahead => .inr ahead)
      mapped _ (List.mem_map.2 ⟨pair, known, rfl⟩)
    refine ⟨pair.1.code.relocated, ?_, (assembled pair.1 there).filled⟩
    rwa [(placed_of_mem_zip known).size, ← whole pair.1 there]
  elsewhere apart := by
    refine Memory.read?_writeAll_of_apart fun run known => ?_
    obtain ⟨pair, there, rfl⟩ := List.mem_map.1 known
    have known := (List.of_mem_zip there)
    dsimp only
    rw [(assembled pair.1 known.1).filled.whole, ← (placed_of_mem_zip there).size]
    exact apart pair.2 known.2

/-- Whenever a block can be had, it has as few pages as the stubs need, the stubs lie in it in order
and apart, and nothing else in it is changed. -/
theorem attach_lays {stubs : List PendingStub} {pages granted : PageStore} {number : Nat}
    (assembled : ∀ stub ∈ stubs, stub.code.Assembled)
    (asked : (PageStore.allocate (reservedSize stubs)).run.run pages = (.ok number, granted)) :
    let block := granted.block number
    let length := block.pages * pages.policy.pageSize
    let entries := installed block.base stubs
    IsLeast {count | 0 < count ∧ reservedSize stubs ≤ count * pages.policy.pageSize}
        block.pages ∧
      granted.memory.readable block.base length = true ∧
      List.Forall₂ (fun stub entry => Placed block.base length stub entry ∧
        ∀ relocation ∈ stub.code.relocations, relocation.offset + 8 ≤ entry.size) stubs entries ∧
      (entries.Pairwise fun first second => first.address + first.size ≤ second.address) ∧
      ∃ after, (attach stubs).run.run pages =
          (if pages.policy.seals then .ok (number, entries) else .error (.memoryExhausted length),
            after) ∧
        (pages.policy.seals = true → Laid granted.memory after.memory stubs entries) := by
  intro block length entries
  obtain ⟨least, policy, size, mapped⟩ := PageStore.exact_of_run_allocate asked
  have enough : reservedSize stubs ≤ length := least.1.2
  have whole (stub : PendingStub) (known : stub ∈ stubs) := (assembled stub known).filled.whole
  have laid : Laid granted.memory (copied stubs entries granted).memory stubs entries :=
    laid_writeAll assembled (readable_of_mem_copies whole asked (size ▸ enough))
  refine ⟨least, mapped, forall₂_installed fun pair known => ?_, pairwise_installed _ _, ?_⟩
  · have placed := placed_of_mem_zip known
    refine ⟨{ placed with
      below := Nat.lt_of_lt_of_le placed.below (Nat.add_le_add_left enough _) }, ?_⟩
    rw [placed.size]
    exact (assembled pair.1 (List.of_mem_zip known).1).inside
  obtain ⟨outcome, after, ran⟩ :
      ∃ outcome after, (attach stubs).run.run pages = (outcome, after) := ⟨_, _, rfl⟩
  refine ⟨after, ?_⟩
  rw [ran, ← policy]
  cases attaches_of_run ran with
  | refused refused => cases asked.symm.trans refused
  | unsealed again failed =>
      cases asked.symm.trans again
      rw [PageStore.run_makeExecutable] at failed
      by_cases sealing : granted.policy.seals = true
      · cases (if_pos sealing).symm.trans failed
      · cases (if_neg sealing).symm.trans failed
        refine ⟨?_, fun sealed => absurd sealed sealing⟩
        rw [if_neg sealing]
        exact congrArg (fun size => (Except.error (Fault.memoryExhausted size), _)) size
  | done again closed noted =>
      cases asked.symm.trans again
      obtain ⟨journal, told⟩ := exists_run_journalAll stubs entries _
      obtain ⟨-, rfl⟩ := Prod.mk.inj (noted.symm.trans told)
      rw [PageStore.run_makeExecutable] at closed
      by_cases sealing : granted.policy.seals = true
      · cases (if_pos sealing).symm.trans closed
        exact ⟨by rw [if_pos sealing], fun _ => laid⟩
      · cases (if_neg sealing).symm.trans closed

def callAndReturn : List PendingStub :=
  [⟨"call", "void ()", ((X86.Code.append {} .pushRbx).appendCall 0x1122334455667788).append .ret⟩,
    ⟨"return", "void ()", X86.Code.append {} .ret⟩]

theorem attach_lays_callAndReturn :
    let pages : PageStore := { policy := .limited 16 none true }
    ∃ granted after,
      (PageStore.allocate (reservedSize callAndReturn)).run.run pages = (.ok 0, granted) ∧
      (granted.block 0).pages = 2 ∧
      (attach callAndReturn).run.run pages =
        (.ok (0, [⟨"call", "void ()", (granted.block 0).base, 14⟩,
          ⟨"return", "void ()", (granted.block 0).base + 16, 1⟩]), after) ∧
      Laid granted.memory after.memory callAndReturn
        (installed (granted.block 0).base callAndReturn) := by
  intro pages
  have assembled : ∀ stub ∈ callAndReturn, stub.code.Assembled := by
    simp only [callAndReturn, List.forall_mem_cons, List.not_mem_nil, false_implies, implies_true,
      and_true]
    exact ⟨.append .ret (.appendCall _ (.append .pushRbx .empty)), .append .ret .empty⟩
  obtain ⟨granted, asked⟩ : ∃ granted,
      (PageStore.allocate (reservedSize callAndReturn)).run.run pages = (.ok 0, granted) :=
    ⟨_, rfl⟩
  obtain ⟨-, -, -, -, after, ran, laid⟩ :=
    attach_lays assembled asked
  have placed (base : Nat) : installed base callAndReturn =
      [⟨"call", "void ()", base, 14⟩, ⟨"return", "void ()", base + 16, 1⟩] := rfl
  refine ⟨granted, after, asked, ?_, ?_, laid rfl⟩
  · obtain ⟨-, rfl⟩ := PageStore.supplied_of_run_allocate asked
    have counted : PagePolicy.pagesFor (.limited 16 none true) (reservedSize callAndReturn) = 2 :=
      rfl
    exact (congrArg PageBlock.pages (pages.block_supplied _)).trans counted
  · rw [ran, placed]
    rfl

end Stub

end ForeignCall
