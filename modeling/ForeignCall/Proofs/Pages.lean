import ForeignCall.Pages
import ForeignCall.Proofs.Memory
import ForeignCall.Proofs.Running
import Mathlib.Order.Bounds.Defs

/-! Pages come from memory that nothing else was given, and hold what is written to them. -/

namespace ForeignCall

theorem Memory.lt_allocate (memory : Memory) {alignment : Nat} (some_byte : 0 < alignment)
    (length : Nat) (bytes : List UInt8) :
    memory.unused < (memory.allocate alignment length bytes).1 := by
  have split := Nat.div_add_mod memory.unused alignment
  have rest := Nat.mod_lt memory.unused some_byte
  simp only [allocate, Nat.add_mul, Nat.one_mul]
  rw [Nat.mul_comm] at split
  omega

namespace Memory

def HoldsCode (memory : Memory) (address : Nat) (code : List UInt8) : Prop :=
  ∃ rest, memory.readWritten address = code ++ rest

variable {memory : Memory} {address : Nat} {code : List UInt8}

theorem readWritten_write {region : Region} (found : memory.find? address = some region)
    {other : Nat} (bytes : List UInt8) : (memory.write other bytes).readWritten address =
      if region.holds other && other + bytes.length ≤ region.base + region.length then
        (region.write other bytes).writtenFrom address
      else region.writtenFrom address := by
  rw [readWritten, find?_write, found]
  dsimp only [Option.map]
  split
  next => rfl
  next => rfl

theorem HoldsCode.write (holds : memory.HoldsCode address code) {other : Nat}
    (behind : address + code.length ≤ other) (bytes : List UInt8) :
    (memory.write other bytes).HoldsCode address code := by
  obtain ⟨rest, held⟩ := holds
  cases found : memory.find? address with
  | none =>
    rw [readWritten, found] at held
    refine ⟨rest, ?_⟩
    rw [readWritten, find?_write, found]
    exact held
  | some region =>
    rw [readWritten, found] at held
    rw [HoldsCode, readWritten_write found]
    split
    next =>
      have above := above_of_find? found
      have room : address - region.base + code.length ≤ other - region.base := by omega
      obtain ⟨later, kept⟩ := prefix_drop_overwrite ⟨rest, held.symm⟩ room bytes
      exact ⟨later, kept.symm⟩
    next => exact ⟨rest, held⟩

theorem HoldsCode.writeAll (holds : memory.HoldsCode address code)
    {runs : List (Nat × List UInt8)} (behind : ∀ run ∈ runs, address + code.length ≤ run.1) :
    (memory.writeAll runs).HoldsCode address code := by
  induction runs generalizing memory with
  | nil => exact holds
  | cons first rest ih =>
    obtain ⟨here, later⟩ := List.forall_mem_cons.1 behind
    exact ih (holds.write here first.2) later

end Memory

namespace PagePolicy

variable (policy : PagePolicy)

/-- Some bytes get as many whole pages as they need, at least one, and no more. -/
theorem isLeast_pagesFor (some_page : 0 < policy.pageSize) (bytes : Nat) :
    IsLeast {count | 0 < count ∧ bytes ≤ count * policy.pageSize} (policy.pagesFor bytes) := by
  have split := Nat.div_add_mod (bytes + policy.pageSize - 1) policy.pageSize
  have rest := Nat.mod_lt (bytes + policy.pageSize - 1) some_page
  rw [pagesFor]
  refine ⟨⟨Nat.lt_of_lt_of_le Nat.one_pos (Nat.le_max_right _ _), ?_⟩, ?_⟩
  · have more := Nat.mul_le_mul_right policy.pageSize
      (Nat.le_max_left ((bytes + policy.pageSize - 1) / policy.pageSize) 1)
    rw [Nat.mul_comm] at split
    omega
  · rintro fewer ⟨some_, enough⟩
    refine Nat.max_le.2 ⟨Nat.le_of_lt_succ (Nat.div_lt_of_lt_mul ?_), some_⟩
    rw [Nat.mul_succ, Nat.mul_comm]
    omega

variable {policy} {bytes : Nat}

theorem counts_iff : policy.counts bytes = true ↔
    0 < policy.pageSize ∧ bytes + policy.pageSize < UInt64.size := by
  simp [counts]

theorem bounds_of_counts (counted : policy.counts bytes = true) :
    0 < policy.pageSize ∧ bytes + policy.pageSize < UInt64.size ∧
      policy.bytesOf (policy.pagesFor bytes) < UInt64.size := by
  obtain ⟨some_page, fits⟩ := counts_iff.1 counted
  refine ⟨some_page, fits, ?_⟩
  have whole := Nat.div_mul_le_self (bytes + policy.pageSize - 1) policy.pageSize
  rw [bytesOf, pagesFor]
  rcases Nat.le_total ((bytes + policy.pageSize - 1) / policy.pageSize) 1 with one | more
  · rw [Nat.max_eq_right one]
    omega
  · rw [Nat.max_eq_left more]
    omega

end PagePolicy

namespace PageStore

theorem run_forIn_write {Item : Type} (run : Item → Nat × List UInt8)
    {step : Item → PUnit → Act PageStore (ForInStep PUnit)}
    (each : ∀ (item : Item) (pages : PageStore), (step item ⟨⟩).run.run pages =
      (.ok (.yield ⟨⟩), { pages with memory := pages.memory.write (run item).1 (run item).2 }))
    (items : List Item) (pages : PageStore) :
    (ForIn.forIn items PUnit.unit step : Act PageStore PUnit).run.run pages =
      (.ok ⟨⟩, { pages with memory := pages.memory.writeAll (items.map run) }) := by
  induction items generalizing pages with
  | nil => rfl
  | cons head rest ih =>
      rw [List.forIn_cons, Act.run_bind, each]
      exact ih _

theorem exists_run_forIn {Item : Type} {step : Item → PUnit → Act PageStore (ForInStep PUnit)}
    (each : ∀ item pages, ∃ journal : Journal, (step item ⟨⟩).run.run pages = (.ok (.yield ⟨⟩),
      { pages with events := journal.events, counters := journal.counters }))
    (items : List Item) (pages : PageStore) : ∃ journal : Journal,
      (ForIn.forIn items PUnit.unit step : Act PageStore PUnit).run.run pages =
        (.ok ⟨⟩, { pages with events := journal.events, counters := journal.counters }) := by
  induction items generalizing pages with
  | nil => exact ⟨pages.toJournal, rfl⟩
  | cons head rest ih =>
      obtain ⟨journal, noted⟩ := each head pages
      rw [List.forIn_cons, Act.run_bind, noted]
      exact ih _

def supplied (pages : PageStore) (count : Nat) : PageStore :=
  let (base, memory) :=
    pages.memory.allocate PagePolicy.systemPageSize (pages.policy.bytesOf count) []
  { pages with
    blocks := pages.blocks ++ [{ base, pages := count }]
    history := pages.history ++ [.allocated pages.blocks.length count]
    memory
    events := .pagesAllocated base count :: pages.events
    counters :=
      { pages.counters with blocksAllocated := pages.counters.blocksAllocated + 1 } }

theorem block_supplied (pages : PageStore) (wanted : Nat) :
    (pages.supplied wanted).block pages.blocks.length =
      { base := (pages.memory.allocate PagePolicy.systemPageSize (pages.policy.bytesOf wanted) []).1
        pages := wanted } := by
  simp [PageStore.block, supplied]

theorem byteSize_supplied (pages : PageStore) (wanted : Nat) :
    (pages.supplied wanted).byteSize pages.blocks.length = pages.policy.bytesOf wanted := by
  rw [byteSize, block_supplied]
  rfl

/-- The pages after some were asked for in vain, and the program ended if they cannot be counted. -/
def denied (pages : PageStore) (bytes : Nat) : PageStore :=
  { pages with
    abort? := if pages.policy.counts bytes then pages.abort? else some .arithmetic
    history := pages.history ++ [.refused (pages.policy.pagesFor bytes)] }

theorem run_allocate (bytes : Nat) (pages : PageStore) :
    (allocate bytes).run.run pages =
      if pages.policy.counts bytes &&
          pages.policy.grants pages.blocks.length (pages.policy.pagesFor bytes) then
        (.ok pages.blocks.length, pages.supplied (pages.policy.pagesFor bytes))
      else
        (.error (.memoryExhausted (pages.policy.bytesOf (pages.policy.pagesFor bytes))),
          pages.denied bytes) := by
  change (if (_ && _) = true then _ else _ : Act PageStore Nat).run.run pages = _
  split
  next => rfl
  next =>
    rw [denied]
    cases pages.policy.counts bytes <;> rfl

theorem allocate_cases {bytes : Nat} {pages after : PageStore} {outcome : Except Fault Nat}
    (ran : (allocate bytes).run.run pages = (outcome, after)) :
    let wanted := pages.policy.pagesFor bytes
    outcome = .ok pages.blocks.length ∧ after = pages.supplied wanted ∨
      outcome = .error (.memoryExhausted (pages.policy.bytesOf wanted)) ∧
        after = pages.denied bytes := by
  rw [run_allocate] at ran
  split at ran
  next =>
    cases ran
    exact .inl ⟨rfl, rfl⟩
  next =>
    cases ran
    exact .inr ⟨rfl, rfl⟩

theorem counts_of_run_allocate {bytes number : Nat} {pages after : PageStore}
    (ran : (allocate bytes).run.run pages = (.ok number, after)) :
    pages.policy.counts bytes = true := by
  rw [run_allocate] at ran
  split at ran
  next granted => exact (Bool.and_eq_true_iff.1 granted).1
  next => cases ran

theorem supplied_of_run_allocate {bytes number : Nat} {pages after : PageStore}
    (ran : (allocate bytes).run.run pages = (.ok number, after)) :
    number = pages.blocks.length ∧ after = pages.supplied (pages.policy.pagesFor bytes) := by
  rcases allocate_cases ran with ⟨same, supplied⟩ | ⟨refused, -⟩
  · exact ⟨Except.ok.inj same, supplied⟩
  · cases refused

theorem of_run_allocate {bytes : Nat} {pages after : PageStore} {outcome : Except Fault Nat}
    (ran : (allocate bytes).run.run pages = (outcome, after)) :
    let size := pages.policy.bytesOf (pages.policy.pagesFor bytes)
    let granted := pages.memory.allocate PagePolicy.systemPageSize size []
    outcome = .error (.memoryExhausted size) ∧ after.memory = pages.memory ∨
      outcome = .ok pages.blocks.length ∧ after.memory = granted.2 ∧
        after.policy = pages.policy ∧ (after.block pages.blocks.length).base = granted.1 ∧
          after.byteSize pages.blocks.length = size := by
  intro size granted
  rcases allocate_cases ran with ⟨rfl, rfl⟩ | ⟨rfl, rfl⟩
  · have found := pages.block_supplied (pages.policy.pagesFor bytes)
    exact .inr ⟨rfl, rfl, rfl, congrArg PageBlock.base found, pages.byteSize_supplied _⟩
  · exact .inl ⟨rfl, rfl⟩

/-- A block that was handed out has the pages that its bytes need, and all its bytes are there. -/
theorem exact_of_run_allocate {bytes number : Nat} {pages granted : PageStore}
    (asked : (allocate bytes).run.run pages = (.ok number, granted)) :
    let block := granted.block number
    let size := block.pages * pages.policy.pageSize
    IsLeast {count | 0 < count ∧ bytes ≤ count * pages.policy.pageSize} block.pages ∧
      granted.policy = pages.policy ∧ granted.byteSize number = size ∧
        granted.memory.readable block.base size = true := by
  have some_page := (PagePolicy.bounds_of_counts (counts_of_run_allocate asked)).1
  obtain ⟨rfl, rfl⟩ := supplied_of_run_allocate asked
  have least := pages.policy.isLeast_pagesFor some_page bytes
  have some_byte := Nat.mul_pos least.1.1 some_page
  rw [block_supplied, byteSize_supplied]
  refine ⟨least, rfl, rfl, ?_⟩
  have mapped := pages.memory.readable_granted PagePolicy.systemPageSize [] some_byte
    (Nat.le_of_eq (Nat.zero_add _))
  dsimp only at mapped
  rwa [Nat.add_zero] at mapped

theorem above_of_run_allocate {bytes : Nat} {pages after : PageStore} {outcome : Except Fault Nat}
    (ran : (allocate bytes).run.run pages = (outcome, after)) :
    pages.memory.unused ≤ after.memory.unused ∧ ∀ number, outcome = .ok number →
      pages.memory.unused < (after.block number).base ∧
        (after.block number).base + after.byteSize number ≤ after.memory.unused := by
  have above := pages.memory.lt_allocate (show 0 < PagePolicy.systemPageSize by decide)
    (pages.policy.bytesOf (pages.policy.pagesFor bytes)) []
  rcases of_run_allocate ran with ⟨rfl, same⟩ | ⟨rfl, memory, _, base, size⟩
  · exact ⟨Nat.le_of_eq (congrArg Memory.unused same).symm, Act.no_result⟩
  · have used := congrArg Memory.unused memory
    refine ⟨?_, ?_⟩
    · rw [used]
      exact Nat.le_trans (Nat.le_of_lt above) (Nat.le_trans (Nat.le_add_right _ _)
        (Nat.le_succ _))
    · rintro number ⟨⟩
      rw [base, size, used]
      exact ⟨above, Nat.le_succ _⟩

section Leaving

variable (number : Nat) (pages : PageStore)

def without (block : PageBlock) : PageStore :=
  { pages with
    blocks := pages.blocks.set number { block with disposed := true }
    history := pages.history ++ [.freed number block.pages]
    memory := pages.memory.release block.base
    events := .pagesReleased block.base block.pages :: pages.events
    counters := { pages.counters with blocksFreed := pages.counters.blocksFreed + 1 } }

theorem run_dispose :
    ((dispose number).run pages).2 =
      match pages.blocks[number]? with
      | some block => if block.disposed then pages else pages.without number block
      | none => pages := by
  change ((if (pages.block number).disposed then _ else _ : StateM PageStore Bool).run pages).2 = _
  cases found : pages.blocks[number]? with
  | none =>
      rw [PageStore.block, found]
      rfl
  | some block =>
      have same : pages.block number = block := by
        rw [PageStore.block, found]
        rfl
      rw [same]
      dsimp only
      by_cases disposed : block.disposed = true
      · rw [if_pos disposed, if_pos disposed]
        rfl
      · rw [if_neg disposed, if_neg disposed]
        rfl

def disowned : PageStore :=
  let block := pages.block number
  { pages with blocks := pages.blocks.set number { block with owners := block.owners - 1 } }

theorem run_release :
    ((release number).run pages).2 =
      if (pages.block number).owners ≤ 1 then ((dispose number).run (pages.disowned number)).2
      else pages.disowned number := by
  change ((if _ then _ else _ : StateM PageStore PUnit).run _).2 = _
  split <;> rfl

theorem release_cases :
    ((release number).run pages).2 = pages.disowned number ∨
      ∃ block, ((release number).run pages).2 = (pages.disowned number).without number block := by
  rw [run_release]
  split
  next =>
    rw [run_dispose]
    split
    next block found =>
      split
      next => exact .inl rfl
      next => exact .inr ⟨block, rfl⟩
    next => exact .inl rfl
  next => exact .inl rfl

theorem unused_release :
    ((release number).run pages).2.memory.unused = pages.memory.unused := by
  rcases release_cases number pages with same | ⟨block, same⟩ <;> rw [same] <;> rfl

end Leaving

theorem run_makeExecutable (number : Nat) (pages : PageStore) :
    (makeExecutableOrRelease number).run.run pages =
      let noted := { pages with
        history := pages.history ++ [.sealed number (pages.block number).pages] }
      if pages.policy.seals then (.ok (), noted)
      else (.error (.memoryExhausted (pages.byteSize number)), ((release number).run noted).2) := by
  have tried : (makeExecutable number).run.run pages =
      (if pages.policy.seals then .ok () else .error (.memoryExhausted (pages.byteSize number)),
        { pages with
          history := pages.history ++ [.sealed number (pages.block number).pages] }) := by
    change (unless pages.policy.seals do throw _ : Act PageStore PUnit).run.run _ = _
    cases pages.policy.seals <;> rfl
  rw [makeExecutableOrRelease, Act.run_tryCatch, tried]
  cases pages.policy.seals <;> rfl

theorem makeExecutable_cases {number : Nat} {pages after : PageStore} {outcome : Except Fault Unit}
    (ran : (makeExecutableOrRelease number).run.run pages = (outcome, after)) :
    let noted := { pages with
      history := pages.history ++ [.sealed number (pages.block number).pages] }
    outcome = .ok () ∧ after = noted ∨
      outcome = .error (.memoryExhausted (pages.byteSize number)) ∧
        after = ((release number).run noted).2 := by
  rw [run_makeExecutable] at ran
  dsimp only at ran
  split at ran
  next =>
    cases ran
    exact .inl ⟨rfl, rfl⟩
  next =>
    cases ran
    exact .inr ⟨rfl, rfl⟩

theorem of_run_seal {number : Nat} {pages after : PageStore} {outcome : Except Fault Unit}
    (ran : (makeExecutableOrRelease number).run.run pages = (outcome, after)) :
    after.memory.unused = pages.memory.unused ∧
      (outcome = .ok () → after.blocks = pages.blocks ∧ after.memory = pages.memory) := by
  rcases makeExecutable_cases ran with ⟨-, rfl⟩ | ⟨rfl, rfl⟩
  · exact ⟨rfl, fun _ => ⟨rfl, rfl⟩⟩
  · refine ⟨unused_release number _, ?_⟩
    rintro ⟨⟩

end PageStore

end ForeignCall
