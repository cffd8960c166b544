import ForeignCall.Proofs.Binding.Attaching
import ForeignCall.Proofs.Closure.Allocation

/-! Blocks of pages and their holders: a block is freed once, when its last holder is gone or before
that on demand, and what happened to pages tells the same as the blocks and the counters do. -/

namespace ForeignCall

theorem getElem?_concat_of_ne {Item : Type} {items : List Item} {index : Nat}
    (other : index ≠ items.length) (last : Item) :
    (items ++ [last])[index]? = items[index]? := by
  rcases Nat.lt_or_gt_of_ne other with below | above
  · exact List.getElem?_append_left below
  · rw [List.getElem?_eq_none (Nat.le_of_lt above), List.getElem?_eq_none]
    simpa using Nat.succ_le_of_lt above

def PageBlock.leave (block : PageBlock) : PageBlock :=
  { block with
    owners := block.owners - 1
    disposed := block.disposed || decide (block.owners ≤ 1) }

/-- What the history of pages tells of a block: its size, and whether it was freed. -/
def PageBlock.told (block : PageBlock) : Nat × Bool := (block.pages, block.disposed)

namespace PageStore

def granted (pages : PageStore) (number : Nat) : List Nat :=
  pages.history.filterMap fun
    | .allocated block count => if block = number then some count else none
    | _ => none

def freed (pages : PageStore) (number : Nat) : List Nat :=
  pages.history.filterMap fun
    | .freed block count => if block = number then some count else none
    | _ => none

/-- What happened to pages, and the counters, tell the same as the blocks do. -/
structure Recorded (pages : PageStore) : Prop where
  granted : ∀ number, pages.granted number = (pages.blocks[number]?.map (·.pages)).toList
  freed : ∀ number, pages.freed number =
    ((pages.blocks[number]?.filter (·.disposed)).map (·.pages)).toList
  allocations : pages.counters.blocksAllocated = pages.blocks.length
  disposals : pages.counters.blocksFreed = pages.blocks.countP (·.disposed)

/-- Each block has as many owners as it has holders, and it is disposed of if that was demanded or
if it has none. -/
structure Owned (blocks : List PageBlock) (holders demanded : List Nat) : Prop where
  owners : ∀ number block, blocks[number]? = some block → block.owners = holders.count number
  disposed : ∀ number block, blocks[number]? = some block →
    (block.disposed = true ↔ number ∈ demanded ∨ number ∉ holders)
  held : ∀ number ∈ holders, number < blocks.length
  demanded : ∀ number ∈ demanded, number < blocks.length

section Running

variable (number : Nat) (pages : PageStore)

theorem blocks_dispose :
    ((dispose number).run pages).2.blocks =
      pages.blocks.modify number fun block => { block with disposed := true } := by
  rw [run_dispose, List.modify_eq_set_getElem?]
  cases found : pages.blocks[number]? with
  | none => rfl
  | some block =>
      by_cases disposed : block.disposed = true
      · have same : { block with disposed := true } = block := by
          cases block
          cases disposed
          rfl
        obtain ⟨inside, rfl⟩ := List.getElem?_eq_some_iff.1 found
        change (if _ then _ else _ : PageStore).blocks = pages.blocks.set number _
        rw [if_pos disposed, same, List.set_getElem_self]
      · change (if _ then _ else _ : PageStore).blocks = _
        rw [if_neg disposed]
        rfl

theorem blocks_release :
    ((release number).run pages).2.blocks = pages.blocks.modify number PageBlock.leave := by
  rw [run_release, List.modify_eq_set_getElem?, disowned, PageStore.block]
  cases found : pages.blocks[number]? with
  | none =>
      have outside := List.getElem?_eq_none_iff.1 found
      simp [blocks_dispose, List.modify_eq_set_getElem?, List.set_eq_of_length_le outside, found]
  | some block =>
      have inside := (List.getElem?_eq_some_iff.1 found).1
      by_cases last : block.owners ≤ 1
      · simp [last, blocks_dispose, List.modify_eq_set_getElem?, inside, PageBlock.leave]
      · simp [last, PageBlock.leave]

theorem blocks_retain :
    ((retain number).run pages).2.blocks =
      pages.blocks.modify number fun block => { block with owners := block.owners + 1 } := by
  change pages.blocks.set number { pages.block number with
    owners := (pages.block number).owners + 1 } = _
  rw [List.modify_eq_set_getElem?, PageStore.block]
  cases found : pages.blocks[number]? with
  | none => exact List.set_eq_of_length_le (List.getElem?_eq_none_iff.1 found)
  | some block => rfl

end Running

namespace Owned

variable {blocks : List PageBlock} {holders others demanded wanted : List Nat} {number : Nat}

theorem nil : Owned [] [] [] := ⟨by simp, by simp, by simp, by simp⟩

theorem perm (owned : Owned blocks holders demanded) (same : holders.Perm others) :
    Owned blocks others demanded := by
  refine ⟨?_, ?_, ?_, owned.demanded⟩
  · intro number block found
    rw [← same.count_eq]
    exact owned.owners number block found
  · intro number block found
    rw [← same.mem_iff]
    exact owned.disposed number block found
  · exact fun number known => owned.held number (same.mem_iff.2 known)

theorem allocate (owned : Owned blocks holders demanded) (base count : Nat) :
    Owned (blocks ++ [{ base, pages := count }]) (blocks.length :: holders) demanded := by
  have unheld : blocks.length ∉ holders :=
    fun known => Nat.lt_irrefl _ (owned.held _ known)
  have undemanded : blocks.length ∉ demanded :=
    fun known => Nat.lt_irrefl _ (owned.demanded _ known)
  have later : ∀ (number : Nat) (block : PageBlock),
      (blocks ++ [({ base, pages := count } : PageBlock)])[number]? = some block →
      blocks[number]? = some block ∧ number ≠ blocks.length ∨
        number = blocks.length ∧ block = { base, pages := count } := by
    intro number block found
    by_cases other : number = blocks.length
    · subst other
      rw [List.getElem?_concat_length] at found
      exact .inr ⟨rfl, (Option.some.inj found).symm⟩
    · rw [getElem?_concat_of_ne other] at found
      exact .inl ⟨found, other⟩
  refine ⟨?_, ?_, ?_, ?_⟩
  · intro number block found
    rcases later number block found with ⟨earlier, other⟩ | ⟨rfl, rfl⟩
    · rw [List.count_cons_of_ne (Ne.symm other)]
      exact owned.owners number block earlier
    · simp [List.count_eq_zero_of_not_mem unheld]
  · intro number block found
    rcases later number block found with ⟨earlier, other⟩ | ⟨rfl, rfl⟩
    · rw [owned.disposed number block earlier]
      simp [other]
    · simp [undemanded]
  · intro number known
    rw [List.length_append, List.length_singleton]
    rcases List.mem_cons.1 known with rfl | earlier
    · exact Nat.lt_succ_self _
    · exact Nat.lt_succ_of_lt (owned.held number earlier)
  · intro number known
    rw [List.length_append, List.length_singleton]
    exact Nat.lt_succ_of_lt (owned.demanded number known)

theorem modify (owned : Owned blocks holders demanded) {change : PageBlock → PageBlock}
    (elsewhere : ∀ other, other ≠ number →
      others.count other = holders.count other ∧ (other ∈ wanted ↔ other ∈ demanded))
    (here : ∀ block, blocks[number]? = some block → (change block).owners = others.count number ∧
      ((change block).disposed = true ↔ number ∈ wanted ∨ number ∉ others))
    (inside : number ∈ others ∨ number ∈ wanted → number < blocks.length) :
    Owned (blocks.modify number change) others wanted := by
  have holds : ∀ other, other ≠ number → (other ∈ others ↔ other ∈ holders) := by
    intro other different
    rw [← List.count_pos_iff, (elsewhere other different).1, List.count_pos_iff]
  have later : ∀ (other : Nat) (block : PageBlock),
      (blocks.modify number change)[other]? = some block →
      other ≠ number ∧ blocks[other]? = some block ∨
        other = number ∧ ∃ earlier, blocks[number]? = some earlier ∧ change earlier = block := by
    intro other block found
    rw [List.getElem?_modify] at found
    obtain ⟨earlier, there, changed⟩ := Option.map_eq_some_iff.1 found
    split at changed
    next same =>
      subst same
      exact .inr ⟨rfl, earlier, there, changed⟩
    next different =>
      cases changed
      exact .inl ⟨Ne.symm different, there⟩
  refine ⟨?_, ?_, ?_, ?_⟩
  · intro other block found
    rcases later other block found with ⟨different, there⟩ | ⟨rfl, earlier, there, rfl⟩
    · rw [(elsewhere other different).1]
      exact owned.owners other block there
    · exact (here earlier there).1
  · intro other block found
    rcases later other block found with ⟨different, there⟩ | ⟨rfl, earlier, there, rfl⟩
    · rw [(elsewhere other different).2, holds other different]
      exact owned.disposed other block there
    · exact (here earlier there).2
  · intro other known
    rw [List.length_modify]
    by_cases same : other = number
    · subst same
      exact inside (.inl known)
    · exact owned.held other ((holds other same).1 known)
  · intro other known
    rw [List.length_modify]
    by_cases same : other = number
    · subst same
      exact inside (.inr known)
    · exact owned.demanded other ((elsewhere other same).2.1 known)

theorem retain (owned : Owned blocks holders demanded) (known : number ∈ holders) :
    Owned (blocks.modify number fun block => { block with owners := block.owners + 1 })
      (number :: holders) demanded := by
  refine owned.modify ?_ ?_ fun _ => owned.held number known
  · exact fun other different => ⟨List.count_cons_of_ne (Ne.symm different), .rfl⟩
  · intro block found
    refine ⟨?_, ?_⟩
    · rw [List.count_cons_self, ← owned.owners number block found]
    · refine (owned.disposed number block found).trans ?_
      simp [known]

theorem release (owned : Owned blocks (number :: holders) demanded) :
    Owned (blocks.modify number PageBlock.leave) holders demanded := by
  refine owned.modify ?_ ?_ fun _ => owned.held number List.mem_cons_self
  · exact fun other different => ⟨(List.count_cons_of_ne (Ne.symm different)).symm, .rfl⟩
  · intro block found
    have owners := owned.owners number block found
    have disposed := owned.disposed number block found
    rw [List.count_cons_self] at owners
    refine ⟨by rw [PageBlock.leave, owners, Nat.add_sub_cancel], ?_⟩
    have alone : block.owners ≤ 1 ↔ number ∉ holders := by
      rw [owners, ← List.count_eq_zero]
      omega
    simp only [PageBlock.leave, Bool.or_eq_true, decide_eq_true_eq, alone, disposed]
    simp

theorem dispose (owned : Owned blocks holders demanded) (inside : number < blocks.length) :
    Owned (blocks.modify number fun block => { block with disposed := true }) holders
      (number :: demanded) := by
  refine owned.modify ?_ ?_ fun _ => inside
  · exact fun other different => ⟨rfl, by simp [different]⟩
  · exact fun block found => ⟨owned.owners number block found, by simp⟩

end Owned

namespace Recorded

variable {pages after : PageStore}

theorem of_empty (blocks : pages.blocks = []) (history : pages.history = [])
    (allocations : pages.counters.blocksAllocated = 0)
    (disposals : pages.counters.blocksFreed = 0) : pages.Recorded := by
  refine ⟨fun number => ?_, fun number => ?_, ?_, ?_⟩
  · rw [PageStore.granted, history, blocks]
    rfl
  · rw [PageStore.freed, history, blocks]
    rfl
  · rw [allocations, blocks]
    rfl
  · rw [disposals, blocks]
    rfl

theorem told (recorded : pages.Recorded) {number : Nat} {block : PageBlock}
    (found : pages.blocks[number]? = some block) :
    pages.granted number = [block.pages] ∧
      (block.disposed = true ↔ pages.freed number = [block.pages]) := by
  rw [recorded.granted, recorded.freed, found]
  refine ⟨rfl, ?_⟩
  cases disposed : block.disposed <;> simp [Option.filter, disposed]

theorem blocksFreed_le (recorded : pages.Recorded) :
    pages.counters.blocksFreed ≤ pages.counters.blocksAllocated := by
  rw [recorded.disposals, recorded.allocations]
  exact List.countP_le_length

theorem congr (recorded : pages.Recorded) (history : after.history = pages.history)
    (allocations : after.counters.blocksAllocated = pages.counters.blocksAllocated)
    (disposals : after.counters.blocksFreed = pages.counters.blocksFreed)
    (blocks : after.blocks.map PageBlock.told = pages.blocks.map PageBlock.told) :
    after.Recorded := by
  have same : ∀ number : Nat, after.blocks[number]?.map PageBlock.told =
      pages.blocks[number]?.map PageBlock.told := by
    intro number
    rw [← List.getElem?_map, ← List.getElem?_map, blocks]
  have counted : ∀ blocks : List PageBlock,
      blocks.countP (·.disposed) = (blocks.map PageBlock.told).countP (·.2) := by
    intro blocks
    rw [List.countP_map]
    rfl
  refine ⟨?_, ?_, ?_, ?_⟩
  · intro number
    have sizes := congrArg (Option.map (·.1)) (same number)
    rw [Option.map_map, Option.map_map] at sizes
    rw [PageStore.granted, history]
    exact (recorded.granted number).trans (congrArg Option.toList sizes).symm
  · intro number
    have sizes := congrArg (fun told => (told.filter (·.2)).map (·.1)) (same number)
    simp only [Option.filter_map, Option.map_map] at sizes
    rw [PageStore.freed, history]
    exact (recorded.freed number).trans (congrArg Option.toList sizes).symm
  · have length := congrArg List.length blocks
    rw [List.length_map, List.length_map] at length
    rw [allocations, length]
    exact recorded.allocations
  · rw [disposals, counted, blocks, ← counted]
    exact recorded.disposals

theorem note (recorded : pages.Recorded) {event : PageEvent}
    (granted : ∀ number count, event ≠ .allocated number count)
    (freed : ∀ number count, event ≠ .freed number count) :
    Recorded { pages with history := pages.history ++ [event] } := by
  refine ⟨?_, ?_, recorded.allocations, recorded.disposals⟩
  · intro number
    rw [← recorded.granted number, PageStore.granted, List.filterMap_append]
    cases event with
    | allocated block count => exact absurd rfl (granted block count)
    | _ => exact List.append_nil _
  · intro number
    rw [← recorded.freed number, PageStore.freed, List.filterMap_append]
    cases event with
    | freed block count => exact absurd rfl (freed block count)
    | _ => exact List.append_nil _

theorem without (recorded : pages.Recorded) {number : Nat} {block : PageBlock}
    (found : pages.blocks[number]? = some block) (kept : block.disposed = false) :
    (pages.without number block).Recorded := by
  obtain ⟨inside, there⟩ := List.getElem?_eq_some_iff.1 found
  refine ⟨?_, ?_, ?_, ?_⟩
  · intro other
    have same := recorded.granted other
    simp only [PageStore.granted, PageStore.without, List.filterMap_append] at same ⊢
    rw [same, List.getElem?_set]
    by_cases here : number = other
    · subst here
      simp [inside, there]
    · simp [here]
  · intro other
    have same := recorded.freed other
    simp only [PageStore.freed, PageStore.without, List.filterMap_append] at same ⊢
    rw [same, List.getElem?_set]
    by_cases here : number = other
    · subst here
      simp [inside, there, kept, Option.filter]
    · simp [here]
  · simp only [PageStore.without, List.length_set]
    exact recorded.allocations
  · simp only [PageStore.without]
    rw [List.countP_set inside, there, kept, recorded.disposals]
    rfl

theorem append (recorded : pages.Recorded) {base count : Nat}
    (history : after.history = pages.history ++ [.allocated pages.blocks.length count])
    (blocks : after.blocks = pages.blocks ++ [{ base, pages := count }])
    (allocations : after.counters.blocksAllocated = pages.counters.blocksAllocated + 1)
    (disposals : after.counters.blocksFreed = pages.counters.blocksFreed) : after.Recorded := by
  have others : ∀ number, number ≠ pages.blocks.length →
      after.blocks[number]? = pages.blocks[number]? := by
    intro number other
    rw [blocks, getElem?_concat_of_ne other]
  have last : after.blocks[pages.blocks.length]? = some { base, pages := count } := by
    rw [blocks, List.getElem?_concat_length]
  refine ⟨?_, ?_, ?_, ?_⟩
  · intro number
    have same := recorded.granted number
    rw [PageStore.granted] at same
    rw [PageStore.granted, history, List.filterMap_append, same]
    by_cases here : pages.blocks.length = number
    · subst here
      simp [last]
    · simp [here, others number (Ne.symm here)]
  · intro number
    have same := recorded.freed number
    rw [PageStore.freed] at same
    rw [PageStore.freed, history, List.filterMap_append, same]
    by_cases here : pages.blocks.length = number
    · subst here
      simp [last, Option.filter]
    · simp [others number (Ne.symm here)]
  · rw [allocations, blocks, recorded.allocations, List.length_append, List.length_singleton]
  · rw [disposals, blocks, recorded.disposals, List.countP_append]
    rfl

theorem dispose (recorded : pages.Recorded) (number : Nat) :
    ((PageStore.dispose number).run pages).2.Recorded := by
  rw [run_dispose]
  cases found : pages.blocks[number]? with
  | none => exact recorded
  | some block =>
      cases disposed : block.disposed with
      | true => simpa [disposed] using recorded
      | false => simpa [disposed] using recorded.without found disposed

theorem setOwners (recorded : pages.Recorded) (number owners : Nat) :
    Recorded { pages with
      blocks := pages.blocks.set number { pages.block number with owners } } := by
  refine recorded.congr rfl rfl rfl ?_
  change (pages.blocks.set number _).map PageBlock.told = _
  rw [List.map_set, PageStore.block]
  cases found : pages.blocks[number]? with
  | none =>
      have outside := List.getElem?_eq_none_iff.1 found
      exact List.set_eq_of_length_le (by simpa using outside)
  | some block =>
      obtain ⟨inside, rfl⟩ := List.getElem?_eq_some_iff.1 found
      have position : number < (pages.blocks.map PageBlock.told).length := by simpa using inside
      have same : (pages.blocks.map PageBlock.told)[number] = pages.blocks[number].told :=
        List.getElem_map _
      exact same ▸ List.set_getElem_self _

theorem retain (recorded : pages.Recorded) (number : Nat) :
    ((PageStore.retain number).run pages).2.Recorded :=
  recorded.setOwners number _

theorem release (recorded : pages.Recorded) (number : Nat) :
    ((PageStore.release number).run pages).2.Recorded := by
  have left := recorded.setOwners number ((pages.block number).owners - 1)
  rw [run_release]
  split
  next => exact left.dispose number
  next => exact left

theorem allocate (recorded : pages.Recorded) {bytes : Nat} {outcome : Except Fault Nat}
    (ran : (allocate bytes).run.run pages = (outcome, after)) : after.Recorded := by
  rcases allocate_cases ran with ⟨-, rfl⟩ | ⟨-, rfl⟩
  · exact recorded.append rfl rfl rfl rfl
  · have noted : Recorded { pages with
        history := pages.history ++ [.refused (pages.policy.pagesFor bytes)] } :=
      recorded.note nofun nofun
    exact noted.congr rfl rfl rfl rfl

theorem makeExecutable (recorded : pages.Recorded) (number : Nat) {outcome : Except Fault Unit}
    (ran : (makeExecutableOrRelease number).run.run pages = (outcome, after)) :
    after.Recorded := by
  have noted : Recorded { pages with
      history := pages.history ++ [.sealed number (pages.block number).pages] } :=
    recorded.note nofun nofun
  rcases makeExecutable_cases ran with ⟨-, rfl⟩ | ⟨-, rfl⟩
  · exact noted
  · exact noted.release number

end Recorded

structure Balanced (pages : PageStore) (holders demanded : List Nat) : Prop where
  recorded : pages.Recorded
  owned : Owned pages.blocks holders demanded

def blockOf {Result : Type} (block : Result → Nat) (outcome : Except Fault Result) : List Nat :=
  (outcome.toOption.map block).toList

namespace Balanced

variable {pages after : PageStore} {holders others demanded : List Nat} {number : Nat}

theorem perm (balanced : pages.Balanced holders demanded) (same : holders.Perm others) :
    pages.Balanced others demanded :=
  ⟨balanced.recorded, balanced.owned.perm same⟩

theorem congr (balanced : pages.Balanced holders demanded) (blocks : after.blocks = pages.blocks)
    (history : after.history = pages.history)
    (allocations : after.counters.blocksAllocated = pages.counters.blocksAllocated)
    (disposals : after.counters.blocksFreed = pages.counters.blocksFreed) :
    after.Balanced holders demanded :=
  ⟨balanced.recorded.congr history allocations disposals (by rw [blocks]),
    blocks ▸ balanced.owned⟩

theorem retain (balanced : pages.Balanced holders demanded) (known : number ∈ holders) :
    ((PageStore.retain number).run pages).2.Balanced (number :: holders) demanded :=
  ⟨balanced.recorded.retain number, blocks_retain number pages ▸ balanced.owned.retain known⟩

theorem release (balanced : pages.Balanced (number :: holders) demanded) :
    ((PageStore.release number).run pages).2.Balanced holders demanded :=
  ⟨balanced.recorded.release number, blocks_release number pages ▸ balanced.owned.release⟩

theorem dispose (balanced : pages.Balanced holders demanded)
    (inside : number < pages.blocks.length) :
    ((PageStore.dispose number).run pages).2.Balanced holders (number :: demanded) :=
  ⟨balanced.recorded.dispose number, blocks_dispose number pages ▸ balanced.owned.dispose inside⟩

theorem allocate (balanced : pages.Balanced holders demanded) {bytes : Nat}
    {outcome : Except Fault Nat} (ran : (allocate bytes).run.run pages = (outcome, after)) :
    after.Balanced (blockOf id outcome ++ holders) demanded := by
  refine ⟨balanced.recorded.allocate ran, ?_⟩
  rcases allocate_cases ran with ⟨rfl, rfl⟩ | ⟨rfl, rfl⟩
  · exact balanced.owned.allocate _ _
  · exact balanced.owned

theorem makeExecutable (balanced : pages.Balanced (number :: holders) demanded)
    {outcome : Except Fault Unit}
    (ran : (makeExecutableOrRelease number).run.run pages = (outcome, after)) :
    after.Balanced (blockOf (fun _ => number) outcome ++ holders) demanded := by
  refine ⟨balanced.recorded.makeExecutable number ran, ?_⟩
  rcases makeExecutable_cases ran with ⟨rfl, rfl⟩ | ⟨rfl, rfl⟩
  · exact balanced.owned
  · rw [blocks_release]
    exact balanced.owned.release

theorem attach (balanced : pages.Balanced holders demanded) {stubs : List PendingStub}
    {outcome : Except Fault (Nat × List InstalledStub)}
    (ran : (Stub.attach stubs).run.run pages = (outcome, after)) :
    after.Balanced (blockOf (·.1) outcome ++ holders) demanded := by
  have copied {block : Nat} {granted : PageStore}
      (asked : (PageStore.allocate (Stub.reservedSize stubs)).run.run pages =
        (.ok block, granted)) (entries : List InstalledStub) :
      (Stub.copied stubs entries granted).Balanced (block :: holders) demanded :=
    (balanced.allocate asked).congr rfl rfl rfl rfl
  cases Stub.attaches_of_run ran with
  | refused asked => exact balanced.allocate asked
  | unsealed asked failed => exact (copied asked _).makeExecutable failed
  | @done block _ _ _ asked closed noted =>
      have kept := (copied asked _).makeExecutable closed
      refine Act.Keeps.of_run (Balanced · (block :: holders) demanded) noted kept ?_
      refine .forIn _ _ fun entry _ => ?_
      refine .bind (Act.keeps_ofState fun _ held => held.congr rfl rfl rfl rfl) fun _ _ => ?_
      refine .bind (Act.keeps_ofState fun _ held => held.congr rfl rfl rfl rfl) fun _ _ => ?_
      exact .bind (Act.keeps_ofState fun _ held => held.congr rfl rfl rfl rfl) fun _ _ =>
        .pure trivial

theorem allocateMagazine (balanced : pages.Balanced holders demanded) {count : Nat}
    {outcome : Except Fault Magazine}
    (ran : (Magazine.allocate count).run.run pages = (outcome, after)) :
    after.Balanced (blockOf (·.block) outcome ++ holders) demanded := by
  cases Magazine.allocates_of_run ran with
  | refused asked => exact balanced.allocate asked
  | small asked => exact (balanced.allocate asked).release
  | unsealed asked failed => exact (balanced.allocate asked).makeExecutable failed
  | cut asked fits closed =>
      exact ((balanced.allocate asked).makeExecutable closed).congr rfl rfl rfl rfl

/-- A block is freed if that was demanded or if nothing holds it, and not otherwise. -/
theorem freed_eq (balanced : pages.Balanced holders demanded) (number : Nat) :
    pages.freed number =
      if number ∈ demanded ∨ number ∉ holders then pages.granted number else [] := by
  rw [balanced.recorded.freed, balanced.recorded.granted]
  cases found : pages.blocks[number]? with
  | none => simp
  | some block =>
      have disposed := balanced.owned.disposed number block found
      split
      next gone => simp [Option.filter, disposed.2 gone]
      next kept => simp [Option.filter, Bool.eq_false_iff.2 (mt disposed.1 kept)]

theorem length_granted_le (balanced : pages.Balanced holders demanded) (number : Nat) :
    (pages.granted number).length ≤ 1 := by
  rw [balanced.recorded.granted]
  cases pages.blocks[number]? <;> simp

theorem freed_of_new (balanced : pages.Balanced holders demanded)
    (later : after.Balanced holders others) (unseen : pages.granted number = []) :
    after.freed number = after.granted number := by
  have absent : pages.blocks.length ≤ number := by
    rw [balanced.recorded.granted] at unseen
    simpa using unseen
  have unheld : number ∉ holders :=
    fun held => Nat.not_lt.2 absent (balanced.owned.held number held)
  rw [later.freed_eq, if_pos (.inr unheld)]

theorem liveBlocks (balanced : pages.Balanced holders demanded) :
    pages.counters.liveBlocks = pages.blocks.countP (!·.disposed) := by
  rw [Counters.liveBlocks, balanced.recorded.allocations, balanced.recorded.disposals,
    List.length_eq_countP_add_countP PageBlock.disposed, Nat.add_sub_cancel_left]
  exact List.countP_congr fun block _ => by simp

end Balanced

end PageStore

end ForeignCall
