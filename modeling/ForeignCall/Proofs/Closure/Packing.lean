import ForeignCall.Proofs.Binding.Attaching
import ForeignCall.Proofs.Closure.Upkeep

/-! How full magazines are: all but the newest of a pool are used up, and the newest has given a
slot at least. -/

namespace ForeignCall

def PagePolicy.slotsFor (policy : PagePolicy) (pages : Nat) : Nat :=
  policy.bytesOf (policy.pagesFor (policy.bytesOf (max pages 1))) / ClosureSlot.stride

theorem PagePolicy.slotsFor_of_pageSize {policy other : PagePolicy}
    (same : policy.pageSize = other.pageSize) (pages : Nat) :
    policy.slotsFor pages = other.slotsFor pages := by
  simp only [slotsFor, bytesOf, pagesFor, same]

namespace PageStore

theorem policy_release (number : Nat) (pages : PageStore) :
    ((release number).run pages).2.policy = pages.policy := by
  rcases release_cases number pages with same | ⟨block, same⟩ <;> rw [same] <;> rfl

theorem policy_of_run_allocate {bytes : Nat} {pages after : PageStore}
    {outcome : Except Fault Nat} (ran : (allocate bytes).run.run pages = (outcome, after)) :
    after.policy = pages.policy := by
  rcases allocate_cases ran with ⟨-, rfl⟩ | ⟨-, rfl⟩ <;> rfl

theorem policy_of_run_makeExecutable {number : Nat} {pages after : PageStore}
    {outcome : Except Fault Unit}
    (ran : (makeExecutableOrRelease number).run.run pages = (outcome, after)) :
    after.policy = pages.policy := by
  rcases makeExecutable_cases ran with ⟨-, rfl⟩ | ⟨-, rfl⟩
  · rfl
  · exact policy_release number _

end PageStore

namespace Magazine

theorem cut_of_run_allocate {count : Nat} {pages after : PageStore}
    {outcome : Except Fault Magazine}
    (ran : (allocate count).run.run pages = (outcome, after)) :
    after.policy = pages.policy ∧ ∀ magazine, outcome = .ok magazine →
      magazine.capacity = pages.policy.slotsFor count ∧ 0 < magazine.capacity := by
  cases allocates_of_run ran with
  | refused asked => exact ⟨PageStore.policy_of_run_allocate asked, Act.no_result⟩
  | @small block granted asked =>
      have policy := PageStore.policy_of_run_allocate asked
      exact ⟨(PageStore.policy_release block granted).trans policy, Act.no_result⟩
  | unsealed asked failed =>
      have policy := PageStore.policy_of_run_allocate asked
      exact ⟨(PageStore.policy_of_run_makeExecutable failed).trans policy, Act.no_result⟩
  | cut asked fits closed =>
      have policy := PageStore.policy_of_run_allocate asked
      refine ⟨(PageStore.policy_of_run_makeExecutable closed).trans policy, ?_⟩
      rcases PageStore.of_run_allocate asked with ⟨refused, _⟩ | ⟨same, _, _, _, size⟩
      · cases refused
      cases same
      rintro magazine ⟨⟩
      exact ⟨congrArg (· / ClosureSlot.stride) size, Nat.pos_of_ne_zero fits⟩

end Magazine

namespace Pool

/-- One pool comes of another that gave up callables at most. -/
structure Wanes (before after : Pool) : Prop where
  magazines : after.magazines = before.magazines
  magazinePages : after.magazinePages = before.magazinePages
  allocated : after.allocated = before.allocated
  registrations : after.registrations ⊆ before.registrations

namespace Wanes

theorem refl (pool : Pool) : pool.Wanes pool := ⟨rfl, rfl, rfl, fun _ => id⟩

theorem trans {first second third : Pool} (left : first.Wanes second)
    (right : second.Wanes third) : first.Wanes third :=
  ⟨right.magazines.trans left.magazines, right.magazinePages.trans left.magazinePages,
    right.allocated.trans left.allocated,
    List.Subset.trans right.registrations left.registrations⟩

variable {pool : Pool}

theorem releaseAll (slots : List ClosureSlot) : pool.Wanes (pool.releaseAll slots) := by
  induction slots generalizing pool with
  | nil => exact .refl pool
  | cons slot rest ih =>
      have released : pool.Wanes (pool.release slot) := ⟨rfl, rfl, rfl, fun _ => id⟩
      exact released.trans ih

variable (alive : Nat → Bool)

variable {alive} in
theorem notify {identity : Nat} {slot : ClosureSlot} {after : Pool}
    (found : pool.notify alive identity = some (slot, after)) : pool.Wanes after := by
  rw [Pool.notify] at found
  split at found
  next dead _ =>
    cases found
    exact ⟨rfl, rfl, rfl, fun _ => List.mem_of_mem_erase⟩
  next => cases found

theorem notifyAll (identities : List Nat) : pool.Wanes (notifyAll alive identities pool).2 := by
  induction identities generalizing pool with
  | nil => exact .refl pool
  | cons identity rest ih =>
      rw [Pool.notifyAll]
      split
      next slot after found => exact (notify found).trans ih
      next => exact ih

theorem drain : pool.Wanes (pool.drain alive).2 := by
  have emptied : pool.Wanes { pool with pending := [] } := ⟨rfl, rfl, rfl, fun _ => id⟩
  exact emptied.trans (notifyAll alive pool.pending)

theorem sweep : pool.Wanes (pool.sweep alive).2 := by
  simp only [Pool.sweep, List.partition_eq_filter_filter]
  have kept : pool.Wanes { pool with
      registrations := pool.registrations.filter (alive ·.callable) } :=
    ⟨rfl, rfl, rfl, List.filter_subset_self _⟩
  exact kept.trans (releaseAll _)

end Wanes

/-- All magazines have so many slots, all but the newest are used up, and the newest is in use. -/
structure Packed (pool : Pool) (capacity : Nat) : Prop where
  capacity : ∀ magazine ∈ pool.magazines, magazine.capacity = capacity
  used : ∀ magazine ∈ pool.magazines, 0 < magazine.taken
  full : ∀ magazine ∈ pool.magazines.tail, magazine.taken = magazine.capacity

inductive Stocked (capacity : Nat) (pool : Pool) : Pool → Prop
  | enough {offer : ClosureSlot × Bool × Pool} (offered : pool.take? = some offer) :
      Stocked capacity pool pool
  | restocked {magazine : Magazine} (missing : pool.take? = none) (unopened : magazine.taken = 0)
      (cut : magazine.capacity = capacity) : Stocked capacity pool (pool.addMagazine magazine)

variable {pool : Pool} {capacity : Nat}

theorem Packed.of_magazines {after : Pool} (packed : pool.Packed capacity)
    (same : after.magazines = pool.magazines) : after.Packed capacity :=
  ⟨same ▸ packed.capacity, same ▸ packed.used, same ▸ packed.full⟩

theorem register_of_unregistered {registration : Registration}
    (unregistered : ∀ other ∈ pool.registrations, other.identity ≠ registration.identity) :
    pool.register registration = (none, { pool.bind registration.slot registration.callable with
      registrations := pool.registrations ++ [registration] }) := by
  rw [register, List.find?_eq_none.2 fun other known => by simpa using unregistered other known]

theorem free_of_take?_eq_none (missing : pool.take? = none) : pool.free = [] := by
  rw [take?] at missing
  split at missing
  next => cases missing
  next free => exact free

theorem taken_of_take?_eq_none {loose : List ClosureSlot} (accounts : pool.Accounts loose)
    (packed : pool.Packed capacity) (missing : pool.take? = none) :
    ∀ magazine ∈ pool.magazines, magazine.taken = magazine.capacity := by
  intro magazine known
  rw [take?, free_of_take?_eq_none missing] at missing
  have within := accounts.within magazine known
  cases magazines : pool.magazines with
  | nil =>
      rw [magazines] at known
      cases known
  | cons newest rest =>
      rw [magazines] at known missing
      rcases List.mem_cons.1 known with rfl | older
      · have last : magazine.next? = none := Option.map_eq_none_iff.1 missing
        rw [Magazine.next?] at last
        split at last
        next => cases last
        next above => omega
      · exact packed.full magazine (by rwa [magazines])

theorem registered_of_take?_eq_none (accounts : pool.Accounts []) (packed : pool.Packed capacity)
    (missing : pool.take? = none) :
    ∀ magazine ∈ pool.magazines, ∀ index < magazine.capacity,
      magazine.slot index ∈ pool.registered := by
  intro magazine known index below
  have taken := taken_of_take?_eq_none accounts packed missing magazine known
  have handedOut := mem_handedOut.2 ⟨magazine, known, index, taken ▸ below, rfl⟩
  simpa [free_of_take?_eq_none missing] using accounts.all.mem_iff.2 handedOut

theorem of_take?_eq_some {slot : ClosureSlot} {recycled : Bool} {after : Pool}
    (taken : pool.take? = some (slot, recycled, after)) :
    after.magazinePages = pool.magazinePages ∧
      (recycled = true ∧ after.magazines = pool.magazines ∧ after.allocated = pool.allocated ∨
        recycled = false ∧ pool.free = [] ∧ after.free = [] ∧
          after.allocated = pool.allocated + 1 ∧ ∃ newest rest, pool.magazines = newest :: rest ∧
            newest.taken < newest.capacity ∧
              after.magazines = { newest with taken := newest.taken + 1 } :: rest) := by
  rw [take?] at taken
  split at taken
  next =>
    cases taken
    exact ⟨rfl, .inl ⟨rfl, rfl, rfl⟩⟩
  next free =>
    split at taken
    next newest rest magazines =>
      obtain ⟨⟨fresh, later⟩, next, made⟩ := Option.map_eq_some_iff.1 taken
      cases made
      rw [Magazine.next?] at next
      split at next
      next below =>
        cases next
        exact ⟨rfl, .inr ⟨rfl, free, free, rfl, newest, rest, magazines, below, rfl⟩⟩
      next => cases next
    next => cases taken

namespace Stocked

variable {source : Pool}

theorem isSome_take? (stocked : Stocked capacity pool source) (some_slot : 0 < capacity) :
    source.take?.isSome := by
  cases stocked with
  | enough offered => exact Option.isSome_iff_exists.2 ⟨_, offered⟩
  | restocked missing unopened cut =>
      simp [Pool.take?, addMagazine, free_of_take?_eq_none missing, Magazine.next?, unopened, cut,
        some_slot]

theorem kept (stocked : Stocked capacity pool source) :
    source.magazinePages = pool.magazinePages ∧ source.allocated = pool.allocated ∧
      source.free = pool.free ∧ source.registrations = pool.registrations := by
  cases stocked <;> exact ⟨rfl, rfl, rfl, rfl⟩

theorem grows (stocked : Stocked capacity pool source) {slot : ClosureSlot} {recycled : Bool}
    {after : Pool} (taken : source.take? = some (slot, recycled, after)) :
    (after.allocated ≠ pool.allocated → pool.free = []) ∧
      after.magazines.length ≤ pool.magazines.length + 1 ∧
        (after.magazines.length ≠ pool.magazines.length → pool.take? = none) := by
  obtain ⟨_, allocated, free, _⟩ := stocked.kept
  obtain ⟨_, turn⟩ := of_take?_eq_some taken
  have length : after.magazines.length = source.magazines.length := by
    rcases turn with ⟨_, same, _⟩ | ⟨_, _, _, _, newest, rest, before, _, advanced⟩
    · rw [same]
    · rw [before, advanced, List.length_cons, List.length_cons]
  refine ⟨?_, ?_⟩
  · rcases turn with ⟨_, _, same⟩ | ⟨_, empty, _⟩
    · exact fun more => absurd (same.trans allocated) more
    · exact fun _ => free ▸ empty
  · rw [length]
    cases stocked with
    | enough => exact ⟨Nat.le_succ _, fun more => absurd rfl more⟩
    | restocked missing => exact ⟨Nat.le_refl _, fun _ => missing⟩

theorem packed (stocked : Stocked capacity pool source) {loose : List ClosureSlot}
    (accounts : pool.Accounts loose) (packed : pool.Packed capacity) {slot : ClosureSlot}
    {recycled : Bool} {after : Pool} (taken : source.take? = some (slot, recycled, after)) :
    after.Packed capacity := by
  obtain ⟨_, ⟨rfl, same, _⟩ | ⟨rfl, free, _, _, newest, rest, magazines, _, advanced⟩⟩ :=
    of_take?_eq_some taken
  · cases stocked with
    | enough => exact packed.of_magazines same
    | restocked missing =>
        have none_free : pool.free = [] := free_of_take?_eq_none missing
        rw [Pool.take?, show (pool.addMagazine _).free = [] from none_free] at taken
        obtain ⟨_, _, made⟩ := Option.map_eq_some_iff.1 taken
        cases made
  · have full : ∀ magazine ∈ rest, magazine.capacity = capacity ∧ 0 < magazine.taken ∧
        magazine.taken = magazine.capacity := by
      cases stocked with
      | enough =>
          intro magazine known
          have older : magazine ∈ pool.magazines := magazines ▸ List.mem_cons_of_mem newest known
          exact ⟨packed.capacity magazine older, packed.used magazine older,
            packed.full magazine (by rwa [magazines])⟩
      | restocked missing =>
          obtain ⟨_, rfl⟩ := List.cons.inj magazines
          intro magazine known
          exact ⟨packed.capacity magazine known, packed.used magazine known,
            taken_of_take?_eq_none accounts packed missing magazine known⟩
    have cut : newest.capacity = capacity := by
      cases stocked with
      | enough => exact packed.capacity newest (magazines ▸ List.mem_cons_self)
      | restocked missing unopened cut =>
          obtain ⟨rfl, _⟩ := List.cons.inj magazines
          exact cut
    refine ⟨?_, ?_, ?_⟩ <;> rw [advanced]
    · rintro magazine known
      rcases List.mem_cons.1 known with rfl | older
      · exact cut
      · exact (full magazine older).1
    · rintro magazine known
      rcases List.mem_cons.1 known with rfl | older
      · exact Nat.succ_pos _
      · exact (full magazine older).2.1
    · exact fun magazine known => (full magazine known).2.2

end Stocked

theorem Packed.length_magazines {loose : List ClosureSlot} (packed : pool.Packed capacity)
    (accounts : pool.Accounts loose) :
    pool.magazines.length = (pool.allocated + capacity - 1) / capacity := by
  have counted := accounts.counted
  have within := accounts.within
  obtain ⟨cut, used, full⟩ := packed
  rw [handedOut] at counted
  generalize pool.magazines = magazines at *
  cases magazines with
  | nil =>
      rw [counted]
      rcases Nat.eq_zero_or_pos capacity with rfl | some_slot
      · rfl
      · exact (Nat.div_eq_of_lt (by simpa using Nat.sub_lt some_slot Nat.one_pos)).symm
  | cons newest rest =>
      have others : rest.map (·.handedOut.length) = List.replicate rest.length capacity := by
        rw [← List.map_const']
        refine List.map_congr_left fun magazine known => ?_
        rw [Magazine.handedOut, List.length_map, List.length_range, full magazine known,
          cut magazine (List.mem_cons_of_mem newest known)]
      have start := used newest List.mem_cons_self
      have stop := within newest List.mem_cons_self
      rw [cut newest List.mem_cons_self] at stop
      rw [List.flatMap_cons, List.length_append, List.length_flatMap, others,
        List.sum_replicate_nat, Magazine.handedOut, List.length_map, List.length_range] at counted
      symm
      rw [counted, List.length_cons, Nat.div_eq_iff (by omega)]
      rw [Nat.add_mul]
      omega

end Pool

namespace World

theorem policy_noteReleased (slots : List ClosureSlot) (world : World) :
    ((noteReleased slots).run world).2.policy = world.policy := by
  induction slots generalizing world with
  | nil => rfl
  | cons slot rest ih => exact ih ((liftM (Store.record (.slotReturned slot.code)) :
      StateM World Unit).run world).2

def assigned (world : World) (slot : ClosureSlot) (recycled : Bool) : World :=
  let counted := world.toJournal.count (·.countSlot recycled)
  { world with toJournal := counted.record (.slotAssigned slot.code recycled) }

/-- What a slot is taken from, and the pages by then: the pool, with a new magazine if it has
nothing left. -/
inductive Supplies (world : World) (pool : Pool) : PageStore → Pool → Prop
  | enough {offer : ClosureSlot × Bool × Pool} (offered : pool.take? = some offer) :
      Supplies world pool world.toPageStore pool
  | restocked {magazine : Magazine} {pages : PageStore} (missing : pool.take? = none)
      (allocated : (Magazine.allocate pool.magazinePages).run.run world.toPageStore =
        (.ok magazine, pages)) : Supplies world pool pages (pool.addMagazine magazine)

theorem Supplies.stocked {world : World} {pool source : Pool} {pages : PageStore}
    (supplies : world.Supplies pool pages source) :
    pool.Stocked (world.policy.slotsFor pool.magazinePages) source ∧
      pages.policy = world.policy := by
  cases supplies with
  | enough offered => exact ⟨.enough offered, rfl⟩
  | restocked missing allocated =>
      obtain ⟨policy, made⟩ := Magazine.cut_of_run_allocate allocated
      obtain ⟨unopened, _⟩ := (Magazine.of_run_allocate allocated).2 _ rfl
      exact ⟨.restocked missing unopened (made _ rfl).1, policy⟩

/-- A slot is taken from what a pool has or, if it has nothing left, from one new magazine; it fails
only because that magazine cannot be had. -/
theorem cases_of_run_takeSlot {world after : World} {number : Nat} {pool : Pool}
    {outcome : Except Fault ClosureSlot}
    (ran : (takeSlot number pool).run.run world = (outcome, after)) :
    (∃ pages source slot recycled taken, world.Supplies pool pages source ∧
      source.take? = some (slot, recycled, taken) ∧ outcome = .ok slot ∧
        after =
          ({ world with toPageStore := pages }.withPool number taken).assigned slot recycled) ∨
    pool.take? = none ∧ ∃ fault pages,
      (Magazine.allocate pool.magazinePages).run.run world.toPageStore = (.error fault, pages) ∧
        outcome = .error fault ∧ after = { world with toPageStore := pages } := by
  rw [takeSlot] at ran
  cases offered : pool.take? with
  | some offer =>
      obtain ⟨slot, recycled, taken⟩ := offer
      rw [offered] at ran
      cases ran
      exact .inl ⟨_, pool, slot, recycled, taken, .enough offered, offered, rfl, rfl⟩
  | none =>
      rw [offered] at ran
      dsimp only at ran
      rw [Act.run_bind, run_onPages] at ran
      generalize allocated : (Magazine.allocate pool.magazinePages).run.run world.toPageStore =
        ended at ran
      obtain ⟨fault | magazine, pages⟩ := ended
      · cases ran
        exact .inr ⟨rfl, fault, pages, rfl, rfl, rfl⟩
      · dsimp only at ran
        have supplies : world.Supplies pool pages (pool.addMagazine magazine) :=
          .restocked offered allocated
        have some_slot := ((Magazine.cut_of_run_allocate allocated).2 magazine rfl)
        obtain ⟨⟨slot, recycled, taken⟩, found⟩ := Option.isSome_iff_exists.1
          (supplies.stocked.1.isSome_take? (some_slot.1 ▸ some_slot.2))
        rw [found] at ran
        cases ran
        exact .inl ⟨pages, _, slot, recycled, taken, supplies, found, rfl, rfl⟩

end World

end ForeignCall
