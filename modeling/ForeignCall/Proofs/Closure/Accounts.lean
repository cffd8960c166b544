import ForeignCall.Closure.Pool

/-! The books of a pool: every slot that was ever handed out is registered, free, or loose between
the two, and dispatches to the callable that is registered at it, if there is one. -/

namespace ForeignCall

theorem eq_of_nodup_map {Item Key : Type} {key : Item → Key} {items : List Item}
    (distinct : (items.map key).Nodup) {left right : Item} (leftKnown : left ∈ items)
    (rightKnown : right ∈ items) (same : key left = key right) : left = right := by
  induction items with
  | nil => simp at leftKnown
  | cons head rest ih =>
      rw [List.map_cons, List.nodup_cons] at distinct
      rcases List.mem_cons.1 leftKnown with rfl | leftLater
      · rcases List.mem_cons.1 rightKnown with rfl | rightLater
        · rfl
        · exact absurd (same ▸ List.mem_map_of_mem rightLater) distinct.1
      · rcases List.mem_cons.1 rightKnown with rfl | rightLater
        · exact absurd (same ▸ List.mem_map_of_mem leftLater) distinct.1
        · exact ih distinct.2 leftLater rightLater

namespace Magazine

def handedOut (magazine : Magazine) : List ClosureSlot :=
  (List.range magazine.taken).map magazine.slot

def span (magazine : Magazine) : Nat × Nat := (magazine.base, magazine.capacity)

theorem mem_handedOut {magazine : Magazine} {slot : ClosureSlot} :
    slot ∈ magazine.handedOut ↔ ∃ index < magazine.taken, magazine.slot index = slot := by
  simp [handedOut]

theorem nodup_handedOut (magazine : Magazine) : magazine.handedOut.Nodup := by
  refine List.Pairwise.map _ ?_ List.nodup_range
  intro left right different same
  exact different (congrArg ClosureSlot.index same)

end Magazine

namespace Pool

def registered (pool : Pool) : List ClosureSlot := pool.registrations.map (·.slot)

def handedOut (pool : Pool) : List ClosureSlot := pool.magazines.flatMap (·.handedOut)

/-- The books are right while some slots are loose: no longer or not yet registered, and not free.
-/
structure Accounts (pool : Pool) (loose : List ClosureSlot) : Prop where
  bases : (pool.magazines.map (·.base)).Nodup
  within : ∀ magazine ∈ pool.magazines, magazine.taken ≤ magazine.capacity
  all : (pool.registered ++ pool.free ++ loose).Perm pool.handedOut
  counted : pool.allocated = pool.handedOut.length
  bound : ∀ slot callable, slot ∉ loose → (pool.target? slot = some callable ↔
    ∃ registration ∈ pool.registrations,
      registration.slot = slot ∧ registration.callable = callable)
  identities : (pool.registrations.map (·.identity)).Nodup

theorem mem_handedOut {pool : Pool} {slot : ClosureSlot} :
    slot ∈ pool.handedOut ↔
      ∃ magazine ∈ pool.magazines, ∃ index < magazine.taken, magazine.slot index = slot := by
  simp [handedOut, Magazine.mem_handedOut]

theorem nodup_flatMap_handedOut {magazines : List Magazine}
    (bases : (magazines.map (·.base)).Nodup) :
    (magazines.flatMap (·.handedOut)).Nodup := by
  induction magazines with
  | nil => simp
  | cons magazine rest ih =>
      rw [List.map_cons, List.nodup_cons] at bases
      rw [List.flatMap_cons, List.nodup_append]
      refine ⟨magazine.nodup_handedOut, ih bases.2, ?_⟩
      rintro slot first _ later rfl
      obtain ⟨index, _, rfl⟩ := Magazine.mem_handedOut.1 first
      obtain ⟨other, known, shared⟩ := List.mem_flatMap.1 later
      obtain ⟨position, _, same⟩ := Magazine.mem_handedOut.1 shared
      obtain rfl : position = index := congrArg ClosureSlot.index same
      have base : other.base = magazine.base :=
        Nat.add_right_cancel (congrArg ClosureSlot.code same)
      exact bases.1 (base ▸ List.mem_map_of_mem known)

namespace Accounts

variable {pool : Pool} {loose : List ClosureSlot}

theorem distinct (accounts : pool.Accounts loose) :
    (pool.registered ++ pool.free ++ loose).Nodup :=
  accounts.all.nodup_iff.2 (nodup_flatMap_handedOut accounts.bases)

theorem balance {pool : Pool} (accounts : pool.Accounts []) :
    pool.registrations.length + pool.free.length = pool.allocated := by
  have counted := accounts.all.length_eq
  rw [List.append_nil, List.length_append, registered, List.length_map] at counted
  exact counted.trans accounts.counted.symm

theorem target?_free (accounts : pool.Accounts loose) {slot : ClosureSlot}
    (free : slot ∈ pool.free) : pool.target? slot = none := by
  have distinct := accounts.distinct
  rw [List.append_assoc, List.nodup_append, List.nodup_append] at distinct
  obtain ⟨_, ⟨_, _, apart⟩, disjoint⟩ := distinct
  have kept : slot ∉ loose := fun lost => apart slot free slot lost rfl
  cases target : pool.target? slot with
  | none => rfl
  | some callable =>
      obtain ⟨registration, known, rfl, _⟩ := (accounts.bound slot callable kept).1 target
      have registered : registration.slot ∈ pool.registered := List.mem_map_of_mem known
      exact absurd rfl (disjoint _ registered _ (List.mem_append_left loose free))

theorem eq_of_slot_eq (accounts : pool.Accounts loose) {left right : Registration}
    (leftKnown : left ∈ pool.registrations) (rightKnown : right ∈ pool.registrations)
    (same : left.slot = right.slot) : left = right := by
  have distinct := accounts.distinct
  rw [List.append_assoc, List.nodup_append] at distinct
  exact eq_of_nodup_map distinct.1 leftKnown rightKnown same

theorem of_loose {slot : ClosureSlot} (accounts : pool.Accounts (slot :: loose)) :
    slot ∉ pool.registered ∧ slot ∉ pool.free ∧ slot ∉ loose := by
  have distinct := (List.perm_middle.nodup_iff.1 accounts.distinct)
  rw [List.nodup_cons] at distinct
  simpa [not_or, and_assoc] using distinct.1

theorem forget (accounts : pool.Accounts loose) {kept gone : List Registration}
    (split : (kept ++ gone).Perm pool.registrations) :
    Accounts { pool with registrations := kept } (gone.map (·.slot) ++ loose) := by
  have slots := split.map (·.slot)
  rw [List.map_append] at slots
  refine ⟨accounts.bases, accounts.within, ?_, accounts.counted, ?_, ?_⟩
  · refine List.Perm.trans ?_ accounts.all
    rw [List.perm_iff_count]
    intro slot
    have count := slots.count slot
    simp only [registered, List.count_append] at count ⊢
    omega
  · intro slot callable strict
    rw [List.mem_append, not_or] at strict
    refine (accounts.bound slot callable strict.2).trans ?_
    constructor
    · rintro ⟨registration, known, rfl, rfl⟩
      rcases List.mem_append.1 (split.mem_iff.2 known) with stays | leaves
      · exact ⟨registration, stays, rfl, rfl⟩
      · exact absurd (List.mem_map_of_mem leaves) strict.1
    · rintro ⟨registration, stays, rfl, rfl⟩
      exact ⟨registration, split.mem_iff.1 (List.mem_append_left gone stays), rfl, rfl⟩
  · have identities := (split.map (·.identity)).nodup_iff.2 accounts.identities
    rw [List.map_append, List.nodup_append] at identities
    exact identities.1

theorem release {slot : ClosureSlot} (accounts : pool.Accounts (slot :: loose)) :
    (pool.release slot).Accounts loose := by
  obtain ⟨unregistered, _, _⟩ := accounts.of_loose
  refine ⟨accounts.bases, accounts.within, ?_, accounts.counted, ?_, accounts.identities⟩
  · refine List.Perm.trans ?_ accounts.all
    change (pool.registered ++ (pool.free ++ [slot]) ++ loose).Perm _
    rw [List.perm_iff_count]
    intro other
    simp only [List.count_append, List.count_cons, List.count_nil]
    omega
  · intro query callable strict
    change (pool.unbind slot).target? query = some callable ↔ _
    rw [target?_unbind]
    by_cases same : query = slot
    · subst same
      simp only [↓reduceIte, reduceCtorEq, false_iff]
      rintro ⟨registration, known, rfl, _⟩
      exact unregistered (List.mem_map_of_mem known)
    · rw [if_neg same]
      exact accounts.bound query callable (by simp [same, strict])

theorem releaseAll {slots : List ClosureSlot} (accounts : pool.Accounts (slots ++ loose)) :
    (pool.releaseAll slots).Accounts loose := by
  induction slots generalizing pool with
  | nil => exact accounts
  | cons slot rest ih => exact ih accounts.release

theorem notify {alive : Nat → Bool} {identity : Nat} {slot : ClosureSlot} {after : Pool}
    (accounts : pool.Accounts loose) (found : pool.notify alive identity = some (slot, after)) :
    after.Accounts loose := by
  rw [Pool.notify] at found
  split at found
  next dead known =>
    obtain ⟨rfl, rfl⟩ := Prod.mk.inj (Option.some.inj found)
    have split : (pool.registrations.erase dead ++ [dead]).Perm pool.registrations :=
      (List.perm_append_singleton _ _).trans
        (List.perm_cons_erase (List.mem_of_find?_eq_some known)).symm
    exact (accounts.forget split).release
  next => cases found

theorem notifyAll (alive : Nat → Bool) (identities : List Nat) (accounts : pool.Accounts loose) :
    (Pool.notifyAll alive identities pool).2.Accounts loose := by
  induction identities generalizing pool with
  | nil => exact accounts
  | cons identity rest ih =>
      rw [Pool.notifyAll]
      split
      next slot after found => exact ih (accounts.notify found)
      next => exact ih accounts

theorem drain (alive : Nat → Bool) (accounts : pool.Accounts loose) :
    (pool.drain alive).2.Accounts loose :=
  notifyAll alive pool.pending ⟨accounts.bases, accounts.within, accounts.all, accounts.counted,
    accounts.bound, accounts.identities⟩

theorem sweep (alive : Nat → Bool) (accounts : pool.Accounts loose) :
    (pool.sweep alive).2.Accounts loose := by
  simp only [Pool.sweep, List.partition_eq_filter_filter]
  exact (accounts.forget (List.filter_append_perm _ _)).releaseAll

theorem reorder {others : List ClosureSlot} (accounts : pool.Accounts loose)
    (same : loose.Perm others) : pool.Accounts others := by
  refine ⟨accounts.bases, accounts.within, ?_, accounts.counted, ?_, accounts.identities⟩
  · exact ((same.symm.append_left _)).trans accounts.all
  · intro slot callable strict
    exact accounts.bound slot callable fun known => strict (same.mem_iff.1 known)

theorem take? {slot : ClosureSlot} {recycled : Bool} {after : Pool}
    (accounts : pool.Accounts loose) (taken : pool.take? = some (slot, recycled, after)) :
    after.Accounts (slot :: loose) := by
  rw [Pool.take?] at taken
  have bound : ∀ (query : ClosureSlot) (callable : Nat), query ∉ slot :: loose →
      (pool.target? query = some callable ↔ ∃ registration ∈ pool.registrations,
        registration.slot = query ∧ registration.callable = callable) := by
    intro query callable strict
    exact accounts.bound query callable fun known => strict (List.mem_cons_of_mem slot known)
  split at taken
  next oldest rest free =>
    cases taken
    refine ⟨accounts.bases, accounts.within, ?_, accounts.counted, bound, accounts.identities⟩
    have all := accounts.all
    rw [free] at all
    refine List.Perm.trans ?_ all
    rw [List.perm_iff_count]
    intro other
    simp only [registered, List.count_append, List.count_cons]
    omega
  next free =>
    split at taken
    next magazine rest magazines =>
      obtain ⟨⟨fresh, later⟩, next, made⟩ := Option.map_eq_some_iff.1 taken
      cases made
      rw [Magazine.next?] at next
      split at next
      next below =>
        obtain ⟨rfl, rfl⟩ := Prod.mk.inj (Option.some.inj next)
        have bases := accounts.bases
        have within := accounts.within
        have all := accounts.all
        have counted := accounts.counted
        have more : ({ magazine with taken := magazine.taken + 1 } : Magazine).handedOut =
            magazine.handedOut ++ [magazine.slot magazine.taken] := by
          simp only [Magazine.handedOut, List.range_succ, List.map_append, List.map_cons,
            List.map_nil]
          rfl
        rw [magazines] at bases within
        simp only [handedOut, magazines, free, List.flatMap_cons] at all counted
        refine ⟨bases, ?_, ?_, ?_, bound, accounts.identities⟩
        · intro other known
          rcases List.mem_cons.1 known with rfl | later
          · exact below
          · exact within other (List.mem_cons_of_mem magazine later)
        · simp only [handedOut, List.flatMap_cons, more, free]
          rw [List.perm_iff_count] at all ⊢
          intro other
          have before := all other
          simp only [registered, List.count_append, List.count_cons, List.count_nil] at before ⊢
          omega
        · simp only [handedOut, List.flatMap_cons, more, List.length_append,
            List.length_singleton] at counted ⊢
          omega
      next => cases next
    next => cases taken

theorem enter {registration : Registration} {registrations : List Registration}
    (accounts : pool.Accounts (registration.slot :: loose))
    (fresh : ∀ other ∈ pool.registrations, other.identity ≠ registration.identity)
    (entered : registrations.Perm (registration :: pool.registrations)) :
    Accounts { pool.bind registration.slot registration.callable with registrations } loose := by
  obtain ⟨unregistered, _, _⟩ := accounts.of_loose
  refine ⟨accounts.bases, accounts.within, ?_, accounts.counted, ?_, ?_⟩
  · refine List.Perm.trans ?_ accounts.all
    have slots := entered.map (·.slot)
    change (registrations.map (·.slot) ++ pool.free ++ loose).Perm _
    rw [List.perm_iff_count]
    intro other
    have count := slots.count other
    simp only [registered, List.map_cons, List.count_append, List.count_cons] at count ⊢
    omega
  · intro query callable strict
    change (pool.bind registration.slot registration.callable).target? query = _ ↔ _
    rw [target?_bind]
    by_cases same : query = registration.slot
    · subst same
      rw [if_pos rfl]
      constructor
      · intro target
        exact ⟨registration, entered.mem_iff.2 (by simp), rfl, Option.some.inj target⟩
      · rintro ⟨other, known, shared, rfl⟩
        rcases List.mem_cons.1 (entered.mem_iff.1 known) with rfl | earlier
        · rfl
        · exact absurd (shared ▸ List.mem_map_of_mem earlier) unregistered
    · rw [if_neg same]
      refine (accounts.bound query callable (by simp [same, strict])).trans ?_
      constructor
      · rintro ⟨other, known, shared⟩
        exact ⟨other, entered.mem_iff.2 (List.mem_cons_of_mem registration known), shared⟩
      · rintro ⟨other, known, rfl, shared⟩
        rcases List.mem_cons.1 (entered.mem_iff.1 known) with rfl | earlier
        · exact absurd rfl same
        · exact ⟨other, earlier, rfl, shared⟩
  · rw [(entered.map (·.identity)).nodup_iff, List.map_cons, List.nodup_cons]
    refine ⟨?_, accounts.identities⟩
    intro known
    obtain ⟨other, earlier, same⟩ := List.mem_map.1 known
    exact fresh other earlier same

theorem perm_replace (accounts : pool.Accounts loose) {stale : Registration}
    (known : stale ∈ pool.registrations) {registration : Registration}
    (same : stale.identity = registration.identity) :
    (∀ other ∈ pool.registrations.erase stale, other.identity ≠ registration.identity) ∧
      (pool.registrations.map fun other =>
        if other.identity = registration.identity then registration else other).Perm
          (registration :: pool.registrations.erase stale) := by
  have split := List.perm_cons_erase known
  have identities := (split.map (·.identity)).nodup_iff.1 accounts.identities
  rw [List.map_cons, List.nodup_cons] at identities
  have fresh : ∀ other ∈ pool.registrations.erase stale,
      other.identity ≠ registration.identity := by
    intro other stays shared
    exact identities.1 (same ▸ shared ▸ List.mem_map_of_mem stays)
  refine ⟨fresh, (split.map _).trans ?_⟩
  rw [List.map_cons, if_pos same]
  refine List.Perm.cons registration (List.Perm.of_eq ?_)
  exact (List.map_congr_left fun other stays => if_neg (fresh other stays)).trans (List.map_id _)

theorem register {registration : Registration}
    (accounts : pool.Accounts (registration.slot :: loose)) :
    (pool.register registration).2.Accounts loose := by
  rw [Pool.register]
  split
  next stale found =>
    have known := List.mem_of_find?_eq_some found
    have same : stale.identity = registration.identity := by simpa using List.find?_some found
    obtain ⟨fresh, entered⟩ := accounts.perm_replace known same
    have split : (pool.registrations.erase stale ++ [stale]).Perm pool.registrations :=
      (List.perm_append_singleton _ _).trans (List.perm_cons_erase known).symm
    have forgotten := (accounts.forget split).reorder (List.Perm.swap _ _ _)
    exact (forgotten.enter fresh entered).release
  next missing =>
    refine accounts.enter ?_ (List.perm_append_singleton _ _)
    intro other known same
    exact List.find?_eq_none.1 missing other known (by simpa using same)

theorem find?_eq_some (accounts : pool.Accounts loose) {alive : Nat → Bool}
    {identity callable : Nat} {slot : ClosureSlot} :
    pool.find? alive identity callable = some slot ↔
      ⟨identity, callable, slot⟩ ∈ pool.registrations ∧ alive callable = true := by
  rw [Pool.find?, Option.map_eq_some_iff]
  constructor
  · rintro ⟨registration, found, rfl⟩
    have met := List.find?_some found
    simp only [Bool.and_eq_true, beq_iff_eq] at met
    obtain ⟨⟨rfl, rfl⟩, lives⟩ := met
    exact ⟨List.mem_of_find?_eq_some found, lives⟩
  · rintro ⟨known, lives⟩
    cases found : pool.registrations.find? fun registration =>
        registration.identity == identity && registration.callable == callable &&
          alive registration.callable with
    | none => exact absurd (List.find?_eq_none.1 found _ known) (by simp [lives])
    | some registration =>
        have met := List.find?_some found
        simp only [Bool.and_eq_true, beq_iff_eq] at met
        have same := eq_of_nodup_map accounts.identities (List.mem_of_find?_eq_some found) known
          met.1.1
        exact ⟨registration, rfl, same ▸ rfl⟩

end Accounts

theorem registrations_take? {pool after : Pool} {slot : ClosureSlot} {recycled : Bool}
    (taken : pool.take? = some (slot, recycled, after)) :
    after.registrations = pool.registrations := by
  rw [take?] at taken
  split at taken
  next => cases taken; rfl
  next =>
    split at taken
    next =>
      obtain ⟨_, _, made⟩ := Option.map_eq_some_iff.1 taken
      cases made
      rfl
    next => cases taken

end Pool

end ForeignCall
