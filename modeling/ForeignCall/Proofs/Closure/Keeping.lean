import ForeignCall.Proofs.Closure.Accounts

/-! What the operations of a pool keep: magazines stay where they are, slots that were handed out
stay so, and a callable that is alive keeps its registration. -/

namespace ForeignCall

namespace Pool

/-- One pool comes of another: it gave up no callable that is alive, and registered only under a
certain condition. -/
structure Keeps (alive : Nat → Bool) (fresh : Registration → Prop) (before after : Pool) :
    Prop where
  spans : after.magazines.map (·.span) = before.magazines.map (·.span)
  handedOut : ∀ slot ∈ before.handedOut, slot ∈ after.handedOut
  shape : after.shape = before.shape
  live : ∀ registration ∈ before.registrations, alive registration.callable = true →
    registration ∈ after.registrations
  known : ∀ registration ∈ after.registrations,
    registration ∈ before.registrations ∨ fresh registration

variable {alive : Nat → Bool} {fresh : Registration → Prop} {pool : Pool}

namespace Keeps

theorem refl (pool : Pool) : Keeps alive fresh pool pool :=
  ⟨rfl, fun _ => id, rfl, fun _ known _ => known, fun _ => .inl⟩

theorem trans {first second third : Pool} (left : Keeps alive fresh first second)
    (right : Keeps alive fresh second third) : Keeps alive fresh first third := by
  refine ⟨right.spans.trans left.spans, fun slot known => right.handedOut slot
    (left.handedOut slot known), right.shape.trans left.shape, ?_, ?_⟩
  · intro registration known lives
    exact right.live registration (left.live registration known lives) lives
  · intro registration known
    rcases right.known registration known with earlier | made
    · exact left.known registration earlier
    · exact .inr made

theorem of_registrations {after : Pool} (magazines : after.magazines = pool.magazines)
    (shape : after.shape = pool.shape)
    (live : ∀ registration ∈ pool.registrations, alive registration.callable = true →
      registration ∈ after.registrations)
    (known : ∀ registration ∈ after.registrations,
      registration ∈ pool.registrations ∨ fresh registration) :
    Keeps alive fresh pool after := by
  refine ⟨by rw [magazines], ?_, shape, live, known⟩
  intro slot known
  rwa [Pool.handedOut, magazines]

end Keeps

theorem registrations_releaseAll (pool : Pool) (slots : List ClosureSlot) :
    (pool.releaseAll slots).registrations = pool.registrations ∧
      (pool.releaseAll slots).magazines = pool.magazines ∧
      (pool.releaseAll slots).shape = pool.shape := by
  induction slots generalizing pool with
  | nil => exact ⟨rfl, rfl, rfl⟩
  | cons slot rest ih => exact ih (pool.release slot)

theorem keeps_notify {identity : Nat} {slot : ClosureSlot} {after : Pool}
    (found : pool.notify alive identity = some (slot, after)) : Keeps alive fresh pool after := by
  rw [notify] at found
  split at found
  next dead known =>
    have isDead := List.find?_some known
    simp only [Pool.isDead, Bool.and_eq_true, Bool.not_eq_true'] at isDead
    cases found
    refine .of_registrations rfl rfl ?_ fun other kept => .inl (List.mem_of_mem_erase kept)
    intro other known lives
    refine (List.mem_erase_of_ne ?_).2 known
    rintro rfl
    simp [isDead.2] at lives
  next => cases found

theorem keeps_notifyAll (identities : List Nat) :
    Keeps alive fresh pool (notifyAll alive identities pool).2 := by
  induction identities generalizing pool with
  | nil => exact .refl pool
  | cons identity rest ih =>
      rw [notifyAll]
      split
      next slot after found => exact (keeps_notify found).trans ih
      next => exact ih

theorem keeps_drain : Keeps alive fresh pool (pool.drain alive).2 := by
  have emptied : Keeps alive fresh pool { pool with pending := [] } :=
    .of_registrations rfl rfl (fun _ known _ => known) fun _ => .inl
  exact emptied.trans (keeps_notifyAll pool.pending)

theorem mem_registrations_sweep {registration : Registration} :
    registration ∈ (pool.sweep alive).2.registrations ↔
      registration ∈ pool.registrations ∧ alive registration.callable = true := by
  simp only [sweep, List.partition_eq_filter_filter, registrations_releaseAll, List.mem_filter]

theorem keeps_sweep : Keeps alive fresh pool (pool.sweep alive).2 := by
  obtain ⟨_, magazines, shape⟩ := registrations_releaseAll
    { pool with registrations := (pool.registrations.partition (alive ·.callable)).1 }
    ((pool.registrations.partition (alive ·.callable)).2.map (·.slot))
  refine .of_registrations magazines shape ?_ ?_
  · exact fun registration known lives => mem_registrations_sweep.2 ⟨known, lives⟩
  · exact fun registration kept => .inl (mem_registrations_sweep.1 kept).1

theorem keeps_take? {slot : ClosureSlot} {recycled : Bool} {after : Pool}
    (taken : pool.take? = some (slot, recycled, after)) : Keeps alive fresh pool after := by
  rw [take?] at taken
  split at taken
  next =>
    cases taken
    exact .of_registrations rfl rfl (fun _ known _ => known) fun _ => .inl
  next =>
    split at taken
    next magazine rest magazines =>
      obtain ⟨⟨fresh, later⟩, next, made⟩ := Option.map_eq_some_iff.1 taken
      cases made
      rw [Magazine.next?] at next
      split at next
      next =>
        cases next
        refine ⟨by simp [magazines, Magazine.span], ?_, rfl, fun _ known _ => known, fun _ => .inl⟩
        intro slot known
        obtain ⟨owner, held, index, below, rfl⟩ := mem_handedOut.1 known
        rw [magazines] at held
        rcases List.mem_cons.1 held with rfl | older
        · exact mem_handedOut.2 ⟨_, List.mem_cons_self, index, Nat.lt_succ_of_lt below, rfl⟩
        · exact mem_handedOut.2 ⟨owner, List.mem_cons_of_mem _ older, index, below, rfl⟩
      next => cases next
    next => cases taken

theorem keeps_register {registration : Registration} (made : fresh registration)
    (replaces : ∀ other ∈ pool.registrations, alive other.callable = true →
      other.identity ≠ registration.identity) :
    Keeps alive fresh pool (pool.register registration).2 ∧
      registration ∈ (pool.register registration).2.registrations := by
  rw [register]
  split
  next stale found =>
    have known := List.mem_of_find?_eq_some found
    have same : stale.identity = registration.identity := by simpa using List.find?_some found
    refine ⟨.of_registrations rfl rfl ?_ ?_, List.mem_map.2 ⟨stale, known, if_pos same⟩⟩
    · intro other kept lives
      exact List.mem_map.2 ⟨other, kept, if_neg (replaces other kept lives)⟩
    · intro other kept
      obtain ⟨earlier, held, rfl⟩ := List.mem_map.1 kept
      split
      next => exact .inr made
      next => exact .inl held
  next =>
    refine ⟨.of_registrations rfl rfl ?_ ?_, List.mem_append_right _ (List.mem_singleton_self _)⟩
    · exact fun other kept _ => List.mem_append_left _ kept
    · intro other kept
      rcases List.mem_append.1 kept with earlier | last
      · exact .inl earlier
      · exact .inr (List.mem_singleton.1 last ▸ made)

end Pool

end ForeignCall
