import ForeignCall.Proofs.Closure.Runs

/-! The books of a pool in every run: slots are registered, free, or were never handed out, and a
sweep takes away the callables that are gone and no others. -/

namespace ForeignCall

namespace World

section Sweeping

variable {world : World} {number : Nat} {registration : Registration}

theorem registered_replace {pool : Pool} (found : world.pool? number = some pool) (after : Pool)
    (slots : List ClosureSlot) (other : Nat) :
    ((noteReleased slots).run (world.withPool number after)).2.Registered other registration ↔
      if other = number then registration ∈ after.registrations
      else world.Registered other registration := by
  rw [Registered, (elsewhere_noteReleased slots _).atPool]
  exact atPool_withPool world (present_of_pool? found) after other _

theorem registered_reclaimPool (sound : world.Sound) (number other : Nat)
    (registration : Registration) :
    ((reclaimPool number).run world).2.Registered other registration ↔
      world.Registered other registration ∧
        (other = number → world.isAlive registration.callable = true) := by
  have alive := isAlive_of_callables (tends_drainPool sound number).callables
  rw [run_reclaimPool]
  cases found : world.pool? number with
  | none =>
      have idle : ((drainPool number).run world).2 = world := by rw [run_drainPool, found]
      simp only [idle, found]
      constructor
      · intro known
        refine ⟨known, ?_⟩
        rintro rfl
        obtain ⟨pool, there, _⟩ := known
        cases found.symm.trans there
      · exact And.left
  | some pool =>
      have keeps : Pool.Keeps world.isAlive (fun _ => False) pool (pool.drain world.isAlive).2 :=
        Pool.keeps_drain
      have ran : ((drainPool number).run world).2 =
          ((noteReleased (pool.drain world.isAlive).1).run
            (world.withPool number (pool.drain world.isAlive).2)).2 := by
        rw [run_drainPool, found]
      have there : ((drainPool number).run world).2.pool? number =
          some (pool.drain world.isAlive).2 := by
        rw [ran, (elsewhere_noteReleased _ _).pool?,
          pool?_withPool world (present_of_pool? found), if_pos rfl]
      have drained : ∀ other, other ≠ number →
          (((drainPool number).run world).2.Registered other registration ↔
            world.Registered other registration) := by
        intro other different
        rw [ran, registered_replace found, if_neg different]
      simp only [there]
      rw [registered_replace there]
      by_cases same : other = number
      · subst same
        rw [if_pos rfl, Pool.mem_registrations_sweep, alive]
        constructor
        · rintro ⟨kept, lives⟩
          rcases keeps.known registration kept with known | impossible
          · exact ⟨⟨pool, found, known⟩, fun _ => lives⟩
          · exact impossible.elim
        · rintro ⟨⟨_, held, known⟩, lives⟩
          cases found.symm.trans held
          exact ⟨keeps.live registration known (lives rfl), lives rfl⟩
      · rw [if_neg same, drained other same]
        simp [same]

theorem registered_reclaim (sound : world.Sound) (number : Nat) (registration : Registration) :
    (reclaim.run world).2.Registered number registration ↔
      world.Registered number registration ∧ world.isAlive registration.callable = true := by
  have swept : ∀ (numbers : List Nat) (world : World), world.Sound →
      (((numbers.mapM reclaimPool).run world).2.Registered number registration ↔
        world.Registered number registration ∧
          (number ∈ numbers → world.isAlive registration.callable = true)) := by
    intro numbers
    induction numbers with
    | nil =>
        intro world _
        change world.Registered number registration ↔ _
        simp
    | cons first rest ih =>
        intro world sound
        have tended := tends_reclaimPool sound first
        rw [run_reclaimPools, ih _ tended.sound, registered_reclaimPool sound,
          isAlive_of_callables tended.callables, List.mem_cons, or_imp, and_assoc]
  change (((List.range world.pools.length).mapM reclaimPool).run world).2.Registered _ _ ↔ _
  rw [swept _ world sound]
  constructor
  · rintro ⟨known, lives⟩
    obtain ⟨pool, found, rest⟩ := known
    exact ⟨⟨pool, found, rest⟩, lives (List.mem_range.2 (present_of_pool? found))⟩
  · rintro ⟨known, lives⟩
    exact ⟨known, fun _ => lives⟩

end Sweeping

/-- In every run the slots of each pool are registered or free, each once, as many as were ever
handed out; a slot dispatches to what is registered there; and after a sweep the callables that live
are registered, and only they. -/
theorem books_balance {world : World} (reachable : world.Reachable) :
    (∀ number pool, world.pool? number = some pool →
      (∀ registration ∈ pool.registrations,
        pool.target? registration.slot = some registration.callable) ∧
      (∀ slot ∈ pool.free, pool.target? slot = none) ∧
      (pool.registered ++ pool.free).Nodup ∧
      (∀ slot, slot ∈ pool.registered ++ pool.free ↔ slot ∈ pool.handedOut) ∧
      pool.stats.live + pool.stats.free = pool.stats.allocated) ∧
    (∀ number registration, let swept := ((reclaimPool number).run world).2
      swept.Registered number registration ↔
        world.Registered number registration ∧ swept.isAlive registration.callable = true) ∧
    (∀ number registration, let swept := (reclaim.run world).2
      swept.Registered number registration ↔
        world.Registered number registration ∧ swept.isAlive registration.callable = true) := by
  have sound := reachable.sound
  refine ⟨?_, ?_, ?_⟩
  · intro number pool found
    have accounts := sound.accounts number pool found
    have all := accounts.all
    have distinct := accounts.distinct
    rw [List.append_nil] at all distinct
    refine ⟨?_, fun slot => accounts.target?_free, distinct, fun slot => all.mem_iff, ?_⟩
    · intro registration known
      exact (accounts.bound _ _ List.not_mem_nil).2 ⟨registration, known, rfl, rfl⟩
    · have counted := all.length_eq
      rw [List.length_append, Pool.registered, List.length_map] at counted
      exact counted.trans accounts.counted.symm
  · intro number registration swept
    have alive := isAlive_of_callables (tends_reclaimPool sound number).callables
    rw [registered_reclaimPool sound, alive]
    simp
  · intro number registration swept
    have alive := isAlive_of_callables (tends_reclaim sound).callables
    rw [registered_reclaim sound, alive]

def orphaned : World :=
  let first := ((closureFor signal 0).run.run peopled).2
  let second := ((closureFor signal 1).run.run first).2
  ((reclaimPool 0).run ((releaseCallable 0).run second).2).2

theorem books_balance_orphaned :
    orphaned.Reachable ∧ (orphaned.pool? 0).map (·.stats.live) = some 1 ∧
      (orphaned.pool? 0).map (·.stats.free) = some 1 ∧
      ∀ pool, orphaned.pool? 0 = some pool →
        pool.stats.live + pool.stats.free = pool.stats.allocated := by
  have passed := reachable_peopled.step (.closureFor signal 0 (by decide +kernel))
  have again := passed.step (.closureFor signal 1 (by decide +kernel))
  have gone := again.step (.releaseCallable 0 (by decide +kernel))
  have reachable : orphaned.Reachable := gone.step (.reclaimPool 0)
  refine ⟨reachable, by decide +kernel, by decide +kernel, fun pool found => ?_⟩
  obtain ⟨_, _, _, _, balance⟩ := (books_balance reachable).1 0 pool found
  exact balance

end World

end ForeignCall
