import ForeignCall.Proofs.Closure.Books
import ForeignCall.Proofs.Closure.Refusals
import ForeignCall.Proofs.Closure.Totals

/-! What a sweep counts. It frees the slots of all dead callables, those of reported ones before it
begins to count. -/

namespace ForeignCall

namespace Pool

variable {alive : Nat → Bool} {pool : Pool}

/-- Some registrations leave a pool, and their slots are free. -/
structure GivesUp (leaves : Registration → Bool) (before : Pool) (slots : List ClosureSlot)
    (after : Pool) : Prop where
  registrations : after.registrations = before.registrations.filter (!leaves ·)
  free : after.free = before.free ++ slots
  slots : slots.Perm ((before.registrations.filter leaves).map (·.slot))

namespace GivesUp

theorem none {leaves : Registration → Bool}
    (stay : ∀ registration ∈ pool.registrations, leaves registration = false) :
    GivesUp leaves pool [] pool := by
  have gone : pool.registrations.filter leaves = [] := by
    simpa [List.filter_eq_nil_iff] using stay
  refine ⟨?_, (List.append_nil _).symm, by rw [gone]; rfl⟩
  rw [List.filter_eq_self.2]
  intro registration known
  rw [stay registration known]
  rfl

theorem congr {leaves others : Registration → Bool} {after : Pool} {slots : List ClosureSlot}
    (gives : GivesUp leaves pool slots after)
    (same : ∀ registration ∈ pool.registrations, others registration = leaves registration) :
    GivesUp others pool slots after := by
  obtain ⟨registrations, free, perm⟩ := gives
  refine ⟨registrations.trans (List.filter_congr fun registration known => ?_), free, ?_⟩
  · rw [same registration known]
  · rwa [List.filter_congr same]

theorem trans {first second : Registration → Bool} {between after : Pool}
    {earlier later : List ClosureSlot} (left : GivesUp first pool earlier between)
    (right : GivesUp second between later after) :
    GivesUp (fun registration => first registration || second registration) pool
      (earlier ++ later) after := by
  obtain ⟨kept, freed, slots⟩ := left
  obtain ⟨keptAfter, freedAfter, others⟩ := right
  refine ⟨?_, by rw [freedAfter, freed, List.append_assoc], ?_⟩
  · rw [keptAfter, kept, List.filter_filter]
    refine List.filter_congr fun registration _ => ?_
    rw [Bool.not_or, Bool.and_comm]
  · rw [kept, List.filter_filter] at others
    refine (slots.append others).trans ?_
    rw [← List.map_append]
    refine List.Perm.map _ ?_
    -- Those that leave in all, parted into the ones that leave first and the others.
    have parts := List.filter_append_perm first
      (pool.registrations.filter fun registration => first registration || second registration)
    rw [List.filter_filter, List.filter_filter] at parts
    refine List.Perm.trans (List.Perm.of_eq ?_) parts
    congr 1 <;> refine List.filter_congr fun registration _ => ?_ <;>
      cases first registration <;> simp

end GivesUp

theorem nodup_registrations (distinct : (pool.registrations.map (·.identity)).Nodup) :
    pool.registrations.Nodup :=
  List.Pairwise.of_map _ (fun _ _ apart same => apart (congrArg _ same)) distinct

theorem givesUp_notify (distinct : (pool.registrations.map (·.identity)).Nodup) {identity : Nat}
    {slot : ClosureSlot} {after : Pool}
    (reported : pool.notify alive identity = some (slot, after)) :
    GivesUp (isDead alive identity) pool [slot] after := by
  rw [notify] at reported
  split at reported
  next dead found =>
    cases reported
    have known := List.mem_of_find?_eq_some found
    have gone := List.find?_some found
    have once := nodup_registrations distinct
    -- No other registration has the identity, so erasing this one is filtering by it.
    have only : ∀ registration ∈ pool.registrations,
        isDead alive identity registration = (registration == dead) := by
      intro registration there
      by_cases same : registration = dead
      · subst same
        simp [gone]
      · rw [beq_false_of_ne same, Bool.eq_false_iff]
        intro also
        simp only [isDead, Bool.and_eq_true, beq_iff_eq] at gone also
        exact same (eq_of_nodup_map distinct there known (also.1.trans gone.1.symm))
    refine ⟨?_, rfl, ?_⟩
    · change pool.registrations.erase dead = _
      rw [once.erase_eq_filter]
      refine List.filter_congr fun registration there => ?_
      rw [only registration there]
      rfl
    · rw [List.filter_congr only, List.filter_beq, once.count, if_pos known]
      rfl
  next => cases reported

def isReported (alive : Nat → Bool) (identities : List Nat) (registration : Registration) : Bool :=
  identities.contains registration.identity && !alive registration.callable

theorem givesUp_notifyAll (distinct : (pool.registrations.map (·.identity)).Nodup)
    (identities : List Nat) :
    GivesUp (isReported alive identities) pool (notifyAll alive identities pool).1
      (notifyAll alive identities pool).2 := by
  induction identities generalizing pool with
  | nil => exact .none fun registration _ => rfl
  | cons identity rest ih =>
      have either : ∀ registration, isReported alive (identity :: rest) registration =
          (isDead alive identity registration || isReported alive rest registration) := by
        intro registration
        simp only [isReported, isDead, List.contains_cons, Bool.and_or_distrib_right]
      rw [notifyAll]
      split
      next slot after reported =>
        have left := givesUp_notify distinct reported
        have fewer : (after.registrations.map (·.identity)).Nodup := by
          rw [left.registrations]
          exact distinct.sublist (List.filter_sublist.map _)
        exact (left.trans (ih fewer)).congr fun registration _ => either registration
      next missing =>
        refine (ih distinct).congr fun registration there => ?_
        rw [notify] at missing
        split at missing
        next => cases missing
        next unfound =>
          have stays := List.find?_eq_none.1 unfound registration there
          rw [either, Bool.eq_false_iff.2 stays, Bool.false_or]

theorem givesUp_drain (distinct : (pool.registrations.map (·.identity)).Nodup) :
    GivesUp (isReported alive pool.pending) pool (pool.drain alive).1 (pool.drain alive).2 := by
  have idle : (({ pool with pending := [] } : Pool).registrations.map (·.identity)).Nodup :=
    distinct
  obtain ⟨registrations, free, slots⟩ : GivesUp (isReported alive pool.pending) _ _ _ :=
    givesUp_notifyAll idle pool.pending
  exact ⟨registrations, free, slots⟩

theorem free_releaseAll (slots : List ClosureSlot) (pool : Pool) :
    (pool.releaseAll slots).free = pool.free ++ slots := by
  induction slots generalizing pool with
  | nil => exact (List.append_nil _).symm
  | cons slot rest ih => exact (ih (pool.release slot)).trans (List.append_assoc ..)

theorem givesUp_sweep :
    GivesUp (!alive ·.callable) pool (pool.sweep alive).1 (pool.sweep alive).2 := by
  simp only [sweep, List.partition_eq_filter_filter]
  refine ⟨?_, free_releaseAll _ _, .rfl⟩
  rw [(registrations_releaseAll _ _).1]
  simp only [Bool.not_not]

def dead (alive : Nat → Bool) (pool : Pool) : List Registration :=
  pool.registrations.filter (!alive ·.callable)

/-- Those of them that were reported already. -/
def overdue (alive : Nat → Bool) (pool : Pool) : List Registration :=
  (pool.dead alive).filter (pool.pending.contains ·.identity)

theorem overdue_eq (alive : Nat → Bool) (pool : Pool) :
    pool.overdue alive = pool.registrations.filter (isReported alive pool.pending) :=
  List.filter_filter

/-- Working off the reports and sweeping gives up all dead callables. -/
theorem givesUp_reclaim (alive : Nat → Bool)
    (distinct : (pool.registrations.map (·.identity)).Nodup) :
    let drained := pool.drain alive
    let swept := drained.2.sweep alive
    GivesUp (!alive ·.callable) pool (drained.1 ++ swept.1) swept.2 ∧
      drained.1.length = (pool.overdue alive).length := by
  intro drained swept
  have reports : GivesUp _ pool drained.1 drained.2 := givesUp_drain distinct
  refine ⟨(reports.trans givesUp_sweep).congr fun registration _ => ?_, ?_⟩
  · simp only [isReported]
    cases alive registration.callable <;> simp
  · rw [reports.slots.length_eq, List.length_map, overdue_eq]

end Pool

namespace World

variable {world : World} {number : Nat} {pool : Pool}

def swept (world : World) (pool : Pool) : List ClosureSlot × Pool :=
  (pool.drain world.isAlive).2.sweep world.isAlive

theorem count_reclaimPool (world : World) (number : Nat) :
    ((reclaimPool number).run world).1 =
      let drained := ((drainPool number).run world).2
      ((drained.pool? number).map fun pool => (pool.sweep drained.isAlive).1.length).getD 0 := by
  rw [reclaimPool, StateT.run_bind]
  obtain ⟨_, drained⟩ : Unit × World := (drainPool number).run world
  change (StateT.run (m := Id) _ drained).1 = _
  simp only [StateT.run_bind, StateT.run_get, pure_bind]
  cases drained.pool? number <;> rfl

theorem reclaimPool_of_pool? (found : world.pool? number = some pool) :
    ((reclaimPool number).run world).1 = (world.swept pool).1.length ∧
      ((reclaimPool number).run world).2.pools =
        (world.withPool number (world.swept pool).2).pools := by
  obtain ⟨earlier, drained⟩ := run_drainPool_of_pool? found
  have there : World.pool? { world.withPool number (pool.drain world.isAlive).2 with
      events := earlier } number = some (pool.drain world.isAlive).2 :=
    (pool?_withPool world (present_of_pool? found) _ number).trans (if_pos rfl)
  refine ⟨?_, ?_⟩
  · rw [count_reclaimPool, drained]
    dsimp only
    rw [there]
    rfl
  · rw [run_reclaimPool, drained]
    dsimp only
    rw [there]
    have replaced := congrArg World.pools
      (withPool_withPool world number (pool.drain world.isAlive).2 (world.swept pool).2)
    exact (elsewhere_noteReleased _ _).pools.trans replaced

theorem reclaimPool_of_none (missing : world.pool? number = none) :
    (reclaimPool number).run world = (0, world) := by
  have idle : (drainPool number).run world = ((), world) := by rw [run_drainPool, missing]
  refine Prod.ext ?_ ?_
  · rw [count_reclaimPool, idle]
    dsimp only
    rw [missing]
    rfl
  · rw [run_reclaimPool, idle]
    dsimp only
    rw [missing]

/-- A sweep frees the slots of the dead callables, and does not count those of reported ones. -/
theorem reclaimPool_frees (sound : world.Sound) (found : world.pool? number = some pool) :
    ∃ later freed,
      ((reclaimPool number).run world).2.pools = (world.withPool number later).pools ∧
      later.dead world.isAlive = [] ∧ later.free = pool.free ++ freed ∧
      freed.Perm ((pool.dead world.isAlive).map (·.slot)) ∧
        ((reclaimPool number).run world).1 + (pool.overdue world.isAlive).length =
          freed.length := by
  obtain ⟨gives, reported⟩ := Pool.givesUp_reclaim world.isAlive
    (sound.accounts number pool found).identities
  obtain ⟨counted, pools⟩ := reclaimPool_of_pool? found
  refine ⟨(world.swept pool).2, (pool.drain world.isAlive).1 ++ (world.swept pool).1, pools, ?_,
    gives.free, gives.slots, ?_⟩
  · rw [Pool.dead, swept, gives.registrations, List.filter_filter, List.filter_eq_nil_iff]
    simp
  · rw [List.length_append, reported, counted, Nat.add_comm]

def overdue (world : World) : Nat :=
  (world.pools.map fun entry =>
    (entry.2.map fun pool => (pool.overdue world.isAlive).length).getD 0).sum

theorem overdue_of_swept {after : World} (alive : after.isAlive = world.isAlive)
    (found : world.pool? number = some pool) {later : Pool}
    (pools : after.pools = (world.withPool number later).pools)
    (swept : later.dead world.isAlive = []) :
    after.overdue + (pool.overdue world.isAlive).length = world.overdue := by
  obtain ⟨⟨type, there⟩, known, rfl⟩ := Option.bind_eq_some_iff.1 found
  rw [overdue, alive, pools]
  refine (sum_map_modify _ known _).trans ?_
  simp [Pool.overdue, swept, overdue]

theorem reclaimPool_balance (sound : world.Sound) (number : Nat) :
    let reclaimed := (reclaimPool number).run world
    reclaimed.2.poolStats.free + reclaimed.2.overdue =
      world.poolStats.free + reclaimed.1 + world.overdue := by
  intro reclaimed
  cases found : world.pool? number with
  | none =>
      have idle : reclaimed = (0, world) := reclaimPool_of_none found
      rw [idle]
      rfl
  | some pool =>
      obtain ⟨later, freed, pools, swept, free, _, counted⟩ := reclaimPool_frees sound found
      have alive := isAlive_of_callables (tends_reclaimPool sound number).callables
      change reclaimed.1 + _ = _ at counted
      change reclaimed.2.pools = _ at pools
      have left : reclaimed.2.overdue + _ = world.overdue :=
        overdue_of_swept alive found pools swept
      have total := part_poolStats_withPool PoolStats.additive_free found later
      rw [← poolStats_congr pools] at total
      have more : later.stats.free = pool.stats.free + freed.length := by
        simp [Pool.stats, free]
      omega

theorem reclaimPools_balance (sound : world.Sound) (numbers : List Nat) :
    let reclaimed := (numbers.mapM reclaimPool).run world
    reclaimed.2.poolStats.free + reclaimed.2.overdue =
      world.poolStats.free + reclaimed.1.sum + world.overdue := by
  induction numbers generalizing world with
  | nil => rfl
  | cons number rest ih =>
      have first := reclaimPool_balance sound number
      have others := ih (tends_reclaimPool sound number).sound
      have ran : ((number :: rest).mapM reclaimPool).run world =
          let reclaimed := (reclaimPool number).run world
          let others := (rest.mapM reclaimPool).run reclaimed.2
          (reclaimed.1 :: others.1, others.2) := by
        rw [List.mapM_cons]
        rfl
      rw [ran]
      dsimp only at first others ⊢
      rw [List.sum_cons]
      omega

theorem overdue_reclaim (sound : world.Sound) : (reclaim.run world).2.overdue = 0 := by
  have alive := isAlive_of_callables (tends_reclaim sound).callables
  rw [overdue, List.sum_eq_zero_iff_forall_eq_nat, List.forall_mem_map]
  rintro ⟨type, there⟩ known
  cases there with
  | none => rfl
  | some pool =>
      obtain ⟨number, below, same⟩ := List.getElem_of_mem known
      have found : (reclaim.run world).2.pool? number = some pool := by
        rw [pool?, List.getElem?_eq_getElem below, same]
        rfl
      have swept : pool.dead (reclaim.run world).2.isAlive = [] := by
        rw [Pool.dead, List.filter_eq_nil_iff, alive]
        intro registration there
        simp [((registered_reclaim sound number registration).1 ⟨pool, found, there⟩).2]
      simp [Pool.overdue, swept]

theorem reclaim_balance (sound : world.Sound) :
    (reclaim.run world).2.poolStats.free =
      world.poolStats.free + (reclaim.run world).1 + world.overdue := by
  have balance := reclaimPools_balance sound (List.range world.pools.length)
  have counted : (reclaim.run world).1 =
      (((List.range world.pools.length).mapM reclaimPool).run world).1.sum :=
    (List.sum_eq_foldl_nat ..).symm
  have all := overdue_reclaim sound
  change overdue (((List.range world.pools.length).mapM reclaimPool).run world).2 = 0 at all
  rw [counted]
  dsimp only at balance
  rw [all] at balance
  exact balance

/-- A sweep frees the slots of all dead callables; it counts those that were not reported before.
So its count is the number of slots that it frees exactly where no dead callable was reported. -/
theorem reclaim_counts (reachable : world.Reachable) :
    (∀ number pool, world.pool? number = some pool →
      let reclaimed := (reclaimPool number).run world
      ∃ later freed, reclaimed.2.pool? number = some later ∧ later.free = pool.free ++ freed ∧
        freed.Perm ((pool.dead world.isAlive).map (·.slot)) ∧
        reclaimed.1 + (pool.overdue world.isAlive).length = freed.length ∧
        (reclaimed.1 = freed.length ↔ ∀ registration ∈ pool.registrations,
          registration.identity ∈ pool.pending →
            world.isAlive registration.callable = true)) ∧
      (reclaim.run world).2.poolStats.free =
        world.poolStats.free + (reclaim.run world).1 + world.overdue := by
  refine ⟨?_, reclaim_balance reachable.sound⟩
  intro number pool found reclaimed
  obtain ⟨later, freed, pools, _, free, slots, counted⟩ := reclaimPool_frees reachable.sound found
  refine ⟨later, freed, ?_, free, slots, counted, ?_⟩
  · have same : reclaimed.2.pool? number = (world.withPool number later).pool? number := by
      rw [pool?, pool?, ← pools]
    rw [same, pool?_withPool world (present_of_pool? found), if_pos rfl]
  · change reclaimed.1 + _ = _ at counted
    have exact : reclaimed.1 = freed.length ↔ pool.overdue world.isAlive = [] := by
      rw [← List.length_eq_zero_iff, ← counted]
      omega
    rw [exact, Pool.overdue_eq, List.filter_eq_nil_iff]
    simp [Pool.isReported]

def bereaved : World :=
  let first := ((closureFor signal 0).run.run peopled).2
  let second := ((closureFor signal 1).run.run first).2
  let gone := ((releaseCallable 0).run second).2
  let both := ((releaseCallable 1).run gone).2
  let reported := ((postUnreachable 0 8).run both).2
  ((postUnreachable 0 8).run reported).2

theorem reclaim_counts_bereaved :
    bereaved.Reachable ∧ (reclaim.run bereaved).1 = 1 ∧
      (reclaim.run bereaved).2.poolStats.free = bereaved.poolStats.free + 2 ∧
      ∀ pool, bereaved.pool? 0 = some pool → ∃ later freed,
        ((reclaimPool 0).run bereaved).2.pool? 0 = some later ∧ later.free = pool.free ++ freed ∧
          ((reclaimPool 0).run bereaved).1 + (pool.overdue bereaved.isAlive).length =
            freed.length := by
  have passed := reachable_peopled.step (.closureFor signal 0 (by decide +kernel))
  have again := passed.step (.closureFor signal 1 (by decide +kernel))
  have gone := again.step (.releaseCallable 0 (by decide +kernel))
  have both := gone.step (.releaseCallable 1 (by decide +kernel))
  have reachable : bereaved.Reachable :=
    (both.step (.postUnreachable 0 8)).step (.postUnreachable 0 8)
  have counted : (reclaim.run bereaved).1 = 1 := by decide +kernel
  have uncounted : bereaved.overdue = 1 := by decide +kernel
  obtain ⟨pools, total⟩ := reclaim_counts reachable
  refine ⟨reachable, counted, ?_, ?_⟩
  · rw [total, counted, uncounted]
  · intro pool found
    obtain ⟨later, freed, there, free, _, sum, _⟩ := pools 0 pool found
    exact ⟨later, freed, there, free, sum⟩

end World

end ForeignCall
