import ForeignCall.Proofs.Closure.Refusals

/-! Slots that change hands: a pool that gives up callables or registers one keeps its magazines and
its counts. What such a change cannot break stays so whatever is done with closures, if it stays so
when a slot is taken. -/

namespace ForeignCall

namespace Pool

/-- Only the callables of a pool changed, or what is reported about them. -/
structure Retains (before after : Pool) : Prop where
  magazinePages : after.magazinePages = before.magazinePages
  magazines : after.magazines = before.magazines
  allocated : after.allocated = before.allocated
  recycled : after.recycled = before.recycled

variable {pool : Pool}

namespace Retains

theorem refl (pool : Pool) : pool.Retains pool := ⟨rfl, rfl, rfl, rfl⟩

theorem trans {first second third : Pool} (left : first.Retains second)
    (right : second.Retains third) : first.Retains third :=
  ⟨right.magazinePages.trans left.magazinePages, right.magazines.trans left.magazines,
    right.allocated.trans left.allocated, right.recycled.trans left.recycled⟩

theorem post (pool : Pool) (identity : Nat) : pool.Retains (pool.post identity) :=
  ⟨rfl, rfl, rfl, rfl⟩

theorem releaseAll (slots : List ClosureSlot) : pool.Retains (pool.releaseAll slots) := by
  induction slots generalizing pool with
  | nil => exact .refl pool
  | cons slot rest ih =>
    have released : pool.Retains (pool.release slot) := ⟨rfl, rfl, rfl, rfl⟩
    exact released.trans ih

theorem notify {alive : Nat → Bool} {identity : Nat} {slot : ClosureSlot} {after : Pool}
    (found : pool.notify alive identity = some (slot, after)) : pool.Retains after := by
  rw [Pool.notify] at found
  split at found
  next dead _ =>
    cases found
    exact ⟨rfl, rfl, rfl, rfl⟩
  next => cases found

theorem drain (alive : Nat → Bool) : pool.Retains (pool.drain alive).2 := by
  have wanes : pool.Wanes (pool.drain alive).2 := .drain alive
  exact ⟨wanes.magazinePages, wanes.magazines, wanes.allocated, recycled_drain alive pool⟩

theorem sweep (alive : Nat → Bool) : pool.Retains (pool.sweep alive).2 := by
  simp only [Pool.sweep, List.partition_eq_filter_filter]
  have kept : pool.Retains { pool with
      registrations := pool.registrations.filter (alive ·.callable) } := ⟨rfl, rfl, rfl, rfl⟩
  exact kept.trans (releaseAll _)

theorem register (pool : Pool) (registration : Registration) :
    pool.Retains (pool.register registration).2 := by
  rw [Pool.register]
  split <;> exact ⟨rfl, rfl, rfl, rfl⟩

end Retains

theorem counted_take? {slot : ClosureSlot} {reused : Bool} {after : Pool}
    (taken : pool.take? = some (slot, reused, after)) :
    after.magazines.length = pool.magazines.length ∧
      after.allocated = pool.allocated + (if reused then 0 else 1) ∧
        after.recycled = pool.recycled + (if reused then 1 else 0) := by
  rw [take?] at taken
  split at taken
  next =>
    cases taken
    exact ⟨rfl, rfl, rfl⟩
  next =>
    split at taken
    next newest rest magazines =>
      obtain ⟨⟨fresh, later⟩, -, made⟩ := Option.map_eq_some_iff.1 taken
      cases made
      exact ⟨by rw [magazines]; rfl, rfl, rfl⟩
    next => cases taken

end Pool

namespace World

/-- An invariant that slots changing hands cannot break, nor the taking of one. -/
structure Handles (invariant : World → Prop) : Prop where
  replace : ∀ (world : World) number pool later, world.pool? number = some pool →
    pool.Retains later → invariant world → invariant (world.withPool number later)
  events : ∀ (world : World) (events : List Event), invariant world →
    invariant { world with events }
  takeSlot : ∀ (world : World) number pool outcome after, world.pool? number = some pool →
    invariant world → (takeSlot number pool).run.run world = (outcome, after) → invariant after

namespace Handles

variable {invariant : World → Prop} (handles : Handles invariant) {world after : World}
include handles

theorem release {number : Nat} {pool later : Pool} (found : world.pool? number = some pool)
    (retains : pool.Retains later) (slots : List ClosureSlot) (holds : invariant world) :
    invariant ((noteReleased slots).run (world.withPool number later)).2 := by
  obtain ⟨events, same⟩ := run_noteReleased slots (world.withPool number later)
  rw [same]
  exact handles.events _ events (handles.replace world number pool later found retains holds)

theorem drainPool (number : Nat) (holds : invariant world) :
    invariant ((World.drainPool number).run world).2 := by
  rw [run_drainPool]
  split
  next pool found => exact handles.release found (.drain world.isAlive) _ holds
  next => exact holds

theorem notifyUnreachable (number identity : Nat) (holds : invariant world) :
    invariant ((World.notifyUnreachable number identity).run world).2 := by
  rw [run_notifyUnreachable]
  split
  next slot after reported =>
    obtain ⟨pool, found, notified⟩ := Option.bind_eq_some_iff.1 reported
    exact handles.release found (.notify notified) _ holds
  next => exact holds

theorem postUnreachable (number identity : Nat) (holds : invariant world) :
    invariant ((World.postUnreachable number identity).run world).2 := by
  rw [run_postUnreachable]
  split
  next pool found => exact handles.replace world number pool _ found (.post pool identity) holds
  next => exact holds

theorem reclaimPool (number : Nat) (holds : invariant world) :
    invariant ((World.reclaimPool number).run world).2 := by
  have drained := handles.drainPool number holds
  rw [run_reclaimPool]
  dsimp only
  split
  next pool found => exact handles.release found (.sweep _) _ drained
  next => exact drained

theorem reclaim (holds : invariant world) : invariant (World.reclaim.run world).2 := by
  change invariant (((List.range world.pools.length).mapM World.reclaimPool).run world).2
  generalize List.range world.pools.length = numbers
  induction numbers generalizing world with
  | nil => exact holds
  | cons number rest ih =>
    rw [run_reclaimPools]
    exact ih (handles.reclaimPool number holds)

theorem registering (number : Nat) (registration : Registration) (holds : invariant world) :
    invariant (world.registering number registration) := by
  cases found : world.pool? number with
  | some pool =>
    rw [registering_of_pool? found]
    exact handles.release found (.register pool registration) _ holds
  | none =>
    rw [World.registering, found]
    exact holds

theorem slotFor (number serial : Nat) : (World.slotFor number serial).Keeps invariant := by
  intro world outcome after holds ran
  have drained := handles.drainPool number holds
  refine ⟨?_, fun _ _ => trivial⟩
  cases asksSlot_of_run ran with
  | unknown | kept => exact drained
  | taken found missing taken =>
    exact handles.registering number _ (handles.takeSlot _ number _ _ _ found drained taken)
  | refused found failed => exact handles.takeSlot _ number _ _ _ found drained failed

theorem closureAddress (sites : ∀ world sites, invariant world → invariant { world with sites })
    (site serial : Nat) : (World.closureAddress site serial).Keeps invariant := by
  intro world outcome after holds ran
  refine ⟨?_, fun _ _ => trivial⟩
  cases asksAddress_of_run ran with
  | unknown | kept => exact holds
  | asked present asked =>
    exact sites _ _ (Act.Keeps.of_run invariant asked holds (handles.slotFor _ serial))
  | refused present failed =>
    exact Act.Keeps.of_run invariant failed holds (handles.slotFor _ serial)

theorem closureFor (opens : ∀ type, (openPool type).Keeps invariant) (type : CallbackType)
    (serial : Nat) : (World.closureFor type serial).Keeps invariant :=
  (opens type).bind fun number _ => (handles.slotFor number serial).bind fun _ _ => .pure trivial

end Handles

end World

end ForeignCall
