import ForeignCall.Proofs.Closure.Runs

/-! Invariants that work on closures cannot break: pools are opened and emptied, magazines are
allocated and slots change hands without a change of what such an invariant is about. -/

namespace ForeignCall

namespace World

/-- An invariant that is not about pools, call sites, the journal or pages for code. -/
structure Indifferent (invariant : World → Prop) : Prop where
  pools : ∀ world pools, invariant world → invariant { world with pools }
  sites : ∀ world sites, invariant world → invariant { world with sites }
  journal : ∀ world journal, invariant world → invariant { world with toJournal := journal }
  allocate : ∀ count, Act.Keeps invariant (liftM (Magazine.allocate count) : Act World Magazine)

namespace Indifferent

variable {invariant : World → Prop} (indifferent : Indifferent invariant) {world : World}
include indifferent

theorem setPool (number : Nat) (pool : Pool) (holds : invariant world) :
    invariant ((World.setPool number pool).run world).2 :=
  indifferent.pools world _ holds

theorem noteReleased (slots : List ClosureSlot) (holds : invariant world) :
    invariant ((World.noteReleased slots).run world).2 := by
  induction slots generalizing world with
  | nil => exact holds
  | cons slot rest ih => exact ih (indifferent.journal world _ holds)

theorem replace (number : Nat) (pool : Pool) (slots : List ClosureSlot) (holds : invariant world) :
    invariant ((World.noteReleased slots).run (world.withPool number pool)).2 :=
  indifferent.noteReleased slots (indifferent.pools world _ holds)

theorem drainPool (number : Nat) (holds : invariant world) :
    invariant ((World.drainPool number).run world).2 := by
  rw [run_drainPool]
  split
  next => exact indifferent.replace number _ _ holds
  next => exact holds

theorem reclaimPool (number : Nat) (holds : invariant world) :
    invariant ((World.reclaimPool number).run world).2 := by
  have drained := indifferent.drainPool number holds
  rw [run_reclaimPool]
  dsimp only
  split
  next => exact indifferent.replace number _ _ drained
  next => exact drained

theorem reclaim (holds : invariant world) : invariant (World.reclaim.run world).2 := by
  change invariant (((List.range world.pools.length).mapM World.reclaimPool).run world).2
  generalize List.range world.pools.length = numbers
  induction numbers generalizing world with
  | nil => exact holds
  | cons number rest ih =>
      rw [run_reclaimPools]
      exact ih (indifferent.reclaimPool number holds)

theorem takeSlot (number : Nat) (pool : Pool) : (World.takeSlot number pool).Keeps invariant := by
  have handOut (taken : ClosureSlot × Bool × Pool) : Act.Keeps invariant (do
      World.setPool number taken.2.2
      Store.count (·.countSlot taken.2.1)
      Store.record (.slotAssigned taken.1.code taken.2.1)
      return taken.1 : Act World ClosureSlot) := by
    refine .bind (Act.keeps_ofState fun _ => indifferent.setPool number _) fun _ _ => ?_
    refine .bind (Act.keeps_ofState fun world => indifferent.journal world _) fun _ _ => ?_
    exact .bind (Act.keeps_ofState fun world => indifferent.journal world _) fun _ _ =>
      .pure trivial
  unfold World.takeSlot
  split
  next taken _ => exact handOut taken
  next =>
    refine .bind (indifferent.allocate _) fun magazine _ => ?_
    split
    next taken _ => exact handOut taken
    next => exact .throw _

theorem slotFor (number serial : Nat) : (World.slotFor number serial).Keeps invariant := by
  refine .bind (Act.keeps_ofState fun _ => indifferent.drainPool number) fun _ _ => ?_
  refine .bind .get fun world _ => ?_
  split
  next pool _ =>
    split
    next => exact .pure trivial
    next =>
      refine .bind (indifferent.takeSlot number pool) fun slot _ => .bind .get fun between _ => ?_
      split
      next later _ =>
        refine .bind (Act.keeps_ofState fun _ => indifferent.setPool number _) fun _ _ => ?_
        exact .bind (Act.keeps_ofState fun _ => indifferent.noteReleased _) fun _ _ =>
          .pure trivial
      next => exact .pure trivial
  next => exact .throw _

theorem closureAddress (number serial : Nat) :
    (World.closureAddress number serial).Keeps invariant := by
  refine .bind .get fun world _ => ?_
  split
  next site _ =>
    split
    next => exact .pure trivial
    next =>
      refine .bind (indifferent.slotFor site.pool serial) fun slot _ => ?_
      exact .bind (Act.keeps_ofState fun world => indifferent.sites world _) fun _ _ =>
        .pure trivial
  next => exact .throw _

end Indifferent

end World

end ForeignCall
