import ForeignCall.Proofs.Closure.Upkeep
import Mathlib.Algebra.GroupWithZero.Nat

/-! What the pools of a world count together: how it changes when one of them is replaced. -/

namespace ForeignCall

theorem sum_map_modify {Item : Type} (weigh : Item → Nat) {items : List Item} {index : Nat}
    {item : Item} (found : items[index]? = some item) (change : Item → Item) :
    ((items.modify index change).map weigh).sum + weigh item =
      (items.map weigh).sum + weigh (change item) := by
  induction items generalizing index with
  | nil => cases found
  | cons head rest ih =>
    cases index with
    | zero =>
      cases found
      simp only [List.modify_zero_cons, List.map_cons, List.sum_cons]
      omega
    | succ index =>
      have later := ih (List.getElem?_cons_succ.symm.trans found)
      simp only [List.modify_succ_cons, List.map_cons, List.sum_cons]
      omega

namespace PoolStats

/-- A number among the statistics of a pool; of several pools it is the sum of theirs. -/
structure Additive (part : PoolStats → Nat) : Prop where
  zero : part {} = 0
  add : ∀ left right : PoolStats, part (left.add right) = part left + part right

theorem additive_magazines : Additive magazines := ⟨rfl, fun _ _ => rfl⟩

theorem additive_allocated : Additive allocated := ⟨rfl, fun _ _ => rfl⟩

theorem additive_recycled : Additive recycled := ⟨rfl, fun _ _ => rfl⟩

theorem additive_live : Additive live := ⟨rfl, fun _ _ => rfl⟩

theorem additive_free : Additive free := ⟨rfl, fun _ _ => rfl⟩

variable {left right : PoolStats}

theorem eq_of_additive (same : ∀ part, Additive part → part left = part right) :
    left = right := by
  have magazines := same _ additive_magazines
  have allocated := same _ additive_allocated
  have recycled := same _ additive_recycled
  have live := same _ additive_live
  have free := same _ additive_free
  cases left
  cases right
  simp_all

end PoolStats

namespace World

variable {world : World} {number : Nat} {part : PoolStats → Nat}

def share (part : PoolStats → Nat) (entry : CallbackType × Option Pool) : Nat :=
  (entry.2.map fun pool => part pool.stats).getD 0

theorem part_poolStats (additive : PoolStats.Additive part) (world : World) :
    part world.poolStats = (world.pools.map (share part)).sum := by
  rw [poolStats]
  suffices from_any : ∀ start : PoolStats,
      part ((world.pools.filterMap (·.2)).foldl (fun total pool => total.add pool.stats) start) =
        part start + (world.pools.map (share part)).sum by
    rw [from_any, additive.zero, Nat.zero_add]
  generalize world.pools = entries
  induction entries with
  | nil => exact fun start => rfl
  | cons entry rest ih =>
    obtain ⟨type, pool⟩ := entry
    intro start
    cases pool with
    | none => simpa [share] using ih start
    | some pool =>
      have later := ih (start.add pool.stats)
      rw [additive.add] at later
      simpa [share, Nat.add_assoc] using later

theorem part_poolStats_withPool (additive : PoolStats.Additive part) {pool : Pool}
    (found : world.pool? number = some pool) (after : Pool) :
    part (world.withPool number after).poolStats + part pool.stats =
      part world.poolStats + part after.stats := by
  obtain ⟨⟨type, there⟩, known, rfl⟩ := Option.bind_eq_some_iff.1 found
  rw [part_poolStats additive, part_poolStats additive]
  exact sum_map_modify (share part) known _

theorem part_poolStats_without (additive : PoolStats.Additive part) {pool : Pool}
    (found : world.pool? number = some pool) :
    part (poolStats { world with
        pools := world.pools.modify number fun (type, _) => (type, none) }) + part pool.stats =
      part world.poolStats := by
  obtain ⟨⟨type, there⟩, known, rfl⟩ := Option.bind_eq_some_iff.1 found
  rw [part_poolStats additive, part_poolStats additive]
  exact sum_map_modify (share part) known _

theorem poolStats_withPool_new (missing : world.pool? number = none)
    (shape : ClosureShape) (magazinePages : Nat) :
    (world.withPool number { shape, magazinePages }).poolStats = world.poolStats := by
  refine PoolStats.eq_of_additive fun part additive => ?_
  rw [part_poolStats additive, part_poolStats additive]
  cases known : world.pools[number]? with
  | none =>
    have outside : world.pools.length ≤ number := List.getElem?_eq_none_iff.1 known
    rw [withPool, List.modify_eq_self outside]
  | some entry =>
    obtain ⟨type, there⟩ := entry
    rw [pool?, known] at missing
    obtain rfl : there = none := missing
    have replaced := sum_map_modify (share part) known
      fun (type, _) => (type, some { shape, magazinePages })
    have nothing : share part (type, some { shape, magazinePages }) = 0 := additive.zero
    rw [nothing] at replaced
    exact replaced

theorem poolStats_newEntry (world : World) (type : CallbackType) :
    poolStats { world with pools := world.pools ++ [(type, none)] } = world.poolStats := by
  simp [poolStats, List.filterMap_append]

theorem poolStats_poolNumber (world : World) (type : CallbackType) :
    ((poolNumber type).run world).2.poolStats = world.poolStats := by
  rw [run_poolNumber]
  split
  next => rfl
  next => exact poolStats_newEntry world type

theorem poolStats_congr {left right : World} (same : left.pools = right.pools) :
    left.poolStats = right.poolStats := by
  rw [poolStats, poolStats, same]

end World

end ForeignCall
