import ForeignCall.Proofs.Ownership.Estates
import ForeignCall.Proofs.Tally.Libraries

/-! What a whole run counts. Whatever is bound, called and given up, each entry point is counted
once, and each closure where its pool counted it. -/

namespace ForeignCall

namespace PoolStats

def total (stats : List PoolStats) : PoolStats := stats.foldr add {}

theorem Additive.total {part : PoolStats → Nat} (additive : Additive part)
    (stats : List PoolStats) : part (total stats) = (stats.map part).sum := by
  induction stats with
  | nil => exact additive.zero
  | cons first rest ih =>
    rw [List.map_cons, List.sum_cons, ← ih]
    exact additive.add first (PoolStats.total rest)

end PoolStats

/-- Stubs and magazines come about only with functions and closures, and whatever else is done
counts neither. -/
def Operation.Accountable : Operation → Prop
  | attach _ | through .. | allocateMagazine _ => False
  | elsewhere change => ∀ world, (change world).counters.tally = world.counters.tally
  | _ => True

theorem World.Tallied.drop {world : World} {constructed unserved : Nat} {gone : PoolStats}
    (tallied : world.Tallied constructed unserved gone) (holder : Holder) :
    ((holder.drop).run world).2.Tallied constructed unserved gone := by
  cases holder with
  | attached block stubs => exact tallied.release block
  | invoker entry => exact tallied.releaseEntry entry
  | library bound => exact tallied.closeLibrary bound
  | magazine cut => exact tallied.release cut.block

namespace Estate

variable (estate : Estate)

/-- How many entry points an operation constructs: one for each function of a library, whatever its
name, and one for a late function, unless one of its name is there. -/
def constructs : Operation → Nat
  | .bindFunction .. => 1
  | .bindLibrary _ interface _ => interface.functions.length
  | .bindLate position _ declaration =>
    match estate.holders[position]? with
    | some (.library library) => if (library.function? declaration.name).isSome then 0 else 1
    | _ => 0
  | _ => 0

def constructed (estate : Estate) : List Operation → Nat
  | [] => 0
  | operation :: rest => estate.constructs operation + (estate.perform operation).constructed rest

def lost : Operation → List PoolStats
  | .dropPool number => (estate.world.pool? number).toList.map Pool.stats
  | _ => []

def everyPool (estate : Estate) : List Operation → List PoolStats
  | [] => (estate.world.pools.filterMap (·.2)).map Pool.stats
  | operation :: rest => estate.lost operation ++ (estate.perform operation).everyPool rest

variable {estate} {constructed : Nat} {gone : PoolStats}

theorem total_lost_dropPool (number : Nat) :
    PoolStats.total (estate.lost (.dropPool number)) = estate.world.statsOf number := by
  rw [lost, World.statsOf]
  cases estate.world.pool? number <;> rfl

theorem part_everyPool_nil {part : PoolStats → Nat} (additive : PoolStats.Additive part) :
    ((estate.everyPool []).map part).sum = part estate.world.poolStats := by
  rw [World.part_poolStats additive, everyPool]
  generalize estate.world.pools = entries
  induction entries with
  | nil => rfl
  | cons entry rest ih =>
    obtain ⟨type, pool⟩ := entry
    cases pool with
    | none => simpa [World.share] using ih
    | some pool => simpa [World.share] using ih

theorem tallied_perform (tallied : estate.world.Tallied constructed 0 gone) {operation : Operation}
    (accountable : operation.Accountable) :
    (estate.perform operation).world.Tallied (constructed + estate.constructs operation) 0
      (gone.add (PoolStats.total (estate.lost operation))) := by
  cases operation with
  | attach stubs => exact accountable.elim
  | through position stub function => exact accountable.elim
  | allocateMagazine pages => exact accountable.elim
  | permit policy => exact tallied.congr rfl rfl
  | bindFunction symbols binder declaration => exact tallied.bindFunction symbols binder declaration
  | bindLibrary symbols interface options => exact tallied.bindLibrary symbols interface options
  | bindLate position symbols declaration =>
    rw [perform, constructs]
    cases estate.holders[position]? with
    | none => exact tallied
    | some holder =>
      cases holder with
      | library library => exact tallied.bindLate symbols library declaration
      | _ => exact tallied
  | share position entry =>
    rw [perform]
    split
    next entry found => exact tallied.retainEntry entry
    next => exact tallied
  | openPool type => exact (World.upheld_tallied.openPool type _ _ _ tallied rfl).1
  | newSite type => exact (World.upheld_tallied.newSite type _ _ _ tallied rfl).1
  | closureFor type serial =>
    exact (World.handles_tallied.closureFor World.upheld_tallied.openPool type serial _ _ _
      tallied rfl).1
  | closureAddress site serial =>
    exact (World.handles_tallied.closureAddress World.upheld_tallied.sites site serial _ _ _
      tallied rfl).1
  | notifyUnreachable number identity =>
    exact World.handles_tallied.notifyUnreachable number identity tallied
  | postUnreachable number identity =>
    exact World.handles_tallied.postUnreachable number identity tallied
  | reclaimPool number => exact World.handles_tallied.reclaimPool number tallied
  | dispose block =>
    rw [perform]
    split
    next inside => exact tallied.dispose block
    next => exact tallied
  | drop position =>
    rw [perform]
    split
    next holder found => exact tallied.drop holder
    next => exact tallied
  | dropPool number =>
    rw [total_lost_dropPool]
    exact tallied.dropPool number
  | elsewhere change => exact tallied.congr (accountable estate.world) rfl

theorem tallied_run (tallied : estate.world.Tallied constructed 0 gone)
    (operations : List Operation)
    (accountable : ∀ operation ∈ operations, operation.Accountable) :
    ∃ left, (estate.run operations).world.Tallied (constructed + estate.constructed operations) 0
        left ∧
      ∀ part, PoolStats.Additive part →
        part left + part (estate.run operations).world.poolStats =
          part gone + ((estate.everyPool operations).map part).sum := by
  induction operations generalizing estate constructed gone with
  | nil =>
    refine ⟨gone, tallied, fun part additive => ?_⟩
    rw [part_everyPool_nil additive]
    rfl
  | cons operation rest ih =>
    obtain ⟨first, others⟩ := List.forall_mem_cons.1 accountable
    obtain ⟨left, counted, pools⟩ := ih (tallied_perform tallied first) others
    -- what is lost with a pool is gone from the world, and still in the sum
    refine ⟨left, ?_, fun part additive => (pools part additive).trans ?_⟩
    · rw [Estate.constructed, ← Nat.add_assoc]
      exact counted
    · rw [additive.add, additive.total, everyPool, List.map_append, List.sum_append, Nat.add_assoc]

theorem tallied_of_start {config : Config} {policy : Option PagePolicy} {world : World}
    (started : World.start config policy = .ok world) : world.Tallied 0 0 {} := by
  obtain ⟨granting, event, rfl⟩ := World.eq_of_start started
  exact ⟨rfl, rfl, rfl, rfl, rfl⟩

/-- In every run, the entry points that are counted for the strategies and as failed are those that
were constructed; each stub serves one of them; and the closures and magazines that are counted are
those that the pools counted, which may be gone by now. -/
theorem counted_once {config : Config} {policy : Option PagePolicy} {world : World}
    (started : World.start config policy = .ok world) (operations : List Operation)
    (accountable : ∀ operation ∈ operations, operation.Accountable) :
    let estate : Estate := { world }
    let counters := (estate.run operations).world.counters
    let pools := estate.everyPool operations
    (Strategy.order.map counters.built).sum + counters.failed = estate.constructed operations ∧
      counters.built .stub = counters.stubsInstalled ∧
        counters.slotsAllocated = (pools.map (·.allocated)).sum ∧
          counters.slotsRecycled = (pools.map (·.recycled)).sum ∧
            counters.magazinesAllocated = (pools.map (·.magazines)).sum := by
  intro estate counters pools
  have begun : estate.world.Tallied 0 0 {} := tallied_of_start started
  obtain ⟨left, tallied, every⟩ := tallied_run begun operations accountable
  refine ⟨?_, tallied.stubs, ?_, ?_, ?_⟩
  · exact tallied.constructed.trans (Nat.zero_add _)
  · have sum := every _ PoolStats.additive_allocated
    exact tallied.allocated.trans (sum.trans (Nat.zero_add _))
  · have sum := every _ PoolStats.additive_recycled
    exact tallied.recycled.trans (sum.trans (Nat.zero_add _))
  · have sum := every _ PoolStats.additive_magazines
    exact tallied.magazines.trans (sum.trans (Nat.zero_add _))

/-- Libraries with functions of one name and with missing ones, late functions, stubs without
executable pages, and closures of a type that is given up and of one that is not. -/
def bustling : List Operation :=
  let add : FunctionDeclaration :=
    { name := "add", parameters := [{ type := .int }, { type := .int }]
      result := { type := .int } }
  let symbols : SymbolTable := ⟨[("add", 0x10000), ("sub", 0x10010), ("mul", 0x10020)]⟩
  let sub := { add with name := "sub" }
  [.bindLibrary symbols ⟨[add, { add with name := "missing" }, add, sub], []⟩ {},
    .bindLate 0 symbols sub,
    .bindLate 0 symbols { add with name := "mul" },
    .elsewhere fun world => ((World.newCallableAt 7 fun _ => return .panic).run world).2,
    .closureFor World.signal 0,
    .closureFor ⟨[.int], .void, .default⟩ 0,
    .dropPool 0,
    .permit (.limited 256 none false),
    .bindLibrary symbols ⟨[add, sub], []⟩ {},
    .drop 0]

theorem counted_once_bustling :
    let counters := (Estate.run { world := World.small } bustling).world.counters
    let pools := Estate.everyPool { world := World.small } bustling
    Estate.constructed { world := World.small } bustling = 7 ∧
      (Strategy.order.map counters.built = [4, 0, 0, 0, 0] ∧ counters.failed = 3) ∧
        counters.stubsInstalled = 4 ∧ pools.map (·.allocated) = [1, 1] ∧
          counters.slotsAllocated = 2 ∧ counters.slotsRecycled = 0 ∧
            counters.magazinesAllocated = 2 := by
  have booted : World.start {} (some (.limited 256 none true)) = .ok World.small := rfl
  have accountable : ∀ operation ∈ bustling, operation.Accountable := by
    intro operation known
    simp only [bustling, List.mem_cons, List.not_mem_nil, or_false] at known
    rcases known with rfl | rfl | rfl | rfl | rfl | rfl | rfl | rfl | rfl | rfl
    case inr.inr.inr.inl => exact fun world => rfl
    all_goals trivial
  have counted := counted_once booted bustling accountable
  have constructed : Estate.constructed { world := World.small } bustling = 7 := by decide +kernel
  have built : Strategy.order.map
      (Estate.run { world := World.small } bustling).world.counters.built = [4, 0, 0, 0, 0] := by
    decide +kernel
  have allocated : (Estate.everyPool { world := World.small } bustling).map (·.allocated) =
      [1, 1] := by decide +kernel
  have recycled : (Estate.everyPool { world := World.small } bustling).map (·.recycled) =
      [0, 0] := by decide +kernel
  have magazines : (Estate.everyPool { world := World.small } bustling).map (·.magazines) =
      [1, 1] := by decide +kernel
  dsimp only at counted ⊢
  generalize (Estate.run { world := World.small } bustling).world.counters = counters at *
  obtain ⟨entries, stubs, given, reassigned, granted⟩ := counted
  have stubbed : counters.built .stub = 4 := (List.cons.inj built).1
  rw [built, constructed] at entries
  rw [allocated] at given
  rw [recycled] at reassigned
  rw [magazines] at granted
  exact ⟨constructed, ⟨built, Nat.add_left_cancel entries⟩, stubs.symm.trans stubbed, allocated,
    given, reassigned, granted⟩

end Estate

end ForeignCall
