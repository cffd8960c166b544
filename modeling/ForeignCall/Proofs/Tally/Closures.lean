import ForeignCall.Proofs.Closure.Peak
import ForeignCall.Proofs.Closure.Totals
import ForeignCall.Proofs.Ownership.Slots
import ForeignCall.Proofs.Stub.Attachment

/-! What is counted over a whole process agrees with what is there: the slots and the magazines of
closures with what their pools count. -/

namespace ForeignCall

/-- The counts of entry points and of closures; those of blocks are left out. -/
structure Tally where
  stubs : Nat
  magazines : Nat
  allocated : Nat
  recycled : Nat
  built : Strategy → Nat
  failed : Nat

def Counters.tally (counters : Counters) : Tally where
  stubs := counters.stubsInstalled
  magazines := counters.magazinesAllocated
  allocated := counters.slotsAllocated
  recycled := counters.slotsRecycled
  built := counters.built
  failed := counters.failed

def Counters.constructed (counters : Counters) : Nat :=
  (Strategy.order.map counters.built).sum + counters.failed

theorem Counters.tally_countSlot (counters : Counters) (reused : Bool) :
    (counters.countSlot reused).tally = { counters.tally with
      allocated := counters.tally.allocated + if reused then 0 else 1
      recycled := counters.tally.recycled + if reused then 1 else 0 } := by
  cases reused <;> rfl

namespace PageStore

theorem tally_release (number : Nat) (pages : PageStore) :
    ((release number).run pages).2.counters.tally = pages.counters.tally := by
  rcases release_cases number pages with same | ⟨block, same⟩ <;> rw [same] <;> rfl

theorem tally_dispose (number : Nat) (pages : PageStore) :
    ((dispose number).run pages).2.counters.tally = pages.counters.tally := by
  rw [run_dispose]
  split
  next block found => split <;> rfl
  next => rfl

theorem tally_allocate {bytes : Nat} {pages after : PageStore} {outcome : Except Fault Nat}
    (ran : (allocate bytes).run.run pages = (outcome, after)) :
    after.counters.tally = pages.counters.tally := by
  rcases allocate_cases ran with ⟨-, rfl⟩ | ⟨-, rfl⟩ <;> rfl

theorem tally_makeExecutable {number : Nat} {pages after : PageStore}
    {outcome : Except Fault Unit}
    (ran : (makeExecutableOrRelease number).run.run pages = (outcome, after)) :
    after.counters.tally = pages.counters.tally := by
  rcases makeExecutable_cases ran with ⟨-, rfl⟩ | ⟨-, rfl⟩
  · rfl
  · exact tally_release number _

end PageStore

theorem Magazine.tally_allocate {count : Nat} {pages after : PageStore}
    {outcome : Except Fault Magazine}
    (ran : (allocate count).run.run pages = (outcome, after)) :
    after.counters.tally = { pages.counters.tally with
      magazines := pages.counters.tally.magazines + if outcome.isOk then 1 else 0 } := by
  cases allocates_of_run ran with
  | refused asked => exact PageStore.tally_allocate asked
  | small asked => exact (PageStore.tally_release _ _).trans (PageStore.tally_allocate asked)
  | unsealed asked failed =>
    exact (PageStore.tally_makeExecutable failed).trans (PageStore.tally_allocate asked)
  | cut asked fits closed =>
    have sealed := (PageStore.tally_makeExecutable closed).trans (PageStore.tally_allocate asked)
    rw [← sealed]
    rfl

namespace Stub

theorem tally_journalAll {stubs : List PendingStub} {entries : List InstalledStub}
    {pages after : PageStore} (ran : (journalAll stubs entries).run.run pages = (.ok ⟨⟩, after)) :
    after.counters.tally = { pages.counters.tally with
      stubs := pages.counters.tally.stubs + (stubs.zip entries).length } := by
  rw [journalAll] at ran
  generalize stubs.zip entries = items at *
  induction items generalizing pages with
  | nil =>
    cases ran
    rfl
  | cons item rest ih =>
    rw [List.forIn_cons] at ran
    refine (ih ran).trans ?_
    rw [List.length_cons, Nat.add_comm rest.length, ← Nat.add_assoc]
    rfl

theorem tally_attach {stubs : List PendingStub} {pages after : PageStore}
    {outcome : Except Fault (Nat × List InstalledStub)}
    (ran : (attach stubs).run.run pages = (outcome, after)) :
    after.counters.tally = { pages.counters.tally with
      stubs := pages.counters.tally.stubs + if outcome.isOk then stubs.length else 0 } := by
  cases attaches_of_run ran with
  | refused asked => exact PageStore.tally_allocate asked
  | @unsealed _ granted _ _ asked failed =>
    have granting : granted.counters.tally = pages.counters.tally := PageStore.tally_allocate asked
    exact (PageStore.tally_makeExecutable failed).trans granting
  | @done block granted sealed _ asked closed noted =>
    have granting : granted.counters.tally = pages.counters.tally := PageStore.tally_allocate asked
    have before : sealed.counters.tally = pages.counters.tally :=
      (PageStore.tally_makeExecutable closed).trans granting
    have every : (stubs.zip (installed (granted.block block).base stubs)).length =
        stubs.length := by
      simp [installed]
    rw [tally_journalAll noted, before, every]
    rfl

end Stub

namespace World

/-- So many entry points were constructed, and so many stubs are installed that serve none yet. The
closures are those of the pools, and of others that were given up. -/
structure Tallied (constructed unserved : Nat) (gone : PoolStats) (world : World) : Prop where
  constructed : world.counters.constructed = constructed
  stubs : world.counters.built .stub + unserved = world.counters.stubsInstalled
  magazines : world.counters.magazinesAllocated = gone.magazines + world.poolStats.magazines
  allocated : world.counters.slotsAllocated = gone.allocated + world.poolStats.allocated
  recycled : world.counters.slotsRecycled = gone.recycled + world.poolStats.recycled

variable {world after : World} {constructed unserved : Nat} {gone : PoolStats}

theorem Supplies.tally {pool source : Pool} {pages : PageStore}
    (supplies : world.Supplies pool pages source) :
    ∃ more, pages.counters.tally = { world.counters.tally with
        magazines := world.counters.magazinesAllocated + more } ∧
      source.magazines.length = pool.magazines.length + more ∧
        source.allocated = pool.allocated ∧ source.recycled = pool.recycled := by
  cases supplies with
  | enough => exact ⟨0, rfl, rfl, rfl, rfl⟩
  | restocked missing granted => exact ⟨1, Magazine.tally_allocate granted, rfl, rfl, rfl⟩

namespace Tallied

theorem congr (tallied : world.Tallied constructed unserved gone)
    (tally : after.counters.tally = world.counters.tally)
    (stats : after.poolStats = world.poolStats) : after.Tallied constructed unserved gone := by
  obtain ⟨stubs, magazines, allocated, recycled, built, failed⟩ := Tally.mk.inj tally
  constructor
  case constructed => rw [Counters.constructed, built, failed]; exact tallied.constructed
  case stubs => rw [built, stubs]; exact tallied.stubs
  case magazines => rw [magazines, stats]; exact tallied.magazines
  case allocated => rw [allocated, stats]; exact tallied.allocated
  case recycled => rw [recycled, stats]; exact tallied.recycled

theorem replace (tallied : world.Tallied constructed unserved gone) {number : Nat}
    {pool later : Pool} (found : world.pool? number = some pool) (retains : pool.Retains later) :
    (world.withPool number later).Tallied constructed unserved gone := by
  have magazines := part_poolStats_withPool PoolStats.additive_magazines found later
  have allocated := part_poolStats_withPool PoolStats.additive_allocated found later
  have recycled := part_poolStats_withPool PoolStats.additive_recycled found later
  simp only [Pool.stats, retains.magazines, retains.allocated, retains.recycled,
    Nat.add_right_cancel_iff] at magazines allocated recycled
  refine ⟨tallied.constructed, tallied.stubs, ?_, ?_, ?_⟩
  · rw [magazines]; exact tallied.magazines
  · rw [allocated]; exact tallied.allocated
  · rw [recycled]; exact tallied.recycled

theorem takeSlot (tallied : world.Tallied constructed unserved gone) {number : Nat} {pool : Pool}
    (found : world.pool? number = some pool) {outcome : Except Fault ClosureSlot}
    (ran : (takeSlot number pool).run.run world = (outcome, after)) :
    after.Tallied constructed unserved gone := by
  rcases cases_of_run_takeSlot ran with
    ⟨pages, source, slot, reused, taken, supplies, offered, rfl, rfl⟩ |
      ⟨-, fault, pages, failed, rfl, rfl⟩
  · obtain ⟨length, fresh, used⟩ := Pool.counted_take? offered
    have magazines := part_poolStats_withPool PoolStats.additive_magazines found taken
    have allocated := part_poolStats_withPool PoolStats.additive_allocated found taken
    have recycled := part_poolStats_withPool PoolStats.additive_recycled found taken
    obtain ⟨more, tally, kept⟩ := supplies.tally
    have counted := (pages.counters.tally_countSlot reused).trans (by rw [tally])
    obtain ⟨stubs, granted, given, reassigned, built, failed⟩ := Tally.mk.inj counted
    have last : (({ world with toPageStore := pages }.withPool number taken).assigned slot
        reused).poolStats = (world.withPool number taken).poolStats := poolStats_congr rfl
    have every := tallied.magazines
    have new := tallied.allocated
    have old := tallied.recycled
    simp only [Pool.stats, length, fresh, used, kept] at magazines allocated recycled
    dsimp only [Counters.tally] at granted given reassigned
    constructor
    case constructed =>
      refine Eq.trans ?_ tallied.constructed
      exact congrArg₂ (fun built failed => (Strategy.order.map built).sum + failed) built failed
    case stubs =>
      refine Eq.trans ?_ (tallied.stubs.trans stubs.symm)
      exact congrArg (fun built : Strategy → Nat => built .stub + unserved) built
    case magazines =>
      rw [last]
      refine granted.trans ?_
      omega
    case allocated =>
      rw [last]
      refine given.trans ?_
      omega
    case recycled =>
      rw [last]
      refine reassigned.trans ?_
      omega
  · exact tallied.congr (Magazine.tally_allocate failed) rfl

theorem release (tallied : world.Tallied constructed unserved gone) (number : Nat) :
    ((liftM (PageStore.release number) : StateM World Unit).run world).2.Tallied constructed
      unserved gone :=
  tallied.congr (PageStore.tally_release number world.toPageStore) rfl

theorem dispose (tallied : world.Tallied constructed unserved gone) (number : Nat) :
    ((liftM (PageStore.dispose number) : StateM World Bool).run world).2.Tallied constructed
      unserved gone :=
  tallied.congr (PageStore.tally_dispose number world.toPageStore) rfl

theorem releaseAll (tallied : world.Tallied constructed unserved gone)
    (magazines : List Magazine) :
    ((magazines.forM fun magazine => PageStore.release magazine.block : StateM World Unit).run
      world).2.Tallied constructed unserved gone := by
  induction magazines generalizing world with
  | nil => exact tallied
  | cons magazine rest ih => exact ih (tallied.release magazine.block)

theorem dropPool (tallied : world.Tallied constructed unserved gone) (number : Nat) :
    ((dropPool number).run world).2.Tallied constructed unserved
      (gone.add (world.statsOf number)) := by
  rw [run_dropPool]
  cases found : world.pool? number with
  | none =>
    rw [statsOf, found]
    exact tallied
  | some pool =>
    let left : World := world.withoutPool number
    have magazines : left.poolStats.magazines + pool.stats.magazines = world.poolStats.magazines :=
      part_poolStats_without PoolStats.additive_magazines found
    have allocated : left.poolStats.allocated + pool.stats.allocated = world.poolStats.allocated :=
      part_poolStats_without PoolStats.additive_allocated found
    have recycled : left.poolStats.recycled + pool.stats.recycled = world.poolStats.recycled :=
      part_poolStats_without PoolStats.additive_recycled found
    have remaining : left.Tallied constructed unserved (gone.add pool.stats) := by
      refine ⟨tallied.constructed, tallied.stubs, ?_, ?_, ?_⟩
      · refine tallied.magazines.trans ?_
        rw [PoolStats.additive_magazines.add]
        omega
      · refine tallied.allocated.trans ?_
        rw [PoolStats.additive_allocated.add]
        omega
      · refine tallied.recycled.trans ?_
        rw [PoolStats.additive_recycled.add]
        omega
    rw [statsOf_of_pool? found]
    exact remaining.releaseAll pool.magazines

end Tallied

theorem handles_tallied : Handles (Tallied constructed unserved gone) where
  replace _ _ _ _ found retains tallied := tallied.replace found retains
  events _ _ tallied := tallied.congr rfl rfl
  takeSlot _ _ _ _ _ found tallied ran := tallied.takeSlot found ran

theorem upheld_tallied : Upheld (Tallied constructed unserved gone) where
  mappers _ _ tallied := tallied.congr rfl rfl
  types _ _ tallied := tallied.congr rfl rfl
  sites _ _ tallied := tallied.congr rfl rfl
  newEntry world type tallied := tallied.congr rfl (poolStats_newEntry world type)
  newPool _ _ _ _ missing tallied := tallied.congr rfl (poolStats_withPool_new missing _ _)

end World

end ForeignCall
