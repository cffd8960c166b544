import ForeignCall.Proofs.Binding.Beginning
import ForeignCall.Proofs.Closure.Handing
import Mathlib.Algebra.Group.Nat.Defs

/-! Sizes in bytes. Pages are of the configured size, and every size that is worked out on the way
to a block is exact. Where a word cannot hold it the program ends. -/

namespace ForeignCall

namespace PagePolicy

theorem roundPageSize_two_pow (exponent : Nat) :
    roundPageSize (2 ^ exponent) = max (2 ^ exponent) systemPageSize := by
  rw [roundPageSize, Nat.max_eq_left (Nat.two_pow_pos exponent)]
  rcases Nat.lt_or_ge exponent 12 with less | more
  · have small : 2 ^ exponent < systemPageSize :=
      Nat.pow_lt_pow_right (show 1 < 2 by decide) less
    have some_byte : 0 < 2 ^ exponent := Nat.two_pow_pos exponent
    rw [Nat.max_eq_right (Nat.le_of_lt small)]
    simp only [systemPageSize] at small ⊢
    omega
  · obtain ⟨count, whole⟩ : systemPageSize ∣ 2 ^ exponent := Nat.pow_dvd_pow 2 more
    have large : systemPageSize ≤ 2 ^ exponent :=
      Nat.pow_le_pow_right (show 0 < 2 by decide) more
    rw [Nat.max_eq_left large]
    simp only [systemPageSize] at whole ⊢
    omega

theorem pagesFor_bytesOf {policy : PagePolicy} (some_page : 0 < policy.pageSize) {count : Nat}
    (some_ : 0 < count) : policy.pagesFor (policy.bytesOf count) = count := by
  rw [pagesFor, bytesOf, Nat.add_sub_assoc some_page, Nat.mul_comm, Nat.mul_add_div some_page,
    Nat.div_eq_of_lt (Nat.sub_lt some_page Nat.one_pos), Nat.add_zero]
  exact Nat.max_eq_left some_

end PagePolicy

namespace Config

/-- The bytes of a page: the configured size, or else the system's, in whole pages of the system. -/
def pageBytes (config : Config) : Nat :=
  let wanted := config.pageSize.getD PagePolicy.systemPageSize
  (wanted + PagePolicy.systemPageSize - 1) / PagePolicy.systemPageSize * PagePolicy.systemPageSize

theorem exists_pageSize_eq_two_pow {config : Config} (validated : config.validate = .ok ()) :
    ∃ exponent, config.pageSize.getD PagePolicy.systemPageSize = 2 ^ exponent := by
  cases sized : config.pageSize with
  | none => exact ⟨12, rfl⟩
  | some size =>
    have power := (Config.of_validate validated).2.2 size sized
    have spread : size ≠ 0 ∧ size &&& (size - 1) = 0 := by simpa [isPowerOfTwo] using power
    exact Nat.ne_zero_and_sub_one_eq_zero_iff_isPowerOfTwo.1 spread

theorem pageBytes_bounds {config : Config} (validated : config.validate = .ok ())
    (word : ∀ size, config.pageSize = some size → size < UInt64.size) :
    let wanted := config.pageSize.getD PagePolicy.systemPageSize
    PagePolicy.rounds wanted = true ∧ PagePolicy.roundPageSize wanted = config.pageBytes ∧
      PagePolicy.systemPageSize ≤ config.pageBytes ∧ 2 * config.pageBytes ≤ UInt64.size := by
  obtain ⟨exponent, power⟩ := exists_pageSize_eq_two_pow validated
  have below : 2 ^ exponent < UInt64.size := by
    rw [← power]
    cases sized : config.pageSize with
    | none => decide
    | some size => exact word size sized
  have small : exponent < 64 := (Nat.pow_lt_pow_iff_right (by decide)).1 below
  have half : 2 ^ exponent ≤ 2 ^ 63 := Nat.pow_le_pow_right (by decide) (by omega)
  have rounded : PagePolicy.roundPageSize (2 ^ exponent) = config.pageBytes := by
    rw [PagePolicy.roundPageSize, pageBytes, power, Nat.max_eq_left (Nat.two_pow_pos exponent)]
  have whole := rounded.symm.trans (PagePolicy.roundPageSize_two_pow exponent)
  dsimp only
  rw [power, whole]
  refine ⟨?_, rounded.trans whole, Nat.le_max_right _ _, ?_⟩
  · refine decide_eq_true ?_
    simp only [PagePolicy.systemPageSize, UInt64.size]
    omega
  · simp only [PagePolicy.systemPageSize, UInt64.size]
    omega

end Config

namespace PageStore

/-- Nothing happened to blocks, and the program has not ended since. -/
structure Stays (before after : PageStore) : Prop where
  blocks : after.blocks = before.blocks
  policy : after.policy = before.policy
  abort : after.abort? = before.abort?

theorem Stays.trans {first second third : PageStore} (left : first.Stays second)
    (right : second.Stays third) : first.Stays third :=
  ⟨right.blocks.trans left.blocks, right.policy.trans left.policy, right.abort.trans left.abort⟩

theorem Stays.copied (stubs : List PendingStub) (entries : List InstalledStub)
    (pages : PageStore) : pages.Stays (Stub.copied stubs entries pages) := ⟨rfl, rfl, rfl⟩

variable {Result : Type} {pages after : PageStore} {bytes count : Nat}

/-- What asking for so many pages comes to, which some bytes need, with exact sizes: the block is
there and has all its bytes, or as many bytes are reported missing. Where a word cannot hold the
bytes and a page more, the program ends. -/
inductive Asks (pages : PageStore) (bytes count : Nat) : Except Fault Result → PageStore → Prop
  | granted {result : Result} {after : PageStore}
      (fits : bytes + pages.policy.pageSize < UInt64.size)
      (small : count * pages.policy.pageSize < UInt64.size)
      (listed : after.blocks.length = pages.blocks.length + 1)
      (whole : (after.block pages.blocks.length).pages = count)
      (exact : after.byteSize pages.blocks.length = count * pages.policy.pageSize)
      (goesOn : after.abort? = pages.abort?) : Asks pages bytes count (.ok result) after
  | missing {after : PageStore} (fits : bytes + pages.policy.pageSize < UInt64.size)
      (small : count * pages.policy.pageSize < UInt64.size)
      (goesOn : after.abort? = pages.abort?) :
      Asks pages bytes count (.error (.memoryExhausted (count * pages.policy.pageSize))) after
  | ended {fault : Fault} {after : PageStore}
      (large : UInt64.size ≤ bytes + pages.policy.pageSize)
      (ends : after.abort? = some .arithmetic) : Asks pages bytes count (.error fault) after

theorem Asks.map {Final : Type} {outcome : Except Fault Result}
    (asks : pages.Asks bytes count outcome after) (change : Result → Final) :
    pages.Asks bytes count (outcome.map change) after := by
  cases asks with
  | granted fits small listed whole exact goesOn =>
    exact .granted fits small listed whole exact goesOn
  | missing fits small goesOn => exact .missing fits small goesOn
  | ended large ends => exact .ended large ends

theorem Asks.carry {earlier last : PageStore} {outcome : Except Fault Result}
    (asks : pages.Asks bytes count outcome after) (before : earlier.Stays pages)
    (later : after.Stays last) : earlier.Asks bytes count outcome last := by
  cases asks with
  | granted fits small listed whole exact goesOn =>
    rw [before.policy] at fits small
    rw [byteSize, PageStore.block, ← later.blocks, ← later.policy, before.blocks] at exact
    rw [PageStore.block, ← later.blocks, before.blocks] at whole
    rw [← later.blocks, before.blocks] at listed
    exact .granted fits small listed whole (before.policy ▸ exact)
      (later.abort.trans (goesOn.trans before.abort))
  | missing fits small goesOn =>
    rw [before.policy] at fits small ⊢
    exact .missing fits small (later.abort.trans (goesOn.trans before.abort))
  | ended large ends =>
    rw [before.policy] at large
    exact .ended large (later.abort.trans ends)

theorem Asks.of_denied {fault : Fault}
    (some_page : 0 < pages.policy.pageSize)
    (failed : (allocate bytes).run.run pages = (.error fault, after)) :
    pages.Asks bytes (pages.policy.pagesFor bytes) (.error fault : Except Fault Result) after := by
  rcases allocate_cases failed with ⟨done, -⟩ | ⟨same, rfl⟩
  · cases done
  cases same
  by_cases counted : pages.policy.counts bytes = true
  · obtain ⟨-, fits, small⟩ := PagePolicy.bounds_of_counts counted
    exact .missing fits small (if_pos counted)
  · have large := mt PagePolicy.counts_iff.2 counted
    exact .ended (by omega) (if_neg counted)

theorem abort?_release (number : Nat) (pages : PageStore) :
    ((release number).run pages).2.abort? = pages.abort? := by
  rcases release_cases number pages with same | ⟨block, same⟩ <;> rw [same] <;> rfl

section Given

variable {number : Nat} {granted given : PageStore}
  (asked : (allocate bytes).run.run pages = (.ok number, granted)) (stays : granted.Stays given)
include asked stays

theorem Asks.of_unsealed {fault : Fault}
    (failed : (makeExecutableOrRelease number).run.run given = (.error fault, after)) :
    pages.Asks bytes (pages.policy.pagesFor bytes) (.error fault : Except Fault Result) after := by
  obtain ⟨-, fits, small⟩ := PagePolicy.bounds_of_counts (counts_of_run_allocate asked)
  obtain ⟨rfl, rfl⟩ := supplied_of_run_allocate asked
  rcases makeExecutable_cases failed with ⟨done, -⟩ | ⟨same, rfl⟩
  · cases done
  cases same
  have size := pages.byteSize_supplied (pages.policy.pagesFor bytes)
  rw [byteSize, PageStore.block, ← stays.blocks, ← stays.policy] at size
  rw [byteSize, PageStore.block, size]
  exact .missing fits small ((abort?_release _ _).trans stays.abort)

theorem Asks.of_sealed {outcome : Except Fault Unit}
    (closed : (makeExecutableOrRelease number).run.run given = (outcome, after))
    (done : outcome = .ok ()) (result : Result) :
    pages.Asks bytes (pages.policy.pagesFor bytes) (.ok result) after := by
  obtain ⟨-, fits, small⟩ := PagePolicy.bounds_of_counts (counts_of_run_allocate asked)
  obtain ⟨rfl, rfl⟩ := supplied_of_run_allocate asked
  subst done
  rcases makeExecutable_cases closed with ⟨-, rfl⟩ | ⟨failed, -⟩
  · have supplied : pages.Asks bytes (pages.policy.pagesFor bytes) (.ok result)
        (pages.supplied (pages.policy.pagesFor bytes)) :=
      .granted fits small (by simp [supplied]) (congrArg PageBlock.pages (pages.block_supplied _))
        (pages.byteSize_supplied _) rfl
    exact supplied.carry ⟨rfl, rfl, rfl⟩ (stays.trans ⟨rfl, rfl, rfl⟩)
  · cases failed

end Given

/-- Stubs are attached to as many pages as they fill. -/
theorem asks_of_run_attach {stubs : List PendingStub}
    {outcome : Except Fault (Nat × List InstalledStub)} (some_page : 0 < pages.policy.pageSize)
    (ran : (Stub.attach stubs).run.run pages = (outcome, after)) :
    let bytes := Stub.reservedSize stubs
    pages.Asks bytes (pages.policy.pagesFor bytes) outcome after := by
  cases Stub.attaches_of_run ran with
  | refused asked => exact .of_denied some_page asked
  | unsealed asked failed => exact .of_unsealed asked (Stays.copied _ _ _) failed
  | done asked closed noted =>
    obtain ⟨journal, told⟩ := Stub.exists_run_journalAll stubs _ _
    obtain ⟨-, rfl⟩ := Prod.mk.inj (noted.symm.trans told)
    exact (Asks.of_sealed asked (Stays.copied _ _ _) closed rfl _).carry ⟨rfl, rfl, rfl⟩
      ⟨rfl, rfl, rfl⟩

/-- A magazine gets as many pages as it should, which are never too small for a slot. -/
theorem asks_of_run_magazine {outcome : Except Fault Magazine} (some_ : 0 < count)
    (room : ClosureSlot.stride ≤ pages.policy.pageSize)
    (ran : (Magazine.allocate count).run.run pages = (outcome, after)) :
    pages.Asks (count * pages.policy.pageSize) count outcome after := by
  have some_page : 0 < pages.policy.pageSize := Nat.lt_of_lt_of_le (by decide) room
  have counted : pages.policy.pagesFor (pages.policy.bytesOf (max count 1)) = count := by
    rw [Nat.max_eq_left some_]
    exact PagePolicy.pagesFor_bytesOf some_page some_
  have asks {result : Except Fault Magazine} {last : PageStore} (asks : pages.Asks
      (pages.policy.bytesOf (max count 1))
      (pages.policy.pagesFor (pages.policy.bytesOf (max count 1))) result last) :
      pages.Asks (count * pages.policy.pageSize) count result last := by
    rwa [counted, Nat.max_eq_left some_] at asks
  cases Magazine.allocates_of_run ran with
  | refused asked => exact asks (.of_denied some_page asked)
  | small asked tight =>
    obtain ⟨rfl, rfl⟩ := supplied_of_run_allocate asked
    rw [byteSize_supplied, counted, PagePolicy.bytesOf] at tight
    have fits := Nat.mul_le_mul some_ room
    rw [Nat.one_mul] at fits
    exact absurd tight (Nat.ne_of_gt (Nat.div_pos fits (by decide)))
  | unsealed asked failed => exact asks (.of_unsealed asked ⟨rfl, rfl, rfl⟩ failed)
  | cut asked fits closed =>
    exact asks ((Asks.of_sealed asked ⟨rfl, rfl, rfl⟩ closed rfl _).carry ⟨rfl, rfl, rfl⟩
      ⟨rfl, rfl, rfl⟩)

end PageStore

namespace World

variable {config : Config} {world after : World} {number : Nat} {pool later : Pool}

theorem eq_or_of_pool?_withPool {other : Nat} {found : Pool}
    (known : (world.withPool number pool).pool? other = some found) :
    found = pool ∨ world.pool? other = some found := by
  simp only [pool?, withPool, List.getElem?_modify] at known
  split at known
  next same =>
    cases there : world.pools[other]? with
    | none => simp [there] at known
    | some entry => exact .inl (by simpa [there] using known.symm)
  next => exact .inr (by simpa [pool?] using known)

structure Configured (config : Config) (world : World) : Prop where
  agrees : world.config = config
  sized : world.policy.pageSize = config.pageBytes
  pools : ∀ number pool, world.pool? number = some pool →
    pool.magazinePages = config.magazinePages

namespace Configured

variable (configured : world.Configured config)
include configured

theorem congr (same : after.config = world.config)
    (sized : after.policy.pageSize = world.policy.pageSize) (pools : after.pools = world.pools) :
    after.Configured config := by
  refine ⟨same.trans configured.agrees, sized.trans configured.sized, fun number pool found => ?_⟩
  rw [pool?, pools] at found
  exact configured.pools number pool found

theorem withPool (number : Nat) (sized : later.magazinePages = config.magazinePages) :
    (world.withPool number later).Configured config := by
  refine ⟨configured.agrees, configured.sized, fun other found known => ?_⟩
  rcases eq_or_of_pool?_withPool known with rfl | earlier
  · exact sized
  · exact configured.pools other found earlier

theorem takeSlot (found : world.pool? number = some pool) {outcome : Except Fault ClosureSlot}
    (ran : (takeSlot number pool).run.run world = (outcome, after)) : after.Configured config := by
  have sized := configured.pools number pool found
  rcases cases_of_run_takeSlot ran with
    ⟨pages, source, slot, recycled, taken, supplies, offered, rfl, rfl⟩ |
      ⟨-, fault, pages, failed, rfl, rfl⟩
  · obtain ⟨stocked, policy⟩ := supplies.stocked
    have supplied : World.Configured config { world with toPageStore := pages } :=
      configured.congr rfl (congrArg (·.pageSize) policy) rfl
    have same := (Pool.of_take?_eq_some offered).1.trans stocked.kept.1
    exact (supplied.withPool number (same.trans sized)).congr rfl rfl rfl
  · have policy := (Magazine.cut_of_run_allocate failed).1
    exact configured.congr rfl (congrArg (·.pageSize) policy) rfl

end Configured

theorem handles_configured : Handles (Configured config) where
  replace _ number _ _ found retains configured :=
    configured.withPool number (retains.magazinePages.trans (configured.pools number _ found))
  events _ _ configured := configured.congr rfl rfl rfl
  takeSlot _ _ _ _ _ found configured ran := configured.takeSlot found ran

theorem configured_of_sites (world : World) (sites : List CallSite)
    (configured : world.Configured config) : World.Configured config { world with sites } :=
  configured.congr rfl rfl rfl

theorem resolvable_configured : Resolvable (Configured config) where
  choose _ _ _ _ _ _ := by
    rintro world outcome after configured ran
    cases ran
    exact ⟨configured.congr rfl rfl rfl, fun _ _ => trivial⟩
  resolve _ _ := by
    rintro world outcome after configured ran
    cases ran
    exact ⟨configured.congr rfl rfl rfl, fun _ _ => trivial⟩

theorem keeps_configured_openPool (type : CallbackType) :
    (openPool type).Keeps (Configured config) := by
  intro world outcome after configured ran
  refine ⟨?_, fun _ _ => trivial⟩
  have entered : ((poolNumber type).run world).2.Configured config := by
    rw [run_poolNumber]
    split
    next => exact configured
    next =>
      refine ⟨configured.agrees, configured.sized, fun number pool found => ?_⟩
      rw [pool?_newEntry] at found
      exact configured.pools number pool found
  rw [run_openPool] at ran
  generalize (poolNumber type).run world = entry at *
  obtain ⟨number, opened⟩ := entry
  dsimp only at entered ran
  split at ran
  next =>
    cases ran
    exact entered
  next =>
    split at ran
    next shape built prepared =>
      cases ran
      have kept := (resolvable_configured.keeps_buildShape type _ _ _ entered prepared).1
      exact kept.withPool number (congrArg Config.magazinePages kept.agrees)
    next fault built failed =>
      cases ran
      exact (resolvable_configured.keeps_buildShape type _ _ _ entered failed).1

/-- Worlds that come of one that was started so, with pages of the system. What happens elsewhere
changes neither the configuration nor the size of pages. -/
inductive ComesOf (config : Config) : World → Prop
  | start {world : World} (started : World.start config none = .ok world) : ComesOf config world
  | step {before after : World} (comes : ComesOf config before) (step : Step before after)
      (kept : before.Elsewhere after →
        after.config = before.config ∧ after.policy.pageSize = before.policy.pageSize) :
      ComesOf config after

theorem ComesOf.reachable (comes : ComesOf config world) : world.Reachable := by
  induction comes with
  | start started => exact ⟨config, none, _, started, .refl⟩
  | step comes step kept ih => exact ih.step step

/-- Whatever is done, a world stays as its configuration says. -/
theorem Configured.step (configured : world.Configured config) (sound : world.Sound)
    (step : Step world after)
    (kept : world.Elsewhere after →
      after.config = world.config ∧ after.policy.pageSize = world.policy.pageSize) :
    after.Configured config := by
  have worked {Result : Type} {action : Act World Result}
      (keeps : action.Keeps (Configured config)) :
      (action.run.run world).2.Configured config :=
    (keeps world _ _ configured rfl).1
  have elsewhere (moved : world.Elsewhere after) : after.Configured config :=
    configured.congr (kept moved).1 (kept moved).2 moved.pools
  cases step with
  | openPool type => exact worked (keeps_configured_openPool type)
  | newSite type =>
    exact worked (keeps_newSite keeps_configured_openPool configured_of_sites type)
  | newCallableAt | retainCallable | releaseCallable => exact configured.congr rfl rfl rfl
  | closureFor type serial =>
    exact worked (handles_configured.closureFor keeps_configured_openPool type serial)
  | slotFor number serial => exact worked (handles_configured.slotFor number serial)
  | closureAddress site serial =>
    exact worked (handles_configured.closureAddress configured_of_sites site serial)
  | notifyUnreachable number identity =>
    exact handles_configured.notifyUnreachable number identity configured
  | postUnreachable number identity =>
    exact handles_configured.postUnreachable number identity configured
  | reclaimPool number => exact handles_configured.reclaimPool number configured
  | reclaim => exact handles_configured.reclaim configured
  | enter pointer entry number slot handedOut code =>
    exact elsewhere (sound.elsewhere_enter entry handedOut code)
  | elsewhere moved => exact elsewhere moved

theorem configured_of_start
    (word : ∀ size, config.pageSize = some size → size < UInt64.size)
    (started : World.start config none = .ok world) :
    config.validate = .ok () ∧ world.Configured config := by
  rw [World.start] at started
  cases valid : config.validate with
  | error fault =>
    rw [valid] at started
    cases started
  | ok done =>
    rw [valid] at started
    cases started
    refine ⟨rfl, rfl, (Config.pageBytes_bounds valid word).2.1, fun _ _ found => ?_⟩
    cases found

theorem ComesOf.configured (comes : ComesOf config world)
    (word : ∀ size, config.pageSize = some size → size < UInt64.size) :
    config.validate = .ok () ∧ world.Configured config := by
  induction comes with
  | start started => exact configured_of_start word started
  | step comes step kept ih => exact ⟨ih.1, ih.2.step comes.reachable.sound step kept⟩

/-- What asking for a pointer comes to: it is had from the pages that there are, or it comes to
asking for a block of so many. -/
def Obtains {Result : Type} (world : World) (count : Nat) (outcome : Except Fault Result)
    (after : World) : Prop :=
  (∃ result, outcome = .ok result) ∧ world.Stays after.toPageStore ∨
    world.Asks (count * world.policy.pageSize) count outcome after.toPageStore

theorem Obtains.carry {Result : Type} {count : Nat} {outcome : Except Fault Result} {last : World}
    (obtained : world.Obtains count outcome after) {earlier : World}
    (before : earlier.Stays world.toPageStore) (later : after.Stays last.toPageStore) :
    earlier.Obtains count outcome last := by
  rcases obtained with ⟨had, same⟩ | asks
  · exact .inl ⟨had, before.trans (same.trans later)⟩
  · exact .inr (before.policy ▸ asks.carry before later)

theorem stays_registering (world : World) (number : Nat) (registration : Registration) :
    world.Stays (world.registering number registration).toPageStore := by
  rw [registering]
  split
  next pool found =>
    dsimp only
    obtain ⟨events, same⟩ := run_noteReleased (pool.register registration).1.toList
      (world.withPool number (pool.register registration).2)
    rw [same]
    exact ⟨rfl, rfl, rfl⟩
  next => exact ⟨rfl, rfl, rfl⟩

section Obtaining

variable (room : ClosureSlot.stride ≤ world.policy.pageSize)
include room

theorem obtains_of_run_takeSlot (some_ : 0 < pool.magazinePages)
    {outcome : Except Fault ClosureSlot}
    (ran : (takeSlot number pool).run.run world = (outcome, after)) :
    world.Obtains pool.magazinePages outcome after := by
  rcases cases_of_run_takeSlot ran with
    ⟨pages, source, slot, recycled, taken, supplies, offered, rfl, rfl⟩ |
      ⟨-, fault, pages, failed, rfl, rfl⟩
  · cases supplies with
    | enough => exact .inl ⟨⟨slot, rfl⟩, rfl, rfl, rfl⟩
    | restocked missing allocated =>
      have asks := PageStore.asks_of_run_magazine some_ room allocated
      exact .inr ((asks.map fun _ => slot).carry ⟨rfl, rfl, rfl⟩ ⟨rfl, rfl, rfl⟩)
  · exact .inr ((PageStore.asks_of_run_magazine some_ room failed).map fun _ => ⟨0, 0⟩)

variable (found : world.pool? number = some pool) (some_ : 0 < pool.magazinePages) {serial : Nat}
include found some_

theorem obtains_of_run_slotFor {outcome : Except Fault ClosureSlot}
    (ran : (slotFor number serial).run.run world = (outcome, after)) :
    world.Obtains pool.magazinePages outcome after := by
  obtain ⟨events, -, there, asked⟩ := drained_of_run_slotFor found ran
  have same : (pool.drain world.isAlive).2.magazinePages = pool.magazinePages :=
    (Pool.Wanes.drain world.isAlive).magazinePages
  rw [← same] at some_ ⊢
  cases asked with
  | unknown missing => cases there.symm.trans missing
  | kept => exact .inl ⟨⟨_, rfl⟩, rfl, rfl, rfl⟩
  | taken known missing taken =>
    cases there.symm.trans known
    -- the pages are those of the world in which the reports were worked off
    have obtained := obtains_of_run_takeSlot (by exact room) some_ taken
    exact obtained.carry ⟨rfl, rfl, rfl⟩ (stays_registering _ _ _)
  | refused known failed =>
    cases there.symm.trans known
    have obtained := obtains_of_run_takeSlot (by exact room) some_ failed
    exact obtained.carry ⟨rfl, rfl, rfl⟩ ⟨rfl, rfl, rfl⟩

theorem obtains_of_run_closureAddress {position : Nat} {site : CallSite}
    (present : world.sites[position]? = some site) (same : site.pool = number)
    {outcome : Except Fault Nat}
    (ran : (closureAddress position serial).run.run world = (outcome, after)) :
    world.Obtains pool.magazinePages outcome after := by
  subst same
  cases asksAddress_of_run ran with
  | unknown missing => cases present.symm.trans missing
  | kept => exact .inl ⟨⟨_, rfl⟩, rfl, rfl, rfl⟩
  | asked there given =>
    cases present.symm.trans there
    rcases obtains_of_run_slotFor room found some_ given with ⟨-, same⟩ | asks
    · exact .inl ⟨⟨_, rfl⟩, same.trans ⟨rfl, rfl, rfl⟩⟩
    · exact .inr ((asks.map ClosureSlot.code).carry ⟨rfl, rfl, rfl⟩ ⟨rfl, rfl, rfl⟩)
  | refused there failed =>
    cases present.symm.trans there
    rcases obtains_of_run_slotFor room found some_ failed with ⟨⟨_, done⟩, -⟩ | asks
    · cases done
    · exact .inr (asks.map ClosureSlot.code)

end Obtaining

/-- Pages are of the configured size, stubs get as many of them as they fill, and a new magazine
gets as many as configured. All sizes are exact, and what fails reports as many bytes as it asked
for; but where a word cannot hold the bytes and a page more, the program ends. -/
theorem sizes_exact (word : ∀ size, config.pageSize = some size → size < UInt64.size)
    (comes : ComesOf config world) :
    let page := config.pageBytes
    PagePolicy.rounds (config.pageSize.getD PagePolicy.systemPageSize) = true ∧
      world.policy.pageSize = page ∧ 2 * page ≤ UInt64.size ∧
      (∀ stubs outcome after, (Stub.attach stubs).run.run world.toPageStore = (outcome, after) →
        let bytes := Stub.reservedSize stubs
        world.Asks bytes (max ((bytes + page - 1) / page) 1) outcome after) ∧
      ∀ number pool, world.pool? number = some pool → ∀ serial,
        (∀ outcome after, (slotFor number serial).run.run world = (outcome, after) →
          world.Obtains config.magazinePages outcome after) ∧
        ∀ position site, world.sites[position]? = some site → site.pool = number →
          ∀ outcome after, (closureAddress position serial).run.run world = (outcome, after) →
            world.Obtains config.magazinePages outcome after := by
  obtain ⟨validated, -, sized, pools⟩ := comes.configured word
  obtain ⟨rounds, -, whole, half⟩ := Config.pageBytes_bounds validated word
  have room : ClosureSlot.stride ≤ world.policy.pageSize :=
    sized ▸ Nat.le_trans (by decide) whole
  refine ⟨rounds, sized, half, fun stubs outcome after ran => ?_,
    fun number pool found serial => ?_⟩
  · have asks := PageStore.asks_of_run_attach (Nat.lt_of_lt_of_le (by decide) room) ran
    simp only [PagePolicy.pagesFor, sized] at asks
    exact asks
  · have configured := pools number pool found
    have some_ : 0 < pool.magazinePages :=
      configured ▸ Nat.pos_of_ne_zero (Config.of_validate validated).2.1
    rw [← configured]
    exact ⟨fun _ _ => obtains_of_run_slotFor room found some_,
      fun _ _ present same _ _ => obtains_of_run_closureAddress room found some_ present same⟩

def immense : Config := { magazinePages := 2 ^ 52 }

def vast : World :=
  (World.start immense none).toOption.getD (initial immense (.system PagePolicy.systemPageSize))

def crowded : World :=
  let opened := ((openPool signal).run.run vast).2
  ((newCallableAt 7 fun _ => return .panic).run opened).2

theorem comesOf_crowded : ComesOf immense crowded := by
  have validated : immense.validate = .ok () := rfl
  have started : World.start immense none = .ok vast := by
    rw [vast, World.start, validated]
    rfl
  have opened : ComesOf immense ((openPool signal).run.run vast).2 :=
    .step (.start started) (.openPool signal) fun _ => ⟨rfl, rfl⟩
  refine opened.step ?_ fun _ => ⟨rfl, rfl⟩
  refine .newCallableAt 7 _ fun serial lives => ?_
  exact absurd (lt_of_isAlive lives) (Nat.not_lt_zero serial)

/-- No word holds the bytes of the magazine: the program ends. -/
theorem sizes_exact_immense :
    ComesOf immense crowded ∧ crowded.abort? = none ∧ ∃ pool fault after,
      crowded.pool? 0 = some pool ∧ pool.magazinePages = 2 ^ 52 ∧
        (slotFor 0 0).run.run crowded = (.error fault, after) ∧
          after.abort? = some .arithmetic := by
  have wanted : (crowded.pool? 0).map (·.magazinePages) = some (2 ^ 52) := by decide +kernel
  obtain ⟨pool, found, wanted⟩ := Option.map_eq_some_iff.1 wanted
  have goesOn : crowded.abort? = none := by decide +kernel
  have unmet : ((slotFor 0 0).run.run crowded).1.toBool = false := by decide +kernel
  have word : ∀ size, immense.pageSize = some size → size < UInt64.size := by
    intro size sized
    cases sized
  obtain ⟨-, sized, -, -, pools⟩ := sizes_exact word comesOf_crowded
  have large : UInt64.size ≤ immense.magazinePages * immense.pageBytes := by decide
  cases ran : (slotFor 0 0).run.run crowded with
  | mk outcome after =>
  rw [ran] at unmet
  rcases (pools 0 pool found 0).1 outcome after ran with ⟨⟨_, rfl⟩, -⟩ | asks
  · cases unmet
  · rw [sized] at asks
    cases asks with
    | granted => cases unmet
    | missing fits =>
      rw [sized] at fits
      omega
    | ended large ends =>
      exact ⟨comesOf_crowded, goesOn, pool, _, after, found, wanted, rfl, ends⟩

end World

end ForeignCall
