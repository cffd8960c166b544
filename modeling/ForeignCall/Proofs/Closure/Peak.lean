import ForeignCall.Proofs.Closure.Books
import ForeignCall.Proofs.Closure.Packing

/-! How a pool grows: it takes a new slot only when all others are registered, and so it has as many
as callables were ever registered in it at one time. -/

namespace ForeignCall

namespace World

def statsOf (world : World) (number : Nat) : PoolStats :=
  ((world.pool? number).map (·.stats)).getD {}

theorem statsOf_of_pool? {world : World} {number : Nat} {pool : Pool}
    (found : world.pool? number = some pool) : world.statsOf number = pool.stats := by
  rw [statsOf, found]
  rfl

def peak (number : Nat) (worlds : List World) : Nat :=
  (worlds.map fun world => (world.statsOf number).live).foldr max 0

/-- New callables have other identities than those that are registered in a pool. -/
def Unreused (number : Nat) (before after : World) : Prop :=
  ∀ serial, before.callables.length ≤ serial → serial < after.callables.length →
    ∀ registration, before.Registered number registration →
      after.identity serial ≠ registration.identity

theorem unreused_newCallableAt {number : Nat} {world : World} {identity : Nat}
    (respond : List Value → StateM Heap Response)
    (unregistered : (world.pool? number).all
      (fun pool => pool.registrations.all (·.identity != identity)) = true) :
    Unreused number world ((newCallableAt identity respond).run world).2 := by
  rintro serial above below registration ⟨pool, found, known⟩ same
  rw [found] at unregistered
  have others := List.all_eq_true.1 unregistered registration known
  have last : serial = world.callables.length := by
    have length : ((newCallableAt identity respond).run world).2.callables.length =
        world.callables.length + 1 := List.length_append
    omega
  have named : ((newCallableAt identity respond).run world).2.identity serial = identity := by
    change ((world.callables ++ [_])[serial]?.map (·.identity)).getD serial = identity
    simp [last]
  simp [← same, named] at others

theorem unreused_of_length {number : Nat} {before after : World}
    (same : after.callables.length = before.callables.length) : Unreused number before after :=
  fun _ above below => absurd below (Nat.not_lt_of_le (same ▸ above))

/-- A run, and the worlds that it came through before the last one. Pages are always of one size,
and an identity that is registered in a pool is not used again. -/
inductive Run (number : Nat) : World → List World → Prop
  | start {config : Config} {policy : Option PagePolicy} {world : World}
      (started : World.start config policy = .ok world) : Run number world []
  | step {world after : World} {earlier : List World} (run : Run number world earlier)
      (step : Step world after) (sized : after.policy.pageSize = world.policy.pageSize)
      (unreused : Unreused number world after) : Run number after (world :: earlier)

inductive Waned : Option Pool → Option Pool → Prop
  | missing : Waned none none
  | opened {shape : ClosureShape} {magazinePages : Nat} {after : Pool}
      (wanes : Pool.Wanes { shape, magazinePages } after) : Waned none (some after)
  | kept {before after : Pool} (wanes : before.Wanes after) : Waned (some before) (some after)

namespace Waned

theorem refl (pool : Option Pool) : Waned pool pool := by
  cases pool with
  | none => exact .missing
  | some pool => exact .kept (.refl pool)

theorem trans {first second third : Option Pool} (left : Waned first second)
    (right : Waned second third) : Waned first third := by
  cases left with
  | missing => exact right
  | opened wanes =>
      cases right with
      | kept later => exact .opened (wanes.trans later)
  | kept wanes =>
      cases right with
      | kept later => exact .kept (wanes.trans later)

end Waned

structure Idles (number : Nat) (before after : World) : Prop where
  sound : after.Sound
  callables : after.callables = before.callables
  sized : after.policy.pageSize = before.policy.pageSize
  waned : Waned (before.pool? number) (after.pool? number)

/-- A pool has handed out so many slots, from magazines of which all but the newest are used up, and
each identity that is registered in it is that of one callable. -/
structure Peaked (number high : Nat) (world : World) : Prop where
  sound : world.Sound
  allocated : (world.statsOf number).allocated = high
  packed : ∀ pool, world.pool? number = some pool →
    pool.Packed (world.policy.slotsFor pool.magazinePages)
  unshared : ∀ registration, world.Registered number registration → ∀ serial,
    world.isAlive serial = true → world.identity serial = registration.identity →
      serial = registration.callable

namespace Peaked

variable {number high : Nat} {world after : World}

theorem live_le (peaked : world.Peaked number high) : (world.statsOf number).live ≤ high := by
  rw [← peaked.allocated]
  cases found : world.pool? number with
  | none => simp [statsOf, found]
  | some pool =>
      rw [statsOf_of_pool? found]
      exact Nat.le.intro (peaked.sound.accounts number pool found).balance

theorem settle (peaked : world.Peaked number high) :
    world.Peaked number (max (world.statsOf number).live high) := by
  rw [Nat.max_eq_right peaked.live_le]
  exact peaked

theorem idle (peaked : world.Peaked number high) (idles : Idles number world after) :
    after.Peaked number high := by
  obtain ⟨sound, callables, sized, waned⟩ := idles
  obtain ⟨_, allocated, packed, unshared⟩ := peaked
  refine ⟨sound, ?_, ?_, ?_⟩
  · rw [← allocated, statsOf, statsOf]
    generalize world.pool? number = former at waned
    generalize after.pool? number = latter at waned
    cases waned with
    | missing => rfl
    | opened wanes => exact wanes.allocated
    | kept wanes => exact wanes.allocated
  · intro pool found
    rw [found] at waned
    generalize same : world.pool? number = former at waned
    cases waned with
    | opened wanes =>
        have empty : pool.magazines = [] := wanes.magazines
        exact ⟨by simp [empty], by simp [empty], by simp [empty]⟩
    | kept wanes =>
        rw [wanes.magazinePages, PagePolicy.slotsFor_of_pageSize sized]
        exact (packed _ same).of_magazines wanes.magazines
  · rintro registration ⟨pool, found, known⟩
    rw [isAlive_of_callables callables, identity_of_callables callables]
    rw [found] at waned
    generalize same : world.pool? number = former at waned
    cases waned with
    | opened wanes => cases wanes.registrations known
    | kept wanes => exact unshared registration ⟨_, same, wanes.registrations known⟩

theorem enter (peaked : world.Peaked number high) {pool source taken : Pool} {recycled : Bool}
    {registration : Registration} (found : world.pool? number = some pool)
    (stocked : pool.Stocked (world.policy.slotsFor pool.magazinePages) source)
    (offered : source.take? = some (registration.slot, recycled, taken))
    (named : world.identity registration.callable = registration.identity)
    (lives : world.isAlive registration.callable = true)
    (missing : pool.find? world.isAlive registration.identity registration.callable = none)
    (sound : after.Sound) (callables : after.callables = world.callables)
    (sized : after.policy.pageSize = world.policy.pageSize)
    (entered : after.pool? number = some (taken.register registration).2) :
    after.Peaked number (max (after.statsOf number).live high) := by
  have accounts := peaked.sound.accounts number pool found
  have registrations : taken.registrations = pool.registrations :=
    (Pool.registrations_take? offered).trans stocked.kept.2.2.2
  have unregistered : ∀ other ∈ taken.registrations, other.identity ≠ registration.identity := by
    rw [registrations]
    rintro ⟨identity, callable, slot⟩ known rfl
    obtain rfl := peaked.unshared _ ⟨pool, found, known⟩ registration.callable lives named
    cases missing.symm.trans (accounts.find?_eq_some.2 ⟨known, lives⟩)
  rw [Pool.register_of_unregistered unregistered] at entered
  have balance : (taken.registrations ++ [registration]).length + taken.free.length =
      taken.allocated := (sound.accounts number _ entered).balance
  obtain ⟨sourcePages, sourceAllocated, sourceFree, _⟩ := stocked.kept
  obtain ⟨pages, turn⟩ := Pool.of_take?_eq_some offered
  refine ⟨sound, ?_, ?_, ?_⟩
  · have before : pool.allocated = high := by
      rw [← peaked.allocated, statsOf_of_pool? found]
      rfl
    rw [statsOf_of_pool? entered]
    change taken.allocated = max (taken.registrations ++ [registration]).length high
    rcases turn with ⟨_, _, same⟩ | ⟨_, _, used, fresh, _⟩
    · omega
    · rw [used, List.length_nil] at balance
      omega
  · intro later there
    cases entered.symm.trans there
    change Pool.Packed _ (after.policy.slotsFor taken.magazinePages)
    rw [pages, sourcePages, PagePolicy.slotsFor_of_pageSize sized]
    have packed := stocked.packed accounts (peaked.packed pool found) offered
    exact packed.of_magazines rfl
  · rintro other ⟨later, there, known⟩ serial still same
    cases entered.symm.trans there
    rw [isAlive_of_callables callables] at still
    rw [identity_of_callables callables] at same
    change other ∈ taken.registrations ++ [registration] at known
    rw [registrations] at known
    rcases List.mem_append.1 known with earlier | last
    · exact peaked.unshared other ⟨pool, found, earlier⟩ serial still same
    · obtain rfl := List.mem_singleton.1 last
      exact peaked.sound.identities serial _ still lives (same.trans named.symm)

end Peaked

namespace Idles

variable {number : Nat} {world after : World}

theorem refl (number : Nat) (sound : world.Sound) : Idles number world world :=
  ⟨sound, rfl, rfl, .refl _⟩

theorem elsewhere (number : Nat) (elsewhere : world.Elsewhere after) (sound : world.Sound)
    (sized : after.policy.pageSize = world.policy.pageSize) : Idles number world after :=
  ⟨(elsewhere.tends sound).sound, elsewhere.callables, sized, elsewhere.pool? number ▸ .refl _⟩

theorem replace (number : Nat) {other : Nat} {pool later : Pool}
    (found : world.pool? other = some pool) (wanes : pool.Wanes later) (slots : List ClosureSlot)
    (tended : world.Tends ((noteReleased slots).run (world.withPool other later)).2) :
    Idles number world ((noteReleased slots).run (world.withPool other later)).2 := by
  refine ⟨tended.sound, tended.callables, by rw [policy_noteReleased]; rfl, ?_⟩
  rw [(elsewhere_noteReleased slots _).pool?, pool?_withPool world (present_of_pool? found)]
  split
  next same =>
    rw [same, found]
    exact .kept wanes
  next => exact .refl _

theorem build (number : Nat) {other : Nat} (sound : world.Sound)
    (present : other < world.pools.length) (missing : world.pool? other = none)
    {shape : ClosureShape} (quiet : shape.Quiet) (magazinePages : Nat) :
    Idles number world (world.withPool other { shape, magazinePages }) := by
  refine ⟨(sound.build present missing quiet magazinePages).sound, rfl, rfl, ?_⟩
  rw [pool?_withPool world present]
  split
  next same =>
    rw [same, missing]
    exact .opened (.refl _)
  next => exact .refl _

theorem trans {first second third : World} (left : Idles number first second)
    (right : Idles number second third) : Idles number first third :=
  ⟨right.sound, right.callables.trans left.callables, right.sized.trans left.sized,
    left.waned.trans right.waned⟩

end Idles

variable {world : World}

theorem idles_drainPool (sound : world.Sound) (number other : Nat) :
    Idles number world ((drainPool other).run world).2 := by
  have tended := tends_drainPool sound other
  rw [run_drainPool] at tended ⊢
  split at tended
  next pool found => exact .replace number found (.drain _) _ tended
  next => exact .refl number sound

theorem idles_notifyUnreachable (sound : world.Sound) (number other identity : Nat) :
    Idles number world ((notifyUnreachable other identity).run world).2 := by
  have tended := tends_notifyUnreachable sound other identity
  rw [run_notifyUnreachable] at tended ⊢
  split at tended
  next slot later reported =>
    obtain ⟨pool, found, notified⟩ := Option.bind_eq_some_iff.1 reported
    exact .replace number found (.notify notified) _ tended
  next => exact .refl number sound

theorem idles_postUnreachable (sound : world.Sound) (number other identity : Nat) :
    Idles number world ((postUnreachable other identity).run world).2 := by
  have tended := tends_postUnreachable sound other identity
  rw [run_postUnreachable] at tended ⊢
  split at tended
  next pool found =>
    have posted : pool.Wanes (pool.post identity) := ⟨rfl, rfl, rfl, fun _ => id⟩
    exact Idles.replace number found posted [] tended
  next => exact .refl number sound

theorem idles_reclaimPool (sound : world.Sound) (number other : Nat) :
    Idles number world ((reclaimPool other).run world).2 := by
  have drained := idles_drainPool sound number other
  have tended := tends_reclaimPool sound other
  rw [run_reclaimPool] at tended ⊢
  generalize ((drainPool other).run world).2 = between at *
  dsimp only at tended ⊢
  cases found : between.pool? other with
  | none => exact drained
  | some pool =>
      have accounts := drained.sound.accounts other pool found
      refine drained.trans (.replace number found (.sweep _) _ ?_)
      exact tends_replace drained.sound found (accounts.sweep _) Pool.keeps_sweep _

theorem idles_reclaim (sound : world.Sound) (number : Nat) :
    Idles number world (reclaim.run world).2 := by
  change Idles number world (((List.range world.pools.length).mapM reclaimPool).run world).2
  generalize List.range world.pools.length = numbers
  induction numbers generalizing world with
  | nil => exact .refl number sound
  | cons first rest ih =>
      rw [run_reclaimPools]
      have begun := idles_reclaimPool sound number first
      exact begun.trans (ih begun.sound)

theorem idles_poolNumber (sound : world.Sound) (number : Nat) (type : CallbackType) :
    Idles number world ((poolNumber type).run world).2 := by
  have tended := (tends_poolNumber sound type).1
  refine ⟨tended.sound, tended.callables, ?_, ?_⟩ <;> rw [run_poolNumber]
  · split <;> rfl
  · split
    next => exact .refl _
    next => exact (world.pool?_newEntry type number).symm ▸ .refl _

theorem idles_openPool (sound : world.Sound) (number : Nat) {type : CallbackType} {after : World}
    {outcome : Except Fault Nat} (ran : (openPool type).run.run world = (outcome, after)) :
    Idles number world after := by
  have begun := idles_poolNumber sound number type
  obtain ⟨tended, typed⟩ := tends_poolNumber sound type
  rcases cases_of_run_openPool tended.sound.builtin tended.sound.cached ran with
    ⟨_, rfl⟩ | ⟨absent, built, consulted, ending⟩
  · exact begun
  have same := consulted.elsewhere
  have sized : built.policy.pageSize = ((poolNumber type).run world).2.policy.pageSize := by
    obtain ⟨_, _, rfl, _⟩ := consulted
    rfl
  have prepared := begun.trans (.elsewhere number same tended.sound sized)
  rcases ending with ⟨_, _, rfl⟩ | ⟨shape, quiet, _, rfl⟩
  · exact prepared
  · have kept := same.tends tended.sound
    exact prepared.trans (.build number kept.sound (kept.extended.hasType typed).lt
      ((same.pool? _).trans absent) quiet _)

theorem idles_newSite (sound : world.Sound) (number : Nat) (type : CallbackType) :
    Idles number world ((newSite type).run.run world).2 := by
  rw [newSite, Act.run_bind]
  split
  next other opened found =>
    have opens := idles_openPool sound number found
    exact opens.trans (.elsewhere number ⟨rfl, rfl, rfl, id, Nat.le_refl _⟩ opens.sound rfl)
  next fault opened failed => exact idles_openPool sound number failed

namespace Peaked

variable {number high : Nat} {after : World}

theorem slotFor (peaked : world.Peaked number high) {other serial : Nat}
    (lives : world.isAlive serial = true) {outcome : Except Fault ClosureSlot}
    (ran : (slotFor other serial).run.run world = (outcome, after)) :
    after.Peaked number (max (after.statsOf number).live high) ∧
      after.policy.pageSize = world.policy.pageSize := by
  obtain ⟨sound, _, callables⟩ := (of_run_slotFor peaked.sound lives ran).1
  have drained := idles_drainPool peaked.sound number other
  have asked := asksSlot_of_run ran
  generalize ((drainPool other).run world).2 = ready at drained asked
  have begun := peaked.idle drained
  have same : after.callables = ready.callables := callables.trans drained.callables.symm
  rw [← isAlive_of_callables drained.callables] at lives
  cases asked with
  | unknown => exact ⟨begun.settle, drained.sized⟩
  | kept => exact ⟨begun.settle, drained.sized⟩
  | @taken pool slot between found missing given =>
      rcases cases_of_run_takeSlot given with
        ⟨pages, source, _, recycled, taken, supplies, offered, ⟨⟩, rfl⟩ | ⟨_, _, _, _, ⟨⟩, _⟩
      obtain ⟨stocked, policy⟩ := supplies.stocked
      have supplied : other < { ready with toPageStore := pages }.pools.length :=
        present_of_pool? found
      let between :=
        ({ ready with toPageStore := pages }.withPool other taken).assigned slot recycled
      have there : ∀ index, between.pool? index =
          if index = other then some taken else ready.pool? index :=
        pool?_withPool { ready with toPageStore := pages } supplied taken
      have present : between.pool? other = some taken := by rw [there, if_pos rfl]
      let registration : Registration := ⟨ready.identity serial, serial, slot⟩
      let slots := (taken.register registration).1.toList
      let last := ((noteReleased slots).run
        (between.withPool other (taken.register registration).2)).2
      have registered : between.registering other registration = last :=
        registering_of_pool? present registration
      have sized : last.policy = ready.policy := (policy_noteReleased slots _).trans policy
      have entered : last.pool? number = if number = other then
          some (taken.register registration).2 else ready.pool? number := by
        rw [(elsewhere_noteReleased slots _).pool?,
          pool?_withPool between (present_of_pool? present), there]
        by_cases here : number = other <;> simp [here]
      rw [registered] at sound same ⊢
      refine ⟨?_, (congrArg (·.pageSize) sized).trans drained.sized⟩
      by_cases here : number = other
      · subst here
        rw [if_pos rfl] at entered
        exact begun.enter found stocked offered rfl lives missing sound same
          (congrArg (·.pageSize) sized) entered
      · rw [if_neg here] at entered
        have idles : Idles number ready last :=
          ⟨sound, same, congrArg (·.pageSize) sized, entered ▸ .refl _⟩
        exact (begun.idle idles).settle
  | refused found failed =>
      rcases cases_of_run_takeSlot failed with
        ⟨_, _, _, _, _, _, _, ⟨⟩, _⟩ | ⟨_, _, pages, allocated, _, rfl⟩
      have policy := (Magazine.cut_of_run_allocate allocated).1
      have sized : pages.policy.pageSize = ready.policy.pageSize := congrArg (·.pageSize) policy
      have idles : Idles number ready { ready with toPageStore := pages } :=
        ⟨sound, same, sized, .refl _⟩
      exact ⟨(begun.idle idles).settle, sized.trans drained.sized⟩

theorem closureFor (peaked : world.Peaked number high) {type : CallbackType} {serial : Nat}
    (lives : world.isAlive serial = true) {outcome : Except Fault Nat}
    (ran : (closureFor type serial).run.run world = (outcome, after)) :
    after.Peaked number (max (after.statsOf number).live high) := by
  rw [World.closureFor, Act.run_bind] at ran
  split at ran
  next other opened made =>
    have idles := idles_openPool peaked.sound number made
    have lives : opened.isAlive serial = true := isAlive_of_callables idles.callables ▸ lives
    rw [Act.run_bind] at ran
    split at ran
    next => cases ran; exact ((peaked.idle idles).slotFor lives ‹_›).1
    next => cases ran; exact ((peaked.idle idles).slotFor lives ‹_›).1
  next fault opened failed =>
    cases ran
    exact (peaked.idle (idles_openPool peaked.sound number failed)).settle

theorem closureAddress (peaked : world.Peaked number high) {site serial : Nat}
    (lives : world.isAlive serial = true) {outcome : Except Fault Nat}
    (ran : (closureAddress site serial).run.run world = (outcome, after)) :
    after.Peaked number (max (after.statsOf number).live high) := by
  cases asksAddress_of_run ran with
  | unknown => exact peaked.settle
  | kept => exact peaked.settle
  | asked present asked =>
      have grown := (peaked.slotFor lives asked).1
      exact grown.idle (.elsewhere number ⟨rfl, rfl, rfl, id, Nat.le_refl _⟩ grown.sound rfl)
  | refused present failed => exact (peaked.slotFor lives failed).1

theorem callables (peaked : world.Peaked number high) (sound : after.Sound)
    (extended : world.Extends after) (pools : after.pools = world.pools)
    (sized : after.policy.pageSize = world.policy.pageSize)
    (unreused : Unreused number world after) : after.Peaked number high := by
  have same : after.pool? number = world.pool? number := by rw [pool?, pool?, pools]
  refine ⟨sound, ?_, ?_, ?_⟩
  · rw [statsOf, same]
    exact peaked.allocated
  · intro pool found
    rw [PagePolicy.slotsFor_of_pageSize sized]
    exact peaked.packed pool (same ▸ found)
  · rintro registration ⟨pool, found, known⟩ serial lives identity
    have registered : world.Registered number registration := ⟨pool, same ▸ found, known⟩
    by_cases earlier : serial < world.callables.length
    · refine peaked.unshared registration registered serial
        (extended.alive serial earlier lives) ?_
      rw [← extended.identity serial earlier]
      exact identity
    · exact absurd identity (unreused serial (Nat.le_of_not_lt earlier) (lt_of_isAlive lives)
        registration registered)

theorem step (peaked : world.Peaked number high) (step : Step world after)
    (sized : after.policy.pageSize = world.policy.pageSize)
    (unreused : Unreused number world after) :
    after.Peaked number (max (after.statsOf number).live high) := by
  obtain ⟨sound, extended⟩ := step.sound peaked.sound
  have idle : Idles number world after →
      after.Peaked number (max (after.statsOf number).live high) :=
    fun idles => (peaked.idle idles).settle
  cases step with
  | openPool type => exact idle (idles_openPool peaked.sound number rfl)
  | newSite type => exact idle (idles_newSite peaked.sound number type)
  | newCallableAt identity respond unused =>
      exact (peaked.callables sound extended rfl sized unreused).settle
  | retainCallable serial lives =>
      exact (peaked.callables sound extended rfl sized unreused).settle
  | releaseCallable serial lives =>
      exact (peaked.callables sound extended rfl sized unreused).settle
  | closureFor type serial lives => exact peaked.closureFor lives rfl
  | slotFor other serial lives => exact (peaked.slotFor lives rfl).1
  | closureAddress site serial lives => exact peaked.closureAddress lives rfl
  | notifyUnreachable other identity =>
      exact idle (idles_notifyUnreachable peaked.sound number other identity)
  | postUnreachable other identity =>
      exact idle (idles_postUnreachable peaked.sound number other identity)
  | reclaimPool other => exact idle (idles_reclaimPool peaked.sound number other)
  | reclaim => exact idle (idles_reclaim peaked.sound number)
  | enter pointer entry other slot handedOut code =>
      have elsewhere := peaked.sound.elsewhere_enter entry handedOut code
      exact idle (.elsewhere number elsewhere peaked.sound sized)
  | elsewhere elsewhere => exact idle (.elsewhere number elsewhere peaked.sound sized)

end Peaked

theorem pools_of_start {config : Config} {policy : Option PagePolicy}
    (started : World.start config policy = .ok world) : world.pools = [] := by
  obtain ⟨granting, event, rfl⟩ := eq_of_start started
  rfl

theorem Run.peaked {number : Nat} {earlier : List World} (run : Run number world earlier) :
    world.Peaked number (peak number (world :: earlier)) := by
  induction run with
  | @start _ _ world started =>
      have closed : world.pool? number = none := by
        rw [pool?, pools_of_start started]
        rfl
      refine ⟨sound_of_start started, ?_, ?_, ?_⟩
      · simp [peak, statsOf, closed]
      · intro pool found
        cases closed.symm.trans found
      · rintro registration ⟨pool, found, _⟩
        cases closed.symm.trans found
  | step _ step sized unreused ih => exact ih.step step sized unreused

/-- In a run that uses no registered identity again, a pool has handed out as many slots as
callables were ever registered in it at one time, and has just the magazines for them. A slot is
fresh only when none is free, pages are asked for only when all slots are registered, and then for
one magazine that suffices. -/
theorem Run.slots_peak {number : Nat} {earlier : List World} (run : Run number world earlier)
    {pool : Pool} (found : world.pool? number = some pool) :
    let capacity := world.policy.slotsFor pool.magazinePages
    let drained := ((drainPool number).run world).2
    pool.stats.allocated = peak number (world :: earlier) ∧
    (∀ magazine ∈ pool.magazines, magazine.capacity = capacity) ∧
    pool.stats.magazines = (pool.stats.allocated + capacity - 1) / capacity ∧
    ∀ ready, drained.pool? number = some ready →
      ∀ outcome after, (takeSlot number ready).run.run drained = (outcome, after) →
        let grown := after.statsOf number
        (grown.allocated ≠ ready.allocated → ready.free = []) ∧
        (after.history ≠ drained.history ∨ grown.magazines ≠ ready.magazines.length →
          ready.free = [] ∧ ∀ magazine ∈ ready.magazines, ∀ index < magazine.capacity,
            magazine.slot index ∈ ready.registered) ∧
        grown.magazines ≤ ready.magazines.length + 1 ∧
        ∀ fault, outcome = .error fault →
          (Magazine.allocate ready.magazinePages).run.run drained.toPageStore =
            (.error fault, after.toPageStore) := by
  intro capacity drained
  have peaked := run.peaked
  have accounts := peaked.sound.accounts number pool found
  have packed := peaked.packed pool found
  refine ⟨?_, packed.capacity, packed.length_magazines accounts, ?_⟩
  · rw [← peaked.allocated, statsOf_of_pool? found]
  intro ready there outcome after ran grown
  have begun := peaked.idle (idles_drainPool peaked.sound number number)
  have accounts := begun.sound.accounts number ready there
  have inUse := fun missing => And.intro (Pool.free_of_take?_eq_none missing)
    (Pool.registered_of_take?_eq_none accounts (begun.packed ready there) missing)
  rcases cases_of_run_takeSlot ran with
    ⟨pages, source, slot, recycled, taken, supplies, offered, rfl, rfl⟩ |
      ⟨missing, fault, pages, failed, rfl, rfl⟩
  · have supplied : number < { drained with toPageStore := pages }.pools.length :=
      present_of_pool? there
    have counts : grown = taken.stats := by
      refine statsOf_of_pool? ?_
      exact (pool?_withPool _ supplied taken number).trans (if_pos rfl)
    obtain ⟨fresh, one, more⟩ := supplies.stocked.1.grows offered
    rw [counts]
    refine ⟨fresh, ?_, one, by rintro _ ⟨⟩⟩
    rintro (asked | mapped)
    · cases supplies with
      | enough => exact absurd rfl asked
      | restocked missing => exact inUse missing
    · exact inUse (more mapped)
  · have counts : grown = ready.stats := statsOf_of_pool? there
    rw [counts]
    refine ⟨fun more => absurd rfl more, fun _ => inUse missing, Nat.le_succ _, ?_⟩
    rintro _ ⟨⟩
    exact failed

def renewed : World :=
  ((closureFor signal 2).run.run ((newCallableAt 7 fun _ => return .panic).run orphaned).2).2

theorem Run.slots_peak_renewed : ∃ earlier, Run 0 renewed earlier ∧
    peak 0 (renewed :: earlier) = 2 ∧ (renewed.pool? 0).map (·.stats.recycled) = some 1 ∧
      (renewed.pool? 0).map (·.stats.magazines) = some 1 ∧
        ∀ pool, renewed.pool? 0 = some pool → pool.stats.allocated = 2 := by
  have booted : World.start {} (some (.limited 256 none true)) = .ok small := rfl
  have started : Run 0 small [] := .start booted
  have one := started.step (.newCallableAt 7 (fun _ => return .panic)
    fun serial lives => absurd (lt_of_isAlive lives) (Nat.not_lt_zero serial)) rfl
    (unreused_newCallableAt _ rfl)
  have two := one.step (.newCallableAt 8 (fun _ => return .panic) fun serial lives => by
    obtain rfl : serial = 0 := Nat.lt_one_iff.1 (lt_of_isAlive lives)
    decide) rfl (unreused_newCallableAt _ rfl)
  have first := two.step (.closureFor signal 0 (by decide +kernel)) (by decide +kernel)
    (unreused_of_length (by decide +kernel))
  have second := first.step (.closureFor signal 1 (by decide +kernel)) (by decide +kernel)
    (unreused_of_length (by decide +kernel))
  have gone := second.step (.releaseCallable 0 (by decide +kernel)) (by decide +kernel)
    (unreused_of_length (by decide +kernel))
  have swept := gone.step (.reclaimPool 0) (by decide +kernel)
    (unreused_of_length (by decide +kernel))
  have unused : ∀ serial, orphaned.isAlive serial = true → orphaned.identity serial ≠ 7 := by
    intro serial lives same
    have below := lt_of_isAlive lives
    rw [show orphaned.callables.length = 2 by decide +kernel] at below
    obtain rfl | rfl : serial = 0 ∨ serial = 1 := by omega
    · exact absurd lives (by decide +kernel)
    · exact absurd same (by decide +kernel)
  have three := swept.step (.newCallableAt 7 (fun _ => return .panic) unused) (by decide +kernel)
    (unreused_newCallableAt _ (by decide +kernel))
  have run := three.step (.closureFor signal 2 (by decide +kernel))
    (by decide +kernel) (unreused_of_length (by decide +kernel))
  refine ⟨_, run, by decide +kernel, by decide +kernel, by decide +kernel, fun pool found => ?_⟩
  exact (run.slots_peak found).1.trans (by decide +kernel)

end World

end ForeignCall
