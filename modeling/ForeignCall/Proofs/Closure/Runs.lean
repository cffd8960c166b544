import ForeignCall.Proofs.Closure.Entering

/-! Runs: whatever is done with callables, pools and call sites, in whatever order, the closures of
a world stay sound. -/

namespace ForeignCall

namespace World

theorem run_notifyUnreachable (world : World) (number identity : Nat) :
    ((notifyUnreachable number identity).run world).2 =
      match (world.pool? number).bind (·.notify world.isAlive identity) with
      | some (slot, after) => ((noteReleased [slot]).run (world.withPool number after)).2
      | none => world := by
  simp only [notifyUnreachable, StateT.run_bind, StateT.run_get, pure_bind]
  cases (world.pool? number).bind (·.notify world.isAlive identity) <;> rfl

theorem tends_notifyUnreachable {world : World} (sound : world.Sound) (number identity : Nat) :
    world.Tends ((notifyUnreachable number identity).run world).2 := by
  rw [run_notifyUnreachable]
  split
  next slot after reported =>
    obtain ⟨pool, found, notified⟩ := Option.bind_eq_some_iff.1 reported
    exact tends_replace sound found ((sound.accounts number pool found).notify notified)
      (Pool.keeps_notify notified) _
  next => exact .refl sound

theorem run_postUnreachable (world : World) (number identity : Nat) :
    ((postUnreachable number identity).run world).2 =
      match world.pool? number with
      | some pool => world.withPool number (pool.post identity)
      | none => world := by
  simp only [postUnreachable, StateT.run_bind, StateT.run_get, pure_bind]
  cases world.pool? number <;> rfl

theorem tends_postUnreachable {world : World} (sound : world.Sound) (number identity : Nat) :
    world.Tends ((postUnreachable number identity).run world).2 := by
  rw [run_postUnreachable]
  split
  next pool found =>
    obtain ⟨bases, within, all, counted, bound, identities⟩ := sound.accounts number pool found
    exact sound.replace found ⟨bases, within, all, counted, bound, identities⟩
      (.of_registrations rfl rfl (fun _ known _ => known) fun _ => .inl)
  next => exact .refl sound

theorem tends_newSite {world : World} (sound : world.Sound) (type : CallbackType) :
    world.Tends ((newSite type).run.run world).2 := by
  rw [newSite, Act.run_bind]
  split
  next number opened found =>
    have tended := (of_run_openPool sound found).1
    have listed : opened.Elsewhere { opened with sites := opened.sites ++ [{ pool := number }] } :=
      ⟨rfl, rfl, rfl, id, Nat.le_refl _⟩
    exact tended.trans (listed.tends tended.sound)
  next fault opened failed => exact (of_run_openPool sound failed).1

theorem run_reclaimPool (world : World) (number : Nat) :
    ((reclaimPool number).run world).2 =
      let drained := ((drainPool number).run world).2
      match drained.pool? number with
      | some pool =>
        let (slots, after) := pool.sweep drained.isAlive
        ((noteReleased slots).run (drained.withPool number after)).2
      | none => drained := by
  rw [reclaimPool, StateT.run_bind]
  obtain ⟨_, drained⟩ : Unit × World := (drainPool number).run world
  simp only [StateT.run_bind, StateT.run_get, pure_bind]
  change ((match drained.pool? number with
    | some pool => _
    | none => _ : StateM World Nat).run drained).2 = _
  cases drained.pool? number <;> rfl

theorem tends_reclaimPool {world : World} (sound : world.Sound) (number : Nat) :
    world.Tends ((reclaimPool number).run world).2 := by
  have tended := tends_drainPool sound number
  rw [run_reclaimPool]
  generalize ((drainPool number).run world).2 = drained at *
  dsimp only
  split
  next pool found =>
    have accounts := tended.sound.accounts number pool found
    exact tended.trans (tends_replace tended.sound found (accounts.sweep _) Pool.keeps_sweep _)
  next => exact tended

theorem run_reclaimPools (number : Nat) (rest : List Nat) (world : World) :
    (((number :: rest).mapM reclaimPool).run world).2 =
      ((rest.mapM reclaimPool).run ((reclaimPool number).run world).2).2 := by
  rw [List.mapM_cons]
  rfl

theorem tends_reclaim {world : World} (sound : world.Sound) :
    world.Tends (reclaim.run world).2 := by
  change world.Tends (((List.range world.pools.length).mapM reclaimPool).run world).2
  generalize List.range world.pools.length = numbers
  induction numbers generalizing world with
  | nil => exact .refl sound
  | cons number rest ih =>
      rw [run_reclaimPools]
      have first := tends_reclaimPool sound number
      exact first.trans (ih first.sound)

theorem Sound.newCallableAt {world : World} (sound : world.Sound) {identity : Nat}
    (unused : ∀ serial, world.isAlive serial = true → world.identity serial ≠ identity)
    (respond : List Value → StateM Heap Response) :
    ((newCallableAt identity respond).run world).2.Sound ∧
      world.Extends ((newCallableAt identity respond).run world).2 := by
  let callables := world.callables ++ [⟨identity, 1, respond⟩]
  let after : World := { world with callables }
  have earlier : ∀ serial < world.callables.length,
      callables[serial]? = world.callables[serial]? :=
    fun serial below => List.getElem?_append_left below
  have sameIdentity : ∀ serial < world.callables.length,
      after.identity serial = world.identity serial := by
    intro serial below
    rw [World.identity, World.identity, earlier serial below]
  have sameAlive : ∀ serial < world.callables.length,
      after.isAlive serial = world.isAlive serial := by
    intro serial below
    rw [isAlive, isAlive, earlier serial below]
  have last : after.identity world.callables.length = identity := by
    simp [World.identity, after, callables]
  have known : ∀ serial, after.isAlive serial = true →
      serial < world.callables.length ∧ world.isAlive serial = true ∨
        serial = world.callables.length := by
    intro serial lives
    have below := lt_of_isAlive lives
    simp only [after, callables, List.length_append, List.length_singleton] at below
    rcases Nat.lt_succ_iff_lt_or_eq.1 below with earlier | same
    · exact .inl ⟨earlier, sameAlive serial earlier ▸ lives⟩
    · exact .inr same
  refine sound.withCallables (by simp) sameIdentity
    (fun serial below lives => sameAlive serial below ▸ lives) ?_
  intro serial other lives otherLives same
  rcases known serial lives with ⟨below, before⟩ | rfl
  · rcases known other otherLives with ⟨otherBelow, otherBefore⟩ | rfl
    · exact sound.identities serial other before otherBefore
        ((sameIdentity _ below).symm.trans (same.trans (sameIdentity _ otherBelow)))
    · exact absurd ((sameIdentity _ below).symm.trans (same.trans last)) (unused serial before)
  · rcases known other otherLives with ⟨otherBelow, otherBefore⟩ | rfl
    · exact absurd ((sameIdentity _ otherBelow).symm.trans (same.symm.trans last))
        (unused other otherBefore)
    · rfl

theorem Sound.changeOwners {world : World} (sound : world.Sound) {serial : Nat}
    (lives : world.isAlive serial = true) (change : Nat → Nat) :
    ((changeOwners serial change).run world).2.Sound ∧
      world.Extends ((changeOwners serial change).run world).2 := by
  let callables := world.callables.modify serial fun callable =>
    { callable with owners := change callable.owners }
  let after : World := { world with callables }
  have sameIdentity : ∀ other, after.identity other = world.identity other := by
    intro other
    simp only [World.identity, after, callables, List.getElem?_modify]
    by_cases same : serial = other
    · cases world.callables[other]? <;> simp [same]
    · simp [same]
  have fewer : ∀ other, after.isAlive other = true → world.isAlive other = true := by
    intro other still
    by_cases same : serial = other
    · exact same ▸ lives
    · simpa [isAlive, after, callables, List.getElem?_modify, same] using still
  refine sound.withCallables (by simp) (fun other _ => sameIdentity other)
    (fun other _ => fewer other) ?_
  intro other rival still rivalStill same
  exact sound.identities other rival (fewer other still) (fewer rival rivalStill)
    ((sameIdentity other).symm.trans (same.trans (sameIdentity rival)))

theorem Sound.elsewhere_enter {world : World} (sound : world.Sound) {pointer : UInt64}
    (entry : EntryRegisters) {number : Nat} {slot : ClosureSlot}
    (handedOut : world.HandedOut number slot) (code : pointer.toNat = slot.code) :
    world.Elsewhere ((enter pointer entry).run world).2 := by
  obtain ⟨pool, found, known⟩ := handedOut
  rw [sound.run_enter found known code entry]
  exact (of_run_enterClosure (sound.accounts number pool found) (sound.shapes number pool found)
    rfl).1

/-- One thing that is done. Only callables that live are passed, and only their owners can pass them
on; nothing else is asked of anyone. -/
inductive Step (before : World) : World → Prop
  | openPool (type : CallbackType) : Step before ((openPool type).run.run before).2
  | newSite (type : CallbackType) : Step before ((newSite type).run.run before).2
  | newCallableAt (identity : Nat) (respond : List Value → StateM Heap Response)
      (unused : ∀ serial, before.isAlive serial = true → before.identity serial ≠ identity) :
      Step before ((newCallableAt identity respond).run before).2
  | retainCallable (serial : Nat) (lives : before.isAlive serial = true) :
      Step before ((retainCallable serial).run before).2
  | releaseCallable (serial : Nat) (lives : before.isAlive serial = true) :
      Step before ((releaseCallable serial).run before).2
  | closureFor (type : CallbackType) (serial : Nat) (lives : before.isAlive serial = true) :
      Step before ((closureFor type serial).run.run before).2
  | slotFor (number serial : Nat) (lives : before.isAlive serial = true) :
      Step before ((slotFor number serial).run.run before).2
  | closureAddress (site serial : Nat) (lives : before.isAlive serial = true) :
      Step before ((closureAddress site serial).run.run before).2
  | notifyUnreachable (number identity : Nat) :
      Step before ((notifyUnreachable number identity).run before).2
  | postUnreachable (number identity : Nat) :
      Step before ((postUnreachable number identity).run before).2
  | reclaimPool (number : Nat) : Step before ((reclaimPool number).run before).2
  | reclaim : Step before (reclaim.run before).2
  | enter (pointer : UInt64) (entry : EntryRegisters) (number : Nat) (slot : ClosureSlot)
      (handedOut : before.HandedOut number slot) (code : pointer.toNat = slot.code) :
      Step before ((enter pointer entry).run before).2
  | elsewhere {after : World} (elsewhere : before.Elsewhere after) : Step before after

theorem Step.sound {before after : World} (step : Step before after) (sound : before.Sound) :
    after.Sound ∧ before.Extends after := by
  have worked : ∀ {later : World}, before.Tends later → later.Sound ∧ before.Extends later :=
    fun tended => ⟨tended.sound, tended.extended⟩
  cases step with
  | openPool type => exact worked (of_run_openPool sound rfl).1
  | newSite type => exact worked (tends_newSite sound type)
  | newCallableAt identity respond unused => exact sound.newCallableAt unused respond
  | retainCallable serial lives => exact sound.changeOwners lives _
  | releaseCallable serial lives => exact sound.changeOwners lives _
  | closureFor type serial lives => exact worked (of_run_closureFor sound lives rfl).1
  | slotFor number serial lives => exact worked (of_run_slotFor sound lives rfl).1
  | closureAddress site serial lives => exact worked (of_run_closureAddress sound lives rfl).1
  | notifyUnreachable number identity => exact worked (tends_notifyUnreachable sound _ _)
  | postUnreachable number identity => exact worked (tends_postUnreachable sound _ _)
  | reclaimPool number => exact worked (tends_reclaimPool sound number)
  | reclaim => exact worked (tends_reclaim sound)
  | enter pointer entry number slot handedOut code =>
      exact worked ((sound.elsewhere_enter entry handedOut code).tends sound)
  | elsewhere elsewhere => exact worked (elsewhere.tends sound)

inductive Steps (start : World) : World → Prop
  | refl : Steps start start
  | step {between last : World} (steps : Steps start between) (step : Step between last) :
      Steps start last

theorem Steps.sound {start last : World} (steps : Steps start last) (sound : start.Sound) :
    last.Sound ∧ start.Extends last := by
  induction steps with
  | refl => exact ⟨sound, .refl start⟩
  | step _ step ih =>
      obtain ⟨kept, extended⟩ := step.sound ih.1
      exact ⟨kept, ih.2.trans extended⟩

def Reachable (world : World) : Prop :=
  ∃ config policy started, World.start config policy = .ok started ∧ Steps started world

theorem sound_initial (config : Config) (policy : PagePolicy) : (initial config policy).Sound := by
  have absent : ∀ number property, ¬(initial config policy).AtPool number property := by
    rintro number property ⟨_, found, _⟩
    cases found
  constructor
  case accounts =>
    intro _ _ found
    cases found
  case shapes =>
    intro _ _ found
    cases found
  case named => exact fun _ _ known => absurd known (absent _ _)
  case placed =>
    refine ⟨Nat.le_refl _, ?_, ?_⟩
    · exact fun _ _ known => absurd known (absent _ _)
    · exact fun _ _ _ _ _ known => absurd known (absent _ _)
  case types => exact List.nodup_nil
  case identities => exact fun _ _ lives => absurd (lt_of_isAlive lives) (Nat.not_lt_zero _)
  case builtin => rfl
  case cached =>
    intro _ _ found
    cases found

theorem sound_of_start {config : Config} {policy : Option PagePolicy} {world : World}
    (started : World.start config policy = .ok world) : world.Sound := by
  obtain ⟨granting, event, rfl⟩ := eq_of_start started
  exact ((elsewhere_record _ event).tends (sound_initial config granting)).sound

theorem Reachable.sound {world : World} (reachable : world.Reachable) : world.Sound := by
  obtain ⟨_, _, started, start, steps⟩ := reachable
  exact (steps.sound (sound_of_start start)).1

def signal : CallbackType := ⟨[], .void, .default⟩

def small : World :=
  (World.start {} (some (.limited 256 none true))).toOption.getD
    (initial {} (.limited 256 none true))

def peopled : World :=
  let first := ((newCallableAt 7 fun _ => return .panic).run small).2
  ((newCallableAt 8 fun _ => return .panic).run first).2

theorem reachable_peopled : peopled.Reachable := by
  have first : Steps small ((newCallableAt 7 fun _ => return .panic).run small).2 :=
    .step .refl (.newCallableAt 7 _ fun serial lives =>
      absurd (lt_of_isAlive lives) (Nat.not_lt_zero serial))
  have second : Steps small peopled := by
    refine first.step (.newCallableAt 8 _ fun serial lives => ?_)
    obtain rfl : serial = 0 := Nat.lt_one_iff.1 (lt_of_isAlive lives)
    decide
  exact ⟨{}, some (.limited 256 none true), small, rfl, second⟩

theorem Reachable.step {before after : World} (reachable : before.Reachable)
    (step : Step before after) : after.Reachable := by
  obtain ⟨config, policy, started, start, steps⟩ := reachable
  exact ⟨config, policy, started, start, steps.step step⟩

end World

end ForeignCall
