import ForeignCall.Proofs.Closure.Runs

/-! Pointers to callables in every run: a callable that lives keeps its pointer, no two share one,
and a call through a pointer reaches the callable that is registered there. -/

namespace ForeignCall

namespace World

inductive Requested (type : CallbackType) (serial : Nat) (before : World) : Nat → World → Prop
  | closureFor {address : Nat} {after : World}
      (ran : (closureFor type serial).run.run before = (.ok address, after)) :
      Requested type serial before address after
  | slotFor {number : Nat} {slot : ClosureSlot} {after : World}
      (typed : before.HasType number type)
      (ran : (slotFor number serial).run.run before = (.ok slot, after)) :
      Requested type serial before slot.code after
  | closureAddress {number : Nat} {site : CallSite} {address : Nat} {after : World}
      (present : before.sites[number]? = some site) (typed : before.HasType site.pool type)
      (ran : (closureAddress number serial).run.run before = (.ok address, after)) :
      Requested type serial before address after

def Holds (world : World) (type : CallbackType) (serial address : Nat) : Prop :=
  ∃ number slot, world.HasType number type ∧ slot.code = address ∧
    world.Registered number ⟨world.identity serial, serial, slot⟩

variable {world : World} {type : CallbackType} {serial address : Nat}

theorem Requested.holds {after : World} (requested : Requested type serial world address after)
    (sound : world.Sound) (lives : world.isAlive serial = true) :
    world.Tends after ∧ after.Holds type serial address := by
  have same : ∀ {later : World}, world.Tends later → later.identity = world.identity :=
    fun tended => identity_of_callables tended.callables
  cases requested with
  | closureFor ran =>
      obtain ⟨tended, entered⟩ := of_run_closureFor sound lives ran
      obtain ⟨number, slot, typed, code, registered⟩ := entered address rfl
      exact ⟨tended, number, slot, typed, code, same tended ▸ registered⟩
  | slotFor typed ran =>
      obtain ⟨tended, entered⟩ := of_run_slotFor sound lives ran
      exact ⟨tended, _, _, tended.extended.hasType typed, rfl, same tended ▸ entered _ rfl⟩
  | closureAddress present typed ran =>
      obtain ⟨tended, entered⟩ := of_run_closureAddress sound lives ran
      obtain ⟨site, slot, there, code, registered⟩ := entered address rfl
      cases present.symm.trans there
      exact ⟨tended, _, slot, tended.extended.hasType typed, code, same tended ▸ registered⟩

theorem Holds.later {later : World} (holds : world.Holds type serial address)
    (sound : world.Sound) (extended : world.Extends later) (lives : later.isAlive serial = true) :
    later.Holds type serial address := by
  obtain ⟨number, slot, typed, code, registered⟩ := holds
  have below := (sound.named number _ registered).1
  refine ⟨number, slot, extended.hasType typed, code, ?_⟩
  rw [extended.identity serial below]
  exact extended.registered number _ registered below lives

theorem Sound.eq_of_hasType (sound : world.Sound) {number other : Nat}
    (known : world.HasType number type) (again : world.HasType other type) : number = other :=
  (List.getElem?_inj (List.getElem?_eq_some_iff.1 known).1 sound.types).1 (known.trans again.symm)

theorem Sound.handedOut_of_registered (sound : world.Sound) {number : Nat}
    {registration : Registration} (registered : world.Registered number registration) :
    world.HandedOut number registration.slot := by
  obtain ⟨pool, found, known⟩ := registered
  have listed : registration.slot ∈ pool.registered := List.mem_map_of_mem known
  have all := (sound.accounts number pool found).all
  exact ⟨pool, found, all.mem_iff.1 (by simp [listed])⟩

theorem Sound.eq_of_registered (sound : world.Sound) {number other : Nat}
    {left right : Registration} (known : world.Registered number left)
    (again : world.Registered other right) (same : left.slot.code = right.slot.code) :
    number = other ∧ left = right := by
  obtain ⟨pool, found, handed⟩ := sound.handedOut_of_registered known
  obtain ⟨rival, beside, handedToo⟩ := sound.handedOut_of_registered again
  obtain ⟨first, held, index, below, leftSlot⟩ := sound.placed_slot found handed
  obtain ⟨second, heldToo, position, belowToo, rightSlot⟩ := sound.placed_slot beside handedToo
  rw [← leftSlot, ← rightSlot] at same
  obtain ⟨rfl, slots⟩ := sound.eq_of_code_eq found beside held heldToo below belowToo same
  rw [leftSlot, rightSlot] at slots
  cases found.symm.trans beside
  obtain ⟨_, there, leftKnown⟩ := known
  cases found.symm.trans there
  obtain ⟨_, there, rightKnown⟩ := again
  cases found.symm.trans there
  exact ⟨rfl, (sound.accounts _ pool found).eq_of_slot_eq leftKnown rightKnown slots⟩

theorem Sound.holds_iff (sound : world.Sound) {other : CallbackType} {rival pointer : Nat}
    (holds : world.Holds type serial address) (holdsToo : world.Holds other rival pointer) :
    pointer = address ↔ other = type ∧ rival = serial := by
  obtain ⟨number, slot, typed, rfl, known⟩ := holds
  obtain ⟨place, spot, typedToo, rfl, again⟩ := holdsToo
  constructor
  · intro same
    obtain ⟨rfl, registrations⟩ := sound.eq_of_registered again known same
    have types := typedToo.symm.trans typed
    exact ⟨Option.some.inj types, congrArg Registration.callable registrations⟩
  · rintro ⟨rfl, rfl⟩
    obtain rfl := sound.eq_of_hasType typed typedToo
    obtain ⟨pool, found, present⟩ := known
    obtain ⟨_, there, presentToo⟩ := again
    cases found.symm.trans there
    have accounts := sound.accounts _ pool found
    have registrations := eq_of_nodup_map accounts.identities presentToo present rfl
    exact congrArg (fun registration => registration.slot.code) registrations

/-- In every run a callable that lives has one pointer for a callback type, however often and
wherever it is passed, and shares it with no other; a call through a pointer that was given out runs
the callable that is registered there, if that lives and the arguments convert, and otherwise none
and returns zero; and a call site remembers nothing that the registry would not answer. -/
theorem pointers_faithful {world : World} (reachable : world.Reachable) :
    (∀ type serial address granted later, world.isAlive serial = true →
      Requested type serial world address granted → Steps granted later →
      (∃ number slot, later.HasType number type ∧ later.HandedOut number slot ∧
        slot.code = address) ∧
      (later.isAlive serial = true → ∀ other rival pointer after, later.isAlive rival = true →
        Requested other rival later pointer after →
          (pointer = address ↔ other = type ∧ rival = serial))) ∧
    (∀ number pool slot pointer entry, world.pool? number = some pool → slot ∈ pool.handedOut →
      pointer.toNat = slot.code →
      let (returned, after) := (enter pointer entry).run world
      (∀ serial arguments, world.Reaches pool slot (imagesOf pool entry) serial arguments →
        after.invocations = world.invocations ++ [(serial, arguments)]) ∧
      ((∀ serial arguments, ¬world.Reaches pool slot (imagesOf pool entry) serial arguments) →
        after.invocations = world.invocations ∧ returned = ⟨0, 0⟩)) ∧
    (∀ site serial slot, world.rememberedSlot? site serial = some slot →
      ∃ pool, world.pool? site.pool = some pool ∧
        pool.find? world.isAlive (world.identity serial) serial = some slot) := by
  have sound := reachable.sound
  refine ⟨?_, ?_, ?_⟩
  · intro type serial address granted later lives first steps
    obtain ⟨tended, holds⟩ := first.holds sound lives
    obtain ⟨kept, extended⟩ := steps.sound tended.sound
    constructor
    · obtain ⟨number, slot, typed, code, registered⟩ := holds
      have handedOut := tended.sound.handedOut_of_registered registered
      exact ⟨number, slot, extended.hasType typed, extended.handedOut number slot handedOut, code⟩
    · intro still other rival pointer after rivalLives second
      obtain ⟨worked, holdsToo⟩ := second.holds kept rivalLives
      have holds := holds.later tended.sound (extended.trans worked.extended)
        (isAlive_of_callables worked.callables ▸ still)
      exact worked.sound.holds_iff holds holdsToo
  · intro number pool slot pointer entry found known code
    rw [sound.run_enter found known code entry]
    have accounts := sound.accounts number pool found
    generalize ran : (enterClosure pool slot entry).run world = result
    obtain ⟨returned, after⟩ := result
    obtain ⟨_, outcome⟩ := of_run_enterClosure accounts (sound.shapes number pool found) ran
    constructor
    · intro serial arguments reaches
      rcases outcome with ⟨_, _, reached, recorded⟩ | ⟨never, _⟩
      · obtain ⟨rfl, rfl⟩ := reaches.unique accounts reached
        exact recorded
      · exact absurd reaches (never serial arguments)
    · intro never
      rcases outcome with ⟨serial, arguments, reached, _⟩ | ⟨_, unchanged⟩
      · exact absurd reached (never serial arguments)
      · exact unchanged
  · intro site serial slot remembered
    obtain ⟨pool, found, _, answer⟩ := find?_of_rememberedSlot? sound remembered
    exact ⟨pool, found, answer⟩

theorem pointers_faithful_peopled :
    ∃ granted after, Requested signal 0 peopled 0x101000 granted ∧
      Requested signal 1 granted 0x101080 after ∧
      (0x101080 = 0x101000 ↔ signal = signal ∧ 1 = 0) := by
  have first : Requested signal 0 peopled 0x101000 ((closureFor signal 0).run.run peopled).2 :=
    .closureFor (Act.run_of_toOption (by decide +kernel))
  have second : Requested signal 1 ((closureFor signal 0).run.run peopled).2 0x101080
      ((closureFor signal 1).run.run ((closureFor signal 0).run.run peopled).2).2 :=
    .closureFor (Act.run_of_toOption (by decide +kernel))
  obtain ⟨_, alone⟩ := (pointers_faithful reachable_peopled).1 signal 0 _ _ _
    (by decide +kernel) first .refl
  exact ⟨_, _, first, second, alone (by decide +kernel) _ _ _ _ (by decide +kernel) second⟩

end World

end ForeignCall
