import ForeignCall.Proofs.Closure.Packing
import ForeignCall.Proofs.Closure.Pointers
import ForeignCall.Proofs.Ownership.Blocks

/-! Slots that are refused because there are no pages for them: what was asked for is given back,
pools and call sites stay as they were, and the same can be asked for again. -/

namespace ForeignCall

namespace PageStore

structure Returned (before after : PageStore) : Prop where
  policy : after.policy = before.policy
  heap : after.heap = before.heap
  blocks : after.blocks = before.blocks ∨
    ∃ block : PageBlock, block.disposed = true ∧ after.blocks = before.blocks ++ [block]
  slotsAllocated : after.counters.slotsAllocated = before.counters.slotsAllocated
  slotsRecycled : after.counters.slotsRecycled = before.counters.slotsRecycled
  magazinesAllocated : after.counters.magazinesAllocated = before.counters.magazinesAllocated

/-- There are pages for one more magazine, which can be counted, and a slot fits into them. -/
structure Serves (pages : PageStore) (count : Nat) : Prop where
  counts : pages.policy.counts (pages.policy.bytesOf (max count 1)) = true
  grants : pages.policy.grants pages.blocks.length
    (pages.policy.pagesFor (pages.policy.bytesOf (max count 1))) = true
  seals : pages.policy.seals = true
  room : 0 < pages.policy.slotsFor count

variable {pages : PageStore}

theorem blocks_release_last {granted : PageStore} {block : PageBlock}
    (blocks : granted.blocks = pages.blocks ++ [block]) :
    ((release pages.blocks.length).run granted).2.blocks = pages.blocks ++ [block.leave] := by
  rw [blocks_release, blocks]
  apply List.ext_getElem?
  intro index
  rw [List.getElem?_modify]
  by_cases last : pages.blocks.length = index
  · simp [← last]
  · simp only [last, if_false, getElem?_concat_of_ne (Ne.symm last)]
    exact Option.map_id'

theorem returned_release (wanted : Nat) (history : List PageEvent) :
    pages.Returned
      ((release pages.blocks.length).run { pages.supplied wanted with history }).2 := by
  let granted : PageStore := { pages.supplied wanted with history }
  have blocks : ((release pages.blocks.length).run granted).2.blocks =
      pages.blocks ++ [PageBlock.leave _] := blocks_release_last rfl
  have others := release_cases pages.blocks.length granted
  change pages.Returned ((release pages.blocks.length).run granted).2
  generalize ((release pages.blocks.length).run granted).2 = after at *
  constructor
  case blocks => exact .inr ⟨_, by simp [PageBlock.leave], blocks⟩
  all_goals obtain rfl | ⟨block, rfl⟩ := others <;> rfl

end PageStore

namespace Magazine

variable {count : Nat} {pages after : PageStore}

theorem returned_of_run_allocate {fault : Fault}
    (ran : (allocate count).run.run pages = (.error fault, after)) :
    (∃ bytes, fault = .memoryExhausted bytes) ∧ pages.Returned after := by
  cases allocates_of_run ran with
  | refused asked =>
    obtain ⟨done, -⟩ | ⟨same, rfl⟩ := PageStore.allocate_cases asked
    · cases done
    · cases same
      exact ⟨⟨_, rfl⟩, rfl, rfl, .inl rfl, rfl, rfl, rfl⟩
  | small asked =>
    obtain ⟨rfl, rfl⟩ := PageStore.supplied_of_run_allocate asked
    exact ⟨⟨_, rfl⟩, PageStore.returned_release _ _⟩
  | unsealed asked failed =>
    obtain ⟨rfl, rfl⟩ := PageStore.supplied_of_run_allocate asked
    obtain ⟨done, -⟩ | ⟨same, rfl⟩ := PageStore.makeExecutable_cases failed
    · cases done
    · cases same
      exact ⟨⟨_, rfl⟩, PageStore.returned_release _ _⟩

theorem run_allocate_of_serves (serves : pages.Serves count) :
    ∃ magazine after, (allocate count).run.run pages = (.ok magazine, after) := by
  let wanted := pages.policy.pagesFor (pages.policy.bytesOf (max count 1))
  have asked := PageStore.run_allocate (pages.policy.bytesOf (max count 1)) pages
  rw [if_pos (Bool.and_eq_true_iff.2 ⟨serves.counts, serves.grants⟩)] at asked
  have room : (pages.supplied wanted).byteSize pages.blocks.length / ClosureSlot.stride ≠ 0 := by
    rw [PageStore.byteSize_supplied]
    exact Nat.ne_of_gt serves.room
  have closed := PageStore.run_makeExecutable pages.blocks.length (pages.supplied wanted)
  rw [show (pages.supplied wanted).policy.seals = true from serves.seals] at closed
  change ∃ magazine after, ((PageStore.allocate (pages.policy.bytesOf (max count 1)) >>= _ :
    Act PageStore Magazine).run.run pages) = (.ok magazine, after)
  rw [Act.run_bind, asked]
  change ∃ magazine after, ((if (pages.supplied wanted).byteSize pages.blocks.length /
    ClosureSlot.stride = 0 then _ else _ : Act PageStore Magazine).run.run _) =
      (.ok magazine, after)
  rw [if_neg room, Act.run_bind, closed]
  exact ⟨_, _, rfl⟩

end Magazine

theorem Pool.recycled_drain (alive : Nat → Bool) (pool : Pool) :
    (pool.drain alive).2.recycled = pool.recycled := by
  rw [drain]
  generalize pool.pending = identities
  suffices kept : ∀ source : Pool,
      (notifyAll alive identities source).2.recycled = source.recycled from kept _
  induction identities with
  | nil => exact fun _ => rfl
  | cons identity rest ih =>
    intro source
    rw [notifyAll]
    split
    next slot after found =>
      rw [notify] at found
      split at found
      next dead _ =>
        cases found
        exact ih _
      next => cases found
    next => exact ih source

namespace World

theorem run_noteReleased (slots : List ClosureSlot) (world : World) :
    ∃ events, ((noteReleased slots).run world).2 = { world with events } := by
  induction slots generalizing world with
  | nil => exact ⟨world.events, rfl⟩
  | cons slot rest ih =>
    obtain ⟨events, same⟩ := ih ((liftM (Store.record (.slotReturned slot.code)) :
      StateM World Unit).run world).2
    exact ⟨events, same⟩

theorem run_drainPool_of_pool? {world : World} {number : Nat} {pool : Pool}
    (found : world.pool? number = some pool) :
    ∃ events, ((drainPool number).run world).2 =
      { world.withPool number (pool.drain world.isAlive).2 with events } := by
  rw [run_drainPool, found]
  exact run_noteReleased _ _

theorem drained_of_run_slotFor {world after : World} {number serial : Nat} {pool : Pool}
    {outcome : Except Fault ClosureSlot} (found : world.pool? number = some pool)
    (ran : (slotFor number serial).run.run world = (outcome, after)) :
    ∃ events, let drained : World :=
        { world.withPool number (pool.drain world.isAlive).2 with events }
      ((drainPool number).run world).2 = drained ∧
        drained.pool? number = some (pool.drain world.isAlive).2 ∧
          AsksSlot drained number serial outcome after := by
  have asked := asksSlot_of_run ran
  obtain ⟨events, drained⟩ := run_drainPool_of_pool? found
  rw [drained] at asked
  refine ⟨events, drained, ?_, asked⟩
  exact (pool?_withPool world (present_of_pool? found) _ number).trans (if_pos rfl)

def Dispatches (world : World) (number address serial : Nat) : Prop :=
  ∃ pool, world.pool? number = some pool ∧
    ∀ (pointer : UInt64) (entry : EntryRegisters) (arguments : List Value) (store : Store),
      pointer.toNat = address →
        (pool.shape.receiveAll (imagesOf pool entry)).run.run world.toStore =
          (.ok arguments, store) →
        ((enter pointer entry).run world).2.invocations =
          world.invocations ++ [(serial, arguments)]

/-- A slot was refused because there were no pages for it. Apart from the reports that were worked
off, pools, call sites and counts are as they were, pages that were granted were given back, and
callables that live are called as before. -/
structure Declines (world : World) (number : Nat) (pool : Pool) (fault : Fault) (after : World) :
    Prop where
  exhausted : ∃ bytes, fault = .memoryExhausted bytes
  pools : after.pools = (world.withPool number (pool.drain world.isAlive).2).pools
  wanes : pool.Wanes (pool.drain world.isAlive).2
  recycled : (pool.drain world.isAlive).2.recycled = pool.recycled
  sites : after.sites = world.sites
  callables : after.callables = world.callables
  returned : world.toPageStore.Returned after.toPageStore
  dispatches : ∀ other registration, world.Registered other registration →
    world.isAlive registration.callable = true →
      after.Dispatches other registration.slot.code registration.callable

def Affords (world : World) (number : Nat) : Prop :=
  ∀ pool, world.pool? number = some pool → world.toPageStore.Serves pool.magazinePages

variable {world : World} {number serial : Nat} {pool : Pool}

theorem Sound.dispatches (sound : world.Sound) {registration : Registration}
    (registered : world.Registered number registration)
    (lives : world.isAlive registration.callable = true) :
    world.Dispatches number registration.slot.code registration.callable := by
  obtain ⟨pool, found, handedOut⟩ := sound.handedOut_of_registered registered
  obtain ⟨_, there, known⟩ := registered
  cases found.symm.trans there
  refine ⟨pool, found, fun pointer entry arguments store code converts => ?_⟩
  have accounts := sound.accounts number pool found
  have reaches : world.Reaches pool registration.slot (imagesOf pool entry)
      registration.callable arguments := ⟨⟨registration, known, rfl, rfl⟩, lives, store, converts⟩
  rw [sound.run_enter found handedOut code entry]
  obtain ⟨_, outcome⟩ := of_run_enterClosure accounts (sound.shapes number pool found) rfl
  rcases outcome with ⟨_, _, reached, recorded⟩ | ⟨never, _⟩
  · obtain ⟨rfl, rfl⟩ := reaches.unique accounts reached
    exact recorded
  · exact absurd reaches (never _ _)

/-- With pages for one more magazine every request for a slot is met. -/
theorem run_slotFor_of_affords (found : world.pool? number = some pool)
    (affords : world.Affords number) :
    ∃ slot after, (slotFor number serial).run.run world = (.ok slot, after) := by
  cases ran : (slotFor number serial).run.run world with
  | mk outcome after =>
  obtain ⟨events, -, there, asked⟩ := drained_of_run_slotFor found ran
  cases asked with
  | unknown missing => cases there.symm.trans missing
  | kept => exact ⟨_, _, rfl⟩
  | taken => exact ⟨_, _, rfl⟩
  | refused known taken =>
    cases there.symm.trans known
    obtain ⟨counts, grants, seals, room⟩ := affords pool found
    obtain ⟨_, _, _, _, _, _, _, done, _⟩ | ⟨_, _, _, refused, _⟩ := cases_of_run_takeSlot taken
    · cases done
    · rw [(Pool.Wanes.drain world.isAlive).magazinePages] at refused
      have serves : PageStore.Serves { world.toPageStore with events } pool.magazinePages :=
        ⟨counts, grants, seals, room⟩
      obtain ⟨magazine, pages, granted⟩ := Magazine.run_allocate_of_serves serves
      cases granted.symm.trans refused

theorem run_closureAddress_of_affords {position : Nat} {site : CallSite}
    (present : world.sites[position]? = some site) (found : world.pool? site.pool = some pool)
    (affords : world.Affords site.pool) :
    ∃ address after, (closureAddress position serial).run.run world = (.ok address, after) := by
  cases ran : (closureAddress position serial).run.run world with
  | mk outcome after =>
  cases asksAddress_of_run ran with
  | unknown missing => cases present.symm.trans missing
  | kept => exact ⟨_, _, rfl⟩
  | asked => exact ⟨_, _, rfl⟩
  | refused there failed =>
    cases present.symm.trans there
    obtain ⟨slot, last, given⟩ := @run_slotFor_of_affords _ _ serial _ found affords
    cases given.symm.trans failed

/-- A slot that a pool refuses leaves no trace but the reports that were worked off. -/
theorem declines_of_run_slotFor (sound : world.Sound) (found : world.pool? number = some pool)
    {fault : Fault} {after : World}
    (ran : (slotFor number serial).run.run world = (.error fault, after)) :
    world.Tends after ∧ world.Declines number pool fault after := by
  have tended := tends_drainPool sound number
  obtain ⟨events, drained, there, asked⟩ := drained_of_run_slotFor found ran
  rw [drained] at tended
  cases asked with
  | unknown missing => cases there.symm.trans missing
  | refused known taken =>
    have worked := ((of_run_takeSlot tended.sound known taken).1 fault rfl).tends tended.sound
    have whole := tended.trans worked
    obtain ⟨_, _, _, _, _, _, _, done, _⟩ | ⟨_, _, pages, refused, same, rfl⟩ :=
      cases_of_run_takeSlot taken
    · cases done
    cases same
    obtain ⟨exhausted, returned⟩ := Magazine.returned_of_run_allocate refused
    refine ⟨whole, exhausted, rfl, .drain _, pool.recycled_drain _, rfl, rfl, { returned with },
      fun other registration known lives => ?_⟩
    · have still : World.isAlive _ registration.callable = true :=
        isAlive_of_callables whole.callables ▸ lives
      have below := (sound.named other registration known).1
      exact worked.sound.dispatches (whole.extended.registered other registration known below still)
        still

/-- Whenever a pool or a call site refuses a slot, pages have run out and nothing has changed but
that reports on unreachable callables were worked off. The same is granted as soon as there are
pages for one more magazine. -/
theorem requests_declined (reachable : world.Reachable)
    (found : world.pool? number = some pool) (serial : Nat) :
    (∀ fault after, (slotFor number serial).run.run world = (.error fault, after) →
      world.Declines number pool fault after ∧
        ∀ later, Steps after later → later.Affords number →
          ∃ slot last, (slotFor number serial).run.run later = (.ok slot, last)) ∧
    ∀ position site, world.sites[position]? = some site → site.pool = number →
      ∀ fault after, (closureAddress position serial).run.run world = (.error fault, after) →
        world.Declines number pool fault after ∧
          ∀ later, Steps after later → ∀ held, later.sites[position]? = some held →
            held.pool = number → later.Affords number →
              ∃ address last, (closureAddress position serial).run.run later =
                (.ok address, last) := by
  have sound := reachable.sound
  -- a pool that was there is there in every later world
  have stays : ∀ {after later : World}, world.Tends after → Steps after later →
      ∃ current, later.pool? number = some current := by
    intro after later tended steps
    have extended := tended.extended.trans (steps.sound tended.sound).2
    obtain ⟨current, present, -⟩ := extended.shapes number pool.shape ⟨pool, found, rfl⟩
    exact ⟨current, present⟩
  constructor
  · intro fault after ran
    obtain ⟨tended, declines⟩ := declines_of_run_slotFor sound found ran
    refine ⟨declines, fun later steps affords => ?_⟩
    obtain ⟨current, present⟩ := stays tended steps
    exact run_slotFor_of_affords present affords
  · rintro position site present rfl fault after ran
    cases asksAddress_of_run ran with
    | unknown missing => cases present.symm.trans missing
    | refused there failed =>
      cases present.symm.trans there
      obtain ⟨tended, declines⟩ := declines_of_run_slotFor sound found failed
      refine ⟨declines, fun later steps held listed same affords => ?_⟩
      obtain ⟨current, there⟩ := stays tended steps
      rw [← same] at there affords
      exact run_closureAddress_of_affords listed there affords

def barren : World :=
  (World.start {} (some (.limited 256 (some 0) true))).toOption.getD
    (initial {} (.limited 256 (some 0) true))

def waiting : World :=
  let opened := ((newSite signal).run.run barren).2
  ((newCallableAt 7 fun _ => return .panic).run opened).2

theorem reachable_waiting : waiting.Reachable := by
  have opened : Steps barren ((newSite signal).run.run barren).2 := .step .refl (.newSite signal)
  have peopled : Steps barren waiting := by
    refine opened.step (.newCallableAt 7 _ fun serial lives => ?_)
    exact absurd (lt_of_isAlive lives) (Nat.not_lt_zero serial)
  exact ⟨{}, some (.limited 256 (some 0) true), barren, rfl, peopled⟩

theorem requests_declined_waiting :
    ∃ pool after later fault, waiting.pool? 0 = some pool ∧
      (closureAddress 0 0).run.run waiting = (.error fault, after) ∧
      waiting.Declines 0 pool fault after ∧ Steps after later ∧
      ∃ address last, (closureAddress 0 0).run.run later = (.ok address, last) := by
  obtain ⟨pool, found⟩ : ∃ pool, waiting.pool? 0 = some pool := ⟨_, rfl⟩
  have pages : pool.magazinePages = 1 := by
    have counted : (waiting.pool? 0).map (·.magazinePages) = some 1 := by decide +kernel
    rw [found] at counted
    exact Option.some.inj counted
  have site : waiting.sites[0]? = some ⟨0, none⟩ := rfl
  obtain ⟨fault, after, ran⟩ : ∃ fault after,
      (closureAddress 0 0).run.run waiting = (.error fault, after) := ⟨_, _, rfl⟩
  obtain ⟨declines, again⟩ :=
    (requests_declined reachable_waiting found 0).2 0 _ site rfl fault after ran
  let later : World := { after with policy := .limited 256 none true }
  have steps : Steps after later :=
    .step .refl (.elsewhere ⟨rfl, rfl, rfl, id, Nat.le_refl _⟩)
  have affords : later.Affords 0 := by
    intro current present
    have there : (waiting.withPool 0 (pool.drain waiting.isAlive).2).pool? 0 =
        some (pool.drain waiting.isAlive).2 :=
      (pool?_withPool waiting (present_of_pool? found) _ 0).trans (if_pos rfl)
    have same : later.pool? 0 = some (pool.drain waiting.isAlive).2 := by
      rw [← there, pool?, pool?, ← declines.pools]
    cases same.symm.trans present
    rw [declines.wanes.magazinePages, pages]
    have room : 0 < (PagePolicy.limited 256 none true).slotsFor 1 := by decide
    exact ⟨rfl, rfl, rfl, room⟩
  exact ⟨pool, after, later, fault, found, ran, declines, steps,
    again later steps _ (declines.sites ▸ site) rfl affords⟩

end World

end ForeignCall
