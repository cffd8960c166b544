import ForeignCall.Proofs.Closure.Allocation
import ForeignCall.Proofs.Closure.Soundness

/-! The operations on the closures of a world keep what is always so, whether they succeed or not.
-/

namespace ForeignCall

namespace World

theorem elsewhere_onPages (world : World) {pages : PageStore}
    (unused : world.memory.unused ≤ pages.memory.unused) :
    world.Elsewhere { world with toPageStore := pages } :=
  ⟨rfl, rfl, rfl, id, unused⟩

theorem of_run_onPages {Result : Type} {action : Act PageStore Result} {world after : World}
    {outcome : Except Fault Result}
    (ran : (liftM action : Act World Result).run.run world = (outcome, after)) :
    action.run.run world.toPageStore = (outcome, after.toPageStore) ∧
      { world with toPageStore := after.toPageStore } = after := by
  cases ran
  exact ⟨rfl, rfl⟩

theorem elsewhere_record (world : World) (event : Event) :
    world.Elsewhere ((liftM (Store.record event) : StateM World Unit).run world).2 :=
  elsewhere_onPages world (Nat.le_refl _)

theorem elsewhere_noteReleased (slots : List ClosureSlot) (world : World) :
    world.Elsewhere ((noteReleased slots).run world).2 := by
  induction slots generalizing world with
  | nil => exact .refl world
  | cons slot rest ih => exact (elsewhere_record world _).trans (ih _)

theorem tends_replace {world : World} (sound : world.Sound) {number : Nat} {pool after : Pool}
    (found : world.pool? number = some pool) (accounts : after.Accounts [])
    (keeps : Pool.Keeps world.isAlive world.Names pool after) (slots : List ClosureSlot) :
    world.Tends ((noteReleased slots).run (world.withPool number after)).2 := by
  have replaced := sound.replace found accounts keeps
  exact replaced.trans ((elsewhere_noteReleased slots _).tends replaced.sound)

theorem run_drainPool (world : World) (number : Nat) :
    (drainPool number).run world =
      match world.pool? number with
      | some pool =>
        (noteReleased (pool.drain world.isAlive).1).run
          (world.withPool number (pool.drain world.isAlive).2)
      | none => ((), world) := by
  simp only [drainPool, StateT.run_bind, StateT.run_get, pure_bind]
  cases world.pool? number <;> rfl

theorem of_run_takeSlot {world after : World} (sound : world.Sound) {number : Nat} {pool : Pool}
    (found : world.pool? number = some pool) {outcome : Except Fault ClosureSlot}
    (ran : (takeSlot number pool).run.run world = (outcome, after)) :
    (∀ fault, outcome = .error fault → world.Elsewhere after) ∧
      ∀ slot, outcome = .ok slot → ∃ between source recycled taken, world.Tends between ∧
        between.pool? number = some source ∧ source.registrations = pool.registrations ∧
          source.take? = some (slot, recycled, taken) ∧
            (between.withPool number taken).Elsewhere after := by
  cases offered : pool.take? with
  | some offer =>
      obtain ⟨slot, recycled, taken⟩ := offer
      rw [takeSlot, offered] at ran
      cases ran
      refine ⟨by rintro _ ⟨⟩, ?_⟩
      rintro _ ⟨⟩
      exact ⟨world, pool, recycled, taken, .refl sound, found, rfl, offered,
        elsewhere_onPages _ (Nat.le_refl _)⟩
  | none =>
      rw [takeSlot, offered] at ran
      dsimp only at ran
      rw [Act.run_bind] at ran
      split at ran
      next magazine between allocated =>
        obtain ⟨allocated, same⟩ := of_run_onPages allocated
        obtain ⟨grown, placed⟩ := Magazine.of_run_allocate allocated
        obtain ⟨unopened, above, below⟩ := placed magazine rfl
        have elsewhere : world.Elsewhere between := same ▸ elsewhere_onPages world grown
        split at ran
        next offer offered =>
          obtain ⟨slot, recycled, taken⟩ := offer
          cases ran
          refine ⟨by rintro _ ⟨⟩, ?_⟩
          rintro _ ⟨⟩
          have present := present_of_pool? (elsewhere.pool? number ▸ found)
          refine ⟨between.withPool number (pool.addMagazine magazine), pool.addMagazine magazine,
            recycled, taken, sound.addMagazine elsewhere found unopened above below, ?_, rfl,
            offered, ?_⟩
          · rw [pool?_withPool between present, if_pos rfl]
          · rw [withPool_withPool]
            exact elsewhere_onPages _ (Nat.le_refl _)
        next =>
          cases ran
          exact ⟨fun _ _ => elsewhere, Act.no_result⟩
      next fault between refused =>
        obtain ⟨refused, same⟩ := of_run_onPages refused
        cases ran
        exact ⟨fun _ _ => same ▸ elsewhere_onPages world (Magazine.of_run_allocate refused).1,
          Act.no_result⟩

theorem tends_drainPool {world : World} (sound : world.Sound) (number : Nat) :
    world.Tends ((drainPool number).run world).2 := by
  rw [run_drainPool]
  split
  next pool found =>
    exact tends_replace sound found ((sound.accounts number pool found).drain _) Pool.keeps_drain _
  next => exact .refl sound

theorem tends_register {world between : World} (sound : world.Sound) {number : Nat}
    {source taken : Pool} {registration : Registration} {recycled : Bool}
    (found : world.pool? number = some source)
    (offered : source.take? = some (registration.slot, recycled, taken))
    (elsewhere : (world.withPool number taken).Elsewhere between)
    (named : world.Names registration) (lives : world.isAlive registration.callable = true)
    (missing : source.find? world.isAlive registration.identity registration.callable = none)
    (slots : List ClosureSlot) :
    let after := ((noteReleased slots).run
      (between.withPool number (taken.register registration).2)).2
    world.Tends after ∧ after.Registered number registration := by
  intro after
  have accounts := sound.accounts number source found
  have replaces : ∀ other ∈ taken.registrations, world.isAlive other.callable = true →
      other.identity ≠ registration.identity := by
    intro other known otherLives shared
    rw [Pool.registrations_take? offered] at known
    have otherNamed := (sound.named number other ⟨source, found, known⟩).2
    have same := sound.identities _ _ otherLives lives
      (otherNamed.symm.trans (shared.trans named.2))
    have there : source.find? world.isAlive registration.identity registration.callable =
        some other.slot := by
      rw [← shared, ← same]
      exact accounts.find?_eq_some.2 ⟨known, otherLives⟩
    cases missing.symm.trans there
  obtain ⟨keeps, entered⟩ :
      Pool.Keeps world.isAlive world.Names taken (taken.register registration).2 ∧ _ :=
    Pool.keeps_register named replaces
  have replaced := sound.replace found (accounts.take? offered).register
    ((Pool.keeps_take? offered).trans keeps)
  have further := elsewhere.withPool number (taken.register registration).2
  rw [withPool_withPool] at further
  have noted := further.trans (elsewhere_noteReleased slots _)
  refine ⟨replaced.trans (noted.tends replaced.sound), ?_⟩
  rw [Registered, noted.atPool, atPool_withPool world (present_of_pool? found), if_pos rfl]
  exact entered

def registering (world : World) (number : Nat) (registration : Registration) : World :=
  match world.pool? number with
  | some pool =>
    let (stale, after) := pool.register registration
    ((noteReleased stale.toList).run (world.withPool number after)).2
  | none => world

theorem registering_of_pool? {world : World} {number : Nat} {pool : Pool}
    (found : world.pool? number = some pool) (registration : Registration) :
    world.registering number registration =
      ((noteReleased (pool.register registration).1.toList).run
        (world.withPool number (pool.register registration).2)).2 := by
  rw [registering, found]

/-- What asking for a callable's slot comes to, once the dead callables have left. -/
inductive AsksSlot (world : World) (number serial : Nat) : Except Fault ClosureSlot → World → Prop
  | unknown {fault : Fault} (missing : world.pool? number = none) :
      AsksSlot world number serial (.error fault) world
  | kept {pool : Pool} {slot : ClosureSlot} (found : world.pool? number = some pool)
      (known : pool.find? world.isAlive (world.identity serial) serial = some slot) :
      AsksSlot world number serial (.ok slot) world
  | taken {pool : Pool} {slot : ClosureSlot} {between : World}
      (found : world.pool? number = some pool)
      (missing : pool.find? world.isAlive (world.identity serial) serial = none)
      (ran : (takeSlot number pool).run.run world = (.ok slot, between)) :
      AsksSlot world number serial (.ok slot)
        (between.registering number ⟨world.identity serial, serial, slot⟩)
  | refused {pool : Pool} {fault : Fault} {after : World}
      (found : world.pool? number = some pool)
      (ran : (takeSlot number pool).run.run world = (.error fault, after)) :
      AsksSlot world number serial (.error fault) after

theorem asksSlot_of_run {world after : World} {number serial : Nat}
    {outcome : Except Fault ClosureSlot}
    (ran : (slotFor number serial).run.run world = (outcome, after)) :
    AsksSlot ((drainPool number).run world).2 number serial outcome after := by
  rw [slotFor, Act.run_bind, Act.run_lift] at ran
  generalize ((drainPool number).run world).2 = drained at ran ⊢
  dsimp only at ran
  rw [Act.run_bind, Act.run_get] at ran
  dsimp only at ran
  split at ran
  next pool found =>
    split at ran
    next slot known =>
      cases ran
      exact .kept found known
    next missing =>
      rw [Act.run_bind] at ran
      split at ran
      next slot between taken =>
        have registered := AsksSlot.taken found missing taken
        rw [Act.run_bind, Act.run_get] at ran
        dsimp only at ran
        rw [registering] at registered
        cases present : between.pool? number with
        | some current =>
            rw [present] at ran registered
            cases ran
            exact registered
        | none =>
            rw [present] at ran registered
            cases ran
            exact registered
      next fault between failed =>
        cases ran
        exact .refused found failed
  next absent =>
    cases ran
    exact .unknown (Option.eq_none_iff_forall_ne_some.2 absent)

theorem of_run_slotFor {world after : World} (sound : world.Sound) {number serial : Nat}
    (lives : world.isAlive serial = true) {outcome : Except Fault ClosureSlot}
    (ran : (slotFor number serial).run.run world = (outcome, after)) :
    world.Tends after ∧ ∀ slot, outcome = .ok slot →
      after.Registered number ⟨world.identity serial, serial, slot⟩ := by
  have tended := tends_drainPool sound number
  have asked := asksSlot_of_run ran
  generalize ((drainPool number).run world).2 = drained at tended asked
  have identity := identity_of_callables tended.callables
  have lives : drained.isAlive serial = true := isAlive_of_callables tended.callables ▸ lives
  rw [← identity]
  cases asked with
  | unknown => exact ⟨tended, Act.no_result⟩
  | @kept pool _ found known =>
      refine ⟨tended, ?_⟩
      rintro _ ⟨⟩
      exact ⟨pool, found, ((tended.sound.accounts number pool found).find?_eq_some.1 known).1⟩
  | @taken _ slot between found missing taken =>
      obtain ⟨_, made⟩ := of_run_takeSlot tended.sound found taken
      obtain ⟨prepared, source, recycled, taken, grown, there, same, offered, elsewhere⟩ :=
        made slot rfl
      have present : between.pool? number = some taken := by
        rw [elsewhere.pool?, pool?_withPool prepared (present_of_pool? there), if_pos rfl]
      have alive := isAlive_of_callables grown.callables
      have lives : prepared.isAlive serial = true := alive ▸ lives
      have named : prepared.Names ⟨drained.identity serial, serial, slot⟩ :=
        ⟨lt_of_isAlive lives, by rw [identity_of_callables grown.callables]⟩
      have missing : source.find? prepared.isAlive (drained.identity serial) serial = none := by
        rwa [alive, Pool.find?, same]
      obtain ⟨registers, entered⟩ :=
        tends_register grown.sound there offered elsewhere named lives missing _
      rw [registering_of_pool? present]
      refine ⟨(tended.trans grown).trans registers, ?_⟩
      rintro _ ⟨⟩
      exact entered
  | @refused _ fault _ found failed =>
      obtain ⟨left, _⟩ := of_run_takeSlot tended.sound found failed
      exact ⟨tended.trans ((left fault rfl).tends tended.sound), Act.no_result⟩

/-- Only the tables of types and of converters were consulted, and the converters of callback types
still leave native memory alone. -/
def Consulted (world after : World) : Prop :=
  ∃ types mappers, { world with types, mappers } = after ∧
    (mappers.cache world.closureConverters.cache).Quiet

theorem Consulted.elsewhere {world after : World} (consulted : world.Consulted after) :
    world.Elsewhere after := by
  obtain ⟨types, mappers, rfl, quiet⟩ := consulted
  exact ⟨rfl, rfl, rfl, fun _ => quiet, Nat.le_refl _⟩

section Shapes

variable {world : World}

theorem consulted_get : Act.Ensures world.Consulted world.Consulted (get : Act World World) :=
  .ofState (fun _ consulted => consulted) fun _ consulted => consulted

theorem consulted_onTypes {Result : Type} (action : Act LoweringTable Result) :
    Act.Keeps world.Consulted (liftM action : Act World Result) := by
  rintro _ outcome after ⟨types, mappers, rfl, quiet⟩ ran
  cases ran
  exact ⟨⟨_, mappers, rfl, quiet⟩, fun _ _ => trivial⟩

theorem consulted_choose (way : Way) (type : HostType) (context : ConversionContext) :
    Act.Ensures world.Consulted (fun converter => ∀ chosen, converter = some chosen → chosen.Quiet)
      (liftM (Pipeline.choose ⟨world.closureConverters.cache, none⟩ way none type context) :
        Act World (Option Converter)) := by
  rintro _ outcome after ⟨types, mappers, rfl, quiet⟩ ran
  cases ran
  obtain ⟨kept, found⟩ := Mapper.finds_lookup (fun _ => ConverterBody.Mild.quiet) quiet rfl
  refine ⟨⟨types, _, rfl, kept⟩, ?_⟩
  rintro converter answer chosen rfl
  exact found chosen answer

variable (builtin : world.closureConverters.custom = none)
include builtin

theorem consulted_passage (way : Way) (type : HostType) (context : ConversionContext)
    (allowed : HostType → Bool) (fault : Fault) :
    Act.Ensures world.Consulted Passage.Quiet (do
      let converter ← (← get).closureConverters.choose way none type context
      let carrier := (converter.map (·.carrier)).getD type
      unless allowed carrier do throw fault
      return ⟨carrier, (← LoweringTable.resolve carrier .empty).type, converter⟩ :
        Act World Passage) := by
  have pipeline : world.closureConverters = ⟨world.closureConverters.cache, none⟩ := by
    rw [← builtin]
  refine consulted_get.bind ?_
  rintro _ ⟨types, mappers, rfl, _⟩
  dsimp only
  rw [pipeline]
  refine (consulted_choose way type context).bind fun converter quiet => ?_
  split
  next => exact (consulted_onTypes _).bind fun lowered _ => .pure quiet
  next => exact .throw_bind fault _

theorem consulted_buildShape (type : CallbackType) :
    (buildShape type).Ensures world.Consulted ClosureShape.Quiet := by
  refine consulted_get.bind fun read _ => ?_
  let context : ConversionContext := ⟨.empty, read.encoding⟩
  have each : ∀ item ∈ type.parameters,
      (passageIn context item).Ensures world.Consulted Passage.Quiet :=
    fun item _ => consulted_passage builtin .fromNative item context (·.isScalar) _
  have last : (passageOut context type.result).Ensures world.Consulted Passage.Quiet :=
    consulted_passage builtin .toNative type.result context
      (fun type => type.isScalar || type.isVoid) _
  refine (Act.Ensures.mapM_all _ each).bind fun parameters all => last.bind fun result good => ?_
  exact consulted_get.bind fun _ _ => .bind (.ofExcept fun _ _ => trivial) fun _ _ =>
    .pure ⟨good, all⟩

end Shapes

theorem run_poolNumber (world : World) (type : CallbackType) :
    (poolNumber type).run world =
      match world.pools.findIdx? (·.1 == type) with
      | some number => (number, world)
      | none =>
        (world.pools.length, { world with pools := world.pools ++ [(type, none)] }) := rfl

theorem tends_poolNumber {world : World} (sound : world.Sound) (type : CallbackType) :
    world.Tends ((poolNumber type).run world).2 ∧
      ((poolNumber type).run world).2.HasType ((poolNumber type).run world).1 type := by
  rw [run_poolNumber]
  split
  next number found =>
    obtain ⟨inside, same, _⟩ := List.findIdx?_eq_some_iff_getElem.1 found
    refine ⟨.refl sound, ?_⟩
    simp only [HasType, List.getElem?_map, List.getElem?_eq_getElem inside, Option.map_some]
    rw [eq_of_beq same]
  next missing =>
    refine ⟨sound.newEntry ?_, ?_⟩
    · intro known
      obtain ⟨entry, held, same⟩ := List.mem_map.1 known
      simpa [same] using List.findIdx?_eq_none_iff.1 missing entry held
    · simp [HasType]

theorem run_openPool (world : World) (type : CallbackType) :
    (openPool type).run.run world =
      let (number, entered) := (poolNumber type).run world
      match entered.pool? number with
      | some _ => (.ok number, entered)
      | none =>
        match (buildShape type).run.run entered with
        | (.ok shape, built) => (.ok number,
            built.withPool number { shape, magazinePages := built.config.magazinePages })
        | (.error fault, built) => (.error fault, built) := by
  rw [openPool, Act.run_bind, Act.run_lift]
  generalize (poolNumber type).run world = entry
  obtain ⟨number, entered⟩ := entry
  dsimp only
  rw [Act.run_bind, Act.run_get]
  dsimp only
  cases entered.pool? number with
  | some pool => rfl
  | none =>
      change (buildShape type >>= _ : Act World _).run.run entered = _
      rw [Act.run_bind]
      generalize (buildShape type).run.run entered = ended
      obtain ⟨outcome, built⟩ : Except Fault ClosureShape × World := ended
      cases outcome <;> rfl

theorem cases_of_run_openPool {world after : World} {type : CallbackType}
    (builtin : ((poolNumber type).run world).2.closureConverters.custom = none)
    (cached : ((poolNumber type).run world).2.closureCache.Quiet) {outcome : Except Fault Nat}
    (ran : (openPool type).run.run world = (outcome, after)) :
    let number := ((poolNumber type).run world).1
    let opened := ((poolNumber type).run world).2
    outcome = .ok number ∧ after = opened ∨
      opened.pool? number = none ∧ ∃ built, opened.Consulted built ∧
        ((∃ fault, outcome = .error fault ∧ after = built) ∨ ∃ shape : ClosureShape, shape.Quiet ∧
          outcome = .ok number ∧
            after =
              built.withPool number { shape, magazinePages := built.config.magazinePages }) := by
  rw [run_openPool] at ran
  generalize (poolNumber type).run world = entry at *
  obtain ⟨number, opened⟩ := entry
  dsimp only at *
  cases absent : opened.pool? number with
  | some pool =>
      rw [absent] at ran
      cases ran
      exact .inl ⟨rfl, rfl⟩
  | none =>
      rw [absent] at ran
      dsimp only at ran
      refine .inr ⟨rfl, ?_⟩
      split at ran
      next shape built prepared =>
        obtain ⟨consulted, quiet⟩ :=
          consulted_buildShape builtin type _ _ _ ⟨_, _, rfl, cached⟩ prepared
        cases ran
        exact ⟨built, consulted, .inr ⟨shape, quiet shape rfl, rfl, rfl⟩⟩
      next fault built failed =>
        obtain ⟨consulted, _⟩ :=
          consulted_buildShape builtin type _ _ _ ⟨_, _, rfl, cached⟩ failed
        cases ran
        exact ⟨_, consulted, .inl ⟨fault, rfl, rfl⟩⟩

theorem of_run_openPool {world after : World} (sound : world.Sound) {type : CallbackType}
    {outcome : Except Fault Nat} (ran : (openPool type).run.run world = (outcome, after)) :
    world.Tends after ∧ ∀ number, outcome = .ok number → after.HasType number type := by
  obtain ⟨tended, typed⟩ := tends_poolNumber sound type
  rcases cases_of_run_openPool tended.sound.builtin tended.sound.cached ran with
    ⟨rfl, rfl⟩ | ⟨absent, built, consulted, ⟨fault, rfl, rfl⟩ | ⟨shape, quiet, rfl, rfl⟩⟩
  · refine ⟨tended, ?_⟩
    rintro _ ⟨⟩
    exact typed
  · exact ⟨tended.trans (consulted.elsewhere.tends tended.sound), Act.no_result⟩
  · have kept := consulted.elsewhere.tends tended.sound
    have present := (kept.extended.hasType typed).lt
    have missing := (consulted.elsewhere.pool? _).trans absent
    have builds := kept.sound.build present missing quiet built.config.magazinePages
    refine ⟨tended.trans (kept.trans builds), ?_⟩
    rintro _ ⟨⟩
    exact builds.extended.hasType (kept.extended.hasType typed)

theorem of_run_closureFor {world after : World} (sound : world.Sound) {type : CallbackType}
    {serial : Nat} (lives : world.isAlive serial = true) {outcome : Except Fault Nat}
    (ran : (closureFor type serial).run.run world = (outcome, after)) :
    world.Tends after ∧ ∀ address, outcome = .ok address → ∃ number slot,
      after.HasType number type ∧ slot.code = address ∧
        after.Registered number ⟨world.identity serial, serial, slot⟩ := by
  rw [closureFor, Act.run_bind] at ran
  split at ran
  next number opened found =>
    obtain ⟨tended, typed⟩ := of_run_openPool sound found
    have lives : opened.isAlive serial = true := isAlive_of_callables tended.callables ▸ lives
    rw [Act.run_bind] at ran
    split at ran
    next slot last given =>
      obtain ⟨registers, entered⟩ := of_run_slotFor tended.sound lives given
      cases ran
      refine ⟨tended.trans registers, ?_⟩
      rintro _ ⟨⟩
      refine ⟨number, slot, registers.extended.hasType (typed number rfl), rfl, ?_⟩
      exact identity_of_callables tended.callables ▸ entered slot rfl
    next fault last failed =>
      cases ran
      exact ⟨tended.trans (of_run_slotFor tended.sound lives failed).1, Act.no_result⟩
  next fault opened failed =>
    cases ran
    exact ⟨(of_run_openPool sound failed).1, Act.no_result⟩

theorem find?_of_rememberedSlot? {world : World} (sound : world.Sound) {site : CallSite}
    {serial : Nat} {slot : ClosureSlot}
    (remembered : world.rememberedSlot? site serial = some slot) :
    ∃ pool, world.pool? site.pool = some pool ∧ world.isAlive serial = true ∧
      pool.find? world.isAlive (world.identity serial) serial = some slot := by
  rw [rememberedSlot?] at remembered
  split at remembered
  next last kept _ =>
    split at remembered
    next valid =>
      obtain ⟨rfl, lives, target⟩ := valid
      cases remembered
      obtain ⟨pool, found, bound⟩ := Option.bind_eq_some_iff.1 target
      have accounts := sound.accounts _ pool found
      obtain ⟨registration, known, rfl, rfl⟩ := (accounts.bound _ _ List.not_mem_nil).1 bound
      refine ⟨pool, found, lives, accounts.find?_eq_some.2 ⟨?_, lives⟩⟩
      rw [← (sound.named _ registration ⟨pool, found, known⟩).2]
      exact known
    next => cases remembered
  next => cases remembered

inductive AsksAddress (world : World) (number serial : Nat) : Except Fault Nat → World → Prop
  | unknown {fault : Fault} (missing : world.sites[number]? = none) :
      AsksAddress world number serial (.error fault) world
  | kept {site : CallSite} {slot : ClosureSlot} (present : world.sites[number]? = some site)
      (remembered : world.rememberedSlot? site serial = some slot) :
      AsksAddress world number serial (.ok slot.code) world
  | asked {site : CallSite} {slot : ClosureSlot} {given : World}
      (present : world.sites[number]? = some site)
      (ran : (slotFor site.pool serial).run.run world = (.ok slot, given)) :
      AsksAddress world number serial (.ok slot.code)
        { given with
          sites := given.sites.set number { site with last := some (serial, slot) } }
  | refused {site : CallSite} {fault : Fault} {after : World}
      (present : world.sites[number]? = some site)
      (ran : (slotFor site.pool serial).run.run world = (.error fault, after)) :
      AsksAddress world number serial (.error fault) after

theorem asksAddress_of_run {world after : World} {number serial : Nat}
    {outcome : Except Fault Nat}
    (ran : (closureAddress number serial).run.run world = (outcome, after)) :
    AsksAddress world number serial outcome after := by
  rw [closureAddress, Act.run_bind, Act.run_get] at ran
  dsimp only at ran
  split at ran
  next site present =>
    split at ran
    next slot remembered =>
      cases ran
      exact .kept present remembered
    next =>
      rw [Act.run_bind] at ran
      split at ran
      next slot given asked =>
        cases ran
        exact .asked present asked
      next fault given failed =>
        cases ran
        exact .refused present failed
  next missing =>
    cases ran
    exact .unknown (Option.eq_none_iff_forall_ne_some.2 missing)

theorem of_run_closureAddress {world after : World} (sound : world.Sound) {number serial : Nat}
    (lives : world.isAlive serial = true) {outcome : Except Fault Nat}
    (ran : (closureAddress number serial).run.run world = (outcome, after)) :
    world.Tends after ∧ ∀ address, outcome = .ok address → ∃ site slot,
      world.sites[number]? = some site ∧ slot.code = address ∧
        after.Registered site.pool ⟨world.identity serial, serial, slot⟩ := by
  cases asksAddress_of_run ran with
  | unknown => exact ⟨.refl sound, Act.no_result⟩
  | @kept site slot present remembered =>
      refine ⟨.refl sound, ?_⟩
      rintro _ ⟨⟩
      obtain ⟨pool, found, _, known⟩ := find?_of_rememberedSlot? sound remembered
      exact ⟨site, slot, present, rfl, pool, found,
        ((sound.accounts _ pool found).find?_eq_some.1 known).1⟩
  | @asked site slot given present asked =>
      obtain ⟨tended, entered⟩ := of_run_slotFor sound lives asked
      have elsewhere : given.Elsewhere { given with
          sites := given.sites.set number { site with last := some (serial, slot) } } :=
        ⟨rfl, rfl, rfl, id, Nat.le_refl _⟩
      refine ⟨tended.trans (elsewhere.tends tended.sound), ?_⟩
      rintro _ ⟨⟩
      exact ⟨site, slot, present, rfl, entered slot rfl⟩
  | refused present failed => exact ⟨(of_run_slotFor sound lives failed).1, Act.no_result⟩

end World

end ForeignCall
