import ForeignCall.Closure.Entry
import ForeignCall.Proofs.Closure.Keeping
import ForeignCall.Proofs.Closure.Quiet

/-! What is always so of the closures of a world, and what stays so once it was. Both survive when a
pool is replaced, when a pool gets a magazine and when something happens elsewhere. -/

namespace ForeignCall

namespace World

def Covers (span : Nat × Nat) (address : Nat) : Prop :=
  span.1 ≤ address ∧ address < span.1 + span.2 * ClosureSlot.stride

def AtPool (world : World) (number : Nat) (property : Pool → Prop) : Prop :=
  ∃ pool, world.pool? number = some pool ∧ property pool

def HasType (world : World) (number : Nat) (type : CallbackType) : Prop :=
  (world.pools.map (·.1))[number]? = some type

def HasSpan (world : World) (number : Nat) (span : Nat × Nat) : Prop :=
  world.AtPool number fun pool => span ∈ pool.magazines.map (·.span)

def HandedOut (world : World) (number : Nat) (slot : ClosureSlot) : Prop :=
  world.AtPool number fun pool => slot ∈ pool.handedOut

def Registered (world : World) (number : Nat) (registration : Registration) : Prop :=
  world.AtPool number fun pool => registration ∈ pool.registrations

def closureCache (world : World) : ConverterCache :=
  world.mappers.cache world.closureConverters.cache

def Names (world : World) (registration : Registration) : Prop :=
  registration.callable < world.callables.length ∧
    registration.identity = world.identity registration.callable

theorem HasType.lt {world : World} {number : Nat} {type : CallbackType}
    (known : world.HasType number type) : number < world.pools.length := by
  simpa using (List.getElem?_eq_some_iff.1 known).1

/-- Magazines lie in memory that was given out, above the native functions, and no two of them share
an address. -/
structure Placed (spans : Nat → Nat × Nat → Prop) (unused : Nat) : Prop where
  room : 0x100000 ≤ unused
  inside : ∀ number span, spans number span →
    0x100000 ≤ span.1 ∧ span.1 + span.2 * ClosureSlot.stride ≤ unused
  apart : ∀ address number span other neighbour, spans number span → spans other neighbour →
    Covers span address → Covers neighbour address → number = other ∧ span = neighbour

/-- What is always so: the books of each pool are right, no two magazines share an address, and
callables that live at one time differ in identity. -/
structure Sound (world : World) : Prop where
  accounts : ∀ number pool, world.pool? number = some pool → pool.Accounts []
  shapes : ∀ number pool, world.pool? number = some pool → pool.shape.Quiet
  named : ∀ number registration, world.Registered number registration → world.Names registration
  placed : Placed world.HasSpan world.memory.unused
  types : (world.pools.map (·.1)).Nodup
  identities : ∀ serial other, world.isAlive serial = true → world.isAlive other = true →
    world.identity serial = world.identity other → serial = other
  builtin : world.closureConverters.custom = none
  cached : world.closureCache.Quiet

/-- What stays so: pools keep their numbers, their shapes and their slots, callables that are gone
do not come back, and those that live keep their registrations. -/
structure Extends (before after : World) : Prop where
  types : before.pools.map (·.1) <+: after.pools.map (·.1)
  shapes : ∀ number shape, before.AtPool number (·.shape = shape) →
    after.AtPool number (·.shape = shape)
  handedOut : ∀ number slot, before.HandedOut number slot → after.HandedOut number slot
  callables : before.callables.length ≤ after.callables.length
  identity : ∀ serial < before.callables.length, after.identity serial = before.identity serial
  alive : ∀ serial < before.callables.length, after.isAlive serial = true →
    before.isAlive serial = true
  registered : ∀ number registration, before.Registered number registration →
    registration.callable < before.callables.length → after.isAlive registration.callable = true →
      after.Registered number registration

structure Tends (before after : World) : Prop where
  sound : after.Sound
  extended : before.Extends after
  callables : after.callables = before.callables

namespace Placed

variable {spans others : Nat → Nat × Nat → Prop} {unused later : Nat}

theorem mono (placed : Placed spans unused) (grown : unused ≤ later)
    (fewer : ∀ number span, others number span → spans number span) : Placed others later := by
  refine ⟨Nat.le_trans placed.room grown, ?_, ?_⟩
  · intro number span known
    obtain ⟨above, below⟩ := placed.inside number span (fewer number span known)
    exact ⟨above, Nat.le_trans below grown⟩
  · intro address number span other neighbour known beside
    exact placed.apart address number span other neighbour (fewer _ _ known) (fewer _ _ beside)

theorem insert (placed : Placed spans unused) (number : Nat) {span : Nat × Nat}
    (above : unused ≤ span.1) (below : span.1 + span.2 * ClosureSlot.stride ≤ later)
    (grown : ∀ other neighbour, others other neighbour →
      spans other neighbour ∨ other = number ∧ neighbour = span) : Placed others later := by
  have room := placed.room
  refine ⟨by omega, ?_, ?_⟩
  · intro other neighbour known
    rcases grown other neighbour known with old | ⟨_, rfl⟩
    · have inside := placed.inside other neighbour old
      omega
    · omega
  · intro address first left second right known beside coversLeft coversRight
    rcases grown first left known with old | ⟨rfl, rfl⟩
    · rcases grown second right beside with older | ⟨rfl, rfl⟩
      · exact placed.apart address first left second right old older coversLeft coversRight
      · have inside := placed.inside first left old
        simp only [Covers] at coversLeft coversRight
        omega
    · rcases grown second right beside with older | ⟨rfl, rfl⟩
      · have inside := placed.inside second right older
        simp only [Covers] at coversLeft coversRight
        omega
      · exact ⟨rfl, rfl⟩

end Placed

namespace Extends

theorem refl (world : World) : world.Extends world :=
  ⟨List.prefix_rfl, fun _ _ => id, fun _ _ => id, Nat.le_refl _, fun _ _ => rfl, fun _ _ => id,
    fun _ _ known _ _ => known⟩

theorem trans {first second third : World} (left : first.Extends second)
    (right : second.Extends third) : first.Extends third := by
  have later : ∀ serial < first.callables.length, serial < second.callables.length :=
    fun serial below => Nat.lt_of_lt_of_le below left.callables
  refine ⟨left.types.trans right.types, ?_, ?_, Nat.le_trans left.callables right.callables,
    ?_, ?_, ?_⟩
  · exact fun number shape known => right.shapes number shape (left.shapes number shape known)
  · exact fun number slot known => right.handedOut number slot (left.handedOut number slot known)
  · intro serial below
    rw [right.identity serial (later serial below), left.identity serial below]
  · intro serial below lives
    exact left.alive serial below (right.alive serial (later serial below) lives)
  · intro number registration known below lives
    have between := right.alive _ (later _ below) lives
    exact right.registered number registration
      (left.registered number registration known below between) (later _ below) lives

theorem hasType {before after : World} (extended : before.Extends after) {number : Nat}
    {type : CallbackType} (known : before.HasType number type) : after.HasType number type := by
  obtain ⟨more, same⟩ := extended.types
  rw [HasType] at known ⊢
  rw [← same, List.getElem?_append_left (List.getElem?_eq_some_iff.1 known).1]
  exact known

end Extends

namespace Tends

theorem refl {world : World} (sound : world.Sound) : world.Tends world :=
  ⟨sound, .refl world, rfl⟩

theorem trans {first second third : World} (left : first.Tends second)
    (right : second.Tends third) : first.Tends third :=
  ⟨right.sound, left.extended.trans right.extended, right.callables.trans left.callables⟩

end Tends

section Callables

variable {before after : World}

theorem isAlive_of_callables (same : after.callables = before.callables) :
    after.isAlive = before.isAlive := by
  funext serial
  rw [isAlive, isAlive, same]

theorem lt_of_isAlive {world : World} {serial : Nat} (lives : world.isAlive serial = true) :
    serial < world.callables.length := by
  rw [isAlive] at lives
  obtain ⟨callable, known, _⟩ := (Option.any_eq_true _ _).1 lives
  exact (List.getElem?_eq_some_iff.1 known).1

theorem identity_of_callables (same : after.callables = before.callables) :
    after.identity = before.identity := by
  funext serial
  rw [identity, identity, same]

theorem names_of_callables (same : after.callables = before.callables) :
    after.Names = before.Names := by
  funext registration
  simp only [Names, same, identity_of_callables same]

end Callables

/-- Something happened that is no matter of closures: no address was given out again, and to the
converters of callback types came only ones that leave native memory alone. -/
structure Elsewhere (before after : World) : Prop where
  pools : after.pools = before.pools
  callables : after.callables = before.callables
  converters : after.closureConverters = before.closureConverters
  cached : before.closureCache.Quiet → after.closureCache.Quiet
  unused : before.memory.unused ≤ after.memory.unused

namespace Elsewhere

theorem refl (world : World) : world.Elsewhere world := ⟨rfl, rfl, rfl, id, Nat.le_refl _⟩

theorem trans {first second third : World} (left : first.Elsewhere second)
    (right : second.Elsewhere third) : first.Elsewhere third :=
  ⟨right.pools.trans left.pools, right.callables.trans left.callables,
    right.converters.trans left.converters, right.cached ∘ left.cached,
    Nat.le_trans left.unused right.unused⟩

variable {before after : World}

theorem pool? (elsewhere : before.Elsewhere after) (number : Nat) :
    after.pool? number = before.pool? number := by
  rw [World.pool?, World.pool?, elsewhere.pools]

theorem atPool (elsewhere : before.Elsewhere after) : after.AtPool = before.AtPool := by
  funext number property
  simp only [AtPool, elsewhere.pool?]

theorem tends (elsewhere : before.Elsewhere after) (sound : before.Sound) :
    before.Tends after := by
  have isAlive := isAlive_of_callables elsewhere.callables
  have identity := identity_of_callables elsewhere.callables
  have spans : after.HasSpan = before.HasSpan := by
    funext number span
    rw [HasSpan, HasSpan, elsewhere.atPool]
  have registered : after.Registered = before.Registered := by
    funext number registration
    rw [Registered, Registered, elsewhere.atPool]
  refine ⟨?_, ?_, ?_⟩
  · constructor
    case accounts =>
      intro number pool found
      exact sound.accounts number pool (elsewhere.pool? number ▸ found)
    case shapes =>
      intro number pool found
      exact sound.shapes number pool (elsewhere.pool? number ▸ found)
    case named =>
      rw [registered, names_of_callables elsewhere.callables]
      exact sound.named
    case placed => exact sound.placed.mono elsewhere.unused fun _ _ known => spans ▸ known
    case types => exact elsewhere.pools ▸ sound.types
    case identities =>
      rw [isAlive, identity]
      exact sound.identities
    case builtin => exact elsewhere.converters ▸ sound.builtin
    case cached => exact elsewhere.cached sound.cached
  · constructor
    case types => exact elsewhere.pools ▸ List.prefix_rfl
    case shapes =>
      intro number shape known
      rwa [elsewhere.atPool]
    case handedOut =>
      intro number slot known
      rwa [HandedOut, elsewhere.atPool]
    case callables => exact Nat.le_of_eq (congrArg List.length elsewhere.callables).symm
    case identity => exact fun serial _ => congrFun identity serial
    case alive => exact fun serial _ lives => isAlive ▸ lives
    case registered => exact fun number registration known _ _ => registered ▸ known
  · exact elsewhere.callables

end Elsewhere

def withPool (world : World) (number : Nat) (pool : Pool) : World :=
  { world with pools := world.pools.modify number fun (type, _) => (type, some pool) }

theorem pool?_withPool (world : World) {number : Nat} (present : number < world.pools.length)
    (pool : Pool) (other : Nat) :
    (world.withPool number pool).pool? other =
      if other = number then some pool else world.pool? other := by
  simp only [pool?, withPool, List.getElem?_modify]
  by_cases same : other = number
  · subst same
    simp [List.getElem?_eq_getElem present]
  · simp [same, Ne.symm same]

theorem types_withPool (world : World) (number : Nat) (pool : Pool) :
    (world.withPool number pool).pools.map (·.1) = world.pools.map (·.1) := by
  apply List.ext_getElem?
  intro index
  simp only [withPool, List.getElem?_map, List.getElem?_modify]
  cases world.pools[index]? with
  | none => rfl
  | some entry => by_cases same : number = index <;> simp [same]

theorem withPool_withPool (world : World) (number : Nat) (first second : Pool) :
    (world.withPool number first).withPool number second = world.withPool number second := by
  simp only [withPool, List.modify_modify_eq]
  rfl

theorem present_of_pool? {world : World} {number : Nat} {pool : Pool}
    (found : world.pool? number = some pool) : number < world.pools.length := by
  rw [pool?] at found
  obtain ⟨entry, known, _⟩ := Option.bind_eq_some_iff.1 found
  exact (List.getElem?_eq_some_iff.1 known).1

theorem atPool_withPool (world : World) {number : Nat} (present : number < world.pools.length)
    (pool : Pool) (other : Nat) (property : Pool → Prop) :
    (world.withPool number pool).AtPool other property ↔
      if other = number then property pool else world.AtPool other property := by
  simp only [AtPool, pool?_withPool world present]
  split <;> simp

theorem Elsewhere.withPool {before after : World} (elsewhere : before.Elsewhere after)
    (number : Nat) (pool : Pool) :
    (before.withPool number pool).Elsewhere (after.withPool number pool) :=
  ⟨by simp only [World.withPool, elsewhere.pools], elsewhere.callables, elsewhere.converters,
    elsewhere.cached, elsewhere.unused⟩

theorem Sound.withPool {world : World} (sound : world.Sound) {number : Nat}
    (present : number < world.pools.length) {pool : Pool} (accounts : pool.Accounts [])
    (quiet : pool.shape.Quiet)
    (shaped : ∀ shape, world.AtPool number (·.shape = shape) → pool.shape = shape)
    (placed : Placed (world.withPool number pool).HasSpan world.memory.unused)
    (handedOut : ∀ slot, world.HandedOut number slot → slot ∈ pool.handedOut)
    (live : ∀ registration, world.Registered number registration →
      world.isAlive registration.callable = true → registration ∈ pool.registrations)
    (known : ∀ registration ∈ pool.registrations,
      world.Registered number registration ∨ world.Names registration) :
    world.Tends (world.withPool number pool) := by
  have types := world.types_withPool number pool
  refine ⟨?_, ?_, rfl⟩
  · constructor
    case accounts =>
      intro other found there
      rw [pool?_withPool world present] at there
      split at there
      next => exact Option.some.inj there ▸ accounts
      next => exact sound.accounts other found there
    case shapes =>
      intro other found there
      rw [pool?_withPool world present] at there
      split at there
      next => exact Option.some.inj there ▸ quiet
      next => exact sound.shapes other found there
    case named =>
      intro other registration there
      rw [Registered, atPool_withPool world present] at there
      split at there
      next same =>
        subst same
        rcases known registration there with earlier | names
        · exact sound.named other registration earlier
        · exact names
      next => exact sound.named other registration there
    case placed => exact placed
    case types => exact types ▸ sound.types
    case identities => exact sound.identities
    case builtin => exact sound.builtin
    case cached => exact sound.cached
  · constructor
    case types => exact types ▸ List.prefix_rfl
    case shapes =>
      intro other shape there
      rw [atPool_withPool world present]
      split
      next same => exact shaped shape (same ▸ there)
      next => exact there
    case handedOut =>
      intro other slot there
      rw [HandedOut, atPool_withPool world present]
      split
      next same => exact handedOut slot (same ▸ there)
      next => exact there
    case callables => exact Nat.le_refl _
    case identity => exact fun _ _ => rfl
    case alive => exact fun _ _ lives => lives
    case registered =>
      intro other registration there _ lives
      rw [Registered, atPool_withPool world present]
      split
      next same => exact live registration (same ▸ there) lives
      next => exact there

theorem Sound.replace {world : World} (sound : world.Sound) {number : Nat} {pool after : Pool}
    (found : world.pool? number = some pool) (accounts : after.Accounts [])
    (keeps : Pool.Keeps world.isAlive world.Names pool after) :
    world.Tends (world.withPool number after) := by
  have present := present_of_pool? found
  refine sound.withPool present accounts ?_ ?_ ?_ ?_ ?_ ?_
  · exact keeps.shape ▸ sound.shapes number pool found
  · rintro shape ⟨_, there, same⟩
    cases found.symm.trans there
    exact keeps.shape.trans same
  · refine sound.placed.mono (Nat.le_refl _) ?_
    intro other span known
    rw [HasSpan, atPool_withPool world present, keeps.spans] at known
    split at known
    next same => exact ⟨pool, same ▸ found, known⟩
    next => exact known
  · rintro slot ⟨_, there, known⟩
    cases found.symm.trans there
    exact keeps.handedOut slot known
  · rintro registration ⟨_, there, known⟩ lives
    cases found.symm.trans there
    exact keeps.live registration known lives
  · intro registration known
    rcases keeps.known registration known with earlier | names
    · exact .inl ⟨pool, found, earlier⟩
    · exact .inr names

theorem Sound.addMagazine {world between : World} (sound : world.Sound)
    (elsewhere : world.Elsewhere between)
    {number : Nat} {pool : Pool} (found : world.pool? number = some pool) {magazine : Magazine}
    (unopened : magazine.taken = 0) (above : world.memory.unused < magazine.base)
    (below : magazine.base + magazine.capacity * ClosureSlot.stride ≤ between.memory.unused) :
    world.Tends (between.withPool number (pool.addMagazine magazine)) := by
  have kept := elsewhere.tends sound
  have there : between.pool? number = some pool := elsewhere.pool? number ▸ found
  have present := present_of_pool? there
  have accounts := sound.accounts number pool found
  have same : (pool.addMagazine magazine).handedOut = pool.handedOut := by
    simp [Pool.handedOut, Pool.addMagazine, Magazine.handedOut, unopened]
  have added : between.Tends (between.withPool number (pool.addMagazine magazine)) := by
    refine kept.sound.withPool present ?_ (kept.sound.shapes number pool there) ?_ ?_ ?_ ?_ ?_
    · refine ⟨?_, ?_, ?_, ?_, accounts.bound, accounts.identities⟩
      · refine List.nodup_cons.2 ⟨?_, accounts.bases⟩
        intro known
        obtain ⟨other, held, (shared : other.base = magazine.base)⟩ := List.mem_map.1 known
        have inside := sound.placed.inside number other.span
          ⟨pool, found, List.mem_map_of_mem held⟩
        simp only [Magazine.span] at inside
        omega
      · intro other known
        rcases List.mem_cons.1 known with rfl | older
        · omega
        · exact accounts.within other older
      · exact same ▸ accounts.all
      · exact same ▸ accounts.counted
    · rintro shape ⟨_, here, shaped⟩
      cases there.symm.trans here
      exact shaped
    · have start : world.memory.unused ≤ magazine.span.1 := Nat.le_of_lt above
      have stop : magazine.span.1 + magazine.span.2 * ClosureSlot.stride ≤
          between.memory.unused := below
      refine sound.placed.insert number start stop ?_
      intro other neighbour known
      rw [HasSpan, atPool_withPool between present, elsewhere.atPool] at known
      split at known
      next here =>
        subst here
        rcases List.mem_cons.1 known with rfl | older
        · exact .inr ⟨rfl, rfl⟩
        · exact .inl ⟨pool, found, older⟩
      next => exact .inl known
    · rintro slot ⟨_, here, known⟩
      cases there.symm.trans here
      exact same ▸ known
    · rintro registration ⟨_, here, known⟩ _
      cases there.symm.trans here
      exact known
    · exact fun registration known => .inl ⟨pool, there, known⟩
  exact kept.trans added

theorem Sound.build {world : World} (sound : world.Sound) {number : Nat}
    (present : number < world.pools.length) (missing : world.pool? number = none)
    {shape : ClosureShape} (quiet : shape.Quiet) (magazinePages : Nat) :
    world.Tends (world.withPool number { shape, magazinePages }) := by
  have absent : ∀ property, ¬world.AtPool number property := by
    rintro property ⟨pool, found, _⟩
    cases missing.symm.trans found
  refine sound.withPool present ?_ quiet ?_ ?_ ?_ ?_ ?_
  · refine ⟨List.nodup_nil, by simp, .refl _, rfl, ?_, List.nodup_nil⟩
    intro slot callable _
    constructor
    · rintro ⟨⟩
    · rintro ⟨_, known, _⟩
      cases known
  · exact fun shape known => absurd known (absent _)
  · refine sound.placed.mono (Nat.le_refl _) ?_
    intro other span known
    rw [HasSpan, atPool_withPool world present] at known
    split at known
    next => cases known
    next => exact known
  · exact fun slot known => absurd known (absent _)
  · exact fun registration known => absurd known (absent _)
  · intro registration known
    cases known

theorem pool?_newEntry (world : World) (type : CallbackType) (number : Nat) :
    World.pool? { world with pools := world.pools ++ [(type, none)] } number =
      world.pool? number := by
  simp only [pool?, List.getElem?_append]
  split
  next => rfl
  next above =>
    rw [List.getElem?_eq_none (Nat.le_of_not_lt above)]
    cases number - world.pools.length <;> rfl

theorem Sound.newEntry {world : World} (sound : world.Sound) {type : CallbackType}
    (new : type ∉ world.pools.map (·.1)) :
    world.Tends { world with pools := world.pools ++ [(type, none)] } := by
  have pools := world.pool?_newEntry type
  have same : AtPool { world with pools := world.pools ++ [(type, none)] } = world.AtPool := by
    funext number property
    simp only [AtPool, pools]
  refine ⟨?_, ?_, rfl⟩
  · constructor
    case accounts =>
      exact fun number pool found => sound.accounts number pool (pools number ▸ found)
    case shapes => exact fun number pool found => sound.shapes number pool (pools number ▸ found)
    case named =>
      intro number registration known
      rw [Registered, same] at known
      exact sound.named number registration known
    case placed =>
      refine sound.placed.mono (Nat.le_refl _) fun number span known => ?_
      rwa [HasSpan, same] at known
    case types =>
      rw [List.map_append, List.nodup_append]
      refine ⟨sound.types, by simp, ?_⟩
      rintro other known _ last rfl
      obtain rfl : other = type := List.mem_singleton.1 last
      exact new known
    case identities => exact sound.identities
    case builtin => exact sound.builtin
    case cached => exact sound.cached
  · constructor
    case types => exact List.map_append ▸ List.prefix_append _ _
    case shapes =>
      intro number shape known
      rwa [same]
    case handedOut =>
      intro number slot known
      rwa [HandedOut, same]
    case callables => exact Nat.le_refl _
    case identity => exact fun _ _ => rfl
    case alive => exact fun _ _ lives => lives
    case registered =>
      intro number registration known _ _
      rwa [Registered, same]

theorem Sound.withCallables {world : World} (sound : world.Sound) {callables : List Callable}
    (more : world.callables.length ≤ callables.length)
    (identity : ∀ serial < world.callables.length,
      World.identity { world with callables } serial = world.identity serial)
    (alive : ∀ serial < world.callables.length,
      World.isAlive { world with callables } serial = true → world.isAlive serial = true)
    (identities : ∀ serial other, World.isAlive { world with callables } serial = true →
      World.isAlive { world with callables } other = true →
        World.identity { world with callables } serial =
          World.identity { world with callables } other → serial = other) :
    World.Sound { world with callables } ∧ world.Extends { world with callables } := by
  constructor
  · refine { sound with named := ?_, identities }
    intro number registration known
    obtain ⟨below, same⟩ := sound.named number registration known
    exact ⟨Nat.lt_of_lt_of_le below more, same.trans (identity _ below).symm⟩
  · exact ⟨List.prefix_rfl, fun _ _ => id, fun _ _ => id, more, identity, alive,
      fun _ _ known _ _ => known⟩

end World

end ForeignCall
