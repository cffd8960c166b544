import ForeignCall.Proofs.Binding.Upholding
import ForeignCall.Proofs.Closure.Handing

/-! The blocks in which the slots of closures lie. The closures of a type hold the blocks of all
their magazines until they are given up. -/

namespace ForeignCall

theorem perm_flatMap_modify {Item Part : Type} {items : List Item} {index : Nat} {item : Item}
    (found : items[index]? = some item) (change : Item → Item) (parts : Item → List Part) :
    ((items.modify index change).flatMap parts ++ parts item).Perm
      (items.flatMap parts ++ parts (change item)) := by
  induction items generalizing index with
  | nil => cases found
  | cons head rest ih =>
      cases index with
      | zero =>
          cases found
          rw [List.modify_zero_cons, List.flatMap_cons, List.flatMap_cons, List.append_assoc,
            List.append_assoc]
          refine List.perm_append_comm.trans ?_
          rw [← List.append_assoc]
          exact List.perm_append_comm.append_right _
      | succ index =>
          rw [List.modify_succ_cons, List.flatMap_cons, List.flatMap_cons, List.append_assoc,
            List.append_assoc]
          exact (ih (by simpa using found)).append_left _

def Pool.blocks (pool : Pool) : List Nat := pool.magazines.map (·.block)

namespace Pool

variable {pool after : Pool}

theorem blocks_take? {slot : ClosureSlot} {recycled : Bool}
    (taken : pool.take? = some (slot, recycled, after)) : after.blocks = pool.blocks := by
  obtain ⟨_, ⟨_, same, _⟩ | ⟨_, _, _, _, newest, rest, before, _, advanced⟩⟩ :=
    of_take?_eq_some taken
  · exact congrArg (List.map Magazine.block) same
  · rw [Pool.blocks, Pool.blocks, before, advanced]
    rfl

end Pool

namespace World

def slotBlocks (world : World) : List Nat :=
  world.pools.flatMap fun entry => entry.2.elim [] Pool.blocks

def Balanced (world : World) (holders demanded : List Nat) : Prop :=
  world.toPageStore.Balanced (holders ++ world.slotBlocks) demanded

def dropPool (number : Nat) : StateM World Unit := do
  let world ← get
  if let some pool := world.pool? number then
    set { world with pools := world.pools.modify number fun (type, _) => (type, none) }
    pool.magazines.forM fun magazine => PageStore.release magazine.block

def withoutPool (world : World) (number : Nat) : World :=
  { world with pools := world.pools.modify number fun (type, _) => (type, none) }

theorem run_dropPool (number : Nat) (world : World) :
    (dropPool number).run world =
      match world.pool? number with
      | none => ((), world)
      | some pool => (pool.magazines.forM fun magazine => PageStore.release magazine.block :
          StateM World Unit).run (world.withoutPool number) := by
  simp only [dropPool, StateT.run_bind, StateT.run_get, pure_bind]
  cases world.pool? number <;> rfl

variable {world after : World} {holders others demanded : List Nat}

theorem slotBlocks_withPool {number : Nat} {pool : Pool} (found : world.pool? number = some pool)
    (later : Pool) :
    ((world.withPool number later).slotBlocks ++ pool.blocks).Perm
      (world.slotBlocks ++ later.blocks) := by
  obtain ⟨⟨type, held⟩, entry, there⟩ := Option.bind_eq_some_iff.1 found
  obtain rfl : held = some pool := there
  exact perm_flatMap_modify entry (fun (type, _) => (type, some later)) _

theorem slotBlocks_of_absent {number : Nat} (absent : world.pool? number = none)
    (shape : ClosureShape) (magazinePages : Nat) :
    (world.withPool number { shape, magazinePages }).slotBlocks.Perm world.slotBlocks := by
  cases entry : world.pools[number]? with
  | none =>
      refine List.Perm.of_eq (congrArg (List.flatMap _) ?_)
      rw [withPool, List.modify_eq_set_getElem?, entry]
      rfl
  | some known =>
      obtain ⟨type, held⟩ := known
      rw [pool?, entry] at absent
      obtain rfl : held = none := absent
      have slots := perm_flatMap_modify entry (fun (type, _) =>
        (type, some ({ shape, magazinePages } : Pool))) fun entry => entry.2.elim [] Pool.blocks
      exact (List.perm_append_right_iff _).1 slots

namespace Balanced

theorem perm (balanced : world.Balanced holders demanded) (same : holders.Perm others) :
    world.Balanced others demanded :=
  PageStore.Balanced.perm balanced (same.append_right _)

theorem congr (balanced : world.Balanced holders demanded) (blocks : after.blocks = world.blocks)
    (history : after.history = world.history)
    (allocations : after.counters.blocksAllocated = world.counters.blocksAllocated)
    (disposals : after.counters.blocksFreed = world.counters.blocksFreed)
    (slots : after.slotBlocks.Perm world.slotBlocks) : after.Balanced holders demanded :=
  PageStore.Balanced.perm (PageStore.Balanced.congr balanced blocks history allocations disposals)
    (slots.symm.append_left _)

theorem retain (balanced : world.Balanced holders demanded) {number : Nat}
    (known : number ∈ holders) :
    ((liftM (PageStore.retain number) : StateM World Unit).run world).2.Balanced
      (number :: holders) demanded :=
  PageStore.Balanced.retain balanced (List.mem_append_left _ known)

theorem release {number : Nat} (balanced : world.Balanced (number :: holders) demanded) :
    ((liftM (PageStore.release number) : StateM World Unit).run world).2.Balanced
      holders demanded :=
  PageStore.Balanced.release balanced

theorem dispose (balanced : world.Balanced holders demanded) {number : Nat}
    (inside : number < world.blocks.length) :
    ((liftM (PageStore.dispose number) : StateM World Bool).run world).2.Balanced
      holders (number :: demanded) :=
  PageStore.Balanced.dispose balanced inside

theorem attach (balanced : world.Balanced holders demanded) {stubs : List PendingStub}
    {outcome : Except Fault (Nat × List InstalledStub)}
    (ran : (liftM (Stub.attach stubs) : Act World (Nat × List InstalledStub)).run.run world =
      (outcome, after)) :
    after.Balanced (PageStore.blockOf (·.1) outcome ++ holders) demanded := by
  cases ran
  rw [Balanced, List.append_assoc]
  exact PageStore.Balanced.attach balanced rfl

theorem allocateMagazine (balanced : world.Balanced holders demanded) {count : Nat}
    {outcome : Except Fault Magazine}
    (ran : (liftM (Magazine.allocate count) : Act World Magazine).run.run world =
      (outcome, after)) :
    after.Balanced (PageStore.blockOf (·.block) outcome ++ holders) demanded := by
  cases ran
  rw [Balanced, List.append_assoc]
  exact PageStore.Balanced.allocateMagazine balanced rfl

theorem replace (balanced : world.Balanced holders demanded) {number : Nat} {pool later : Pool}
    (found : world.pool? number = some pool) (blocks : later.blocks = pool.blocks) :
    (world.withPool number later).Balanced holders demanded := by
  refine balanced.congr rfl rfl rfl rfl ?_
  have slots := slotBlocks_withPool found later
  rw [blocks] at slots
  exact (List.perm_append_right_iff _).1 slots

theorem assigned (balanced : world.Balanced holders demanded) (slot : ClosureSlot)
    (recycled : Bool) : (world.assigned slot recycled).Balanced holders demanded := by
  cases recycled <;> exact balanced.congr rfl rfl rfl rfl .rfl

/-- Closures hold the blocks of their magazines, and those that cannot get one hold none for it. -/
theorem takeSlot (balanced : world.Balanced holders demanded) {number : Nat} {pool : Pool}
    (found : world.pool? number = some pool) {outcome : Except Fault ClosureSlot}
    (ran : (takeSlot number pool).run.run world = (outcome, after)) :
    after.Balanced holders demanded := by
  rcases cases_of_run_takeSlot ran with
    ⟨pages, source, slot, recycled, taken, supplies, offered, rfl, rfl⟩ |
      ⟨missing, fault, pages, failed, rfl, rfl⟩
  · cases supplies with
    | enough =>
        exact (balanced.replace found (Pool.blocks_take? offered)).assigned slot recycled
    | @restocked magazine _ _ allocated =>
        have held := PageStore.Balanced.allocateMagazine balanced allocated
        have slots := slotBlocks_withPool found taken
        rw [Pool.blocks_take? offered] at slots
        have more : (magazine.block :: (holders ++ world.slotBlocks)).Perm
            (holders ++ (world.withPool number taken).slotBlocks) := by
          rw [List.perm_iff_count] at slots ⊢
          intro block
          have counted := slots block
          simp only [Pool.addMagazine, Pool.blocks, List.map_cons, List.count_append,
            List.count_cons] at counted ⊢
          omega
        have stocked : ({ world with toPageStore := pages }.withPool number taken).Balanced
            holders demanded := PageStore.Balanced.perm held more
        exact stocked.assigned slot recycled
  · exact PageStore.Balanced.allocateMagazine balanced failed

theorem releaseAll {magazines : List Magazine}
    (balanced : world.Balanced (magazines.map (·.block) ++ holders) demanded) :
    ((magazines.forM fun magazine => PageStore.release magazine.block : StateM World Unit).run
      world).2.Balanced holders demanded := by
  induction magazines generalizing world with
  | nil => exact balanced
  | cons magazine rest ih => exact ih balanced.release

theorem dropPool (balanced : world.Balanced holders demanded) (number : Nat) :
    ((dropPool number).run world).2.Balanced holders demanded := by
  rw [run_dropPool]
  cases found : world.pool? number with
  | none => exact balanced
  | some pool =>
      obtain ⟨⟨type, held⟩, entry, there⟩ := Option.bind_eq_some_iff.1 found
      obtain rfl : held = some pool := there
      have slots : ((world.withoutPool number).slotBlocks ++ pool.blocks).Perm
          (world.slotBlocks ++ []) :=
        perm_flatMap_modify entry (fun (type, _) => (type, none)) _
      have moved : (holders ++ world.slotBlocks).Perm
          (pool.blocks ++ holders ++ (world.withoutPool number).slotBlocks) := by
        rw [List.perm_iff_count] at slots ⊢
        intro block
        have counted := slots block
        simp only [List.count_append, List.count_nil] at counted ⊢
        omega
      exact releaseAll (PageStore.Balanced.perm balanced moved)

end Balanced

theorem upheld_balanced : Upheld (·.Balanced holders demanded) where
  mappers _ _ balanced := balanced.congr rfl rfl rfl rfl .rfl
  types _ _ balanced := balanced.congr rfl rfl rfl rfl .rfl
  sites _ _ balanced := balanced.congr rfl rfl rfl rfl .rfl
  newEntry _ _ balanced := balanced.congr rfl rfl rfl rfl (List.Perm.of_eq (by simp [slotBlocks]))
  newPool _ _ _ _ absent balanced :=
    balanced.congr rfl rfl rfl rfl (slotBlocks_of_absent absent _ _)

theorem handles_balanced : Handles (·.Balanced holders demanded) where
  replace _ _ _ _ found retains balanced :=
    balanced.replace found (congrArg (List.map Magazine.block) retains.magazines)
  events _ _ balanced := balanced.congr rfl rfl rfl rfl .rfl
  takeSlot _ _ _ _ _ found balanced ran := balanced.takeSlot found ran

end World

end ForeignCall
