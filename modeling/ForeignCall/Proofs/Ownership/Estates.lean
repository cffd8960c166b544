import ForeignCall.Proofs.Ownership.Libraries
import Mathlib.Data.List.Perm.Basic

/-! Estates: a world, those who hold blocks in it, and whatever is done with them. However the
allocator answers, pages are freed once, and not before their last holder is gone unless that is
demanded. -/

namespace ForeignCall

/-- One who holds blocks of pages. The closures of a world are holders that the world knows. -/
inductive Holder
  | attached (block : Nat) (stubs : List InstalledStub)
  | invoker (entry : EntryPoint)
  | library (bound : Library)
  | magazine (cut : Magazine)

namespace Holder

def blocks : Holder → List Nat
  | attached block _ => [block]
  | invoker entry => entry.blocks
  | library bound => bound.functions.blocks
  | magazine cut => [cut.block]

def stubs : Holder → List (InstalledStub × Nat)
  | attached block stubs => stubs.map (·, block)
  | _ => []

def entries : Holder → List EntryPoint
  | invoker entry => [entry]
  | library bound => bound.functions.entries.map (·.2)
  | _ => []

def drop : Holder → StateM World Unit
  | attached block _ => PageStore.release block
  | invoker entry => World.releaseEntry entry
  | library bound => World.closeLibrary bound
  | magazine cut => PageStore.release cut.block

variable {holder : Holder}

theorem mem_blocks_of_stubs {stub : InstalledStub} {block : Nat}
    (known : (stub, block) ∈ holder.stubs) : block ∈ holder.blocks := by
  cases holder with
  | attached number stubs =>
      obtain ⟨_, _, ⟨⟩⟩ := List.mem_map.1 known
      exact List.mem_singleton_self block
  | _ => cases known

theorem blocks_of_entries {entry : EntryPoint} (known : entry ∈ holder.entries) :
    entry.blocks ⊆ holder.blocks := by
  intro block lies
  cases holder with
  | invoker held =>
      obtain rfl := List.mem_singleton.1 known
      exact lies
  | library bound =>
      obtain ⟨published, inside, rfl⟩ := List.mem_map.1 known
      exact List.mem_flatMap.2 ⟨published, inside, lies⟩
  | _ => cases known

theorem perm_flatMap_blocks {holders : List Holder} {position : Nat}
    (found : holders[position]? = some holder) :
    (holders.flatMap blocks).Perm
      (holder.blocks ++ (holders.eraseIdx position).flatMap blocks) := by
  obtain ⟨inside, rfl⟩ := List.getElem?_eq_some_iff.1 found
  exact (List.getElem_cons_eraseIdx_perm inside).symm.flatMap_right blocks

end Holder

theorem World.Balanced.drop {world : World} {holder : Holder} {others demanded : List Nat}
    (balanced : world.Balanced (holder.blocks ++ others) demanded) :
    ((holder.drop).run world).2.Balanced others demanded := by
  cases holder with
  | attached block stubs => exact World.Balanced.release balanced
  | invoker entry => exact World.Balanced.releaseEntry balanced
  | library bound => exact World.Balanced.closeLibrary balanced
  | magazine cut => exact World.Balanced.release balanced

inductive Operation
  /-- The allocator goes on to grant and to seal other pages. None of the other operations asks it
  for more than one block. -/
  | permit (policy : PagePolicy)
  | attach (stubs : List PendingStub)
  /-- Makes a function callable through one of the stubs of a holder. -/
  | through (position stub : Nat) (function : PreparedFunction)
  | bindFunction (symbols : SymbolTable) (binder : Binder) (declaration : FunctionDeclaration)
  | bindLibrary (symbols : SymbolTable) (interface : InterfaceDeclaration)
      (options : LibraryOptions)
  | bindLate (position : Nat) (symbols : SymbolTable) (declaration : FunctionDeclaration)
  /-- Makes someone else a holder of an entry point. -/
  | share (position entry : Nat)
  | allocateMagazine (pages : Nat)
  | openPool (type : CallbackType)
  | newSite (type : CallbackType)
  | closureFor (type : CallbackType) (serial : Nat)
  | closureAddress (site serial : Nat)
  | notifyUnreachable (number identity : Nat)
  | postUnreachable (number identity : Nat)
  | reclaimPool (number : Nat)
  | dispose (block : Nat)
  | drop (position : Nat)
  | dropPool (number : Nat)
  /-- Whatever else is done, which leaves blocks and closures alone. -/
  | elsewhere (change : World → World)

/-- A world with those who hold blocks in it, and the blocks whose disposal was demanded. -/
structure Estate where
  world : World
  holders : List Holder := []
  demanded : List Nat := []

namespace Estate

def held (estate : Estate) : List Nat :=
  estate.holders.flatMap Holder.blocks ++ estate.world.slotBlocks

@[simp] def perform (estate : Estate) : Operation → Estate
  | .permit policy => { estate with world := { estate.world with policy } }
  | .attach stubs =>
    let attaching : Act World (Nat × List InstalledStub) := Stub.attach stubs
    match attaching.run.run estate.world with
    | (.ok (block, installed), world) =>
      { estate with world, holders := .attached block installed :: estate.holders }
    | (.error _, world) => { estate with world }
  | .through position stub function =>
    match estate.holders[position]?.bind (·.stubs[stub]?) with
    | some (stub, block) =>
      let (entry, world) := (World.buildStubbed function stub block).run estate.world
      { estate with world, holders := .invoker entry :: estate.holders }
    | none => estate
  | .bindFunction symbols binder declaration =>
    let (entry, world) := (World.bindFunction symbols binder declaration).run estate.world
    { estate with world, holders := .invoker entry :: estate.holders }
  | .bindLibrary symbols interface options =>
    let (library, world) := (World.bindLibrary symbols interface options).run estate.world
    { estate with world, holders := .library library :: estate.holders }
  | .bindLate position symbols declaration =>
    match estate.holders[position]? with
    | some (.library library) =>
      let ((_, later), world) := (World.bindLate symbols library declaration).run estate.world
      { estate with world, holders := estate.holders.set position (.library later) }
    | _ => estate
  | .share position entry =>
    match estate.holders[position]?.bind (·.entries[entry]?) with
    | some entry =>
      let (_, world) := (World.retainEntry entry).run estate.world
      { estate with world, holders := .invoker entry :: estate.holders }
    | none => estate
  | .allocateMagazine pages =>
    let allocating : Act World Magazine := Magazine.allocate pages
    match allocating.run.run estate.world with
    | (.ok magazine, world) =>
      { estate with world, holders := .magazine magazine :: estate.holders }
    | (.error _, world) => { estate with world }
  | .openPool type => { estate with world := ((World.openPool type).run.run estate.world).2 }
  | .newSite type => { estate with world := ((World.newSite type).run.run estate.world).2 }
  | .closureFor type serial =>
    { estate with world := ((World.closureFor type serial).run.run estate.world).2 }
  | .closureAddress site serial =>
    { estate with world := ((World.closureAddress site serial).run.run estate.world).2 }
  | .notifyUnreachable number identity =>
    { estate with world := ((World.notifyUnreachable number identity).run estate.world).2 }
  | .postUnreachable number identity =>
    { estate with world := ((World.postUnreachable number identity).run estate.world).2 }
  | .reclaimPool number =>
    { estate with world := ((World.reclaimPool number).run estate.world).2 }
  | .dispose block =>
    if block < estate.world.blocks.length then
      let disposing : StateM World Bool := PageStore.dispose block
      { estate with
        world := (disposing.run estate.world).2
        demanded := block :: estate.demanded }
    else estate
  | .drop position =>
    match estate.holders[position]? with
    | some holder =>
      { estate with
        world := (holder.drop.run estate.world).2
        holders := estate.holders.eraseIdx position }
    | none => estate
  | .dropPool number =>
    { estate with world := ((World.dropPool number).run estate.world).2 }
  | .elsewhere change =>
    let { blocksAllocated, blocksFreed, .. } := estate.world.counters
    let changed := change estate.world
    let counters := { changed.counters with blocksAllocated, blocksFreed }
    let { blocks, history, pools, .. } := estate.world
    { estate with world := { changed with blocks, history, pools, counters } }

def run (estate : Estate) (operations : List Operation) : Estate :=
  operations.foldl perform estate

def Balanced (estate : Estate) : Prop :=
  estate.world.Balanced (estate.holders.flatMap Holder.blocks) estate.demanded

namespace Balanced

variable {estate : Estate} (balanced : estate.Balanced)

include balanced

theorem attach (stubs : List PendingStub) : (estate.perform (.attach stubs)).Balanced := by
  rw [perform]
  split
  next block installed world ran => exact World.Balanced.attach balanced ran
  next fault world ran => exact World.Balanced.attach balanced ran

theorem allocateMagazine (pages : Nat) :
    (estate.perform (.allocateMagazine pages)).Balanced := by
  rw [perform]
  split
  next magazine world ran => exact World.Balanced.allocateMagazine balanced ran
  next fault world ran => exact World.Balanced.allocateMagazine balanced ran

/-- The new holder of a stub's block came by the stub from someone who holds that block. -/
theorem through (position stub : Nat) (function : PreparedFunction) :
    (estate.perform (.through position stub function)).Balanced := by
  rw [perform]
  split
  next stub block found =>
    obtain ⟨holder, there, known⟩ := Option.bind_eq_some_iff.1 found
    refine World.Balanced.buildStubbed balanced (List.mem_flatMap.2 ⟨holder, ?_, ?_⟩) function stub
    · exact List.mem_of_getElem? there
    · exact Holder.mem_blocks_of_stubs (List.mem_of_getElem? known)
  next => exact balanced

theorem share (position entry : Nat) : (estate.perform (.share position entry)).Balanced := by
  rw [perform]
  split
  next entry found =>
    obtain ⟨holder, there, known⟩ := Option.bind_eq_some_iff.1 found
    refine World.Balanced.retainEntry balanced fun block lies => ?_
    refine List.mem_flatMap.2 ⟨holder, List.mem_of_getElem? there, ?_⟩
    exact Holder.blocks_of_entries (List.mem_of_getElem? known) lies
  next => exact balanced

theorem bindLate (position : Nat) (symbols : SymbolTable) (declaration : FunctionDeclaration) :
    (estate.perform (.bindLate position symbols declaration)).Balanced := by
  rw [perform]
  split
  next library found =>
    have held := World.Balanced.perm balanced (Holder.perm_flatMap_blocks found)
    have bound := World.Balanced.bindLate held symbols declaration
    let later := ((World.bindLate symbols library declaration).run estate.world).1.2
    have inside := (List.getElem?_eq_some_iff.1 found).1
    have replaced := List.set_perm_cons_eraseIdx inside (.library later)
    exact World.Balanced.perm bound (replaced.flatMap_right Holder.blocks).symm
  next => exact balanced

theorem dispose (block : Nat) : (estate.perform (.dispose block)).Balanced := by
  rw [perform]
  split
  next inside => exact World.Balanced.dispose balanced inside
  next => exact balanced

theorem drop (position : Nat) : (estate.perform (.drop position)).Balanced := by
  rw [perform]
  split
  next holder found =>
    exact World.Balanced.drop (World.Balanced.perm balanced (Holder.perm_flatMap_blocks found))
  next => exact balanced

theorem perform (operation : Operation) : (estate.perform operation).Balanced := by
  cases operation with
  | permit policy => exact World.Balanced.congr balanced rfl rfl rfl rfl .rfl
  | attach stubs => exact balanced.attach stubs
  | through position stub function => exact balanced.through position stub function
  | bindFunction symbols binder declaration =>
      exact World.Balanced.bindFunction balanced symbols binder declaration
  | bindLibrary symbols interface options =>
      exact World.Balanced.bindLibrary balanced symbols interface options
  | bindLate position symbols declaration => exact balanced.bindLate position symbols declaration
  | share position entry => exact balanced.share position entry
  | allocateMagazine pages => exact balanced.allocateMagazine pages
  | openPool type => exact (World.upheld_balanced.openPool type _ _ _ balanced rfl).1
  | newSite type => exact (World.upheld_balanced.newSite type _ _ _ balanced rfl).1
  | closureFor type serial =>
      exact (World.handles_balanced.closureFor World.upheld_balanced.openPool type serial _ _ _
        balanced rfl).1
  | closureAddress site serial =>
      exact (World.handles_balanced.closureAddress World.upheld_balanced.sites site serial _ _ _
        balanced rfl).1
  | notifyUnreachable number identity =>
      exact World.handles_balanced.notifyUnreachable number identity balanced
  | postUnreachable number identity =>
      exact World.handles_balanced.postUnreachable number identity balanced
  | reclaimPool number => exact World.handles_balanced.reclaimPool number balanced
  | dispose block => exact balanced.dispose block
  | drop position => exact balanced.drop position
  | dropPool number => exact World.Balanced.dropPool balanced number
  | elsewhere change => exact World.Balanced.congr balanced rfl rfl rfl rfl .rfl

theorem run (operations : List Operation) : (estate.run operations).Balanced := by
  induction operations generalizing estate with
  | nil => exact balanced
  | cons operation rest ih => exact ih (balanced.perform operation)

end Balanced

theorem balanced_of_start {config : Config} {policy : Option PagePolicy} {world : World}
    (started : World.start config policy = .ok world) : Balanced { world } := by
  obtain ⟨granting, event, rfl⟩ := World.eq_of_start started
  exact ⟨.of_empty rfl rfl rfl rfl, .nil⟩

/-- However the allocator answers and whatever is done in whatever order, pages that were handed
out are freed once, when nothing holds them any more or before that on demand, and what fails has
given back the pages that it got. -/
theorem pages_freed_once {config : Config} {policy : Option PagePolicy} {world : World}
    (started : World.start config policy = .ok world) (operations : List Operation) :
    let estate := Estate.run { world } operations
    let pages := estate.world.toPageStore
    (∀ number, (pages.granted number).length ≤ 1 ∧
      (pages.freed number = [] ∨ pages.freed number = pages.granted number) ∧
      (number ∉ estate.held → pages.freed number = pages.granted number) ∧
      (number ∈ estate.held → number ∉ estate.demanded → pages.freed number = []) ∧
      ∀ block, pages.blocks[number]? = some block →
        pages.granted number = [block.pages] ∧
          (block.disposed = true ↔ pages.freed number = [block.pages])) ∧
    (∀ stubs fault after, (Stub.attach stubs).run.run pages = (.error fault, after) →
      ∀ number, pages.granted number = [] → after.freed number = after.granted number) ∧
    (∀ count fault after, (Magazine.allocate count).run.run pages = (.error fault, after) →
      ∀ number, pages.granted number = [] → after.freed number = after.granted number) ∧
    pages.counters.blocksFreed ≤ pages.counters.blocksAllocated ∧
      pages.counters.liveBlocks = pages.blocks.countP (!·.disposed) := by
  intro estate pages
  have balanced : pages.Balanced estate.held estate.demanded :=
    (balanced_of_start started).run operations
  refine ⟨fun number => ⟨balanced.length_granted_le number, ?_, ?_, ?_, ?_⟩, ?_, ?_, ?_, ?_⟩
  · rw [balanced.freed_eq]
    split
    next => exact .inr rfl
    next => exact .inl rfl
  · intro unheld
    rw [balanced.freed_eq, if_pos (.inr unheld)]
  · intro held kept
    rw [balanced.freed_eq, if_neg]
    exact not_or.2 ⟨kept, not_not.2 held⟩
  · exact fun block found => balanced.recorded.told found
  · intro stubs fault after failed number unseen
    exact balanced.freed_of_new (balanced.attach failed) unseen
  · intro count fault after failed number unseen
    exact balanced.freed_of_new (balanced.allocateMagazine failed) unseen
  · exact balanced.recorded.blocksFreed_le
  · exact balanced.liveBlocks

/-- A function outlives its library, a magazine is given up, the block of a closure is disposed of
twice, and stubs are attached to pages that cannot be made executable. -/
def eventful : List Operation :=
  let add : FunctionDeclaration :=
    { name := "add", parameters := [{ type := .int }, { type := .int }]
      result := { type := .int } }
  let symbols : SymbolTable := ⟨[("add", 0x10000), ("sub", 0x10010)]⟩
  [.bindLibrary symbols ⟨[add, { add with name := "sub" }], []⟩ {},
    .share 0 0,
    .drop 1,
    .allocateMagazine 1,
    .drop 0,
    .elsewhere fun world => ((World.newCallableAt 7 fun _ => return .panic).run world).2,
    .closureFor World.signal 0,
    .dispose 2,
    .dispose 2,
    .permit (.limited 256 none false),
    .attach [⟨"add", "add(Int, Int): Int", ⟨[0xc3], []⟩⟩]]

theorem pages_freed_once_eventful :
    let estate := Estate.run { world := World.small } eventful
    let pages := estate.world.toPageStore
    (estate.held = [0, 2] ∧ estate.demanded = [2, 2]) ∧
      (List.range 5).map pages.granted = [[1], [1], [1], [1], []] ∧
        pages.freed 0 = [] ∧ pages.freed 2 = [1] ∧
          (∀ number, number ∉ [0, 2] → pages.freed number = pages.granted number) ∧
            pages.counters.liveBlocks = 1 := by
  have booted : World.start {} (some (.limited 256 none true)) = .ok World.small := rfl
  have kept := pages_freed_once booted eventful
  have held : (Estate.run { world := World.small } eventful).held = [0, 2] := by decide +kernel
  have demanded : (Estate.run { world := World.small } eventful).demanded = [2, 2] := by
    decide +kernel
  have granted : (List.range 5).map (Estate.run { world := World.small } eventful).world.granted =
      [[1], [1], [1], [1], []] := by decide +kernel
  have disposed : (Estate.run { world := World.small } eventful).world.freed 2 = [1] := by
    decide +kernel
  have live : (Estate.run { world := World.small } eventful).world.blocks.countP (!·.disposed) =
      1 := by decide +kernel
  generalize Estate.run { world := World.small } eventful = estate at *
  obtain ⟨each, _, _, _, counted⟩ := kept
  refine ⟨⟨held, demanded⟩, granted, ?_, disposed, fun number unheld => ?_, counted.trans live⟩
  · refine (each 0).2.2.2.1 ?_ ?_
    · rw [held]
      exact List.mem_cons_self
    · rw [demanded]
      decide
  · rw [← held] at unheld
    exact (each number).2.2.1 unheld

end Estate

end ForeignCall
