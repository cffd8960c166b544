import ForeignCall.Store

/-! Blocks of executable pages. A block is written while it is open, is sealed before it is run, and
is freed once: when it is disposed of or when its last owner is gone.

Which requests are granted, and whether blocks can be sealed, is up to the allocator and told by a
policy. Of the allocator of the system it is assumed that its pages take 4096 bytes, that it grants
what is not more than `systemLimit`, and that sealing never fails; what is proved about pages holds
for any other policy as well. Mapped pages start as zeros, and freeing them always succeeds. -/

namespace ForeignCall

structure PagePolicy where
  pageSize : Nat
  /-- Whether a request is granted, told the number of blocks granted before and of pages asked
  for. -/
  grants : Nat → Nat → Bool
  seals : Bool

namespace PagePolicy

def systemPageSize : Nat := 4096

def systemLimit : Nat := 0x10000000000

def roundPageSize (size : Nat) : Nat :=
  (max size 1 + systemPageSize - 1) / systemPageSize * systemPageSize

/-- Whether rounding a page size stays within a word. -/
def rounds (size : Nat) : Bool := max size 1 + systemPageSize < UInt64.size

def system (pageSize : Nat) : PagePolicy where
  pageSize := roundPageSize pageSize
  grants _ pages :=
    0 < pages * roundPageSize pageSize && pages * roundPageSize pageSize ≤ systemLimit
  seals := true

def limited (pageSize : Nat) (blocks : Option Nat) (seals : Bool) : PagePolicy where
  pageSize := pageSize
  grants earlier _ := blocks.all (earlier < ·)
  seals := seals

/-- Whole pages for some bytes, at least one. -/
def pagesFor (policy : PagePolicy) (bytes : Nat) : Nat :=
  max ((bytes + policy.pageSize - 1) / policy.pageSize) 1

def bytesOf (policy : PagePolicy) (pages : Nat) : Nat := pages * policy.pageSize

/-- Whether `pagesFor` can be worked out in words: the sum is formed before one is taken away, and
the quotient needs a page size. -/
def counts (policy : PagePolicy) (bytes : Nat) : Bool :=
  0 < policy.pageSize && bytes + policy.pageSize < UInt64.size

end PagePolicy

structure PageBlock where
  base : Nat
  pages : Nat
  /-- Holders that keep the block alive. -/
  owners : Nat := 1
  disposed : Bool := false

inductive PageEvent
  | allocated (block pages : Nat)
  | refused (pages : Nat)
  | sealed (block pages : Nat)
  | freed (block pages : Nat)
  deriving DecidableEq

structure PageStore extends Store where
  policy : PagePolicy := .system PagePolicy.systemPageSize
  /-- Every block ever granted, in order. -/
  blocks : List PageBlock := []
  history : List PageEvent := []

namespace PageStore

def onStore {α : Type} (action : StateM Store α) : StateM PageStore α :=
  modifyGet fun pages =>
    let (result, store) := action.run pages.toStore
    (result, { pages with toStore := store })

instance : MonadLiftT (StateM Store) (StateM PageStore) := ⟨onStore⟩

instance : MonadLiftT (StateM Store) (Act PageStore) := ⟨fun action => liftM (onStore action)⟩

instance : MonadLiftT (Act Store) (Act PageStore) :=
  ⟨fun action => ExceptT.mk (onStore action.run)⟩

def block (pages : PageStore) (number : Nat) : PageBlock :=
  pages.blocks[number]?.getD { base := 0, pages := 0, disposed := true }

def byteSize (pages : PageStore) (number : Nat) : Nat :=
  pages.policy.bytesOf (pages.block number).pages

def note (event : PageEvent) : StateM PageStore Unit :=
  modify fun pages => { pages with history := pages.history ++ [event] }

def setBlock (number : Nat) (block : PageBlock) : StateM PageStore Unit :=
  modify fun pages => { pages with blocks := pages.blocks.set number block }

/-- A new block for some bytes, with one owner. Where their pages cannot be counted the program
ends; a product of pages that no word holds ends it here, too. -/
def allocate (bytes : Nat) : Act PageStore Nat := do
  let pages ← get
  let wanted := pages.policy.pagesFor bytes
  let number := pages.blocks.length
  let size := pages.policy.bytesOf wanted
  if pages.policy.counts bytes && pages.policy.grants number wanted then
    note (.allocated number wanted)
    let base ← Store.allocate PagePolicy.systemPageSize size []
    modify fun pages => { pages with blocks := pages.blocks ++ [{ base, pages := wanted }] }
    Store.record (.pagesAllocated base wanted)
    Store.count fun counters => { counters with blocksAllocated := counters.blocksAllocated + 1 }
    return number
  else
    unless pages.policy.counts bytes do Store.abort .arithmetic
    note (.refused wanted)
    throw (.memoryExhausted size)

/-- Frees the pages of a block, unless that was done before. -/
def dispose (number : Nat) : StateM PageStore Bool := do
  let block := (← get).block number
  if block.disposed then return false
  setBlock number { block with disposed := true }
  note (.freed number block.pages)
  Store.release block.base
  Store.record (.pagesReleased block.base block.pages)
  Store.count fun counters => { counters with blocksFreed := counters.blocksFreed + 1 }
  return true

def retain (number : Nat) : StateM PageStore Unit := do
  let block := (← get).block number
  setBlock number { block with owners := block.owners + 1 }

def release (number : Nat) : StateM PageStore Unit := do
  let block := (← get).block number
  setBlock number { block with owners := block.owners - 1 }
  if block.owners ≤ 1 then discard (dispose number)

def makeExecutable (number : Nat) : Act PageStore Unit := do
  let pages ← get
  note (.sealed number (pages.block number).pages)
  unless pages.policy.seals do throw (.memoryExhausted (pages.byteSize number))

def makeExecutableOrRelease (number : Nat) : Act PageStore Unit :=
  tryCatch (makeExecutable number) fun fault => do
    release number
    throw fault

def locate? (pages : PageStore) (address : Nat) : Option (Nat × Nat) :=
  (pages.blocks.findIdx? fun block =>
      block.base ≤ address && address < block.base + pages.policy.bytesOf block.pages).map
    fun number => (number, address - (pages.block number).base)

def describeBlock (block : PageBlock) (address : String) : String :=
  s!"PageBlock \x7b address: {address}, pages: {block.pages}, disposed: {block.disposed} \x7d"

end PageStore

end ForeignCall
