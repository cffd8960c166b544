import ForeignCall.Pages
import ForeignCall.X86.Code

/-! Installing call stubs: all stubs of a set lie in one block of pages, one behind the other at
multiples of eight. -/

namespace ForeignCall

structure PendingStub where
  name : String
  /-- The signature as diagnostics show it. -/
  signature : String
  code : X86.Code

structure InstalledStub where
  name : String
  signature : String
  address : Nat
  size : Nat
  deriving DecidableEq

namespace Stub

/-- Bytes that every stub may lose to alignment. -/
def padding : Nat := 8

def reservedSize (stubs : List PendingStub) : Nat :=
  stubs.foldl (fun total stub => total + (stub.code.bytes.length + padding)) 0

def aligned (position : Nat) : Nat := (position + 7) / 8 * 8

def offsets (position : Nat) : List PendingStub → List Nat
  | [] => []
  | stub :: rest =>
    aligned position :: offsets (aligned position + stub.code.bytes.length) rest

@[simp] theorem length_offsets (position : Nat) (stubs : List PendingStub) :
    (offsets position stubs).length = stubs.length := by
  induction stubs generalizing position with
  | nil => rfl
  | cons stub rest ih => simp [offsets, ih]

def installed (base : Nat) (stubs : List PendingStub) : List InstalledStub :=
  (stubs.zip (offsets 0 stubs)).map fun (stub, offset) =>
    ⟨stub.name, stub.signature, base + offset, stub.code.bytes.length⟩

def attach (stubs : List PendingStub) : Act PageStore (Nat × List InstalledStub) := do
  let block ← PageStore.allocate (reservedSize stubs)
  let installed := installed ((← get).block block).base stubs
  for (stub, entry) in stubs.zip installed do
    Store.write entry.address stub.code.relocated
  PageStore.makeExecutableOrRelease block
  for (stub, entry) in stubs.zip installed do
    Store.record (.stubInstalled entry.name entry.address entry.size)
    Store.record (.stubCode entry.name stub.code.bytes)
    Store.count fun counters => { counters with stubsInstalled := counters.stubsInstalled + 1 }
  return (block, installed)

end Stub

end ForeignCall
