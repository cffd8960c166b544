import ForeignCall.Journal
import ForeignCall.Memory
import ForeignCall.Value

/-! The state that conversions work on: shared host storage, native memory and the native error
code of the thread, under the journal.

Some mistakes end the whole program where it stands: they are no faults, and nobody is answered.
They leave a mark in the store, which nothing takes away. The action at hand is given up like one
that has failed, so that it comes to something; but neither its answer nor anything that is done
to a marked store is ever seen. -/

namespace ForeignCall

/-- Why the program has ended. -/
inductive Abort
  /-- A word could not hold a sum or a product, or was divided by zero. -/
  | arithmetic
  /-- A slice was to reach beyond the end of its buffer. -/
  | outOfRange
  deriving DecidableEq

structure Store extends Journal where
  heap : Heap := {}
  memory : Memory := {}
  errorCode : Int32 := 0
  abort? : Option Abort := none

namespace Store

def record (event : Event) : StateM Store Unit :=
  modify fun store => { store with toJournal := store.toJournal.record event }

def count (change : Counters → Counters) : StateM Store Unit :=
  modify fun store => { store with toJournal := store.toJournal.count change }

def newArray (elements : Elements) : StateM Store Value :=
  modifyGet fun store =>
    let (reference, heap) := store.heap.newArray elements
    (.array reference, { store with heap })

def newStruct (layout : StructLayout) (bytes : List UInt8) : StateM Store Value :=
  modifyGet fun store =>
    let (reference, heap) := store.heap.newStruct bytes
    (.struct layout reference, { store with heap })

def allocate (alignment length : Nat) (bytes : List UInt8) : StateM Store Nat :=
  modifyGet fun store =>
    let (base, memory) := store.memory.allocate alignment length bytes
    (base, { store with memory })

def release (base : Nat) : StateM Store Unit :=
  modify fun store => { store with memory := store.memory.release base }

def write (address : Nat) (bytes : List UInt8) : StateM Store Unit :=
  modify fun store => { store with memory := store.memory.write address bytes }

def abort (cause : Abort) : StateM Store Unit :=
  modify fun store => { store with abort? := some cause }

end Store

end ForeignCall
