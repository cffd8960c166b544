import ForeignCall.Bytes

/-! Native memory as a list of separate regions. Bytes outside every region cannot be read. -/

namespace ForeignCall

/-- A run of readable bytes. Bytes that were never written are zero. -/
structure Region where
  base : Nat
  length : Nat
  written : List UInt8

namespace Region

def holds (region : Region) (address : Nat) : Bool :=
  region.base ≤ address && address < region.base + region.length

def byte (region : Region) (address : Nat) : UInt8 :=
  region.written[address - region.base]?.getD 0

def writtenFrom (region : Region) (address : Nat) : List UInt8 :=
  region.written.drop (address - region.base)

def slice (region : Region) (address count : Nat) : List UInt8 :=
  let found := (region.writtenFrom address).take count
  found ++ List.replicate (count - found.length) 0

@[simp] theorem length_slice (region : Region) (address count : Nat) :
    (region.slice address count).length = count := by
  simp only [slice, List.length_append, List.length_take, List.length_replicate]
  omega

def write (region : Region) (address : Nat) (bytes : List UInt8) : Region :=
  { region with written := overwrite region.written (address - region.base) bytes }

end Region

structure Memory where
  regions : List Region := []
  /-- The lowest address that no region has used yet. -/
  unused : Nat := 0x100000

namespace Memory

def find? (memory : Memory) (address : Nat) : Option Region :=
  memory.regions.find? (·.holds address)

def readable (memory : Memory) (address count : Nat) : Bool :=
  match memory.find? address with
  | some region => address + count ≤ region.base + region.length
  | none => false

def read? (memory : Memory) (address count : Nat) : Option (List UInt8) :=
  match memory.find? address with
  | some region =>
    if address + count ≤ region.base + region.length then some (region.slice address count)
    else none
  | none => none

/-- A run of bytes; zeros where nothing is mapped. -/
def read (memory : Memory) (address count : Nat) : List UInt8 :=
  (memory.read? address count).getD (List.replicate count 0)

@[simp] theorem length_read (memory : Memory) (address count : Nat) :
    (memory.read address count).length = count := by
  rw [read, read?]
  split
  next => split <;> simp
  next => simp

def readRest (memory : Memory) (address : Nat) : List UInt8 :=
  match memory.find? address with
  | some region => region.slice address (region.base + region.length - address)
  | none => []

/-- What was written from an address on, without the zeros that follow in its region. -/
def readWritten (memory : Memory) (address : Nat) : List UInt8 :=
  match memory.find? address with
  | some region => region.writtenFrom address
  | none => []

/-- Writes bytes that lie in one region; anything else is left alone. -/
def write (memory : Memory) (address : Nat) (bytes : List UInt8) : Memory :=
  { memory with
    regions := memory.regions.map fun region =>
      if region.holds address && address + bytes.length ≤ region.base + region.length then
        region.write address bytes
      else region }

/-- A fresh region of a given length that starts with the given bytes. Regions start at multiples
of the alignment and do not touch each other. -/
def allocate (memory : Memory) (alignment length : Nat) (bytes : List UInt8) : Nat × Memory :=
  let base := (memory.unused / alignment + 1) * alignment
  (base,
    { regions := ⟨base, length, bytes⟩ :: memory.regions
      unused := base + length + 1 })

def release (memory : Memory) (base : Nat) : Memory :=
  { memory with regions := memory.regions.filter (·.base != base) }

end Memory

end ForeignCall
