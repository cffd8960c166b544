import ForeignCall.Native.Callers
import ForeignCall.Native.Numbers

/-! All native functions, by name and by address. -/

namespace ForeignCall

namespace NativeFunction

def all : List NativeFunction := numbers ++ buffers ++ callers

def addressAt (index : Nat) : Nat := 0x10000 + 16 * index

def find? (name : String) : Option NativeFunction := all.find? (·.name == name)

def address? (name : String) : Option Nat :=
  (all.findIdx? (·.name == name)).map addressAt

def atAddress? (address : Nat) : Option NativeFunction :=
  if 0x10000 ≤ address ∧ (address - 0x10000) % 16 = 0 then all[(address - 0x10000) / 16]?
  else none

theorem atAddress?_addressAt (index : Nat) : atAddress? (addressAt index) = all[index]? := by
  have start : 0x10000 ≤ addressAt index := by simp [addressAt]
  have offset : addressAt index - 0x10000 = 16 * index := by simp [addressAt]
  simp [atAddress?, start, offset]

end NativeFunction

def Memory.initial : Memory := { regions := NativeFunction.greetingRegions }

end ForeignCall
