import ForeignCall.CType

/-! Argument registers: which ones a calling standard has, how arguments claim them, and the
register contents with which a function is entered and left. -/

namespace ForeignCall

inductive Abi
  | systemV
  | win64
  deriving DecidableEq

namespace Abi

def integerRegisters : Abi → Nat
  | systemV => 6
  | win64 => 4

def floatRegisters : Abi → Nat
  | systemV => 8
  | win64 => 4

def sharesPositions : Abi → Bool
  | systemV => false
  | win64 => true

end Abi

structure RegisterUse where
  integers : Nat := 0
  floats : Nat := 0

namespace RegisterUse

def next (used : RegisterUse) (abi : Abi) (floating : Bool) : Nat :=
  if abi.sharesPositions then used.integers + used.floats
  else if floating then used.floats
  else used.integers

def hasRoom (used : RegisterUse) (abi : Abi) (floating : Bool) : Bool :=
  used.next abi floating <
    if abi.sharesPositions || !floating then abi.integerRegisters else abi.floatRegisters

def claim (used : RegisterUse) (floating : Bool) : RegisterUse :=
  if floating then { used with floats := used.floats + 1 }
  else { used with integers := used.integers + 1 }

def assignFrom (abi : Abi) (used : RegisterUse) : List Bool → Option (List Nat)
  | [] => some []
  | floating :: rest =>
    if used.hasRoom abi floating then
      (assignFrom abi (used.claim floating) rest).map (used.next abi floating :: ·)
    else none

end RegisterUse

def assignRegisters (abi : Abi) (floating : List Bool) : Option (List Nat) :=
  RegisterUse.assignFrom abi {} floating

theorem length_assignFrom {abi : Abi} {used : RegisterUse} {floating : List Bool}
    {assigned : List Nat} (found : RegisterUse.assignFrom abi used floating = some assigned) :
    assigned.length = floating.length := by
  induction floating generalizing used assigned with
  | nil => simp_all [RegisterUse.assignFrom]
  | cons head rest ih =>
    rw [RegisterUse.assignFrom] at found
    split at found
    next =>
      obtain ⟨tail, tailFound, rfl⟩ := Option.map_eq_some_iff.1 found
      simp [ih tailFound]
    next => simp at found

/-- What a function finds when it is entered under System V: integer registers in order, the low
halves of the vector registers, and the words on the stack. -/
structure EntryRegisters where
  integers : List UInt64
  floats : List UInt64
  stack : List UInt64

namespace EntryRegisters

def empty : EntryRegisters := ⟨[], [], []⟩

def push (entry : EntryRegisters) (floating : Bool) (image : UInt64) : EntryRegisters :=
  if floating then
    if entry.floats.length < Abi.systemV.floatRegisters then
      { entry with floats := entry.floats ++ [image] }
    else { entry with stack := entry.stack ++ [image] }
  else if entry.integers.length < Abi.systemV.integerRegisters then
    { entry with integers := entry.integers ++ [image] }
  else { entry with stack := entry.stack ++ [image] }

def ofArguments (arguments : List (Bool × UInt64)) : EntryRegisters :=
  arguments.foldl (fun entry (floating, image) => entry.push floating image) empty

def pop (entry : EntryRegisters) (floating : Bool) : UInt64 × EntryRegisters :=
  match (if floating then entry.floats else entry.integers), entry.stack with
  | image :: rest, _ =>
    (image, if floating then { entry with floats := rest } else { entry with integers := rest })
  | [], word :: rest => (word, { entry with stack := rest })
  | [], [] => (0, entry)

end EntryRegisters

/-- What a function leaves behind: the integer and the floating-point result register. Only the one
that fits the function's result type means anything, and only up to that type's width. -/
structure ReturnRegisters where
  integer : UInt64
  floating : UInt64

namespace ReturnRegisters

def ofImage (type : CType) (image : UInt64) : ReturnRegisters :=
  if type.isFloating then ⟨0, image⟩ else ⟨image, 0⟩

def image (returned : ReturnRegisters) (type : CType) : UInt64 :=
  if type.isFloating then returned.floating else returned.integer

@[simp] theorem image_ofImage (type : CType) (image : UInt64) :
    (ofImage type image).image type = image := by
  by_cases floating : type.isFloating <;> simp [ofImage, ReturnRegisters.image, floating]

end ReturnRegisters

end ForeignCall
