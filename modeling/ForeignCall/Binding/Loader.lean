import ForeignCall.Fault
import ForeignCall.Text.Quoted

/-! Dynamic libraries. What the system's loader opens, and what it finds there, is not known here:
it is given. -/

namespace ForeignCall

/-- The loader of the system: opens a library, or the running process if it is told no name, and
says why it cannot. The address of a symbol is zero if there is none. -/
abbrev Loader := Option String → Except String (String → Nat)

structure DynamicLibrary where
  name : String
  symbol : String → Nat

namespace DynamicLibrary

/-- Whether the loader can be told a name: it takes names up to a zero character. -/
def canName (name : String) : Bool := !name.toList.contains '\x00'

def load (loader : Loader) (name : String) : Except Fault DynamicLibrary :=
  if canName name then
    match loader (some name) with
    | .ok symbol => .ok ⟨name, symbol⟩
    | .error reason => .error (.symbolNotFound (name ++ ": " ++ reason))
  else .error (.symbolNotFound ("invalid library name " ++ quoted name))

def process (loader : Loader) : Except Fault DynamicLibrary :=
  match loader none with
  | .ok symbol => .ok ⟨"<self>", symbol⟩
  | .error reason => .error (.symbolNotFound ("<self>: " ++ reason))

def find? (library : DynamicLibrary) (name : String) : Option Nat :=
  if canName name ∧ library.symbol name ≠ 0 then some (library.symbol name) else none

def lookup (library : DynamicLibrary) (name : String) : Except Fault Nat :=
  match library.find? name with
  | some address => .ok address
  | none => .error (.symbolNotFound name)

def describe (library : DynamicLibrary) : String :=
  "Library \x7b name: " ++ quoted library.name ++ " \x7d"

end DynamicLibrary

end ForeignCall
