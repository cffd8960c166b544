import ForeignCall.CType

/-! The types in which the host language describes what crosses the boundary. -/

namespace ForeignCall

inductive CallConvention
  | default
  | stdcall
  deriving DecidableEq

inductive IntegerKind
  | boolean
  | byte
  | short
  | char
  | int
  | long
  deriving DecidableEq

namespace IntegerKind

def all : List IntegerKind := [boolean, byte, short, char, int, long]

def name : IntegerKind → String
  | boolean => "boolean"
  | byte => "byte"
  | short => "short"
  | char => "char"
  | int => "int"
  | long => "long"

def isNarrow : IntegerKind → Bool
  | long => false
  | _ => true

end IntegerKind

inductive Element
  | byte
  | short
  | int
  | long
  | float
  | double
  deriving DecidableEq

namespace Element

def all : List Element := [byte, short, int, long, float, double]

/-- Elements have the same width under every data model. -/
def ctype : Element → CType
  | byte => .signedChar
  | short => .short
  | int => .int
  | long => .longLong
  | float => .float
  | double => .double

def size : Element → Nat
  | byte => 1
  | short => 2
  | int | float => 4
  | long | double => 8

theorem size_pos (element : Element) : 0 < element.size := by
  cases element <;> decide

def name : Element → String
  | byte => "byte"
  | short => "short"
  | int => "int"
  | long => "long"
  | float => "float"
  | double => "double"

end Element

structure StructLayout where
  name : String
  size : Nat
  alignment : Nat
  deriving DecidableEq

def StructLayout.of (name : String) (size alignment : Nat) : StructLayout :=
  ⟨name, size, max alignment 1⟩

structure Enumeration where
  name : String
  constants : List (String × Int64)
  deriving DecidableEq

namespace Enumeration

def ordinal (name : String) (constants : List String) : Enumeration :=
  ⟨name, constants.zipIdx.map fun (constant, index) => (constant, Int64.ofNat index)⟩

def size (enumeration : Enumeration) : Nat := enumeration.constants.length

def constantName? (enumeration : Enumeration) (index : Nat) : Option String :=
  enumeration.constants[index]?.map (·.1)

def value? (enumeration : Enumeration) (index : Nat) : Option Int64 :=
  enumeration.constants[index]?.map (·.2)

def indexOf? (enumeration : Enumeration) (name : String) : Option Nat :=
  enumeration.constants.findIdx? (·.1 == name)

end Enumeration

inductive HostType
  | void
  | boolean
  | byte
  | short
  /-- Unsigned and 16 bits wide. -/
  | char
  | int
  | long
  | float
  | double
  | address
  /-- Passed as an encoded and terminated buffer. -/
  | text
  | array (element : Element)
  | struct (layout : StructLayout)
  | enum (enumeration : Enumeration)
  | enumSet (enumeration : Enumeration)
  | callback (parameters : List HostType) (result : HostType) (convention : CallConvention)
  /-- Known by name only; it needs an annotation or a mapper. -/
  | named (name : String)

namespace HostType

mutual

def same : HostType → HostType → Bool
  | void, void | boolean, boolean | byte, byte | short, short | char, char | int, int
  | long, long | float, float | double, double | address, address | text, text => true
  | array left, array right => left == right
  | struct left, struct right => left == right
  | enum left, enum right => left == right
  | enumSet left, enumSet right => left == right
  | callback leftParameters leftResult leftConvention,
    callback rightParameters rightResult rightConvention =>
    sameAll leftParameters rightParameters && same leftResult rightResult &&
      leftConvention == rightConvention
  | named left, named right => left == right
  | _, _ => false

def sameAll : List HostType → List HostType → Bool
  | [], [] => true
  | left :: lefts, right :: rights => same left right && sameAll lefts rights
  | _, _ => false

end

mutual

theorem same_iff (left right : HostType) : same left right = true ↔ left = right := by
  cases left with
  | callback parameters result convention =>
    cases right <;> simp [same, sameAll_iff parameters, same_iff result, and_assoc]
  | _ => cases right <;> simp [same]

theorem sameAll_iff (left right : List HostType) : sameAll left right = true ↔ left = right := by
  cases left with
  | nil => cases right <;> simp [sameAll]
  | cons head tail => cases right <;> simp [sameAll, same_iff head, sameAll_iff tail]

end

instance : DecidableEq HostType := fun left right => decidable_of_iff _ (same_iff left right)

def integerKind? : HostType → Option IntegerKind
  | boolean => some .boolean
  | byte => some .byte
  | short => some .short
  | char => some .char
  | int => some .int
  | long | address => some .long
  | _ => none

def isScalar (type : HostType) : Bool :=
  type.integerKind?.isSome || type matches float | double

def isVoid (type : HostType) : Bool := type matches void

def plain : List HostType :=
  [void, boolean, byte, short, char, int, long, float, double, address, text]

def describe : HostType → String
  | void => "void"
  | boolean => "boolean"
  | byte => "byte"
  | short => "short"
  | char => "char"
  | int => "int"
  | long => "long"
  | float => "float"
  | double => "double"
  | address => "address"
  | text => "text"
  | array element => element.name ++ "[]"
  | struct layout => "struct " ++ layout.name
  | enum enumeration => "enum " ++ enumeration.name
  | enumSet enumeration => "set<" ++ enumeration.name ++ ">"
  | callback .. => "callback"
  | named name => name

end HostType

end ForeignCall
