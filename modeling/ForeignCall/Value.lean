import ForeignCall.Elements
import ForeignCall.Text.Quoted

/-! Host values that cross the boundary. Arrays, structs, callables and host objects are shared: a
value holds a reference to them, and two such values are equal when they share. -/

namespace ForeignCall

structure EnumConstant where
  enumeration : Enumeration
  index : Nat
  deriving DecidableEq

namespace EnumConstant

def ofName? (enumeration : Enumeration) (name : String) : Option EnumConstant :=
  (enumeration.indexOf? name).map (⟨enumeration, ·⟩)

def name (constant : EnumConstant) : String :=
  (constant.enumeration.constantName? constant.index).getD "?"

end EnumConstant

structure EnumSubset where
  enumeration : Enumeration
  members : List Nat
  deriving DecidableEq

namespace EnumSubset

def place (index : Nat) : List Nat → List Nat
  | [] => [index]
  | head :: rest =>
    if index < head then index :: head :: rest
    else if index = head then head :: rest
    else head :: place index rest

theorem mem_place (index query : Nat) (members : List Nat) :
    query ∈ place index members ↔ query = index ∨ query ∈ members := by
  induction members with
  | nil => simp [place]
  | cons head rest ih =>
    rw [place]
    split
    next => simp
    next =>
      split
      next same => simp [same]
      next => simp only [List.mem_cons, ih]; exact or_left_comm

def empty (enumeration : Enumeration) : EnumSubset := ⟨enumeration, []⟩

def insert (subset : EnumSubset) (index : Nat) : EnumSubset :=
  { subset with members := place index subset.members }

def ofIndices (enumeration : Enumeration) (indices : List Nat) : EnumSubset :=
  indices.foldl insert (empty enumeration)

def ofNames? (enumeration : Enumeration) (names : List String) : Option EnumSubset :=
  (names.mapM enumeration.indexOf?).map (ofIndices enumeration)

def contains (subset : EnumSubset) (name : String) : Bool :=
  (subset.enumeration.indexOf? name).any subset.members.contains

def isSuperset (subset other : EnumSubset) : Bool :=
  other.members.all subset.members.contains

end EnumSubset

inductive Value
  | void
  /-- The null reference, which is a null pointer on the native side. -/
  | null
  | bool (value : Bool)
  | byte (value : Int8)
  | short (value : Int16)
  | char (value : UInt16)
  | int (value : Int32)
  | long (value : Int64)
  | float (value : Single)
  | double (value : Double)
  | address (value : UInt64)
  | text (value : String)
  /-- Shared elements, by their place in the heap. -/
  | array (reference : Nat)
  /-- Shared bytes, by their place in the heap, seen through a layout. -/
  | struct (layout : StructLayout) (reference : Nat)
  | enum (constant : EnumConstant)
  | enumSet (subset : EnumSubset)
  /-- A managed callable, by its serial number. -/
  | callback (serial : Nat)
  /-- A host object that only a custom converter understands. -/
  | object (serial : Nat)
  deriving DecidableEq

namespace Value

def toInt64? : Value → Option Int64
  | bool value => some (if value then 1 else 0)
  | byte value => some value.toInt64
  | short value => some value.toInt64
  | char value => some value.toUInt64.toInt64
  | int value => some value.toInt64
  | long value => some value
  | address value => some value.toInt64
  | null => some 0
  | _ => none

def toDouble? : Value → Option Double
  | float value => some (Single.widen value)
  | double value => some value
  | value => value.toInt64?.map Double.ofInt64

def kind : Value → String
  | void => "void"
  | null => "null"
  | bool _ => "boolean"
  | byte _ => "byte"
  | short _ => "short"
  | char _ => "char"
  | int _ => "int"
  | long _ => "long"
  | float _ => "float"
  | double _ => "double"
  | address _ => "address"
  | text _ => "text"
  | array _ => "array"
  | struct .. => "struct"
  | enum _ => "enum"
  | enumSet _ => "enum set"
  | callback _ => "callback"
  | object _ => "object"

/-- Equality as the host sees it: references are equal when they share, whatever the layout. -/
def same : Value → Value → Bool
  | struct _ left, struct _ right => left == right
  | left, right => left == right

end Value

structure Heap where
  arrays : List Elements := []
  structs : List (List UInt8) := []

namespace Heap

def array (heap : Heap) (reference : Nat) : Elements :=
  heap.arrays[reference]?.getD (.bytes [])

def struct (heap : Heap) (reference : Nat) : List UInt8 :=
  heap.structs[reference]?.getD []

def newArray (heap : Heap) (elements : Elements) : Nat × Heap :=
  (heap.arrays.length, { heap with arrays := heap.arrays ++ [elements] })

def newStruct (heap : Heap) (bytes : List UInt8) : Nat × Heap :=
  (heap.structs.length, { heap with structs := heap.structs ++ [bytes] })

def setArray (heap : Heap) (reference : Nat) (elements : Elements) : Heap :=
  { heap with arrays := heap.arrays.set reference elements }

def setStruct (heap : Heap) (reference : Nat) (bytes : List UInt8) : Heap :=
  { heap with structs := heap.structs.set reference bytes }

@[simp] theorem array_newArray (heap : Heap) (elements : Elements) :
    (heap.newArray elements).2.array (heap.newArray elements).1 = elements := by
  simp [newArray, array]

theorem array_setArray (heap : Heap) (reference query : Nat) (elements : Elements)
    (bound : reference < heap.arrays.length) :
    (heap.setArray reference elements).array query =
      if reference = query then elements else heap.array query := by
  by_cases same : reference = query <;> simp_all [setArray, array]

theorem struct_setStruct (heap : Heap) (reference query : Nat) (bytes : List UInt8)
    (bound : reference < heap.structs.length) :
    (heap.setStruct reference bytes).struct query =
      if reference = query then bytes else heap.struct query := by
  by_cases same : reference = query <;> simp_all [setStruct, struct]

end Heap

namespace Elements

def integerText (items : List Int) : String :=
  "[" ++ ", ".intercalate (items.map toString) ++ "]"

def describe : Elements → String
  | bytes items => "Byte(" ++ integerText (items.map (·.toInt)) ++ ")"
  | shorts items => "Short(" ++ integerText (items.map (·.toInt)) ++ ")"
  | ints items => "Int(" ++ integerText (items.map (·.toInt)) ++ ")"
  | longs items => "Long(" ++ integerText (items.map (·.toInt)) ++ ")"
  | floats items => "Float(" ++ integerText (items.map (·.toNat)) ++ ")"
  | doubles items => "Double(" ++ integerText (items.map (·.toNat)) ++ ")"

end Elements

namespace Value

def describe (heap : Heap) : Value → String
  | void => "Void"
  | null => "Null"
  | bool value => s!"Bool({value})"
  | byte value => s!"Byte({value.toInt})"
  | short value => s!"Short({value.toInt})"
  | char value => s!"Char({value.toNat})"
  | int value => s!"Int({value.toInt})"
  | long value => s!"Long({value.toInt})"
  | float value => s!"Float({value.toNat})"
  | double value => s!"Double({value.toNat})"
  | address value => s!"Address({hexAddress value.toNat})"
  | text value => s!"Text({quoted value})"
  | array reference => s!"Array({(heap.array reference).describe})"
  | struct layout _ => s!"Struct({layout.name})"
  | enum constant => s!"Enum({constant.name})"
  | enumSet subset =>
    "EnumSet(\x7b" ++ ", ".intercalate (subset.members.map toString) ++ "\x7d)"
  | callback serial => s!"Callback({serial})"
  | object serial => s!"Object({serial})"

end Value

end ForeignCall
