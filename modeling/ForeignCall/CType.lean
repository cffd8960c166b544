/-! The scalar types of the C side and their sizes, which depend on the data model. -/

namespace ForeignCall

structure DataModel where
  pointerBytes : Nat
  longBytes : Nat
  deriving DecidableEq

namespace DataModel

def lp64 : DataModel := ⟨8, 8⟩
def llp64 : DataModel := ⟨8, 4⟩
def ilp32 : DataModel := ⟨4, 4⟩

def host : DataModel := lp64

def Valid (model : DataModel) : Prop :=
  (model.pointerBytes = 4 ∨ model.pointerBytes = 8) ∧ (model.longBytes = 4 ∨ model.longBytes = 8)

instance (model : DataModel) : Decidable model.Valid :=
  inferInstanceAs (Decidable ((_ ∨ _) ∧ (_ ∨ _)))

end DataModel

inductive CType
  | void
  | signedChar
  | unsignedChar
  | short
  | unsignedShort
  | int
  | unsignedInt
  | long
  | unsignedLong
  | longLong
  | unsignedLongLong
  | float
  | double
  | pointer
  deriving DecidableEq

namespace CType

def all : List CType :=
  [void, signedChar, unsignedChar, short, unsignedShort, int, unsignedInt, long, unsignedLong,
   longLong, unsignedLongLong, float, double, pointer]

/-- Position in the order of declaration, which orders annotations that name a type. -/
def rank : CType → Nat
  | void => 0
  | signedChar => 1
  | unsignedChar => 2
  | short => 3
  | unsignedShort => 4
  | int => 5
  | unsignedInt => 6
  | long => 7
  | unsignedLong => 8
  | longLong => 9
  | unsignedLongLong => 10
  | float => 11
  | double => 12
  | pointer => 13

theorem rank_injective (left right : CType) (same : left.rank = right.rank) : left = right := by
  cases left <;> cases right <;> simp_all [rank]

def size (type : CType) (model : DataModel) : Nat :=
  match type with
  | void => 0
  | signedChar | unsignedChar => 1
  | short | unsignedShort => 2
  | int | unsignedInt | float => 4
  | long | unsignedLong => model.longBytes
  | longLong | unsignedLongLong | double => 8
  | pointer => model.pointerBytes

def alignment (type : CType) (model : DataModel) : Nat :=
  match type with
  | void => 1
  | _ => type.size model

def bits (type : CType) (model : DataModel) : Nat := type.size model * 8

def isSigned : CType → Bool
  | signedChar | short | int | long | longLong | float | double => true
  | _ => false

def isIntegral : CType → Bool
  | void | float | double => false
  | _ => true

def isFloating : CType → Bool
  | float | double => true
  | _ => false

theorem isIntegral_iff (type : CType) :
    type.isIntegral = true ↔ type ≠ void ∧ type.isFloating = false := by
  cases type <;> decide

def spelling : CType → String
  | void => "void"
  | signedChar => "signed char"
  | unsignedChar => "unsigned char"
  | short => "short"
  | unsignedShort => "unsigned short"
  | int => "int"
  | unsignedInt => "unsigned int"
  | long => "long"
  | unsignedLong => "unsigned long"
  | longLong => "long long"
  | unsignedLongLong => "unsigned long long"
  | float => "float"
  | double => "double"
  | pointer => "void*"

def name : CType → String
  | void => "Void"
  | signedChar => "SChar"
  | unsignedChar => "UChar"
  | short => "SShort"
  | unsignedShort => "UShort"
  | int => "SInt"
  | unsignedInt => "UInt"
  | long => "SLong"
  | unsignedLong => "ULong"
  | longLong => "SLongLong"
  | unsignedLongLong => "ULongLong"
  | float => "Float"
  | double => "Double"
  | pointer => "Address"

end CType

inductive ArgumentClass
  | integer
  | single
  | double
  deriving DecidableEq

namespace ArgumentClass

def ofCType : CType → ArgumentClass
  | .float => single
  | .double => double
  | _ => integer

def isFloating : ArgumentClass → Bool
  | integer => false
  | single | double => true

theorem isFloating_ofCType (type : CType) : (ofCType type).isFloating = type.isFloating := by
  cases type <;> rfl

end ArgumentClass

structure CLayout where
  type : CType
  size : Nat
  alignment : Nat
  signed : Bool
  deriving DecidableEq

def CType.layout (type : CType) (model : DataModel) : CLayout :=
  ⟨type, type.size model, type.alignment model, type.isSigned⟩

end ForeignCall
