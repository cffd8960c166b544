import ForeignCall.Fault
import ForeignCall.Value

/-! Enumerations as C `int`s: constants by their low 32 bits, sets of constants as bit masks. -/

namespace ForeignCall

namespace Enumeration

def escapeName : String := "__UNKNOWN_NATIVE_VALUE"

def ints (enumeration : Enumeration) : List Int32 :=
  enumeration.constants.map (·.2.toInt32)

def indexOfInt? (enumeration : Enumeration) (value : Int32) : Option Nat :=
  ((enumeration.ints.zipIdx.filter (·.1 == value)).getLast?).map (·.2)

def intOf (enumeration : Enumeration) (constant : EnumConstant) : Except Fault Int32 :=
  if constant.enumeration = enumeration then
    match enumeration.ints[constant.index]? with
    | some value => .ok value
    | none => .error (.typeMismatch ("enum " ++ enumeration.name) "invalid constant")
  else
    .error (.typeMismatch ("enum " ++ enumeration.name) ("enum " ++ constant.enumeration.name))

/-- The constant of an integer: the last that has its low 32 bits, or else the escape constant. -/
def constantOf (enumeration : Enumeration) (value : Int64) : Except Fault EnumConstant :=
  match enumeration.indexOfInt? value.toInt32 <|> enumeration.indexOf? escapeName with
  | some index => .ok ⟨enumeration, index⟩
  | none => .error (.unknownEnumValue enumeration.name value)

def maskOf (enumeration : Enumeration) : List Nat → Except Fault Int32
  | [] => .ok 0
  | index :: rest => do
    return (← enumeration.intOf ⟨enumeration, index⟩) ||| (← maskOf enumeration rest)

def subsetOf (enumeration : Enumeration) (mask : Int32) : EnumSubset :=
  ⟨enumeration,
    (enumeration.ints.zipIdx.filter fun (value, _) => mask &&& value == value).map (·.2)⟩

end Enumeration

end ForeignCall
