import ForeignCall.Bytes
import ForeignCall.CType
import ForeignCall.Text.Hexadecimal

/-! Argument and result slots: eight bytes in which a register image lies at the width of its C
type, as a prepared call interface hands them over. -/

namespace ForeignCall

namespace Slot

/-- How many bytes of a slot a C type takes. A pointer always takes a machine word. -/
def width (type : CType) (model : DataModel) : Nat :=
  match type with
  | .pointer => 8
  | _ => min (type.size model) 8

def ofImage (image : UInt64) (type : CType) (model : DataModel) : UInt64 :=
  match type with
  | .void => 0
  | .float => image.toUInt32.toUInt64
  | .double | .pointer => image
  | _ =>
    match type.size model with
    | 1 => image.toUInt8.toUInt64
    | 2 => image.toUInt16.toUInt64
    | 4 => image.toUInt32.toUInt64
    | _ => image

/-- The image of a result that a call left in its slot. Integers fill the slot. -/
def toImage (slot : UInt64) (type : CType) : UInt64 :=
  match type with
  | .void => 0
  | .float => slot.toUInt32.toUInt64
  | _ => slot

def readWidth (type : CType) (model : DataModel) : Nat :=
  match type with
  | .void => 0
  | .float => 4
  | .double | .pointer => 8
  | _ =>
    match type.size model with
    | 1 => 1
    | 2 => 2
    | 4 => 4
    | _ => 8

def widen (image : UInt64) (type : CType) (model : DataModel) : UInt64 :=
  match type with
  | .void => 0
  | .float => image.toUInt32.toUInt64
  | .double | .pointer => image
  | _ =>
    match type.size model, type.isSigned with
    | 1, true => image.toUInt8.toInt8.toInt64.toUInt64
    | 2, true => image.toUInt16.toInt16.toInt64.toUInt64
    | 4, true => image.toUInt32.toInt32.toInt64.toUInt64
    | 1, false => image.toUInt8.toUInt64
    | 2, false => image.toUInt16.toUInt64
    | 4, false => image.toUInt32.toUInt64
    | _, _ => image

def readBytes (bytes : List UInt8) (type : CType) (model : DataModel) : UInt64 :=
  widen (ofLittleEndian (bytes.take (readWidth type model))) type model

def bytes (slot : UInt64) : List UInt8 := littleEndian 8 slot

/-- A result buffer after a result was put into it. A `float` leaves the upper half alone and a
missing result leaves everything alone. -/
def putResult (buffer image : UInt64) (type : CType) : UInt64 :=
  match type with
  | .float => (buffer &&& 0xffffffff00000000) ||| image.toUInt32.toUInt64
  | .void => buffer
  | _ => image

def describe (slot : UInt64) : String := s!"ArgSlot({hexAddress slot.toNat})"

@[simp] theorem readWidth_le (type : CType) (model : DataModel) : readWidth type model ≤ 8 := by
  cases type <;> simp only [readWidth] <;> (try split) <;> decide

end Slot

end ForeignCall
