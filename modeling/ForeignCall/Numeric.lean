import ForeignCall.Fault
import ForeignCall.Value

/-! Scalars as register images. An integer image is the value cut to the width of its C type and
extended by that type's signedness; the host value is the image narrowed to the host width. A
floating-point image is a bit pattern, a `float` in the low half. -/

namespace ForeignCall

def narrow (value : Int64) : IntegerKind → Int64
  | .boolean => if value = 0 then 0 else 1
  | .byte => value.toInt8.toInt64
  | .short => value.toInt16.toInt64
  | .char => value.toUInt64.toUInt16.toUInt64.toInt64
  | .int => value.toInt32.toInt64
  | .long => value

def normalize (value : Int64) (type : CType) (model : DataModel) : Int64 :=
  if type.isIntegral then
    let cut := value.toBitVec.setWidth (type.bits model)
    Int64.ofBitVec (if type.isSigned then cut.signExtend 64 else cut.setWidth 64)
  else value

theorem normalize_eq_self_of_wide (value : Int64) (type : CType) (model : DataModel)
    (wide : type.bits model = 64) : normalize value type model = value := by
  unfold normalize
  split
  next => rw [wide]; simp
  next => rfl

def convert (value : Int64) (kind : IntegerKind) (type : CType) (model : DataModel) : Int64 :=
  narrow (normalize value type model) kind

namespace HostType

def valueOfInt64 (type : HostType) (value : Int64) : Value :=
  match type with
  | boolean => .bool (value != 0)
  | byte => .byte value.toInt8
  | short => .short value.toInt16
  | char => .char value.toUInt64.toUInt16
  | int => .int value.toInt32
  | address => .address value.toUInt64
  | _ => .long value

end HostType

namespace Value

def integerOperand (value : Value) (type : HostType) : Except Fault Int64 :=
  match value with
  | float _ | double _ => .error (.typeMismatch type.describe value.kind)
  | null =>
    if type = .address then .ok 0 else .error (.typeMismatch type.describe "null")
  | _ =>
    match value.toInt64? with
    | some integer => .ok integer
    | none => .error (.typeMismatch type.describe value.kind)

def floatOperand (value : Value) (type : HostType) : Except Fault Double :=
  match value with
  | float pattern => .ok (Single.widen pattern)
  | double pattern => .ok pattern
  | byte integer => .ok (Double.ofInt64 integer.toInt64)
  | short integer => .ok (Double.ofInt64 integer.toInt64)
  | char integer => .ok (Double.ofInt64 integer.toUInt64.toInt64)
  | int integer => .ok (Double.ofInt64 integer.toInt64)
  | long integer => .ok (Double.ofInt64 integer)
  | _ => .error (.typeMismatch type.describe value.kind)

def toImage (value : Value) (type : HostType) (native : CType) (model : DataModel) :
    Except Fault UInt64 :=
  match native with
  | .void => .ok 0
  | .float => do return (Double.narrow (← value.floatOperand type)).toUInt64
  | .double => value.floatOperand type
  | _ => do
    let integer ← value.integerOperand type
    let narrowed := (type.integerKind?.map (narrow integer)).getD integer
    return (normalize narrowed native model).toUInt64

def ofImage (image : UInt64) (type : HostType) (native : CType) (model : DataModel) :
    Except Fault Value :=
  match native with
  | .void => .ok void
  | .float | .double =>
    let pattern := if native = .float then Single.widen image.toUInt32 else image
    match type with
    | .float => .ok (float (Double.narrow pattern))
    | .double => .ok (double pattern)
    | _ => .error (.typeMismatch type.describe native.spelling)
  | _ =>
    match type.integerKind? with
    | some kind => .ok (type.valueOfInt64 (convert image.toInt64 kind native model))
    | none => .error (.typeMismatch type.describe native.spelling)

end Value

end ForeignCall
