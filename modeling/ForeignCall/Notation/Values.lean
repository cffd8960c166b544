import ForeignCall.Notation.Types

/-! How values are written. Floating-point numbers are written as their bits. -/

namespace ForeignCall

namespace Tree

def single (value : Single) : Tree :=
  if value &&& 0x7fffffff > 0x7f800000 then .text "nan" else fixedHex 8 value.toNat

def double (value : Double) : Tree :=
  if value &&& 0x7fffffffffffffff > 0x7ff0000000000000 then .text "nan"
  else fixedHex 16 value.toNat

end Tree

instance : Written Elements where
  write elements :=
    let data : Tree := match elements with
      | .bytes values => write (values.map (·.toInt))
      | .shorts values => write (values.map (·.toInt))
      | .ints values => write (values.map (·.toInt))
      | .longs values => write values
      | .floats values => .list (values.map .single)
      | .doubles values => .list (values.map .double)
    .record [("t", "array"), ("elem", elements.element), ("data", data)]

def Value.write (heap : Heap) (value : Value) : Tree :=
  let tag := match value with
    | .bool _ => "bool"
    | .enumSet _ => "enum_set"
    | _ => value.kind
  let content : Fields := match value with
    | .void | .null | .callback _ | .object _ | .array _ => []
    | .bool value => [("v", value)]
    | .byte value => [("v", value.toInt)]
    | .short value => [("v", value.toInt)]
    | .char value => [("v", value.toNat)]
    | .int value => [("v", value.toInt)]
    | .long value => [("v", value)]
    | .address value => [("v", value)]
    | .float value => [("v", .single value)]
    | .double value => [("v", .double value)]
    | .text value => [("v", value)]
    | .struct layout reference => [("name", layout.name), ("hex", .hex (heap.struct reference))]
    | .enum constant =>
      [("type", constant.enumeration.name), ("name", constant.name), ("index", constant.index)]
    | .enumSet subset =>
      [("type", subset.enumeration.name), ("indices", subset.members),
       ("names", subset.members.map fun index => (EnumConstant.mk subset.enumeration index).name)]
  match value with
  | .array reference => Written.write (heap.array reference)
  | _ => .record (("t", tag) :: content)

instance : Written Value := ⟨Value.write {}⟩

namespace Reading

instance : Readable Elements where
  read := do
    let data {α : Type} (item : Reading α) : Reading (List α) := do
      (← fields "data").mapM (within · item)
    match ← field "elem" with
    | Element.byte => return .bytes (← data (return (← Readable.read (α := Int64)).toInt8))
    | .short => return .shorts (← data (return (← Readable.read (α := Int64)).toInt16))
    | .int => return .ints (← data (return (← Readable.read (α := Int64)).toInt32))
    | .long => return .longs (← data Readable.read)
    | .float => return .floats (← data (return UInt32.ofNat (← bits)))
    | .double => return .doubles (← data (return UInt64.ofNat (← bits)))

def number : Reading Int64 := field "v"

def pattern : Reading Nat := do within (← field "v") bits

def value : Reading Value := do
  match ← field "t" with
  | "void" => return .void
  | "null" => return .null
  | "object" =>
    modifyGet fun (session : Session) =>
      (.object session.objects, { session with objects := session.objects + 1 })
  | "bool" => return .bool (← field "v")
  | "byte" => return .byte (← number).toInt8
  | "short" => return .short (← number).toInt16
  | "char" => return .char (← number).toUInt64.toUInt16
  | "int" => return .int (← number).toInt32
  | "long" => return .long (← number)
  | "address" => return .address (← number).toUInt64
  | "float" => return .float (.ofNat (← pattern))
  | "double" => return .double (.ofNat (← pattern))
  | "text" => return .text (← field "v")
  | "array" => Session.run (Store.newArray (← Readable.read))
  | "struct" =>
    let layout : StructLayout ← field "layout"
    let bytes ← fieldOr "hex" (List.replicate layout.size 0)
    Session.run (Store.newStruct layout bytes)
  | "enum" =>
    let enumeration ← field "type"
    match ← field? "name" with
    | some name => .enum <$> Session.found name (EnumConstant.ofName? enumeration name)
    | none => return .enum ⟨enumeration, ← field "index"⟩
  | "enum_set" =>
    let enumeration ← field "type"
    match ← field? "indices" with
    | some indices => return .enumSet (.ofIndices enumeration indices)
    | none =>
      .enumSet <$> Session.found "constant" (EnumSubset.ofNames? enumeration (← fields "names"))
  | "callback" => return .callback (← Session.callable (← field "name"))
  | "native" =>
    let name ← field "name"
    return .address (.ofNat (← Session.found name (NativeFunction.address? name)))
  | "ref" =>
    let name ← field "name"
    Session.found name ((← getThe Session).values.lookup name)
  | tag => throw (Misreading.unknown tag)

instance : Readable Value := ⟨value⟩

/-- A value, or the address of some bytes that are followed by zeros. -/
def valueOrMemory : Reading Value := do
  match ← field? "memory" with
  | some bytes =>
    let padded := bytes ++ List.replicate 8 0
    return .address (.ofNat (← Session.run (Store.allocate 8 padded.length padded)))
  | none => value

end Reading

namespace Session

def display (value : Value) : Reading Tree := return value.write (← current).heap

def outcome (action : Act Store Value) : Reading Tree := do
  match ← run action.run with
  | .ok value => display value
  | .error fault => return write fault

end Session

end ForeignCall
