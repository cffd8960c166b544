import ForeignCall.Annotation
import ForeignCall.Value

/-! Arguments passed by reference: their contents travel through a native buffer that lives for one
call, in the directions that the annotations ask for. -/

namespace ForeignCall

/-- In which directions contents are copied, and whether a zero element follows an array. -/
structure Direction where
  copyIn : Bool
  copyOut : Bool
  terminated : Bool
  deriving DecidableEq

namespace Direction

def both : Direction := ⟨true, true, false⟩

def ofAnnotations (annotations : Annotations) : Direction :=
  let inward := annotations.contains .copyIn
  let outward := annotations.contains .copyOut
  ⟨inward || !outward, outward || !inward, annotations.contains .terminated⟩

end Direction

def marshalElements (elements : Elements) (direction : Direction) : List UInt8 :=
  let length := elements.length + if direction.terminated then 1 else 0
  let blank := List.replicate (length * elements.element.size) 0
  if direction.copyIn then elements.writeOver blank else blank

/-- The elements after a call that left a buffer in some state. Elements that have outgrown the
buffer cannot be read from it. -/
def unmarshalElements? (elements : Elements) (buffer : List UInt8) (direction : Direction) :
    Option Elements :=
  if !direction.copyOut then some elements
  else if elements.byteSize ≤ buffer.length then
    some (elements.readFrom (buffer.take elements.byteSize))
  else none

theorem isSome_unmarshalElements? (elements : Elements) (buffer : List UInt8)
    (direction : Direction) :
    (unmarshalElements? elements buffer direction).isSome =
      (!direction.copyOut || decide (elements.byteSize ≤ buffer.length)) := by
  unfold unmarshalElements?
  split
  next inward => simp [inward]
  next outward => split <;> simp_all

/-- The buffer of a struct: its contents or zeros, at least as long as the layout says. -/
def marshalBytes (layout : StructLayout) (bytes : List UInt8) (direction : Direction) :
    List UInt8 :=
  let blank := List.replicate (max layout.size bytes.length) 0
  if direction.copyIn then overwrite blank 0 bytes else blank

def unmarshalBytes (bytes buffer : List UInt8) (direction : Direction) : List UInt8 :=
  if direction.copyOut then
    buffer.take bytes.length ++ bytes.drop (min bytes.length buffer.length)
  else bytes

inductive Owner
  | array (reference : Nat)
  | struct (reference : Nat)
  deriving DecidableEq

def Value.lend? (value : Value) (heap : Heap) (direction : Direction) :
    Option (Owner × List UInt8) :=
  match value with
  | .array reference =>
    some (.array reference, marshalElements (heap.array reference) direction)
  | .struct layout reference =>
    some (.struct reference, marshalBytes layout (heap.struct reference) direction)
  | _ => none

/-- Copies a buffer back to its owner, which is impossible if that is an array that has outgrown
it. -/
def Heap.copyBack? (heap : Heap) (owner : Owner) (buffer : List UInt8) (direction : Direction) :
    Option Heap :=
  match owner with
  | .array reference =>
    (unmarshalElements? (heap.array reference) buffer direction).map (heap.setArray reference)
  | .struct reference =>
    some (heap.setStruct reference (unmarshalBytes (heap.struct reference) buffer direction))

end ForeignCall
