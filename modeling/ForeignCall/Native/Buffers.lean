import ForeignCall.Ieee
import ForeignCall.Native.Function

/-! Native functions on memory that a pointer names. What lies outside every region reads as
nothing and is not written. -/

namespace ForeignCall

namespace NativeFunction

def elementsAt (memory : Memory) (address : UInt64) (type : CType) (count : Nat) : List UInt64 :=
  let size := type.size .host
  match memory.read? address.toNat (count * size) with
  | some bytes =>
    (wholeChunks size bytes).map fun chunk => Slot.readBytes chunk type .host
  | none => []

def putElements (address : UInt64) (type : CType) (images : List UInt64) : StateM Store Unit :=
  Store.write address.toNat (images.flatMap (littleEndian (type.size .host)))

def sumIntegers (name : String) (type : CType) : NativeFunction :=
  ⟨name, [.pointer, .int], .longLong, .leaf fun
    | [address, count] => do
      if address = 0 then return 0xffffffffffffffff
      return (elementsAt (← get).memory address type (countOfImage count)).foldl (· + ·) 0
    | _ => return 0⟩

def sumFloats (name : String) (type : CType) (widen : UInt64 → Double) : NativeFunction :=
  ⟨name, [.pointer, .int], .double, .leaf fun
    | [address, count] => do
      if address = 0 then return Double.ofInt64 (-1)
      let images := elementsAt (← get).memory address type (countOfImage count)
      return images.foldl (fun total image => Double.add total (widen image)) 0
    | _ => return 0⟩

def replacing (name : String) (type : CType) (change : List UInt64 → List UInt64) :
    NativeFunction :=
  ⟨name, [.pointer, .int], .void, .leaf fun
    | [address, count] => do
      let images := elementsAt (← get).memory address type (countOfImage count)
      putElements address type (change images)
      return 0
    | _ => return 0⟩

def addAt (address amount : UInt64) : StateM Store UInt64 := do
  if address = 0 then return 0
  let sum := ((elementsAt (← get).memory address .int 1).headD 0) + amount
  putElements address .int [sum]
  return sum

def bytesBeforeZero (memory : Memory) (address : UInt64) : List UInt8 :=
  (memory.readRest address.toNat).takeWhile (· != 0)

def unitsBeforeZero (memory : Memory) (address : UInt64) (unit : Nat) : Nat :=
  ((wholeChunks unit (memory.readRest address.toNat)).takeWhile (·.any (· != 0))).length

def greetings : List (List UInt8) :=
  [[0x68, 0x65, 0x6c, 0x6c, 0x6f],
   [0x68, 0xc3, 0xa9, 0x6c, 0x6c, 0x6f, 0x20, 0xe2, 0x82, 0xac],
   [0x41, 0xff, 0xfe, 0x42],
   [0x68, 0x00, 0xac, 0x20, 0x3d, 0xd8, 0x00, 0xde],
   [0x00, 0xd8, 0x41, 0x00],
   [0x00, 0x00, 0x00, 0x41, 0x00, 0x01, 0xf6, 0x00],
   [],
   [0x00, 0x00, 0x11, 0x00],
   [0xe9, 0xff]]

def greetingAddress (number : Int32) : Nat :=
  if 1 ≤ number ∧ number.toInt ≤ greetings.length then 0x8000 + 0x40 * number.toInt.toNat else 0

def greetingRegions : List Region :=
  greetings.zipIdx.map fun (bytes, index) =>
    ⟨greetingAddress (Int32.ofNat (index + 1)), 32, bytes⟩

def textHash (memory : Memory) (address : UInt64) : Int64 :=
  if address = 0 then -1
  else
    let hash := (bytesBeforeZero memory address).foldl
      (fun hash byte => (hash * 31 + byte.toNat) % 1000003) 7
    Int64.ofNat hash

def collect (output : UInt64) (room : Nat) (entry : EntryRegisters) :
    (stored : Nat) → List UInt8 → StateM Store Nat
  | stored, [] => return stored
  | stored, letter :: rest => do
    if room ≤ stored then return stored
    let (word, left) ← fetch letter
    Store.write (output.toNat + 8 * stored) (littleEndian 8 word)
    collect output room left (stored + 1) rest
where
  fetch (letter : UInt8) : StateM Store (UInt64 × EntryRegisters) := do
    let (integer, afterInteger) := entry.pop false
    match Char.ofUInt8 letter with
    | 'i' => return (Slot.widen integer .int .host, afterInteger)
    | 'l' | 'p' => return (integer, afterInteger)
    | 'd' => return entry.pop true
    | 's' => return ((textHash (← get).memory integer).toUInt64, afterInteger)
    | 'a' =>
      if integer = 0 then return (0xffffffffffffffff, afterInteger)
      return ((← addAt integer 1) - 1, afterInteger)
    | _ => return (0xfffffffffffffffe, entry)

def buffers : List NativeFunction :=
  [sumIntegers "sum_i8" .signedChar, sumIntegers "sum_i16" .short, sumIntegers "sum_i32" .int,
   sumIntegers "sum_i64" .longLong, sumFloats "sum_f32" .float fun image =>
     Single.widen image.toUInt32,
   sumFloats "sum_f64" .double id,
   replacing "fill_i32" .int fun images => images.zipIdx.map fun (_, index) =>
     UInt64.ofNat (10 * index),
   replacing "rev_bytes" .unsignedChar List.reverse,
   replacing "stamp" .unsignedChar (·.map fun _ => 0xab),
   replacing "neg_f64s" .double (·.map Double.neg),
   ⟨"inc_i32", [.pointer], .void, .leaf fun arguments => addAt (arguments.headD 0) 1⟩,
   ⟨"inc_two", [.pointer, .pointer], .int, .leaf fun
     | [first, second] => return (← addAt first 1) + (← addAt second 2)
     | _ => return 0⟩,
   ⟨"copy_bytes", [.pointer, .pointer, .int], .void, .leaf fun
     | [target, source, count] => do
       let bytes := elementsAt (← get).memory source .unsignedChar (countOfImage count)
       putElements target .unsignedChar bytes
       return 0
     | _ => return 0⟩,
   ⟨"peek", [.pointer, .int], .unsignedChar, .leaf fun
     | [address, index] => do
       if address = 0 then return 0xee
       return (elementsAt (← get).memory (address + index) .unsignedChar 1).headD 0
     | _ => return 0⟩,
   ⟨"hash_bytes", [.pointer, .int], .unsignedInt, .leaf fun
     | [address, count] => do
       if address = 0 then return 0xffffffff
       let bytes := elementsAt (← get).memory address .unsignedChar (countOfImage count)
       return bytes.foldl (· * 31 + ·) 7
     | _ => return 0⟩,
   ⟨"str_len", [.pointer], .int, .leaf fun arguments => do
     let address := arguments.headD 0
     if address = 0 then return 0xffffffff
     return UInt64.ofNat (bytesBeforeZero (← get).memory address).length⟩,
   ⟨"unit_len", [.pointer, .int], .int, .leaf fun
     | [address, unit] => do
       if address = 0 then return 0xffffffff
       return UInt64.ofNat (unitsBeforeZero (← get).memory address (countOfImage unit))
     | _ => return 0⟩,
   plain "greet" [.int] .pointer fun arguments =>
     UInt64.ofNat (greetingAddress (intOfImage (arguments.headD 0))),
   ⟨"va_collect", [.pointer, .int, .pointer], .int, .variadic fun arguments rest =>
     match arguments with
     | [output, room, spec] => do
       if spec = 0 then return 0xffffffff
       let letters := bytesBeforeZero (← get).memory spec
       return UInt64.ofNat (← collect output (countOfImage room) rest 0 letters)
     | _ => return 0⟩]

end NativeFunction

end ForeignCall
