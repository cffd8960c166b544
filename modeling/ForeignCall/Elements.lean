import ForeignCall.Bytes
import ForeignCall.HostType
import ForeignCall.Ieee

/-! The contents of a primitive array and their bytes in native memory. -/

namespace ForeignCall

inductive Elements
  | bytes (items : List Int8)
  | shorts (items : List Int16)
  | ints (items : List Int32)
  | longs (items : List Int64)
  | floats (items : List Single)
  | doubles (items : List Double)
  deriving DecidableEq

namespace Elements

def element : Elements → Element
  | bytes _ => .byte
  | shorts _ => .short
  | ints _ => .int
  | longs _ => .long
  | floats _ => .float
  | doubles _ => .double

def length : Elements → Nat
  | bytes items => items.length
  | shorts items => items.length
  | ints items => items.length
  | longs items => items.length
  | floats items => items.length
  | doubles items => items.length

/-- Each element as a word; only the bytes of its width mean anything. -/
def words : Elements → List UInt64
  | bytes items => items.map (·.toInt64.toUInt64)
  | shorts items => items.map (·.toInt64.toUInt64)
  | ints items => items.map (·.toInt64.toUInt64)
  | longs items => items.map (·.toUInt64)
  | floats items => items.map (·.toUInt64)
  | doubles items => items

@[simp] theorem length_words (elements : Elements) :
    elements.words.length = elements.length := by
  cases elements <;> simp [words, length]

def ofWords : Element → List UInt64 → Elements
  | .byte, words => bytes (words.map (·.toInt64.toInt8))
  | .short, words => shorts (words.map (·.toInt64.toInt16))
  | .int, words => ints (words.map (·.toInt64.toInt32))
  | .long, words => longs (words.map (·.toInt64))
  | .float, words => floats (words.map (·.toUInt32))
  | .double, words => doubles words

@[simp] theorem element_ofWords (kind : Element) (items : List UInt64) :
    (ofWords kind items).element = kind := by
  cases kind <;> rfl

@[simp] theorem length_ofWords (kind : Element) (items : List UInt64) :
    (ofWords kind items).length = items.length := by
  cases kind <;> simp [ofWords, length]

def byteSize (elements : Elements) : Nat := elements.length * elements.element.size

def toBytes (elements : Elements) : List UInt8 :=
  elements.words.flatMap (littleEndian elements.element.size)

@[simp] theorem length_toBytes (elements : Elements) :
    elements.toBytes.length = elements.byteSize := by
  simp only [toBytes, byteSize, ← length_words]
  induction elements.words with
  | nil => simp
  | cons head rest ih => simp [ih, Nat.add_mul, Nat.add_comm]

/-- Whole elements written over the start of a byte string, as many as fit. -/
def writeOver (elements : Elements) (target : List UInt8) : List UInt8 :=
  let fitting := target.length / elements.element.size
  let written := (elements.words.take fitting).flatMap (littleEndian elements.element.size)
  written ++ target.drop written.length

def readFrom (elements : Elements) (source : List UInt8) : Elements :=
  let fresh := ((wholeChunks elements.element.size source).map ofLittleEndian).take elements.length
  ofWords elements.element (fresh ++ elements.words.drop fresh.length)

end Elements

end ForeignCall
