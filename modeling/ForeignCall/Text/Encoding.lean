import ForeignCall.Bytes
import ForeignCall.Fault

/-! Text as encoded bytes. A written text ends in four zero bytes, which is a terminator in every
encoding; a read text ends before the first zero code unit. -/

namespace ForeignCall

inductive TextEncoding
  | utf8
  | utf16le
  | utf16be
  | utf32le
  | utf32be
  | ascii
  | latin1
  deriving DecidableEq

namespace TextEncoding

/-- The encoding that a label names. Case does not matter, nor do hyphens and underscores, and the
labels without a byte order mean the little-endian form. -/
def ofLabel? (label : String) : Option TextEncoding :=
  let kept := (label.toList.filter fun character => character != '-' && character != '_')
  match String.ofList (kept.map Char.toUpper) with
  | "UTF8" => some utf8
  | "UTF16LE" | "UTF16" => some utf16le
  | "UTF16BE" => some utf16be
  | "UTF32LE" | "UTF32" => some utf32le
  | "UTF32BE" => some utf32be
  | "ASCII" | "USASCII" => some ascii
  | "LATIN1" | "ISO88591" => some latin1
  | _ => none

def label : TextEncoding → String
  | utf8 => "UTF-8"
  | utf16le => "UTF-16LE"
  | utf16be => "UTF-16BE"
  | utf32le => "UTF-32LE"
  | utf32be => "UTF-32BE"
  | ascii => "US-ASCII"
  | latin1 => "ISO-8859-1"

/-- Size of a code unit, and of the terminator that a reader looks for. -/
def unitSize : TextEncoding → Nat
  | utf8 | ascii | latin1 => 1
  | utf16le | utf16be => 2
  | utf32le | utf32be => 4

theorem unitSize_pos (encoding : TextEncoding) : 0 < encoding.unitSize := by
  cases encoding <;> decide

def pair (bigEndian : Bool) (unit : UInt16) : List UInt8 :=
  let bytes := [unit.toUInt8, (unit >>> 8).toUInt8]
  if bigEndian then bytes.reverse else bytes

def utf16Units (character : Char) : List UInt16 :=
  let code := character.val
  if code < 0x10000 then [code.toUInt16]
  else
    let offset : UInt32 := code - 0x10000
    let high : UInt16 := 0xd800
    let low : UInt16 := 0xdc00
    [high + (offset >>> 10).toUInt16, low + (offset &&& 0x3ff).toUInt16]

def quadruple (bigEndian : Bool) (code : UInt32) : List UInt8 :=
  let bytes :=
    [code.toUInt8, (code >>> 8).toUInt8, (code >>> 16).toUInt8, (code >>> 24).toUInt8]
  if bigEndian then bytes.reverse else bytes

def encodeChar? (encoding : TextEncoding) (character : Char) : Option (List UInt8) :=
  match encoding with
  | utf8 => some (String.utf8EncodeChar character)
  | ascii => if character.val < 0x80 then some [character.val.toUInt8] else none
  | latin1 => if character.val ≤ 0xff then some [character.val.toUInt8] else none
  | utf16le => some ((utf16Units character).flatMap (pair false))
  | utf16be => some ((utf16Units character).flatMap (pair true))
  | utf32le => some (quadruple false character.val)
  | utf32be => some (quadruple true character.val)

def terminatorSize : Nat := 4

/-- What encoding a text does: how often its buffer grew, from what size to what size, and the
bytes or the fault. -/
structure EncodeRun where
  growths : List (Nat × Nat)
  outcome : Except Fault (List UInt8)

def doubleUntil (needed capacity : Nat) : List (Nat × Nat) × Nat :=
  if _grows : 0 < capacity ∧ capacity < needed then
    let (later, final) := doubleUntil needed (capacity * 2)
    ((capacity, capacity * 2) :: later, final)
  else ([], capacity)
termination_by needed - capacity

/-- Encodes characters into a buffer that already holds some bytes. In the end the buffer must have
more room than the terminator takes. -/
def encodeChars (encoding : TextEncoding) : List Char → (length capacity : Nat) → EncodeRun
  | [], length, capacity =>
    ⟨if capacity - length ≤ terminatorSize then [(capacity, capacity * 2)] else [],
      .ok (List.replicate terminatorSize 0)⟩
  | character :: rest, length, capacity =>
    match encoding.encodeChar? character with
    | none =>
      ⟨[], .error (.encodingError
        s!"character U+{codePointDigits character.toNat} is not representable in {encoding.label}")⟩
    | some code =>
      let (growths, grown) := doubleUntil (length + code.length) capacity
      let later := encodeChars encoding rest (length + code.length) grown
      ⟨growths ++ later.growths, later.outcome.map (code ++ ·)⟩

def encodeWithin (encoding : TextEncoding) (estimate : Nat) (text : String) : EncodeRun :=
  encodeChars encoding text.toList 0 (estimate + terminatorSize)

def bytesPerChar : TextEncoding → Float32
  | utf8 => 1.1
  | ascii | latin1 => 1.0
  | utf16le | utf16be => 2.0
  | utf32le | utf32be => 4.0

def estimate (encoding : TextEncoding) (characters : Nat) : Nat :=
  (Float32.ofNat characters * encoding.bytesPerChar).toUInt64.toNat

def encode (encoding : TextEncoding) (text : String) : EncodeRun :=
  encoding.encodeWithin (encoding.estimate text.length) text

/-- The bytes before the first zero code unit, or all whole code units if there is none. -/
def body (encoding : TextEncoding) (bytes : List UInt8) : List UInt8 :=
  ((wholeChunks encoding.unitSize bytes).takeWhile (·.any (· != 0))).flatten

def unitOfPair (bigEndian : Bool) : List UInt8 → UInt16
  | [first, second] =>
    if bigEndian then first.toUInt16 <<< 8 ||| second.toUInt16
    else second.toUInt16 <<< 8 ||| first.toUInt16
  | _ => 0

def isHighSurrogate (unit : UInt16) : Bool := 0xd800 ≤ unit && unit ≤ 0xdbff

def isLowSurrogate (unit : UInt16) : Bool := 0xdc00 ≤ unit && unit ≤ 0xdfff

def charOfCode? (code : UInt32) : Option Char :=
  if valid : code.isValidChar then some ⟨code, valid⟩ else none

def charOfSurrogates? (high low : UInt16) : Option Char :=
  let offset : UInt32 := (high.toUInt32 &&& 0x3ff) <<< 10 ||| (low.toUInt32 &&& 0x3ff)
  charOfCode? (offset + 0x10000)

def charsOfUnits? : List UInt16 → Option (List Char)
  | [] => some []
  | [unit] => (charOfCode? unit.toUInt32).map ([·])
  | first :: second :: rest =>
    if isHighSurrogate first then
      if isLowSurrogate second then do
        return (← charOfSurrogates? first second) :: (← charsOfUnits? rest)
      else none
    else do return (← charOfCode? first.toUInt32) :: (← charsOfUnits? (second :: rest))

def codeOfQuadruple (bigEndian : Bool) (bytes : List UInt8) : UInt32 :=
  (ofLittleEndian (if bigEndian then bytes.reverse else bytes)).toUInt32

def charsOf? (encoding : TextEncoding) (bytes : List UInt8) : Option (List Char) :=
  match encoding with
  | utf8 => (ByteArray.utf8Decode? ⟨bytes.toArray⟩).map (·.toList)
  | ascii =>
    if bytes.all (· < 0x80) then some (bytes.map fun byte => Char.ofUInt8 byte) else none
  | latin1 => some (bytes.map fun byte => Char.ofUInt8 byte)
  | utf16le => charsOfUnits? ((wholeChunks 2 bytes).map (unitOfPair false))
  | utf16be => charsOfUnits? ((wholeChunks 2 bytes).map (unitOfPair true))
  | utf32le => (wholeChunks 4 bytes).mapM fun chunk => charOfCode? (codeOfQuadruple false chunk)
  | utf32be => (wholeChunks 4 bytes).mapM fun chunk => charOfCode? (codeOfQuadruple true chunk)

def decode (encoding : TextEncoding) (bytes : List UInt8) : Except Fault String :=
  match encoding.charsOf? (encoding.body bytes) with
  | some characters => .ok (String.ofList characters)
  | none => .error (.encodingError s!"invalid {encoding.label} sequence")

end TextEncoding

end ForeignCall
