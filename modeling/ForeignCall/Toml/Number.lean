import ForeignCall.Toml.Text

/-! Numbers, dates and times of a settings document. -/

namespace ForeignCall

namespace Toml

open Reader

def isDigit (base : Nat) (character : Char) : Bool := (hexValue? character).any (· < base)

def digits (base : Nat) : Reader (List Nat) := do
  let digit := satisfy (isDigit base)
  let first ← digit
  let rest ← many (digit <|> exact ['_'] *> digit)
  return (first :: rest).filterMap hexValue?

def numeral (base : Nat) (digits : List Nat) : Nat :=
  digits.foldl (fun value digit => value * base + digit) 0

def sign : Reader Bool := do
  return (← optional (satisfy fun character => character == '+' || character == '-')) == some '-'

def wholeDigits : Reader (List Nat) :=
  (fun _ => [0]) <$> exact ['0'] <|> digits 10

def signed (negative : Bool) (value : Nat) : Int := if negative then -value else value

def integer : Reader Int := do
  let based (mark : Char) (base : Nat) : Reader Int := do
    exact ['0', mark]
    return numeral base (← digits base)
  let decimal : Reader Int := do
    let negative ← sign
    return signed negative (numeral 10 (← wholeDigits))
  let value ← based 'x' 16 <|> based 'o' 8 <|> based 'b' 2 <|> decimal
  if Int64.minValue.toInt ≤ value ∧ value ≤ Int64.maxValue.toInt then return value else failure

def doubleLimit : Nat := ((1 <<< 54) - 1) <<< 970

def isTooLarge (significand : Nat) (exponent : Int) : Bool :=
  let length := (Nat.toDigits 10 significand).length + exponent
  if significand = 0 ∨ length < 309 then false
  else if 309 < length then true
  else doubleLimit * Nat.pow 10 (-exponent).toNat ≤ significand * Nat.pow 10 exponent.toNat

def decimalFloat : Reader Unit := do
  let negative ← sign
  let whole ← wholeDigits
  let fraction ← optional (exact ['.'] *> digits 10)
  let exponent ← optional do
    let _ ← satisfy fun character => character == 'e' || character == 'E'
    let negative ← sign
    return signed negative (numeral 10 (← digits 10))
  let places := fraction.getD []
  let scale := exponent.getD 0 - places.length
  if (fraction.isNone ∧ exponent.isNone) ∨
      (!negative ∧ isTooLarge (numeral 10 (whole ++ places)) scale) then failure

def float : Reader Unit :=
  decimalFloat <|> sign *> (exact "inf".toList <|> exact "nan".toList)

def clockNumber (count least most : Nat) : Reader Nat := do
  let written ← upTo (satisfy (isDigit 10)) count
  let value := numeral 10 (written.filterMap hexValue?)
  if written.length = count ∧ least ≤ value ∧ value ≤ most then return value else failure

def daysIn (year month : Nat) : Nat :=
  if month = 2 then
    if year % 4 = 0 ∧ (year % 100 ≠ 0 ∨ year % 400 = 0) then 29 else 28
  else if month ∈ [4, 6, 9, 11] then 30
  else 31

def date : Reader Unit := do
  let year ← clockNumber 4 0 9999
  exact ['-']
  let month ← clockNumber 2 1 12
  exact ['-']
  discard (clockNumber 2 1 (daysIn year month))

def hourMinute : Reader Unit :=
  clockNumber 2 0 23 *> exact [':'] *> discard (clockNumber 2 0 59)

def time : Reader Unit := do
  hourMinute
  exact [':']
  let _ ← clockNumber 2 0 60
  let digit := satisfy (isDigit 10)
  discard (optional (exact ['.'] *> digit *> many digit))

def zone : Reader Unit :=
  discard (satisfy fun character => character == 'Z' || character == 'z') <|>
    satisfy (fun character => character == '+' || character == '-') *> hourMinute

def moment : Reader Unit :=
  (do
    date
    discard (optional do
      let _ ← satisfy fun character => character == 'T' || character == 't' || character == ' '
      time
      optional zone)) <|> time

end Toml

end ForeignCall
