/-! Hexadecimal numerals, as addresses, code points and machine code are printed. -/

namespace ForeignCall

def hexDigits (value : Nat) : String :=
  String.ofList (Nat.toDigits 16 value)

def codePointDigits (value : Nat) : String :=
  let digits := (Nat.toDigits 16 value).map Char.toUpper
  String.ofList (List.replicate (4 - digits.length) '0' ++ digits)

def hexByte (byte : UInt8) : String :=
  String.ofList [Nat.digitChar (byte.toNat / 16), Nat.digitChar (byte.toNat % 16)]

def hexAddress (address : Nat) : String := "0x" ++ hexDigits address

def hexDump (code : List UInt8) : String :=
  " ".intercalate (code.map hexByte)

end ForeignCall
