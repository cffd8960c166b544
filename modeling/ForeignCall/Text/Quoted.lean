import ForeignCall.Text.Hexadecimal

/-! Quoted text in diagnostics: double quotes around it, and an escape for every character that
cannot be shown as itself. -/

namespace ForeignCall

/-- Code point intervals of characters that are not shown as themselves: controls, formats,
separators other than the space, private use, noncharacters and the combining marks that would
attach to the quote before them. -/
def hiddenRanges : List (Nat × Nat) :=
  [(0x0, 0x1f), (0x7f, 0xa0), (0xad, 0xad), (0x300, 0x36f), (0x483, 0x489), (0x591, 0x5bd),
   (0x600, 0x605), (0x610, 0x61a), (0x61c, 0x61c), (0x64b, 0x65f), (0x670, 0x670),
   (0x6d6, 0x6dd), (0x70f, 0x70f), (0x890, 0x891), (0x8e2, 0x8e2), (0x1680, 0x1680),
   (0x180b, 0x180f), (0x1ab0, 0x1ace), (0x1dc0, 0x1dff), (0x2000, 0x200f), (0x2028, 0x202f),
   (0x205f, 0x206f), (0x20d0, 0x20f0), (0x3000, 0x3000), (0x302a, 0x302f), (0x3099, 0x309a),
   (0xd800, 0xf8ff), (0xfe00, 0xfe0f), (0xfe20, 0xfe2f), (0xfeff, 0xfeff), (0xfff0, 0xfffb),
   (0xfffe, 0xffff), (0xe0000, 0x10ffff)]

def isHidden (character : Char) : Bool :=
  hiddenRanges.any fun (low, high) => low ≤ character.toNat && character.toNat ≤ high

def quotedChar (character : Char) : String :=
  match character with
  | '"' => "\\\""
  | '\\' => "\\\\"
  | '\x00' => "\\0"
  | '\t' => "\\t"
  | '\n' => "\\n"
  | '\r' => "\\r"
  | _ =>
    if isHidden character then "\\u\x7b" ++ hexDigits character.toNat ++ "\x7d"
    else character.toString

def quoted (text : String) : String :=
  "\"" ++ String.join (text.toList.map quotedChar) ++ "\""

end ForeignCall
