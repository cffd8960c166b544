import ForeignCall.Toml.Reader

/-! The words of a settings document: blanks, comments and quoted texts. -/

namespace ForeignCall

namespace Toml

open Reader

def isBlank (character : Char) : Bool := character == ' ' || character == '\t'

def isPlain (character : Char) : Bool :=
  character == '\t' || (' ' ≤ character && character != '\x7f')

def blanks : Reader Unit := discard (span isBlank)

def newline : Reader Char := do
  let _ ← optional (satisfy (· == '\r'))
  satisfy (· == '\n')

def comment : Reader Unit := do
  exact ['#']
  discard (span isPlain)

def gap : Reader Unit := do
  blanks
  discard (many (optional comment *> newline <* blanks))

def hexValue? (digit : Char) : Option Nat :=
  if '0' ≤ digit ∧ digit ≤ '9' then some (digit.toNat - '0'.toNat)
  else if 'a' ≤ digit ∧ digit ≤ 'f' then some (digit.toNat - 'a'.toNat + 10)
  else if 'A' ≤ digit ∧ digit ≤ 'F' then some (digit.toNat - 'A'.toNat + 10)
  else none

def codePoint (digits : Nat) : Reader Char := do
  let written ← upTo (satisfy fun digit => (hexValue? digit).isSome) digits
  let value := (written.filterMap hexValue?).foldl (fun value digit => value * 16 + digit) 0
  if written.length = digits ∧ value.isValidChar then return Char.ofNat value else failure

def escaped : Reader Char := do
  exact ['\\']
  match ← satisfy fun _ => true with
  | 'b' => return '\x08'
  | 't' => return '\t'
  | 'n' => return '\n'
  | 'f' => return '\x0c'
  | 'r' => return '\r'
  | '"' => return '"'
  | '\\' => return '\\'
  | 'u' => codePoint 4
  | 'U' => codePoint 8
  | _ => failure

def joinedLines : Reader Unit := do
  exact ['\\']
  blanks
  let _ ← newline
  discard (many (discard (satisfy isBlank) <|> discard newline))

def isUnescaped (character : Char) : Bool :=
  isPlain character && character != '"' && character != '\\'

def isLiteral (character : Char) : Bool := isPlain character && character != '\''

def basicText : Reader String := do
  exact ['"']
  let characters ← many (satisfy isUnescaped <|> escaped)
  exact ['"']
  return String.ofList characters

def literalText : Reader String := do
  exact ['\'']
  let characters ← span isLiteral
  exact ['\'']
  return String.ofList characters

/-- A text between triple quotes. A line end right after the first quotes is left out; one or two
quotes may stand anywhere inside, also right before the last quotes. -/
def longText (quote : Char) (piece : Reader (List Char)) : Reader String := do
  exact [quote, quote, quote]
  let _ ← optional newline
  let quotes (least most : Nat) : Reader (List Char) := do
    let run ← span (· == quote)
    if least ≤ run.length ∧ run.length ≤ most then return run else failure
  let pieces ← many (piece <|> (fun end_ => [end_]) <$> newline <|> quotes 1 2)
  let closing ← quotes 3 5
  return String.ofList (pieces.flatten ++ closing.drop 3)

def anyText : Reader String :=
  longText '"'
      ((fun character => [character]) <$> satisfy isUnescaped <|> (fun _ => []) <$> joinedLines <|>
        (fun character => [character]) <$> escaped) <|>
    longText '\'' ((fun character => [character]) <$> satisfy isLiteral) <|>
    basicText <|> literalText

end Toml

end ForeignCall
