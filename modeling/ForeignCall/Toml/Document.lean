import ForeignCall.Toml.Number
import ForeignCall.Toml.Table

/-! Settings documents: lines with keys and values, under headers that open tables. -/

namespace ForeignCall

namespace Toml

open Reader

def nestingLimit : Nat := 80

def isKeyCharacter (character : Char) : Bool :=
  character.isAlphanum || character == '_' || character == '-'

def bareKey : Reader String := do
  match ← span isKeyCharacter with
  | [] => failure
  | characters => return String.ofList characters

def key : Reader (List String) := do
  let part := blanks *> (basicText <|> literalText <|> bareKey) <* blanks
  let parts ← separated part (exact ['.'])
  if parts.length < nestingLimit then return parts else failure

def pair (value : Reader Value) : Reader (List String × Value) := do
  let path ← key
  exact ['=']
  blanks
  return (path, ← value)

def scalar : Reader Value :=
  .text <$> anyText <|> (fun _ => .boolean true) <$> exact "true".toList <|>
    (fun _ => .boolean false) <$> exact "false".toList <|>
    (fun _ => .other) <$> (moment <|> float) <|> .integer <$> integer

def array (value : Reader Value) : Reader Value := do
  exact ['[']
  if (← optional (separated (gap *> value <* gap) (exact [',']))).isSome then
    discard (optional (exact [',']))
  gap
  exact [']']
  return .other

def inlineTable (value : Reader Value) : Reader Value := do
  exact ['\x7b']
  let pairs ← optional (separated (pair value <* blanks) (exact [',']))
  blanks
  exact ['\x7d']
  let _ ← ((pairs.getD []).foldlM (fun definitions (path, value) =>
    definitions.assign [] path value) ([] : Definitions) : Option Definitions)
  return .other

def value : Nat → Reader Value
  | 0 => scalar
  | depth + 1 => scalar <|> array (value depth) <|> inlineTable (value depth)

abbrev Line := Place → Definitions → Option (Place × Definitions)

def line : Reader Line :=
  (do
    exact ['[', '[']
    let path ← key
    exact [']', ']']
    return fun _ definitions => definitions.openElement path) <|>
  (do
    exact ['[']
    let path ← key
    exact [']']
    return fun _ definitions => definitions.openTable path) <|>
  (do
    let (path, assigned) ← pair (value (nestingLimit - 1))
    return fun table definitions => return (table, ← definitions.assign table path assigned))

def lines : Reader (List Line) := do
  let _ ← optional (exact ['\ufeff'])
  let last ← many do
    blanks
    let content ← optional line
    blanks
    let _ ← optional comment
    let _ ← newline
    return content
  blanks
  let content ← optional line
  blanks
  let _ ← optional comment
  return (last ++ [content]).filterMap id

def read? (text : String) : Option Definitions := do
  let (_, definitions) ← (← lines.read? text).foldlM
    (fun (table, definitions) line => line table definitions) (([] : Place), ([] : Definitions))
  return definitions

def Definitions.setting {α : Type} (definitions : Definitions) (name : String) (default : α)
    (ofValue : Value → Option α) : Option α :=
  match definitions.lookup [.key name] with
  | none => some default
  | some (.value value) => ofValue value
  | some _ => none

end Toml

end ForeignCall
