import ForeignCall.Notation.Session

/-! Reading the parts of a tree. -/

namespace ForeignCall

namespace Reading

variable {α : Type}

def within (tree : Tree) (action : Reading α) : Reading α := withReader (fun _ => tree) action

def child? (name : String) : Reading (Option Tree) := return (← read).field? name

def field? (name : String) [Readable α] : Reading (Option α) := do
  match ← child? name with
  | some tree => some <$> within tree Readable.read
  | none => return none

def fieldOr (name : String) (default : α) [Readable α] : Reading α :=
  return (← field? name).getD default

def field (name : String) [Readable α] : Reading α := do
  match ← field? name with
  | some value => return value
  | none => throw (.missing name)

def items : Reading (List Tree) := do
  match ← read with
  | .list items => return items
  | _ => throw (.expected "list")

def item (place : Nat) [Readable α] : Reading α := do
  within ((← items)[place]?.getD .nothing) Readable.read

def entries (name : String) (action : String → Reading α) : Reading (List α) := do
  match ← child? name with
  | some (.record fields) => fields.mapM fun (name, tree) => within tree (action name)
  | _ => return []

def word (table : List (String × α)) : Reading α := do
  match ← read with
  | .text name => Session.found name (table.lookup name)
  | _ => throw (.expected "word")

def integer : Reading Int := do
  match ← read with
  | .number value => return value
  | .text digits =>
    match digits.toInt? with
    | some value => return value
    | none => throw (.expected "number")
  | _ => throw (.expected "number")

instance : Readable Tree := ⟨read⟩

instance : Readable Bool where
  read := do
    match ← read with
    | .flag value => return value
    | _ => throw (.expected "flag")

/-- Numbers are reduced to 64 bits. -/
instance : Readable Int64 := ⟨return .ofInt (← integer)⟩
instance : Readable UInt64 := ⟨return .ofInt (← integer)⟩
instance : Readable Nat := ⟨return (UInt64.ofInt (← integer)).toNat⟩

instance [Readable α] : Readable (List α) := ⟨do (← items).mapM (within · Readable.read)⟩

instance {β : Type} [Readable α] [Readable β] : Readable (α × β) := ⟨return (← item 0, ← item 1)⟩

def fields (name : String) [Readable α] : Reading (List α) := fieldOr name []

def text : Reading String := do
  match ← read with
  | .text value => return value
  | _ =>
    let times ← field "times"
    match ← field "repeat" with
    | Tree.text value => return String.join (List.replicate times value)
    | _ => throw (Misreading.expected "text")

instance : Readable String := ⟨text⟩

def hexDigit (digit : Char) : Nat :=
  if digit.isDigit then digit.toNat - '0'.toNat else digit.toLower.toNat - 'a'.toNat + 10

def hexNumber (digits : List Char) : Nat :=
  digits.foldl (fun value digit => value * 16 + hexDigit digit) 0

def hexBytes : List Char → List UInt8
  | high :: low :: rest => .ofNat (hexNumber [high, low]) :: hexBytes rest
  | _ => []

instance : Readable (List UInt8) := ⟨return hexBytes (← text).toList⟩

def bits : Reading Nat := return hexNumber (← text).toList

end Reading

namespace Tree

def hex (bytes : List UInt8) : Tree := .text (String.join (bytes.map hexByte))

def fixedHex (width value : Nat) : Tree :=
  let digits := Nat.toDigits 16 value
  .text (String.ofList (List.replicate (width - digits.length) '0' ++ digits))

end Tree

end ForeignCall
