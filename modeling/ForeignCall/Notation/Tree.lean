import ForeignCall.Fault

/-! Trees: the notation in which declarations, values and reports are written. -/

namespace ForeignCall

inductive Tree
  | nothing
  | flag (value : Bool)
  | number (value : Int)
  | text (value : String)
  | list (items : List Tree)
  | record (fields : List (String × Tree))

namespace Tree

instance : Inhabited Tree := ⟨nothing⟩

mutual

def depth : Tree → Nat
  | list items => depthOfItems items + 1
  | record fields => depthOfFields fields + 1
  | _ => 0

def depthOfItems : List Tree → Nat
  | [] => 0
  | item :: rest => max item.depth (depthOfItems rest)

def depthOfFields : List (String × Tree) → Nat
  | [] => 0
  | (_, item) :: rest => max item.depth (depthOfFields rest)

end

def field? (tree : Tree) (name : String) : Option Tree :=
  match tree with
  | record fields =>
    match fields.lookup name with
    | some nothing => none
    | found => found
  | _ => none

end Tree

class Written (α : Type) where
  write : α → Tree

export Written (write)

instance {α : Type} [Written α] : CoeHead α Tree := ⟨write⟩

abbrev Fields := List (String × Tree)

namespace Tree

def digits (value : Int) : Tree := .text (toString value)

def word {α : Type} [BEq α] (table : List (String × α)) (value : α) : Tree :=
  .text (((table.find? (·.2 == value)).map (·.1)).getD "")

end Tree

instance : Written Tree := ⟨id⟩
instance : Written Bool := ⟨.flag⟩
instance : Written Nat := ⟨fun value => .number value⟩
instance : Written Int := ⟨.number⟩
instance : Written Int64 := ⟨fun value => .digits value.toInt⟩
instance : Written UInt64 := ⟨fun value => .digits value.toNat⟩
instance : Written String := ⟨.text⟩
instance : Written Unit := ⟨fun _ => .flag true⟩

instance {α : Type} [Written α] : Written (List α) := ⟨fun values => .list (values.map write)⟩

instance {α : Type} [Written α] : Written (Option α) where
  write
    | some value => write value
    | none => .nothing

instance {α β : Type} [Written α] [Written β] : Written (α × β) :=
  ⟨fun (left, right) => .list [write left, write right]⟩

instance : Written Fault where
  write fault := .record [("error", fault.kind), ("message", fault.message)]

instance {α : Type} [Written α] : Written (Except Fault α) where
  write
    | .ok value => write value
    | .error fault => write fault

end ForeignCall
