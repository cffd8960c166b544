import ForeignCall.HostType

/-! Marks on parameters, results and functions. A set of marks is kept as a strictly increasing
list, so that sets with the same members are the same list and can serve as a key. -/

namespace ForeignCall

inductive Annotation
  /-- Label of the text encoding to use. -/
  | encoding (label : String)
  /-- The exact C type of a host value. -/
  | native (type : CType)
  /-- Save the native error code right after the call. -/
  | saveError
  /-- Never save the native error code. -/
  | ignoreError
  /-- Copy the contents to native memory before the call. -/
  | copyIn
  /-- Copy native memory back to the contents after the call. -/
  | copyOut
  /-- Put a zero element after the contents of an array. -/
  | terminated
  deriving DecidableEq

namespace Annotation

def rank : Annotation → Nat
  | encoding _ => 0
  | native _ => 1
  | saveError => 2
  | ignoreError => 3
  | copyIn => 4
  | copyOut => 5
  | terminated => 6

def precedes (left right : Annotation) : Bool :=
  match left, right with
  | encoding left, encoding right => left < right
  | native left, native right => left.rank < right.rank
  | left, right => left.rank < right.rank

theorem not_precedes_self (mark : Annotation) : mark.precedes mark = false := by
  cases mark <;> simp [precedes, rank]

end Annotation

structure Annotations where
  items : List Annotation
  deriving DecidableEq

namespace Annotations

def empty : Annotations := ⟨[]⟩

def place (mark : Annotation) : List Annotation → List Annotation
  | [] => [mark]
  | head :: rest =>
    if mark = head then head :: rest
    else if mark.precedes head then mark :: head :: rest
    else head :: place mark rest

theorem mem_place (mark query : Annotation) (items : List Annotation) :
    query ∈ place mark items ↔ query = mark ∨ query ∈ items := by
  induction items with
  | nil => simp [place]
  | cons head rest ih =>
    rw [place]
    split
    next same => simp [same]
    next =>
      split
      next => simp
      next => simp only [List.mem_cons, ih]; exact or_left_comm

def insert (set : Annotations) (mark : Annotation) : Annotations :=
  ⟨place mark set.items⟩

def ofList (annotations : List Annotation) : Annotations :=
  annotations.foldl insert empty

def contains (set : Annotations) (mark : Annotation) : Bool :=
  set.items.contains mark

def union (left right : Annotations) : Annotations :=
  right.items.foldl insert left

def isEmpty (set : Annotations) : Bool := set.items.isEmpty

def size (set : Annotations) : Nat := set.items.length

def native? (set : Annotations) : Option CType :=
  set.items.findSome? fun
    | .native type => some type
    | _ => none

def encoding? (set : Annotations) : Option String :=
  set.items.findSome? fun
    | .encoding label => some label
    | _ => none

/-- Whether the error code is to be saved; refusing wins over asking. -/
def savesError (set : Annotations) (default : Bool) : Bool :=
  !set.contains .ignoreError && (default || set.contains .saveError)

end Annotations

end ForeignCall
