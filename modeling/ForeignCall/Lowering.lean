import ForeignCall.Annotation
import ForeignCall.Fault

/-! From host types to C types, with a table of the answers given so far. -/

namespace ForeignCall

/-- The C type of a host type under its annotations. A declared C type replaces the usual one,
except where the host type is passed by reference or carries nothing. -/
def lower (type : HostType) (annotations : Annotations) : Except Fault CType :=
  match annotations.native? with
  | some declared =>
    match type with
    | .void | .text | .array _ | .struct _ | .callback .. =>
      .error (.unsupportedType s!"{type.describe} cannot be aliased to {declared.spelling}")
    | _ =>
      if declared = .void then
        .error (.unsupportedType (type.describe ++ " cannot be aliased to void"))
      else .ok declared
  | none =>
    match type with
    | .void => .ok .void
    | .boolean | .int | .enum _ | .enumSet _ => .ok .int
    | .byte => .ok .signedChar
    | .short => .ok .short
    | .char => .ok .unsignedShort
    | .long => .ok .longLong
    | .float => .ok .float
    | .double => .ok .double
    | .address | .text | .array _ | .struct _ | .callback .. => .ok .pointer
    | .named name => .error (.unsupportedType (name ++ " has no native mapping"))

structure LoweringTable where
  model : DataModel
  resolved : List ((HostType × Annotations) × CLayout) := []
  /-- Every answer is the one that lowering gives. -/
  sound : ∀ entry ∈ resolved, lower entry.1.1 entry.1.2 = .ok entry.2.type := by simp

namespace LoweringTable

def find? (table : LoweringTable) (type : HostType) (annotations : Annotations) :
    Option CLayout :=
  table.resolved.lookup (type, annotations)

def remember (table : LoweringTable) (type : HostType) (annotations : Annotations)
    (native : CType) (lowered : lower type annotations = .ok native) : LoweringTable where
  model := table.model
  resolved := table.resolved ++ [((type, annotations), native.layout table.model)]
  sound entry known := by
    rcases List.mem_append.1 known with earlier | last
    · exact table.sound entry earlier
    · rw [List.mem_singleton.1 last]
      exact lowered

/-- The layout of a host type; a failure is not remembered. -/
def resolve (type : HostType) (annotations : Annotations) : Act LoweringTable CLayout := do
  let table ← get
  match table.find? type annotations with
  | some layout => return layout
  | none =>
    match lowered : lower type annotations with
    | .ok native =>
      set (table.remember type annotations native lowered)
      return native.layout table.model
    | .error fault => throw fault

theorem lower_of_find? {table : LoweringTable} {type : HostType} {annotations : Annotations}
    {layout : CLayout} (found : table.find? type annotations = some layout) :
    lower type annotations = .ok layout.type := by
  obtain ⟨earlier, later, split, _⟩ := List.lookup_eq_some_iff.1 found
  exact table.sound ((type, annotations), layout) (by simp [split])

def size (table : LoweringTable) : Nat := table.resolved.length

end LoweringTable

end ForeignCall
