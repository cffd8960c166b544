import ForeignCall.EntryPoint

/-! The table of published entry points. What is published under a name stays. -/

namespace ForeignCall

structure DispatchTable where
  /-- In order of publication. -/
  entries : List (String × EntryPoint) := []

namespace DispatchTable

def find? (table : DispatchTable) (name : String) : Option EntryPoint :=
  table.entries.lookup name

def publish (table : DispatchTable) (name : String) (entry : EntryPoint) : DispatchTable :=
  match table.find? name with
  | some _ => table
  | none => ⟨table.entries ++ [(name, entry)]⟩

def size (table : DispatchTable) : Nat := table.entries.length

def names (table : DispatchTable) : List String := table.entries.map (·.1)

theorem find?_publish (table : DispatchTable) (name query : String) (entry : EntryPoint) :
    (table.publish name entry).find? query =
      (table.find? query).or (if query = name then some entry else none) := by
  rw [publish]
  split
  next earlier found =>
    by_cases same : query = name
    · simp [same, found]
    · simp [same]
  next missing =>
    simp only [find?, List.lookup_append, List.lookup_cons, List.lookup_nil] at missing ⊢
    by_cases same : query = name
    · simp [same]
    · simp [same, beq_eq_false_iff_ne.2 same]

end DispatchTable

end ForeignCall
