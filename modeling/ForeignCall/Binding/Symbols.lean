import ForeignCall.Fault
import ForeignCall.Lookup

/-! Symbols: the names under which native functions and globals are found. -/

namespace ForeignCall

structure SymbolTable where
  entries : List (String × Nat) := []

namespace SymbolTable

def find? (table : SymbolTable) (name : String) : Option Nat := table.entries.lookup name

def lookup (table : SymbolTable) (name : String) : Except Fault Nat :=
  match table.find? name with
  | some address => .ok address
  | none => .error (.symbolNotFound name)

def erase (table : SymbolTable) (name : String) : SymbolTable :=
  ⟨table.entries.filter (·.1 != name)⟩

def insert (table : SymbolTable) (name : String) (address : Nat) : SymbolTable :=
  ⟨(name, address) :: (table.erase name).entries⟩

def size (table : SymbolTable) : Nat := table.entries.length

theorem find?_erase (table : SymbolTable) (name query : String) :
    (table.erase name).find? query = if query = name then none else table.find? query :=
  lookup_filter_ne table.entries name query

theorem find?_insert (table : SymbolTable) (name query : String) (address : Nat) :
    (table.insert name address).find? query =
      if query = name then some address else table.find? query := by
  simp only [find?, insert, erase, lookup_cons_eq_ite, lookup_filter_ne]
  by_cases same : query = name <;> simp [same]

end SymbolTable

end ForeignCall
