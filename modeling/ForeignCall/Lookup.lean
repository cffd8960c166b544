/-! Association lists: what a look-up finds after an entry was added or dropped. -/

namespace ForeignCall

variable {Key Value : Type} [DecidableEq Key]

theorem lookup_cons_eq_ite (key query : Key) (value : Value) (rest : List (Key × Value)) :
    ((key, value) :: rest).lookup query =
      if query = key then some value else rest.lookup query := by
  by_cases same : query = key
  · simp [same]
  · simp [List.lookup_cons, same, beq_eq_false_iff_ne.2 same]

theorem lookup_filter_ne (entries : List (Key × Value)) (key query : Key) :
    (entries.filter (·.1 != key)).lookup query =
      if query = key then none else entries.lookup query := by
  induction entries with
  | nil => simp
  | cons head rest ih =>
    obtain ⟨name, value⟩ := head
    rw [List.filter_cons, apply_ite (List.lookup query), lookup_cons_eq_ite, lookup_cons_eq_ite, ih]
    by_cases dropped : name = key
    · subst dropped
      by_cases same : query = name <;> simp [same]
    · by_cases same : query = name
      · simp [same, dropped]
      · simp [same, dropped]

end ForeignCall
