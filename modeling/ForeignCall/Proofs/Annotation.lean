import ForeignCall.Annotation
import ForeignCall.Converter.Mapper
import Mathlib.Data.List.Sort

/-! Sets of annotations, however they came about: they are increasing lists, so that a search by
halving finds their members, and sets with the same members are the same. -/

namespace ForeignCall

namespace Annotation

theorem precedes_iff {left right : Annotation} :
    left.precedes right = true ↔ left.rank < right.rank ∨
      (∃ lower upper, left = encoding lower ∧ right = encoding upper ∧ lower < upper) ∨
        ∃ lower upper, left = native lower ∧ right = native upper ∧ lower.rank < upper.rank := by
  cases left <;> cases right <;> simp [precedes, rank]

theorem precedes_trans {first second third : Annotation} (before : first.precedes second = true)
    (after : second.precedes third = true) : first.precedes third = true := by
  rw [precedes_iff] at before after ⊢
  rcases before with lower | ⟨lower, upper, rfl, rfl, less⟩ | ⟨lower, upper, rfl, rfl, less⟩
  · rcases after with above | ⟨_, _, rfl, rfl, _⟩ | ⟨_, _, rfl, rfl, _⟩
    · exact .inl (Nat.lt_trans lower above)
    · exact .inl lower
    · exact .inl lower
  · rcases after with above | ⟨middle, highest, same, rfl, more⟩ | ⟨_, _, other, _⟩
    · exact .inl above
    · cases same
      exact .inr (.inl ⟨lower, highest, rfl, rfl, String.lt_trans less more⟩)
    · cases other
  · rcases after with above | ⟨_, _, other, _⟩ | ⟨middle, highest, same, rfl, more⟩
    · exact .inl above
    · cases other
    · cases same
      exact .inr (.inr ⟨lower, highest, rfl, rfl, Nat.lt_trans less more⟩)

theorem cases_of_rank_eq {left right : Annotation} (same : left.rank = right.rank) :
    left = right ∨ (∃ lower upper, left = encoding lower ∧ right = encoding upper) ∨
      ∃ lower upper, left = native lower ∧ right = native upper := by
  cases left <;> cases right <;> simp [rank] at same ⊢

theorem precedes_or_precedes {left right : Annotation} (different : left ≠ right) :
    left.precedes right = true ∨ right.precedes left = true := by
  rw [precedes_iff, precedes_iff]
  rcases Nat.lt_trichotomy left.rank right.rank with below | same | above
  · exact .inl (.inl below)
  · rcases cases_of_rank_eq same with equal | ⟨lower, upper, rfl, rfl⟩ | ⟨lower, upper, rfl, rfl⟩
    · exact absurd equal different
    · rcases Std.lt_trichotomy lower upper with less | equal | more
      · exact .inl (.inr (.inl ⟨lower, upper, rfl, rfl, less⟩))
      · exact absurd (congrArg encoding equal) different
      · exact .inr (.inr (.inl ⟨upper, lower, rfl, rfl, more⟩))
    · have apart : lower.rank ≠ upper.rank := fun equal =>
        different (congrArg native (CType.rank_injective lower upper equal))
      rcases Nat.lt_or_gt_of_ne apart with less | more
      · exact .inl (.inr (.inr ⟨lower, upper, rfl, rfl, less⟩))
      · exact .inr (.inr (.inr ⟨upper, lower, rfl, rfl, more⟩))
  · exact .inr (.inl above)

theorem not_precedes_of_precedes {left right : Annotation} (before : left.precedes right = true) :
    right.precedes left = false := by
  cases after : right.precedes left with
  | false => rfl
  | true => exact absurd (precedes_trans before after) (by simp [not_precedes_self])

instance : Std.Irrefl fun left right : Annotation => left.precedes right = true where
  irrefl mark before := by simp [not_precedes_self] at before

instance : Std.Antisymm fun left right : Annotation => left.precedes right = true where
  antisymm left right before after := by simp [not_precedes_of_precedes before] at after

end Annotation

namespace Annotations

open Annotation

def Increasing (items : List Annotation) : Prop :=
  items.Pairwise (·.precedes · = true)

section Placing

variable {mark : Annotation} {items left right : List Annotation}

theorem increasing_place (increasing : Increasing items) : Increasing (place mark items) := by
  induction items with
  | nil => simp [place, Increasing]
  | cons head rest ih =>
      obtain ⟨least, others⟩ := List.pairwise_cons.1 increasing
      rw [place]
      split
      next => exact increasing
      next different =>
        split
        next below =>
          refine List.pairwise_cons.2 ⟨?_, increasing⟩
          intro query known
          rcases List.mem_cons.1 known with rfl | later
          · exact below
          · exact precedes_trans below (least query later)
        next above =>
          refine List.pairwise_cons.2 ⟨?_, ih others⟩
          intro query known
          rcases (mem_place mark query rest).1 known with rfl | later
          · exact (precedes_or_precedes different).resolve_left above
          · exact least query later

theorem place_of_mem (increasing : Increasing items) (known : mark ∈ items) :
    place mark items = items := by
  induction items with
  | nil => cases known
  | cons head rest ih =>
      obtain ⟨least, others⟩ := List.pairwise_cons.1 increasing
      rw [place]
      split
      next => rfl
      next different =>
        have later := (List.mem_cons.1 known).resolve_left different
        rw [not_precedes_of_precedes (least mark later), ih others later]
        rfl

theorem place_append (before : ∀ other ∈ left, other.precedes mark = true)
    (after : ∀ other ∈ right, mark.precedes other = true) :
    place mark (left ++ right) = left ++ mark :: right := by
  induction left with
  | nil =>
      cases right with
      | nil => rfl
      | cons head rest =>
          have below := after head List.mem_cons_self
          have different : mark ≠ head := by
            rintro rfl
            simp [not_precedes_self] at below
          rw [List.nil_append, place, if_neg different, if_pos below]
          rfl
  | cons head rest ih =>
      have above := before head List.mem_cons_self
      have different : mark ≠ head := by
        rintro rfl
        simp [not_precedes_self] at above
      rw [List.cons_append, place, if_neg different,
        not_precedes_of_precedes above,
        ih fun other later => before other (List.mem_cons_of_mem head later)]
      rfl

theorem eq_of_mem_iff {first second : Annotations} (increasing : Increasing first.items)
    (others : Increasing second.items)
    (alike : ∀ mark, mark ∈ first.items ↔ mark ∈ second.items) : first = second := by
  have sorted : first.items = second.items := increasing.eq_of_mem_iff others alike
  cases first
  exact congrArg Annotations.mk sorted

end Placing

/-- The position of a mark between two positions, or else the one where it belongs, found by halving
what lies between them. -/
def halve (items : List Annotation) (mark : Annotation) (low high : Nat) : Except Nat Nat :=
  if low < high then
    let middle := (low + high) / 2
    match items[middle]? with
    | some other =>
      if other = mark then .ok middle
      else if other.precedes mark then halve items mark (middle + 1) high
      else halve items mark low middle
    | none => .error low
  else .error low
termination_by high - low

def search (set : Annotations) (mark : Annotation) : Except Nat Nat :=
  halve set.items mark 0 set.size

section Searching

variable {items : List Annotation} {mark : Annotation}

def Answers (items : List Annotation) (mark : Annotation) : Except Nat Nat → Prop
  | .ok position => items[position]? = some mark
  | .error position => position ≤ items.length ∧
      (∀ other ∈ items.take position, other.precedes mark = true) ∧
        ∀ other ∈ items.drop position, mark.precedes other = true

theorem around_of_getElem? (increasing : Increasing items) {middle : Nat} {other : Annotation}
    (found : items[middle]? = some other) :
    (∀ query ∈ items.take middle, query.precedes other = true) ∧
      ∀ query ∈ items.drop (middle + 1), other.precedes query = true := by
  obtain ⟨below, rfl⟩ := List.getElem?_eq_some_iff.1 found
  have parts := increasing
  rw [Increasing, ← List.take_append_drop middle items, List.pairwise_append,
    List.drop_eq_getElem_cons below, List.pairwise_cons] at parts
  obtain ⟨_, ⟨after, _⟩, apart⟩ := parts
  exact ⟨fun query known => apart query known _ List.mem_cons_self, after⟩

/-- By the recursion of the search: the marks before its lower end precede the mark, and the mark
precedes those from its upper end on. -/
theorem answers_halve (increasing : Increasing items) {low high : Nat} (ordered : low ≤ high)
    (within : high ≤ items.length)
    (before : ∀ other ∈ items.take low, other.precedes mark = true)
    (after : ∀ other ∈ items.drop high, mark.precedes other = true) :
    Answers items mark (halve items mark low high) := by
  fun_induction halve items mark low high with
  | case1 low high room middle found => exact found
  | case2 low high room middle other found different above ih =>
      have bound : middle < high := by omega
      obtain ⟨earlier, _⟩ := around_of_getElem? increasing found
      refine ih (by omega) within ?_ after
      intro query known
      rw [List.take_add_one, found, List.mem_append] at known
      rcases known with sooner | here
      · exact precedes_trans (earlier query sooner) above
      · obtain rfl : query = other := by simpa using here
        exact above
  | case3 low high room middle other found different below ih =>
      have bound : low ≤ middle := by omega
      obtain ⟨inside, same⟩ := List.getElem?_eq_some_iff.1 found
      obtain ⟨_, later⟩ := around_of_getElem? increasing found
      have behind : mark.precedes other = true :=
        (precedes_or_precedes different).resolve_left below
      refine ih bound (Nat.le_of_lt inside) before ?_
      intro query known
      rw [List.drop_eq_getElem_cons inside, same] at known
      rcases List.mem_cons.1 known with rfl | afterwards
      · exact behind
      · exact precedes_trans behind (later query afterwards)
  | case4 low high room middle missing =>
      have beyond := List.getElem?_eq_none_iff.1 missing
      omega
  | case5 low high closed =>
      obtain rfl : low = high := by omega
      exact ⟨within, before, after⟩

theorem insertIdx_eq_append {position : Nat} (within : position ≤ items.length) :
    items.insertIdx position mark = items.take position ++ mark :: items.drop position := by
  induction items generalizing position with
  | nil =>
      obtain rfl : position = 0 := Nat.le_zero.1 within
      rfl
  | cons head rest ih =>
      cases position with
      | zero => rfl
      | succ position =>
          rw [List.insertIdx_succ_cons, ih (Nat.le_of_succ_le_succ within)]
          rfl

variable {set : Annotations}

theorem answers_search (increasing : Increasing set.items) (mark : Annotation) :
    Answers set.items mark (set.search mark) :=
  answers_halve increasing (Nat.zero_le _) (Nat.le_refl _) (by simp) (by simp [size])

theorem contains_eq_search (increasing : Increasing set.items) (mark : Annotation) :
    set.contains mark = (set.search mark).isOk := by
  have answer := answers_search increasing mark
  rw [contains, Bool.eq_iff_iff, List.contains_iff_mem]
  cases found : set.search mark with
  | ok position =>
      rw [found] at answer
      simpa [Except.isOk, Except.toBool] using List.mem_of_getElem? answer
  | error position =>
      rw [found] at answer
      obtain ⟨_, before, after⟩ := answer
      simp only [Except.isOk, Except.toBool, Bool.false_eq_true, iff_false]
      intro known
      rw [← List.take_append_drop position set.items, List.mem_append] at known
      have itself := not_precedes_self mark
      rcases known with sooner | later
      · simp [before mark sooner] at itself
      · simp [after mark later] at itself

theorem insert_eq_search (increasing : Increasing set.items) (mark : Annotation) :
    set.insert mark = match set.search mark with
      | .ok _ => set
      | .error position => ⟨set.items.insertIdx position mark⟩ := by
  have answer := answers_search increasing mark
  cases found : set.search mark with
  | ok position =>
      rw [found] at answer
      exact congrArg mk (place_of_mem increasing (List.mem_of_getElem? answer))
  | error position =>
      rw [found] at answer
      obtain ⟨within, before, after⟩ := answer
      have placed := place_append before after
      rw [List.take_append_drop, ← insertIdx_eq_append within] at placed
      exact congrArg mk placed

end Searching

/-- How a set comes about: from marks, by one more mark, or by merging two sets. -/
inductive Recipe
  | of (marks : List Annotation)
  | insert (set : Recipe) (mark : Annotation)
  | merge (left right : Recipe)

namespace Recipe

def set : Recipe → Annotations
  | of marks => ofList marks
  | insert set mark => set.set.insert mark
  | merge left right => left.set.union right.set

def given : Recipe → List Annotation
  | of marks => marks
  | insert set mark => mark :: set.given
  | merge left right => left.given ++ right.given

end Recipe

section Building

variable {mark : Annotation} {left right third : Annotations}

theorem mem_foldl_insert (marks : List Annotation) (set : Annotations) (mark : Annotation) :
    mark ∈ (marks.foldl insert set).items ↔ mark ∈ marks ∨ mark ∈ set.items := by
  induction marks generalizing set with
  | nil => simp
  | cons head rest ih =>
      rw [List.foldl_cons, ih, insert, mem_place, List.mem_cons]
      constructor
      · rintro (later | here | already)
        · exact .inl (.inr later)
        · exact .inl (.inl here)
        · exact .inr already
      · rintro ((here | later) | already)
        · exact .inr (.inl here)
        · exact .inl later
        · exact .inr (.inr already)

theorem increasing_foldl_insert (marks : List Annotation) {set : Annotations}
    (increasing : Increasing set.items) : Increasing (marks.foldl insert set).items := by
  induction marks generalizing set with
  | nil => exact increasing
  | cons head rest ih => exact ih (increasing_place increasing)

theorem mem_union : mark ∈ (left.union right).items ↔ mark ∈ left.items ∨ mark ∈ right.items := by
  rw [union, mem_foldl_insert, or_comm]

theorem increasing_union (increasing : Increasing left.items) (right : Annotations) :
    Increasing (left.union right).items :=
  increasing_foldl_insert right.items increasing

theorem union_comm (increasing : Increasing left.items) (others : Increasing right.items) :
    left.union right = right.union left := by
  apply eq_of_mem_iff (increasing_union increasing right) (increasing_union others left)
  intro mark
  rw [mem_union, mem_union, or_comm]

theorem union_assoc (increasing : Increasing left.items) (right third : Annotations) :
    (left.union right).union third = left.union (right.union third) := by
  apply eq_of_mem_iff (increasing_union (increasing_union increasing right) third)
    (increasing_union increasing _)
  intro mark
  rw [mem_union, mem_union, mem_union, mem_union, or_assoc]

theorem union_self (increasing : Increasing left.items) : left.union left = left := by
  apply eq_of_mem_iff (increasing_union increasing left) increasing
  intro mark
  rw [mem_union, or_self]

namespace Recipe

theorem increasing (recipe : Recipe) : Increasing recipe.set.items := by
  induction recipe with
  | of marks => exact increasing_foldl_insert marks List.Pairwise.nil
  | insert set mark ih => exact increasing_place ih
  | merge left right ih _ => exact increasing_union ih right.set

theorem mem_set (recipe : Recipe) : mark ∈ recipe.set.items ↔ mark ∈ recipe.given := by
  induction recipe with
  | of marks => simp [set, given, ofList, mem_foldl_insert, empty]
  | insert set put ih => simp [Recipe.set, given, Annotations.insert, mem_place, ih]
  | merge left right ih others => rw [set, given, mem_union, List.mem_append, ih, others]

theorem set_eq_iff (first second : Recipe) :
    first.set = second.set ↔ ∀ mark, mark ∈ first.given ↔ mark ∈ second.given := by
  simp only [← mem_set]
  constructor
  · intro same mark
    rw [same]
  · exact eq_of_mem_iff first.increasing second.increasing

end Recipe

end Building

/-- However sets come about, they are increasing lists of just the marks that were put in. What a
search by halving finds in them are these, and it tells where to put another one. Sets with the same
marks are the same, also in a key of a converter cache. Merging depends on no order, no brackets
and no repetition. -/
theorem recipes_canonical (first second third : Recipe) :
    Increasing first.set.items ∧
      (∀ mark, (first.set.contains mark = true ↔ mark ∈ first.given) ∧
        first.set.contains mark = (first.set.search mark).isOk ∧
        first.set.insert mark = match first.set.search mark with
          | .ok _ => first.set
          | .error position => ⟨first.set.items.insertIdx position mark⟩) ∧
      (first.set = second.set ↔ ∀ mark, mark ∈ first.given ↔ mark ∈ second.given) ∧
      (∀ way type, CacheKey.mk way type first.set = CacheKey.mk way type second.set ↔
        ∀ mark, mark ∈ first.given ↔ mark ∈ second.given) ∧
      first.set.union second.set = second.set.union first.set ∧
      (first.set.union second.set).union third.set =
        first.set.union (second.set.union third.set) ∧
      first.set.union first.set = first.set := by
  have increasing := first.increasing
  have equal := first.set_eq_iff second
  refine ⟨increasing, ?_, equal, ?_, union_comm increasing second.increasing,
    union_assoc increasing _ _, union_self increasing⟩
  · intro mark
    refine ⟨?_, contains_eq_search increasing mark, insert_eq_search increasing mark⟩
    rw [contains, List.contains_iff_mem, first.mem_set]
  · intro way type
    rw [← equal]
    simp

end Annotations

end ForeignCall
