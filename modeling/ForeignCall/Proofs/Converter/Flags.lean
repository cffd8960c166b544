import ForeignCall.Proofs.Converter.Masks

/-! Constants that have their bits to themselves. A set of such constants comes back from its mask,
and with it come the constants without any bit: these are in every mask. -/

namespace ForeignCall

namespace EnumSubset

structure Proper (subset : EnumSubset) : Prop where
  increasing : subset.members.Pairwise (· < ·)
  declared : ∀ index ∈ subset.members, index < subset.enumeration.size

theorem eq_of_mem_iff {left right : EnumSubset} (same : left.enumeration = right.enumeration)
    (first : left.members.Pairwise (· < ·)) (second : right.members.Pairwise (· < ·))
    (alike : ∀ index, index ∈ left.members ↔ index ∈ right.members) : left = right := by
  obtain ⟨enumeration, members⟩ := left
  obtain ⟨other, indices⟩ := right
  obtain rfl : enumeration = other := same
  have permuted : members.Perm indices := by
    rw [List.perm_ext_iff_of_nodup (first.imp Nat.ne_of_lt) (second.imp Nat.ne_of_lt)]
    exact alike
  have sorted : members = indices := by
    apply permuted.eq_of_pairwise _ first second
    intro lower upper _ _ below above
    omega
  rw [sorted]

theorem increasing_place (index : Nat) {members : List Nat}
    (increasing : members.Pairwise (· < ·)) : (place index members).Pairwise (· < ·) := by
  induction members with
  | nil => simp [place]
  | cons head rest ih =>
      obtain ⟨least, others⟩ := List.pairwise_cons.1 increasing
      rw [place]
      split
      next below =>
        refine List.pairwise_cons.2 ⟨?_, increasing⟩
        intro query known
        rcases List.mem_cons.1 known with rfl | later
        · exact below
        · exact Nat.lt_trans below (least query later)
      next above =>
        split
        next => exact increasing
        next other =>
          refine List.pairwise_cons.2 ⟨?_, ih others⟩
          intro query known
          rcases (mem_place index query rest).1 known with rfl | later
          · omega
          · exact least query later

theorem mem_foldl_insert (indices : List Nat) (subset : EnumSubset) (query : Nat) :
    query ∈ (indices.foldl insert subset).members ↔ query ∈ indices ∨ query ∈ subset.members := by
  induction indices generalizing subset with
  | nil => simp
  | cons index rest ih =>
      rw [List.foldl_cons, ih]
      simp only [insert, mem_place, List.mem_cons]
      constructor
      · rintro (later | here | already)
        · exact .inl (.inr later)
        · exact .inl (.inl here)
        · exact .inr already
      · rintro ((here | later) | already)
        · exact .inr (.inl here)
        · exact .inl later
        · exact .inr (.inr already)

theorem increasing_foldl_insert (indices : List Nat) {subset : EnumSubset}
    (increasing : subset.members.Pairwise (· < ·)) :
    (indices.foldl insert subset).members.Pairwise (· < ·) := by
  induction indices generalizing subset with
  | nil => exact increasing
  | cons index rest ih => exact ih (increasing_place index increasing)

theorem enumeration_foldl_insert (indices : List Nat) (subset : EnumSubset) :
    (indices.foldl insert subset).enumeration = subset.enumeration := by
  induction indices generalizing subset with
  | nil => rfl
  | cons index rest ih => exact ih (subset.insert index)

end EnumSubset

namespace Enumeration

/-- No two constants have a bit in common. -/
def Separate (enumeration : Enumeration) : Prop :=
  enumeration.ints.Pairwise fun left right => left &&& right = 0

instance (enumeration : Enumeration) : Decidable enumeration.Separate :=
  inferInstanceAs (Decidable (List.Pairwise _ _))

def bitless (enumeration : Enumeration) : List Nat :=
  (enumeration.ints.zipIdx.filter (·.1 == 0)).map (·.2)

theorem increasing_positions (enumeration : Enumeration) (keeps : Int32 × Nat → Bool) :
    ((enumeration.ints.zipIdx.filter keeps).map (·.2)).Pairwise (· < ·) := by
  have all : (enumeration.ints.zipIdx.map (·.2)).Pairwise (· < ·) := by
    rw [List.zipIdx_map_snd]
    exact List.pairwise_lt_range'
  exact all.sublist (List.filter_sublist.map _)

variable {enumeration : Enumeration}

theorem mem_bitless {index : Nat} :
    index ∈ enumeration.bitless ↔ enumeration.ints[index]? = some 0 := by
  simp [bitless, List.mem_zipIdx_iff_getElem?]

theorem Separate.eq_of_bit (separate : enumeration.Separate) {left right : Nat}
    {first second : Int32} (known : enumeration.ints[left]? = some first)
    (other : enumeration.ints[right]? = some second) {position : Nat}
    (set : first.toBitVec.getLsbD position = true)
    (too : second.toBitVec.getLsbD position = true) : left = right := by
  obtain ⟨below, rfl⟩ := List.getElem?_eq_some_iff.1 known
  obtain ⟨under, rfl⟩ := List.getElem?_eq_some_iff.1 other
  have apart := List.pairwise_iff_getElem.1 separate
  have clash {one two : Int32} (empty : one &&& two = 0)
      (inOne : one.toBitVec.getLsbD position = true)
      (inTwo : two.toBitVec.getLsbD position = true) : False := by
    have both : (one &&& two).toBitVec.getLsbD position = true := by
      rw [Int32.toBitVec_and, BitVec.getLsbD_and, inOne, inTwo, Bool.and_true]
    rw [empty] at both
    simp at both
  rcases Nat.lt_trichotomy left right with before | same | after
  · exact (clash (apart left right below under before) set too).elim
  · exact same
  · exact (clash (apart right left under below after) too set).elim

theorem exists_bit {value : Int32} (some : value ≠ 0) :
    ∃ position, value.toBitVec.getLsbD position = true := by
  apply Classical.byContradiction
  intro none
  apply some
  apply Int32.toBitVec_inj.1
  apply BitVec.eq_of_getLsbD_eq
  intro position _
  rw [not_exists] at none
  simpa using none position

theorem exists_member_of_bit {members : List Nat} {bits : Int32}
    (masked : enumeration.maskOf members = .ok bits) {position : Nat}
    (set : bits.toBitVec.getLsbD position = true) :
    ∃ index ∈ members, ∃ value, enumeration.ints[index]? = some value ∧
      value.toBitVec.getLsbD position = true := by
  induction members generalizing bits with
  | nil =>
      cases masked
      simp at set
  | cons index rest ih =>
      by_cases declared : index < enumeration.size
      · obtain ⟨value, known, first⟩ := intOf_of_lt declared
        cases others : enumeration.maskOf rest with
        | error fault =>
            rw [maskOf, first, others] at masked
            cases masked
        | ok remaining =>
            rw [maskOf_cons first others] at masked
            cases masked
            rw [Int32.toBitVec_or, BitVec.getLsbD_or, Bool.or_eq_true] at set
            rcases set with here | later
            · exact ⟨index, List.mem_cons_self, value, known, here⟩
            · obtain ⟨other, present, found⟩ := ih others later
              exact ⟨other, List.mem_cons_of_mem index present, found⟩
      · have outside : enumeration.ints[index]? = none := by
          rw [List.getElem?_eq_none_iff]
          simpa [ints, size] using declared
        rw [maskOf, intOf, if_pos rfl, outside] at masked
        cases masked

theorem mem_subsetOf_maskOf (separate : enumeration.Separate) {members : List Nat} {bits : Int32}
    (declared : ∀ index ∈ members, index < enumeration.size)
    (masked : enumeration.maskOf members = .ok bits) (index : Nat) :
    index ∈ (enumeration.subsetOf bits).members ↔
      index ∈ enumeration.bitless ∨ index ∈ members := by
  rw [mem_bitless]
  constructor
  · intro found
    obtain ⟨value, known, within⟩ := mem_subsetOf.1 found
    by_cases empty : value = 0
    · subst empty
      exact .inl known
    · -- the bit comes from a member, and no other constant has it
      obtain ⟨position, set⟩ := exists_bit empty
      obtain ⟨member, present, other, valued, too⟩ :=
        exists_member_of_bit masked (within position set)
      obtain rfl := separate.eq_of_bit known valued set too
      exact .inr present
  · rintro (bare | present)
    · exact mem_subsetOf.2 ⟨0, bare, .zero bits⟩
    · exact (maskOf_subsetOf declared masked).1 present

end Enumeration

namespace EnumSubset

variable {subset : EnumSubset}

def withBitless (subset : EnumSubset) : EnumSubset :=
  subset.enumeration.bitless.foldl insert subset

theorem mem_withBitless (index : Nat) : index ∈ subset.withBitless.members ↔
    index ∈ subset.enumeration.bitless ∨ index ∈ subset.members :=
  mem_foldl_insert _ subset index

theorem increasing_withBitless (proper : subset.Proper) :
    subset.withBitless.members.Pairwise (· < ·) :=
  increasing_foldl_insert _ proper.increasing

theorem enumeration_withBitless (subset : EnumSubset) :
    subset.withBitless.enumeration = subset.enumeration :=
  enumeration_foldl_insert _ subset

theorem withBitless_eq_self_iff (proper : subset.Proper) :
    subset.withBitless = subset ↔ subset.enumeration.bitless ⊆ subset.members := by
  constructor
  · intro same index bare
    rw [← same]
    exact (mem_withBitless index).2 (.inl bare)
  · intro contained
    apply eq_of_mem_iff (enumeration_withBitless subset) (increasing_withBitless proper)
      proper.increasing
    intro index
    rw [mem_withBitless]
    constructor
    · rintro (bare | already)
      · exact contained bare
      · exact already
    · exact .inr

theorem subsetOf_maskOf (proper : subset.Proper) (separate : subset.enumeration.Separate)
    {bits : Int32} (masked : subset.enumeration.maskOf subset.members = .ok bits) :
    subset.enumeration.subsetOf bits = subset.withBitless := by
  have same : (subset.enumeration.subsetOf bits).enumeration = subset.withBitless.enumeration :=
    (enumeration_withBitless subset).symm
  apply eq_of_mem_iff same (Enumeration.increasing_positions _ _) (increasing_withBitless proper)
  intro index
  rw [mem_withBitless]
  exact Enumeration.mem_subsetOf_maskOf separate proper.declared masked index

def throughMask (subset : EnumSubset) (context : ConversionContext) : Act Store Value := do
  let native ← (ConverterBody.enumSetToNative subset.enumeration).convert (.enumSet subset) context
  (ConverterBody.enumSetFromNative subset.enumeration).convert native context

/-- A set of constants that have their bits to themselves comes back together with the constants
that have no bit, so it comes back as it was if and only if it has all of these. -/
theorem flags_round_trip (proper : subset.Proper) (separate : subset.enumeration.Separate)
    (context : ConversionContext) :
    subset.throughMask context = pure (.enumSet subset.withBitless) ∧
      (subset.withBitless = subset ↔ subset.enumeration.bitless ⊆ subset.members) := by
  refine ⟨?_, withBitless_eq_self_iff proper⟩
  obtain ⟨bits, masked, -⟩ := Enumeration.maskOf_within_iff proper.declared
  have sent := ConverterBody.enumSetToNative_eq_pure subset.enumeration context masked
  have received := ConverterBody.enumSetFromNative_eq_pure subset.enumeration context bits
  rw [subsetOf_maskOf proper separate masked] at received
  rw [throughMask]
  exact (congrArg (· >>= _) sent).trans ((pure_bind _ _).trans received)

def signs : Enumeration :=
  ⟨"Signs", [("LOW", 1), ("NONE", 0), ("TOP", 0x80000000), ("WIDE", 0x100000000)]⟩

theorem flags_round_trip_signs :
    signs.Separate ∧ (EnumSubset.mk signs [0, 2]).Proper ∧
      (EnumSubset.mk signs [0, 2]).throughMask ⟨.empty, .utf8⟩ =
        pure (.enumSet ⟨signs, [0, 1, 2, 3]⟩) := by
  have separate : signs.Separate := by decide
  have proper : (EnumSubset.mk signs [0, 2]).Proper := ⟨by decide, by decide⟩
  have grown : (EnumSubset.mk signs [0, 2]).withBitless = ⟨signs, [0, 1, 2, 3]⟩ := by decide
  refine ⟨separate, proper, ?_⟩
  rw [(flags_round_trip proper separate ⟨.empty, .utf8⟩).1, grown]

/-- A set without the constant that has no bit comes back with it. -/
theorem bitless_flag_added :
    signs.Separate ∧ (EnumSubset.mk signs [0, 2]).Proper ∧
      (EnumSubset.mk signs [0, 2]).throughMask ⟨.empty, .utf8⟩ ≠
        pure (.enumSet ⟨signs, [0, 2]⟩) := by
  refine ⟨by decide, ⟨by decide, by decide⟩, ?_⟩
  intro same
  have outcomes := congrArg (fun action : Act Store Value => (action.run.run {}).1) same
  have values : (Value.enumSet ⟨signs, [0, 1, 2, 3]⟩) = .enumSet ⟨signs, [0, 2]⟩ :=
    Except.ok.inj outcomes
  exact absurd values (by decide)

end EnumSubset

end ForeignCall
