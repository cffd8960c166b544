import ForeignCall.Converter.Basic

/-! Sets of constants as bit masks. The mask of a set is the least one in which all of its constants
are found, however the constants share their bits. -/

namespace ForeignCall

def BitsWithin (bits mask : Int32) : Prop :=
  ∀ position, bits.toBitVec.getLsbD position = true → mask.toBitVec.getLsbD position = true

namespace BitsWithin

theorem refl (bits : Int32) : BitsWithin bits bits := fun _ => id

theorem zero (mask : Int32) : BitsWithin 0 mask := by
  intro position set
  simp at set

theorem antisymm {left right : Int32} (within : BitsWithin left right)
    (around : BitsWithin right left) : left = right := by
  apply Int32.toBitVec_inj.1
  apply BitVec.eq_of_getLsbD_eq
  intro position _
  exact Bool.eq_iff_iff.2 ⟨within position, around position⟩

end BitsWithin

theorem bitsWithin_iff {bits mask : Int32} : BitsWithin bits mask ↔ mask &&& bits = bits := by
  constructor
  · intro within
    apply Int32.toBitVec_inj.1
    apply BitVec.eq_of_getLsbD_eq
    intro position _
    rw [Int32.toBitVec_and, BitVec.getLsbD_and]
    cases set : bits.toBitVec.getLsbD position with
    | false => exact Bool.and_false _
    | true => rw [within position set, Bool.and_true]
  · intro same position set
    rw [← same, Int32.toBitVec_and, BitVec.getLsbD_and, Bool.and_eq_true] at set
    exact set.1

theorem bitsWithin_or {left right mask : Int32} :
    BitsWithin (left ||| right) mask ↔ BitsWithin left mask ∧ BitsWithin right mask := by
  simp only [BitsWithin, Int32.toBitVec_or, BitVec.getLsbD_or, Bool.or_eq_true, or_imp,
    forall_and]

namespace Enumeration

variable {enumeration : Enumeration}

theorem mem_subsetOf {mask : Int32} {index : Nat} :
    index ∈ (enumeration.subsetOf mask).members ↔
      ∃ value, enumeration.ints[index]? = some value ∧ BitsWithin value mask := by
  simp only [subsetOf, List.mem_map, List.mem_filter, List.mem_zipIdx_iff_getElem?, beq_iff_eq,
    bitsWithin_iff, Prod.exists, exists_eq_right]

theorem intOf_of_lt {index : Nat} (declared : index < enumeration.size) :
    ∃ value, enumeration.ints[index]? = some value ∧
      enumeration.intOf ⟨enumeration, index⟩ = .ok value := by
  have inside : index < enumeration.ints.length := by simpa [ints, size] using declared
  refine ⟨_, List.getElem?_eq_getElem inside, ?_⟩
  rw [intOf, if_pos rfl, List.getElem?_eq_getElem inside]

theorem maskOf_cons {index : Nat} {rest : List Nat} {value bits : Int32}
    (first : enumeration.intOf ⟨enumeration, index⟩ = .ok value)
    (others : enumeration.maskOf rest = .ok bits) :
    enumeration.maskOf (index :: rest) = .ok (value ||| bits) := by
  rw [maskOf, first, others]
  rfl

theorem maskOf_within_iff {members : List Nat}
    (declared : ∀ index ∈ members, index < enumeration.size) :
    ∃ bits, enumeration.maskOf members = .ok bits ∧
      ∀ mask, BitsWithin bits mask ↔ members ⊆ (enumeration.subsetOf mask).members := by
  induction members with
  | nil => exact ⟨0, rfl, fun mask => ⟨fun _ => List.nil_subset _, fun _ => .zero mask⟩⟩
  | cons index rest ih =>
      obtain ⟨head, tail⟩ := List.forall_mem_cons.1 declared
      obtain ⟨value, known, first⟩ := intOf_of_lt head
      obtain ⟨bits, others, within⟩ := ih tail
      refine ⟨value ||| bits, maskOf_cons first others, fun mask => ?_⟩
      rw [bitsWithin_or, within mask, List.cons_subset, mem_subsetOf]
      simp only [known, Option.some.injEq, exists_eq_left']

theorem lt_size_of_mem_subsetOf {mask : Int32} {index : Nat}
    (found : index ∈ (enumeration.subsetOf mask).members) : index < enumeration.size := by
  obtain ⟨value, known, _⟩ := mem_subsetOf.1 found
  simpa [ints, size] using (List.getElem?_eq_some_iff.1 known).1

theorem maskOf_subsetOf {members : List Nat} {bits : Int32}
    (declared : ∀ index ∈ members, index < enumeration.size)
    (masked : enumeration.maskOf members = .ok bits) :
    members ⊆ (enumeration.subsetOf bits).members ∧
      enumeration.maskOf (enumeration.subsetOf bits).members = .ok bits := by
  obtain ⟨_, first, within⟩ := maskOf_within_iff declared
  cases first.symm.trans masked
  have found : ∀ index ∈ (enumeration.subsetOf bits).members, index < enumeration.size :=
    fun _ => lt_size_of_mem_subsetOf
  obtain ⟨closed, again, around⟩ := maskOf_within_iff found
  have subset := (within bits).1 (.refl bits)
  have smaller := (around bits).2 fun _ => id
  have larger := (within closed).2 (List.Subset.trans subset ((around closed).1 (.refl closed)))
  refine ⟨subset, ?_⟩
  rw [again, smaller.antisymm larger]

end Enumeration

namespace ConverterBody

variable (enumeration : Enumeration) (context : ConversionContext)

theorem enumSetToNative_eq_pure {members : List Nat} {bits : Int32}
    (masked : enumeration.maskOf members = .ok bits) :
    (enumSetToNative enumeration).convert (.enumSet ⟨enumeration, members⟩) context =
      pure (.int bits) := by
  simp only [enumSetToNative, ↓reduceIte, masked]
  rfl

theorem enumSetFromNative_eq_pure (mask : Int32) :
    (enumSetFromNative enumeration).convert (.int mask) context =
      pure (.enumSet (enumeration.subsetOf mask)) := by
  change (pure (.enumSet (enumeration.subsetOf mask.toInt64.toInt32)) : Act Store Value) = _
  rw [Int32.toInt32_toInt64]

/-- Every set of constants becomes a mask. Its bits are in another mask just when the set is among
the constants that the other mask becomes. So a set that goes to a mask and back has only grown, and
it has the same mask as before. -/
theorem masks_adjoint {members : List Nat}
    (declared : ∀ index ∈ members, index < enumeration.size) :
    ∃ bits grown,
      (enumSetToNative enumeration).convert (.enumSet ⟨enumeration, members⟩) context =
        pure (.int bits) ∧
      (∀ mask, ∃ found,
        (enumSetFromNative enumeration).convert (.int mask) context =
          pure (.enumSet ⟨enumeration, found⟩) ∧ (BitsWithin bits mask ↔ members ⊆ found)) ∧
      (enumSetFromNative enumeration).convert (.int bits) context =
        pure (.enumSet ⟨enumeration, grown⟩) ∧ members ⊆ grown ∧
      (enumSetToNative enumeration).convert (.enumSet ⟨enumeration, grown⟩) context =
        pure (.int bits) := by
  obtain ⟨bits, masked, within⟩ := Enumeration.maskOf_within_iff declared
  obtain ⟨subset, again⟩ := Enumeration.maskOf_subsetOf declared masked
  refine ⟨bits, _, enumSetToNative_eq_pure enumeration context masked, fun mask => ?_,
    enumSetFromNative_eq_pure enumeration context bits, subset,
    enumSetToNative_eq_pure enumeration context again⟩
  exact ⟨_, enumSetFromNative_eq_pure enumeration context mask, within mask⟩

def overlapping : Enumeration :=
  ⟨"Flags", [("LOW", 1), ("BOTH", 3), ("NONE", 0), ("TOP", 0x80000000), ("WIDE", 0x100000002)]⟩

/-- The first two constants and the last share their bits, so all come back with the sign bit. -/
theorem masks_adjoint_overlapping :
    (∀ index ∈ [1, 3], index < overlapping.size) ∧
      (enumSetToNative overlapping).convert (.enumSet ⟨overlapping, [1, 3]⟩) ⟨.empty, .utf8⟩ =
        pure (.int (-2147483645)) ∧
      (enumSetFromNative overlapping).convert (.int (-2147483645)) ⟨.empty, .utf8⟩ =
        pure (.enumSet ⟨overlapping, [0, 1, 2, 3, 4]⟩) ∧
      (enumSetToNative overlapping).convert (.enumSet ⟨overlapping, [0, 1, 2, 3, 4]⟩)
        ⟨.empty, .utf8⟩ = pure (.int (-2147483645)) := by
  have declared : ∀ index ∈ [1, 3], index < overlapping.size := by decide
  obtain ⟨bits, grown, sent, _, received, _, again⟩ :=
    masks_adjoint overlapping ⟨.empty, .utf8⟩ declared
  have masked : overlapping.maskOf [1, 3] = .ok (-2147483645) := rfl
  have first := sent.symm.trans (enumSetToNative_eq_pure overlapping ⟨.empty, .utf8⟩ masked)
  have bitsSame := congrArg (fun action : Act Store Value => (action.run.run {}).1) first
  obtain rfl : bits = -2147483645 := Value.int.inj (Except.ok.inj bitsSame)
  have unmasked : overlapping.subsetOf (-2147483645) = ⟨overlapping, [0, 1, 2, 3, 4]⟩ := by decide
  have second := received.symm.trans (enumSetFromNative_eq_pure overlapping _ (-2147483645))
  have setSame := congrArg (fun action : Act Store Value => (action.run.run {}).1) second
  have grownSame := (Value.enumSet.inj (Except.ok.inj setSame)).trans unmasked
  obtain rfl : grown = [0, 1, 2, 3, 4] := congrArg EnumSubset.members grownSame
  exact ⟨declared, sent, received, again⟩

end ConverterBody

end ForeignCall
