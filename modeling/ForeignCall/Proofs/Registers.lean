import ForeignCall.Registers

/-! Which registers a calling standard gives to an argument list. -/

namespace ForeignCall

namespace RegisterUse

theorem next_systemV (used : RegisterUse) (floating : Bool) :
    used.next .systemV floating = if floating then used.floats else used.integers := rfl

theorem hasRoom_systemV (used : RegisterUse) (floating : Bool) :
    used.hasRoom .systemV floating = true ↔
      used.next .systemV floating < if floating then 8 else 6 := by
  cases floating <;>
    simp [hasRoom, Abi.sharesPositions, Abi.integerRegisters, Abi.floatRegisters]

theorem assignFrom_cons {abi : Abi} {used : RegisterUse} {floating : Bool} {rest : List Bool}
    {assigned : List Nat}
    (found : assignFrom abi used (floating :: rest) = some assigned) :
    used.hasRoom abi floating = true ∧ ∃ tail,
      assignFrom abi (used.claim floating) rest = some tail ∧
      assigned = used.next abi floating :: tail := by
  rw [assignFrom] at found
  split at found
  next room =>
    obtain ⟨tail, tailFound, rfl⟩ := Option.map_eq_some_iff.1 found
    exact ⟨room, tail, tailFound, rfl⟩
  next => simp at found

theorem getElem?_assignFrom_systemV {used : RegisterUse} {floating : List Bool}
    {assigned : List Nat} (found : assignFrom .systemV used floating = some assigned)
    {index : Nat} {kind : Bool} (present : floating[index]? = some kind) :
    assigned[index]? = some ((if kind then used.floats else used.integers) +
      (floating.take index).count kind) := by
  induction floating generalizing used assigned index with
  | nil => simp at present
  | cons head rest ih =>
      obtain ⟨_, tail, tailFound, rfl⟩ := assignFrom_cons found
      cases index with
      | zero =>
          obtain rfl : head = kind := by simpa using present
          simp [next_systemV]
      | succ index =>
          have later := ih tailFound (by simpa using present)
          rw [List.getElem?_cons_succ, later, List.take_succ_cons, List.count_cons]
          cases head <;> cases kind <;> simp [claim] <;> omega

theorem length_le_of_assignFrom_systemV {used : RegisterUse} {floating : List Bool}
    {assigned : List Nat} (found : assignFrom .systemV used floating = some assigned)
    (integers : used.integers ≤ 6) (floats : used.floats ≤ 8) :
    used.integers + used.floats + floating.length ≤ 14 := by
  induction floating generalizing used assigned with
  | nil => simp only [List.length_nil]; omega
  | cons head rest ih =>
      obtain ⟨room, tail, tailFound, _⟩ := assignFrom_cons found
      rw [hasRoom_systemV, next_systemV] at room
      have later := ih tailFound
      cases head <;> simp [claim] at room later ⊢ <;> omega

/-- Registers that both classes have enough of are found, and others are not. -/
theorem isSome_assignFrom_systemV {used : RegisterUse} (floating : List Bool)
    (integers : used.integers ≤ 6) (floats : used.floats ≤ 8) :
    (assignFrom .systemV used floating).isSome = true ↔
      used.integers + floating.count false ≤ 6 ∧ used.floats + floating.count true ≤ 8 := by
  induction floating generalizing used with
  | nil => simpa [assignFrom] using ⟨integers, floats⟩
  | cons head rest ih =>
      have room := hasRoom_systemV used head
      rw [next_systemV] at room
      rw [assignFrom]
      split
      next found =>
        have left := room.1 found
        have fewIntegers : (used.claim head).integers ≤ 6 := by
          cases head <;> simp [claim] at left ⊢ <;> omega
        have fewFloats : (used.claim head).floats ≤ 8 := by
          cases head <;> simp [claim] at left ⊢ <;> omega
        rw [Option.isSome_map, ih fewIntegers fewFloats]
        cases head <;> simp [claim] <;> omega
      next full =>
        have spilled := mt room.2 full
        cases head <;> simp at spilled ⊢ <;> omega

/-- Arguments that share their positions get them in order, as long as there are any. -/
theorem assignFrom_win64 {used : RegisterUse} (floating : List Bool)
    (bound : used.integers + used.floats ≤ 4) :
    assignFrom .win64 used floating =
      if used.integers + used.floats + floating.length ≤ 4 then
        some (List.range' (used.integers + used.floats) floating.length)
      else none := by
  induction floating generalizing used with
  | nil => simp [assignFrom, bound]
  | cons head rest ih =>
      have room : used.hasRoom .win64 head = true ↔ used.integers + used.floats < 4 := by
        simp [hasRoom, next, Abi.sharesPositions, Abi.integerRegisters]
      have position : used.next .win64 head = used.integers + used.floats := rfl
      have claimed : (used.claim head).integers + (used.claim head).floats =
          used.integers + used.floats + 1 := by
        cases head <;> simp [claim] <;> omega
      rw [assignFrom, List.length_cons, List.range'_succ]
      split
      next found =>
        have left := room.1 found
        rw [ih (by omega), claimed, position]
        by_cases enough : used.integers + used.floats + (rest.length + 1) ≤ 4
        · rw [if_pos enough, if_pos (by omega)]
          rfl
        · rw [if_neg enough, if_neg (by omega)]
          rfl
      next full =>
        have spilled := mt room.2 full
        rw [if_neg (by omega)]

end RegisterUse

theorem assignRegisters_systemV (floating : List Bool) :
    assignRegisters .systemV floating =
      if floating.count false ≤ 6 ∧ floating.count true ≤ 8 then
        some (floating.mapIdx fun index kind => (floating.take index).count kind)
      else none := by
  have enough : (RegisterUse.assignFrom .systemV {} floating).isSome = true ↔
      floating.count false ≤ 6 ∧ floating.count true ≤ 8 := by
    have none : ({} : RegisterUse).integers ≤ 6 := by decide
    simpa using RegisterUse.isSome_assignFrom_systemV floating none (by decide)
  rw [assignRegisters]
  split
  next fits =>
    obtain ⟨assigned, found⟩ := Option.isSome_iff_exists.1 (enough.2 fits)
    rw [found, Option.some.injEq]
    apply List.ext_getElem?
    intro index
    rw [List.getElem?_mapIdx]
    cases present : floating[index]? with
    | none =>
        rw [List.getElem?_eq_none_iff] at present
        simpa [length_assignFrom found] using present
    | some kind => simp [RegisterUse.getElem?_assignFrom_systemV found present]
  next spills => simpa using mt enough.1 spills

theorem assignRegisters_win64 (floating : List Bool) :
    assignRegisters .win64 floating =
      if floating.length ≤ 4 then some (List.range floating.length) else none := by
  rw [assignRegisters, RegisterUse.assignFrom_win64 floating (by decide), List.range_eq_range']
  simp only [Nat.zero_add]

theorem nodup_zip_mapIdx_count (floating : List Bool) :
    (floating.zip (floating.mapIdx fun index kind => (floating.take index).count kind)).Nodup := by
  rw [List.nodup_iff_pairwise_ne, List.pairwise_iff_getElem]
  intro left right leftBound rightBound before same
  simp only [List.length_zip, List.length_mapIdx, Nat.min_self] at leftBound rightBound
  simp only [List.getElem_zip, List.getElem_mapIdx, Prod.mk.injEq] at same
  obtain ⟨kind, number⟩ := same
  -- The left argument itself is counted before the right one.
  have counted : (floating.take (left + 1)).count floating[left] ≤
      (floating.take right).count floating[left] :=
    (List.take_sublist_take_left before).count_le _
  rw [List.take_succ_eq_append_getElem leftBound, List.count_append, List.count_singleton_self,
    number, kind] at counted
  omega

/-- Arguments get registers exactly when there are enough of them: under System V each class has its
own and hands them out in order, under Win64 the position decides. No two arguments of a call share
one. -/
theorem assignRegisters_exact (floating : List Bool) :
    assignRegisters .systemV floating =
        (if floating.count false ≤ 6 ∧ floating.count true ≤ 8 then
          some (floating.mapIdx fun index kind => (floating.take index).count kind)
        else none) ∧
      assignRegisters .win64 floating =
        (if floating.length ≤ 4 then some (List.range floating.length) else none) ∧
      ∀ abi assigned, assignRegisters abi floating = some assigned →
        assigned.length = floating.length ∧ (floating.zip assigned).Nodup ∧
          (abi = .win64 → assigned.Nodup) := by
  refine ⟨assignRegisters_systemV floating, assignRegisters_win64 floating, ?_⟩
  intro abi assigned found
  refine ⟨length_assignFrom found, ?_⟩
  cases abi with
  | systemV =>
      rw [assignRegisters_systemV] at found
      obtain ⟨-, found⟩ := Option.ite_none_right_eq_some.1 found
      cases found
      exact ⟨nodup_zip_mapIdx_count floating, by simp⟩
  | win64 =>
      rw [assignRegisters_win64] at found
      obtain ⟨-, found⟩ := Option.ite_none_right_eq_some.1 found
      cases found
      have positions : ((floating.zip (List.range floating.length)).map Prod.snd).Nodup := by
        rw [List.map_snd_zip (by simp)]
        exact List.nodup_range
      refine ⟨?_, fun _ => List.nodup_range⟩
      exact List.Pairwise.of_map Prod.snd (fun _ _ apart same => apart (congrArg _ same)) positions

theorem assignRegisters_exact_full :
    let floating := [false, true, true, false, true, false, true, true, false, true, false, true,
      false, true]
    let assigned := [0, 0, 1, 1, 2, 2, 3, 4, 3, 5, 4, 6, 5, 7]
    assignRegisters .systemV floating = some assigned ∧ (floating.zip assigned).Nodup :=
  ⟨by decide, ((assignRegisters_exact _).2.2 .systemV _ (by decide)).2.1⟩

end ForeignCall
