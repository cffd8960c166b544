import ForeignCall.Proofs.Text.Spelling

/-! Reading is the inverse of writing, in every encoding: bytes are accepted exactly where some text
without a zero character is written as what stands before their terminator. -/

namespace ForeignCall

namespace TextEncoding

section Zero

theorem eq_zero_iff_toNat (character : Char) : character = '\x00' ↔ character.val.toNat = 0 := by
  rw [Char.ext_iff, ← UInt32.toNat_inj]
  rfl

theorem pair_any_iff (bigEndian : Bool) (unit : UInt16) :
    (pair bigEndian unit).any (· != 0) = true ↔ unit.toNat ≠ 0 := by
  have zero : (pair bigEndian unit).any (· != 0) = false ↔ unit = 0 := by
    constructor
    · intro none
      have blank : pair bigEndian unit = List.replicate 2 0 :=
        List.eq_replicate_iff.2 ⟨length_pair bigEndian unit, by simpa using none⟩
      rw [← unitOfPair_pair bigEndian unit, blank]
      cases bigEndian <;> rfl
    · rintro rfl
      cases bigEndian <;> rfl
  rw [← Bool.not_eq_false, zero, ← UInt16.toNat_inj]
  rfl

theorem quadruple_any_iff (bigEndian : Bool) (code : UInt32) :
    (quadruple bigEndian code).any (· != 0) = true ↔ code.toNat ≠ 0 := by
  have zero : (quadruple bigEndian code).any (· != 0) = false ↔ code = 0 := by
    constructor
    · intro none
      have blank : quadruple bigEndian code = List.replicate 4 0 :=
        List.eq_replicate_iff.2 ⟨length_quadruple bigEndian code, by simpa using none⟩
      rw [← codeOfQuadruple_quadruple bigEndian code, blank]
      cases bigEndian <;> rfl
    · rintro rfl
      cases bigEndian <;> rfl
  rw [← Bool.not_eq_false, zero, ← UInt32.toNat_inj]
  rfl

theorem ne_zero_of_mem_utf8 {character : Char} {byte : UInt8}
    (known : byte ∈ String.utf8EncodeChar character) : byte ≠ 0 ↔ character ≠ '\x00' := by
  rw [ne_eq, ne_eq, eq_zero_iff_toNat, ← UInt8.toNat_inj]
  change ¬ byte.toNat = 0 ↔ _
  rw [String.utf8EncodeChar.eq_1] at known
  split at known
  next small =>
    rw [List.mem_singleton.1 known, UInt8.toNat_ofNat']
    omega
  next large =>
    have marked : ∀ number, 128 ≤ number → number < 256 → (UInt8.ofNat number).toNat ≠ 0 := by
      intro number above below
      rw [UInt8.toNat_ofNat']
      omega
    have nonzero : byte.toNat ≠ 0 := by
      split at known
      next => 
        simp only [List.mem_cons, List.not_mem_nil, or_false] at known
        rcases known with rfl | rfl <;> exact marked _ (by omega) (by omega)
      next =>
        split at known
        · simp only [List.mem_cons, List.not_mem_nil, or_false] at known
          rcases known with rfl | rfl | rfl <;> exact marked _ (by omega) (by omega)
        · simp only [List.mem_cons, List.not_mem_nil, or_false] at known
          rcases known with rfl | rfl | rfl | rfl <;> exact marked _ (by omega) (by omega)
    omega

theorem ne_zero_of_mem_utf16Units {character : Char} {unit : UInt16}
    (known : unit ∈ utf16Units character) : unit.toNat ≠ 0 ↔ character ≠ '\x00' := by
  have range := toNat_val_cases character
  rw [ne_eq, ne_eq, eq_zero_iff_toNat]
  by_cases small : character.val.toNat < 0x10000
  · rw [utf16Units_of_small small, List.mem_singleton] at known
    rw [known, UInt32.toNat_toUInt16]
    omega
  · obtain ⟨high, low, units, first, second⟩ :=
      utf16Units_of_large character (by omega)
    rw [units] at known
    simp only [List.mem_cons, List.not_mem_nil, or_false] at known
    rcases known with rfl | rfl <;> omega

/-- The bytes are whole units, and these are zero for the zero character alone. -/
def UnitsOf (encoding : TextEncoding) (character : Char) (code : List UInt8) : Prop :=
  ∃ units : List (List UInt8), code = units.flatten ∧ units ≠ [] ∧
    ∀ unit ∈ units, unit.length = encoding.unitSize ∧
      (unit.any (· != 0) = true ↔ character ≠ '\x00')

theorem unitsOf_flatMap {encoding : TextEncoding} {Item : Type} {items : List Item}
    (chunk : Item → List UInt8) (some_item : items ≠ [])
    (sized : ∀ item, (chunk item).length = encoding.unitSize) {character : Char}
    (each : ∀ item ∈ items, (chunk item).any (· != 0) = true ↔ character ≠ '\x00') :
    encoding.UnitsOf character (items.flatMap chunk) := by
  refine ⟨items.map chunk, List.flatMap_def .., by simpa using some_item, ?_⟩
  intro unit known
  obtain ⟨item, there, rfl⟩ := List.mem_map.1 known
  exact ⟨sized item, each item there⟩

theorem unitsOf_bytes {encoding : TextEncoding} (single : encoding.unitSize = 1)
    {character : Char} {code : List UInt8} (some_byte : code ≠ [])
    (each : ∀ byte ∈ code, byte ≠ 0 ↔ character ≠ '\x00') :
    encoding.UnitsOf character code := by
  rw [← List.flatMap_singleton' code]
  refine unitsOf_flatMap (fun byte => [byte]) some_byte (fun _ => single.symm) ?_
  intro byte known
  simpa using each byte known

theorem ofUInt8_ne_zero (byte : UInt8) : byte ≠ 0 ↔ Char.ofUInt8 byte ≠ '\x00' := by
  rw [ne_eq, ne_eq, eq_zero_iff_toNat, ← UInt8.toNat_inj]
  change _ ↔ ¬ byte.toUInt32.toNat = 0
  rw [UInt8.toNat_toUInt32]
  rfl

theorem unitsOf_utf16 {encoding : TextEncoding} (bigEndian : Bool) (character : Char)
    (double : encoding.unitSize = 2) :
    encoding.UnitsOf character ((utf16Units character).flatMap (pair bigEndian)) := by
  refine unitsOf_flatMap _ ?_ (fun unit => (length_pair bigEndian unit).trans double.symm) ?_
  · rw [utf16Units]
    split <;> simp
  · intro unit known
    rw [pair_any_iff, ne_zero_of_mem_utf16Units known]

theorem unitsOf_utf32 {encoding : TextEncoding} (bigEndian : Bool) (character : Char)
    (four : encoding.unitSize = 4) :
    encoding.UnitsOf character (quadruple bigEndian character.val) := by
  have single : [character.val].flatMap (quadruple bigEndian) =
      quadruple bigEndian character.val := by
    simp
  rw [← single]
  refine unitsOf_flatMap _ (by simp) ?_ ?_
  · exact fun code => (length_quadruple bigEndian code).trans four.symm
  · intro code known
    rw [List.mem_singleton.1 known, quadruple_any_iff, ne_eq, ne_eq, eq_zero_iff_toNat]

theorem unitsOf_of_encodeChar? {encoding : TextEncoding} {character : Char} {code : List UInt8}
    (known : encoding.encodeChar? character = some code) : encoding.UnitsOf character code := by
  cases encoding with
  | utf8 =>
      cases known
      exact unitsOf_bytes rfl String.utf8EncodeChar_ne_nil fun byte => ne_zero_of_mem_utf8
  | ascii =>
      obtain ⟨byte, _, rfl, rfl⟩ := (encodeChar?_ascii_eq_some_iff _ _).1 known
      refine unitsOf_bytes rfl (by simp) ?_
      simpa using ofUInt8_ne_zero byte
  | latin1 =>
      obtain ⟨byte, _, rfl, rfl⟩ := (encodeChar?_latin1_eq_some_iff _ _).1 known
      refine unitsOf_bytes rfl (by simp) ?_
      simpa using ofUInt8_ne_zero byte
  | utf16le =>
      cases known
      exact unitsOf_utf16 false character rfl
  | utf16be =>
      cases known
      exact unitsOf_utf16 true character rfl
  | utf32le =>
      cases known
      exact unitsOf_utf32 false character rfl
  | utf32be =>
      cases known
      exact unitsOf_utf32 true character rfl

end Zero

namespace Spells

variable {encoding : TextEncoding} {characters : List Char} {bytes : List UInt8}

/-- Before a terminator, the bytes of a text are cut where the text has its first zero character. -/
theorem body_append (spells : Spells encoding characters bytes) {rest : List UInt8}
    (terminated : encoding.body rest = []) :
    Spells encoding (characters.takeWhile (· != '\x00')) (encoding.body (bytes ++ rest)) := by
  induction spells with
  | nil => 
      rw [List.nil_append, terminated]
      exact .nil
  | @cons character code others later head tail ih =>
      obtain ⟨units, rfl, some_unit, each⟩ := unitsOf_of_encodeChar? head
      rw [List.append_assoc]
      by_cases zero : character = '\x00'
      · obtain ⟨unit, more, rfl⟩ := List.exists_cons_of_ne_nil some_unit
        have blank : ¬ unit.any (· != 0) = true := fun nonzero =>
          (each unit (by simp)).2.1 nonzero zero
        rw [List.flatten_cons, List.append_assoc,
          TextEncoding.body_append _ (each unit (by simp)).1, if_neg blank, zero]
        exact .nil
      · have nonzero : (character != '\x00') = true := by simpa using zero
        rw [body_flatten _ fun unit known => ⟨(each unit known).1, (each unit known).2.2 zero⟩,
          List.takeWhile_cons, if_pos nonzero]
        exact .cons head ih

theorem body_self (spells : Spells encoding characters bytes) :
    Spells encoding (characters.takeWhile (· != '\x00')) (encoding.body bytes) := by
  have cut := spells.body_append encoding.body_nil
  rwa [List.append_nil] at cut

theorem not_mem_of_body_eq (spells : Spells encoding characters bytes)
    (fixed : encoding.body bytes = bytes) : '\x00' ∉ characters := by
  intro there
  have cut := spells.body_self
  have whole : Whole encoding.unitSize bytes := fixed ▸ encoding.whole_body bytes
  rw [fixed, ← charsOf?_eq_some_iff encoding whole] at cut
  have same := cut.symm.trans ((charsOf?_eq_some_iff encoding whole).2 spells)
  rw [Option.some.injEq] at same
  rw [← same] at there
  simpa using List.all_eq_true.1 List.all_takeWhile _ there

end Spells

/-- The bytes of a text, if the encoding has all its characters, and the terminator behind them. -/
theorem outcome_encodeChars_iff {encoding : TextEncoding} {characters : List Char}
    (length capacity : Nat) (bytes : List UInt8) :
    (encoding.encodeChars characters length capacity).outcome = .ok bytes ↔
      ∃ code, Spells encoding characters code ∧
        bytes = code ++ List.replicate terminatorSize 0 := by
  induction characters generalizing length capacity bytes with
  | nil =>
      change Except.ok _ = Except.ok bytes ↔ _
      rw [Except.ok.injEq]
      constructor
      · rintro rfl
        exact ⟨[], .nil, rfl⟩
      · rintro ⟨code, spells, rfl⟩
        cases spells
        rfl
  | cons character rest ih =>
      rw [encodeChars]
      cases known : encoding.encodeChar? character with
      | none =>
          constructor
          · intro done
            cases done
          · rintro ⟨code, spells, rfl⟩
            cases spells with
            | cons head tail => cases known.symm.trans head
      | some code =>
          change (Except.map (code ++ ·) (encodeChars encoding rest _ _).outcome) = _ ↔ _
          constructor
          · intro done
            cases later : (encodeChars encoding rest _ _).outcome with
            | error fault =>
                rw [later] at done
                cases done
            | ok others =>
                rw [later] at done
                cases done
                obtain ⟨more, spells, rfl⟩ := (ih _ _ _).1 later
                exact ⟨code ++ more, .cons known spells, (List.append_assoc ..).symm⟩
          · rintro ⟨_, spells, rfl⟩
            cases spells with
            | @cons _ _ _ more head tail =>
                cases known.symm.trans head
                rw [(ih _ _ _).2 ⟨more, tail, rfl⟩, List.append_assoc]
                rfl

theorem outcome_encode_iff {encoding : TextEncoding} {text : String} {bytes : List UInt8} :
    (encoding.encode text).outcome = .ok bytes ↔ ∃ code,
      Spells encoding text.toList code ∧ bytes = code ++ List.replicate terminatorSize 0 :=
  outcome_encodeChars_iff 0 _ bytes

theorem decode_eq_ok_iff {encoding : TextEncoding} {bytes : List UInt8} {text : String} :
    encoding.decode bytes = .ok text ↔ Spells encoding text.toList (encoding.body bytes) := by
  rw [← charsOf?_eq_some_iff encoding (encoding.whole_body bytes), decode]
  cases encoding.charsOf? (encoding.body bytes) with
  | none => simp
  | some characters =>
      change Except.ok _ = Except.ok _ ↔ _
      rw [Except.ok.injEq, Option.some.injEq]
      constructor
      · rintro rfl
        exact String.toList_ofList.symm
      · rintro rfl
        exact String.ofList_toList

/-- Bytes are read as far as their cut, and accepted exactly where some text is written as that. -/
theorem decode_exact (encoding : TextEncoding) (bytes : List UInt8) :
    encoding.CutAt bytes (encoding.body bytes) ∧
      (∀ text, encoding.decode bytes = .ok text ↔ '\x00' ∉ text.toList ∧
        (encoding.encode text).outcome = .ok (encoding.body bytes ++ List.replicate 4 0)) ∧
      ((¬ ∃ text : String, '\x00' ∉ text.toList ∧
          (encoding.encode text).outcome = .ok (encoding.body bytes ++ List.replicate 4 0)) →
        encoding.decode bytes =
          .error (.encodingError s!"invalid {encoding.label} sequence")) := by
  have exact : ∀ text, encoding.decode bytes = .ok text ↔ '\x00' ∉ text.toList ∧
      (encoding.encode text).outcome = .ok (encoding.body bytes ++ List.replicate 4 0) := by
    intro text
    rw [decode_eq_ok_iff, outcome_encode_iff]
    constructor
    · intro spells
      exact ⟨spells.not_mem_of_body_eq (encoding.body_body bytes), _, spells, rfl⟩
    · rintro ⟨-, code, spells, same⟩
      rwa [(List.append_left_inj _).1 same]
  refine ⟨encoding.cutAt_body bytes, exact, ?_⟩
  intro unwritten
  cases found : encoding.charsOf? (encoding.body bytes) with
  | none => rw [decode, found]
  | some characters =>
      have read : encoding.decode bytes = .ok (String.ofList characters) := by rw [decode, found]
      exact absurd ⟨_, (exact _).1 read⟩ unwritten

end TextEncoding

end ForeignCall
