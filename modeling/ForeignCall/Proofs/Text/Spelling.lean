import ForeignCall.Proofs.Text.Characters
import ForeignCall.Proofs.Text.Units

/-! Texts and the bytes that spell them: what is read from whole code units is what was written. -/

namespace ForeignCall

namespace TextEncoding

/-- The bytes of some characters, one after the other. -/
inductive Spells (encoding : TextEncoding) : List Char → List UInt8 → Prop
  | nil : Spells encoding [] []
  | cons {character : Char} {code : List UInt8} {rest : List Char} {bytes : List UInt8}
      (head : encoding.encodeChar? character = some code) (tail : Spells encoding rest bytes) :
      Spells encoding (character :: rest) (code ++ bytes)

namespace Spells

variable {encoding : TextEncoding} {characters : List Char} {bytes : List UInt8}

theorem exists_of_encodable (encodable : ∀ character ∈ characters,
    (encoding.encodeChar? character).isSome = true) :
    ∃ bytes, Spells encoding characters bytes := by
  induction characters with
  | nil => exact ⟨[], .nil⟩
  | cons head rest ih =>
      obtain ⟨code, known⟩ := Option.isSome_iff_exists.1 (encodable head (by simp))
      obtain ⟨bytes, later⟩ := ih fun character there => encodable character (by simp [there])
      exact ⟨code ++ bytes, .cons known later⟩

theorem iff_flatMap {code : Char → List UInt8}
    (total : ∀ character, encoding.encodeChar? character = some (code character)) :
    Spells encoding characters bytes ↔ bytes = characters.flatMap code := by
  constructor
  · intro spells
    induction spells with
    | nil => rfl
    | cons head tail ih =>
        rw [total, Option.some.injEq] at head
        rw [List.flatMap_cons, head, ih]
  · rintro rfl
    induction characters with
    | nil => exact .nil
    | cons head rest ih => exact .cons (total head) ih

theorem iff_map {accepts : UInt8 → Prop}
    (single : ∀ character code, encoding.encodeChar? character = some code ↔
      ∃ byte, accepts byte ∧ character = Char.ofUInt8 byte ∧ code = [byte]) :
    Spells encoding characters bytes ↔
      (∀ byte ∈ bytes, accepts byte) ∧ characters = bytes.map Char.ofUInt8 := by
  constructor
  · intro spells
    induction spells with
    | nil => simp
    | cons head tail ih =>
        obtain ⟨byte, accepted, rfl, rfl⟩ := (single _ _).1 head
        obtain ⟨others, rfl⟩ := ih
        exact ⟨by simpa using ⟨accepted, others⟩, rfl⟩
  · rintro ⟨accepted, rfl⟩
    induction bytes with
    | nil => exact .nil
    | cons byte rest ih =>
        have code := (single (Char.ofUInt8 byte) [byte]).2 ⟨byte, accepted byte (by simp), rfl, rfl⟩
        exact .cons code (ih fun other known => accepted other (by simp [known]))

end Spells

theorem toUInt8_val_eq_iff {character : Char} {byte : UInt8} (small : character.val.toNat ≤ 0xff) :
    character.val.toUInt8 = byte ↔ character = Char.ofUInt8 byte := by
  have bound := byte.toNat_lt
  rw [Char.ext_iff, ← UInt8.toNat_inj, ← UInt32.toNat_inj, UInt32.toNat_toUInt8]
  change _ = _ ↔ _ = byte.toUInt32.toNat
  rw [UInt8.toNat_toUInt32]
  omega

theorem encodeChar?_latin1_eq_some_iff (character : Char) (code : List UInt8) :
    encodeChar? .latin1 character = some code ↔
      ∃ byte, True ∧ character = Char.ofUInt8 byte ∧ code = [byte] := by
  change (if character.val ≤ 0xff then some [character.val.toUInt8] else none) = _ ↔ _
  constructor
  · intro found
    split at found
    next small =>
      cases found
      exact ⟨_, trivial, (toUInt8_val_eq_iff small).1 rfl, rfl⟩
    next => cases found
  · rintro ⟨byte, _, rfl, rfl⟩
    have small : (Char.ofUInt8 byte).val.toNat ≤ 0xff := by
      change byte.toUInt32.toNat ≤ 0xff
      rw [UInt8.toNat_toUInt32]
      exact Nat.le_of_lt_succ byte.toNat_lt
    have fits : (Char.ofUInt8 byte).val ≤ 0xff := small
    rw [if_pos fits, (toUInt8_val_eq_iff small).2 rfl]

theorem encodeChar?_ascii_eq_some_iff (character : Char) (code : List UInt8) :
    encodeChar? .ascii character = some code ↔
      ∃ byte, byte < 0x80 ∧ character = Char.ofUInt8 byte ∧ code = [byte] := by
  change (if character.val < 0x80 then some [character.val.toUInt8] else none) = _ ↔ _
  constructor
  · intro found
    split at found
    next small =>
      cases found
      have below : character.val.toNat < 0x80 := small
      refine ⟨_, ?_, (toUInt8_val_eq_iff (by omega)).1 rfl, rfl⟩
      change character.val.toUInt8.toNat < 0x80
      rw [UInt32.toNat_toUInt8]
      omega
    next => cases found
  · rintro ⟨byte, below, rfl, rfl⟩
    have small : (Char.ofUInt8 byte).val.toNat < 0x80 := by
      change byte.toUInt32.toNat < 0x80
      rw [UInt8.toNat_toUInt32]
      exact below
    have fits : (Char.ofUInt8 byte).val < 0x80 := small
    rw [if_pos fits, (toUInt8_val_eq_iff (by omega)).2 rfl]

theorem charsOfUnits?_append (character : Char) (rest : List UInt16) :
    charsOfUnits? (utf16Units character ++ rest) =
      (charsOfUnits? rest).map (character :: ·) := by
  have range := toNat_val_cases character
  by_cases small : character.val.toNat < 0x10000
  · rw [utf16Units_of_small small]
    have exact : charOfCode? character.val.toUInt16.toUInt32 = some character :=
      charOfCode?_eq_some_iff.2 (toUInt32_toUInt16 small).symm
    have plain : isHighSurrogate character.val.toUInt16 = false := by
      rw [Bool.eq_false_iff, ne_eq, isHighSurrogate_iff, UInt32.toNat_toUInt16]
      omega
    cases rest with
    | nil =>
        rw [List.append_nil]
        change (charOfCode? character.val.toUInt16.toUInt32).map ([·]) = some [character]
        rw [exact]
        rfl
    | cons next others =>
        rw [List.singleton_append, charsOfUnits?, plain, exact]
        cases charsOfUnits? (next :: others) <;> rfl
  · obtain ⟨high, low, units, first, second⟩ := utf16Units_of_large character (by omega)
    have isHigh : isHighSurrogate high = true := (isHighSurrogate_iff high).2 (by omega)
    have isLow : isLowSurrogate low = true := (isLowSurrogate_iff low).2 (by omega)
    have joined : charOfSurrogates? high low = some character :=
      (charOfSurrogates?_eq_some_iff isHigh isLow).2 (by omega)
    rw [units]
    simp only [List.cons_append, List.nil_append, charsOfUnits?, isHigh, isLow, joined, if_true]
    cases charsOfUnits? rest <;> rfl

theorem utf16Units_of_charOfCode? {unit : UInt16} {character : Char}
    (found : charOfCode? unit.toUInt32 = some character) : utf16Units character = [unit] := by
  have value := charOfCode?_eq_some_iff.1 found
  have bound := unit.toNat_lt
  have small : character.val.toNat < 0x10000 := by
    rw [value, UInt16.toNat_toUInt32]
    omega
  rw [utf16Units_of_small small, value, UInt16.toUInt16_toUInt32]

theorem utf16Units_of_charOfSurrogates? {high low : UInt16} {character : Char}
    (isHigh : isHighSurrogate high = true) (isLow : isLowSurrogate low = true)
    (found : charOfSurrogates? high low = some character) :
    utf16Units character = [high, low] := by
  have value := (charOfSurrogates?_eq_some_iff isHigh isLow).1 found
  rw [isHighSurrogate_iff] at isHigh
  rw [isLowSurrogate_iff] at isLow
  obtain ⟨first, second, units, upper, lower⟩ :=
    utf16Units_of_large character (by omega)
  rw [units, List.cons.injEq, List.cons.injEq, ← UInt16.toNat_inj, ← UInt16.toNat_inj]
  exact ⟨by omega, by omega, rfl⟩

/-- Code units of 16 bits spell a text exactly when they are its units. -/
theorem charsOfUnits?_eq_some_iff {units : List UInt16} {characters : List Char} :
    charsOfUnits? units = some characters ↔ units = characters.flatMap utf16Units := by
  constructor
  · intro found
    induction units using charsOfUnits?.induct generalizing characters with
    | case1 =>
        cases found
        rfl
    | case2 unit =>
        obtain ⟨character, known, rfl⟩ := Option.map_eq_some_iff.1 found
        simp [utf16Units_of_charOfCode? known]
    | case3 high low rest isHigh isLow ih =>
        rw [charsOfUnits?, if_pos isHigh, if_pos isLow] at found
        obtain ⟨character, joined, found⟩ := Option.bind_eq_some_iff.1 found
        obtain ⟨others, known, same⟩ := Option.bind_eq_some_iff.1 found
        cases same
        rw [List.flatMap_cons, utf16Units_of_charOfSurrogates? isHigh isLow joined, ← ih known]
        rfl
    | case4 high low rest isHigh alone =>
        rw [charsOfUnits?, if_pos isHigh, if_neg alone] at found
        cases found
    | case5 first second rest plain ih =>
        rw [charsOfUnits?, if_neg plain] at found
        obtain ⟨character, known, found⟩ := Option.bind_eq_some_iff.1 found
        obtain ⟨others, later, same⟩ := Option.bind_eq_some_iff.1 found
        cases same
        rw [List.flatMap_cons, utf16Units_of_charOfCode? known, ← ih later]
        rfl
  · rintro rfl
    induction characters with
    | nil => rfl
    | cons head rest ih => rw [List.flatMap_cons, charsOfUnits?_append, ih]; rfl

theorem mapM_charOfCode?_eq_some_iff {codes : List UInt32} {characters : List Char} :
    codes.mapM charOfCode? = some characters ↔ codes = characters.map (·.val) := by
  induction codes generalizing characters with
  | nil =>
      change some [] = some characters ↔ _
      rw [Option.some.injEq, eq_comm, eq_comm (a := []), List.map_eq_nil_iff]
  | cons code rest ih =>
      rw [List.mapM_cons]
      constructor
      · intro found
        obtain ⟨character, known, found⟩ := Option.bind_eq_some_iff.1 found
        obtain ⟨others, later, same⟩ := Option.bind_eq_some_iff.1 found
        cases same
        rw [List.map_cons, charOfCode?_eq_some_iff.1 known, ih.1 later]
      · intro same
        cases characters with
        | nil => cases same
        | cons character others =>
            obtain ⟨rfl, rfl⟩ := List.cons.inj same
            rw [charOfCode?_eq_some_iff.2 rfl, ih.2 rfl]
            rfl

variable {bytes : List UInt8} {characters : List Char}

theorem charsOf?_utf8 :
    charsOf? .utf8 bytes = some characters ↔ Spells .utf8 characters bytes := by
  have packed : bytes.toByteArray = ⟨bytes.toArray⟩ := ByteArray.ext List.data_toByteArray
  rw [Spells.iff_flatMap fun _ => rfl]
  change (ByteArray.utf8Decode? ⟨bytes.toArray⟩).map (·.toList) = _ ↔ _
  rw [← packed]
  constructor
  · intro found
    obtain ⟨decoded, known, rfl⟩ := Option.map_eq_some_iff.1 found
    have back := ByteArray.utf8Encode_get_utf8Decode? (h := Option.isSome_of_eq_some known)
    simp only [known, Option.get_some] at back
    exact (List.toByteArray_inj.1 back).symm
  · rintro rfl
    rw [← List.utf8Encode, List.utf8Decode?_utf8Encode]
    rfl

theorem charsOf?_latin1 :
    charsOf? .latin1 bytes = some characters ↔ Spells .latin1 characters bytes := by
  rw [Spells.iff_map encodeChar?_latin1_eq_some_iff]
  change some (bytes.map Char.ofUInt8) = some characters ↔ _
  rw [Option.some.injEq, eq_comm]
  exact ⟨fun same => ⟨fun _ _ => trivial, same⟩, And.right⟩

theorem charsOf?_ascii :
    charsOf? .ascii bytes = some characters ↔ Spells .ascii characters bytes := by
  rw [Spells.iff_map encodeChar?_ascii_eq_some_iff]
  change (if bytes.all (· < 0x80) then some (bytes.map Char.ofUInt8) else none) = _ ↔ _
  rw [Option.ite_none_right_eq_some, Option.some.injEq, List.all_eq_true, eq_comm (b := characters)]
  simp only [decide_eq_true_eq]

theorem charsOf?_utf16 (bigEndian : Bool) (whole : Whole 2 bytes) :
    charsOfUnits? ((wholeChunks 2 bytes).map (unitOfPair bigEndian)) = some characters ↔
      bytes = characters.flatMap fun character =>
        (utf16Units character).flatMap (pair bigEndian) := by
  rw [charsOfUnits?_eq_some_iff, map_wholeChunks_eq_iff (by decide) (length_pair bigEndian)
    (unitOfPair_pair bigEndian) (pair_unitOfPair bigEndian) whole, List.flatMap_assoc]

theorem charsOf?_utf32 (bigEndian : Bool) (whole : Whole 4 bytes) :
    (wholeChunks 4 bytes).mapM (fun chunk => charOfCode? (codeOfQuadruple bigEndian chunk)) =
        some characters ↔
      bytes = characters.flatMap fun character => quadruple bigEndian character.val := by
  have split : (wholeChunks 4 bytes).mapM
      (fun chunk => charOfCode? (codeOfQuadruple bigEndian chunk)) =
        ((wholeChunks 4 bytes).map (codeOfQuadruple bigEndian)).mapM charOfCode? := by
    rw [List.mapM_map]
    rfl
  rw [split, mapM_charOfCode?_eq_some_iff, map_wholeChunks_eq_iff (by decide)
    (length_quadruple bigEndian) (codeOfQuadruple_quadruple bigEndian)
    (quadruple_codeOfQuadruple bigEndian) whole, List.flatMap_map]

theorem charsOf?_eq_some_iff (encoding : TextEncoding) (whole : Whole encoding.unitSize bytes) :
    encoding.charsOf? bytes = some characters ↔ Spells encoding characters bytes := by
  cases encoding with
  | utf8 => exact charsOf?_utf8
  | ascii => exact charsOf?_ascii
  | latin1 => exact charsOf?_latin1
  | utf16le => exact (charsOf?_utf16 false whole).trans (Spells.iff_flatMap fun _ => rfl).symm
  | utf16be => exact (charsOf?_utf16 true whole).trans (Spells.iff_flatMap fun _ => rfl).symm
  | utf32le => exact (charsOf?_utf32 false whole).trans (Spells.iff_flatMap fun _ => rfl).symm
  | utf32be => exact (charsOf?_utf32 true whole).trans (Spells.iff_flatMap fun _ => rfl).symm

end TextEncoding

end ForeignCall
