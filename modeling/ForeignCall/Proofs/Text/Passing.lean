import ForeignCall.Converter.Basic
import ForeignCall.Proofs.Running
import ForeignCall.Proofs.Text.Decoding
import Mathlib.Data.List.TakeWhile

/-! A text passed to native code and read back from native memory. -/

namespace ForeignCall

/-- The part of a text before its first zero character, which is all that native code sees of it. -/
def beforeZero (text : String) : String :=
  String.ofList (text.toList.takeWhile (· != '\x00'))

namespace TextEncoding

variable {encoding : TextEncoding} {text : String} {bytes : List UInt8}

theorem exists_outcome_encode (encodable : ∀ character ∈ text.toList,
    (encoding.encodeChar? character).isSome = true) :
    ∃ bytes, (encoding.encode text).outcome = .ok bytes := by
  obtain ⟨code, spells⟩ := Spells.exists_of_encodable encodable
  exact ⟨_, outcome_encode_iff.2 ⟨code, spells, rfl⟩⟩

/-- The encoded bytes are terminated themselves, so what follows them does not matter. -/
theorem decode_append (encoded : (encoding.encode text).outcome = .ok bytes)
    (following : List UInt8) :
    encoding.decode (bytes ++ following) = .ok (beforeZero text) := by
  obtain ⟨code, spells, rfl⟩ := outcome_encode_iff.1 encoded
  rw [decode_eq_ok_iff, beforeZero, String.toList_ofList, List.append_assoc]
  exact spells.body_append (encoding.body_zero following)

theorem decode_encode (encoded : (encoding.encode text).outcome = .ok bytes) :
    encoding.decode bytes = .ok (beforeZero text) := by
  simpa using decode_append encoded []

theorem decode_body (bytes : List UInt8) :
    encoding.decode (encoding.body bytes) = encoding.decode bytes := by
  rw [decode, body_body, decode]

end TextEncoding

namespace Elements

theorem byte_word (byte : UInt8) : littleEndian 1 byte.toInt8.toInt64.toUInt64 = [byte] := by
  have low : byte.toInt8.toInt64.toUInt64.toUInt8 = byte := by
    apply UInt8.eq_of_toBitVec_eq
    rw [UInt64.toBitVec_toUInt8]
    change BitVec.setWidth 8 (byte.toBitVec.signExtend 64) = byte.toBitVec
    apply BitVec.eq_of_getLsbD_eq
    intro index below
    rw [BitVec.getLsbD_setWidth, BitVec.getLsbD_signExtend]
    simp [below, Nat.lt_trans below]
  rw [littleEndian, low]
  rfl

theorem toBytes_ofBytes (bytes : List UInt8) : (ofBytes bytes).toBytes = bytes := by
  have one_by_one : (ofBytes bytes).toBytes = bytes.flatMap fun byte => [byte] := by
    simp only [toBytes, ofBytes, words, element, Element.size, List.flatMap_map, byte_word]
  rw [one_by_one, List.flatMap_singleton']

theorem writeOver_of_fits {elements : Elements} {target : List UInt8}
    (fits : elements.byteSize ≤ target.length) :
    elements.writeOver target = elements.toBytes ++ target.drop elements.byteSize := by
  have all : elements.words.take (target.length / elements.element.size) = elements.words := by
    apply List.take_of_length_le
    rw [length_words, Nat.le_div_iff_mul_le elements.element.size_pos]
    exact fits
  rw [writeOver, all, ← length_toBytes, toBytes]

end Elements

theorem marshalElements_ofBytes (bytes : List UInt8) (copyOut : Bool) :
    marshalElements (.ofBytes bytes) ⟨true, copyOut, true⟩ = bytes ++ [0] := by
  have counted : (Elements.ofBytes bytes).byteSize = bytes.length := by
    rw [← Elements.length_toBytes, Elements.toBytes_ofBytes]
  have room : ((Elements.ofBytes bytes).length + 1) * (Elements.ofBytes bytes).element.size =
      bytes.length + 1 := by
    rw [Nat.add_mul, ← Elements.byteSize, counted]
    rfl
  change (Elements.ofBytes bytes).writeOver (List.replicate
    (((Elements.ofBytes bytes).length + 1) * (Elements.ofBytes bytes).element.size) 0) = _
  rw [room, Elements.writeOver_of_fits (by simp [counted]), counted, Elements.toBytes_ofBytes,
    List.drop_replicate, Nat.add_sub_cancel_left]
  rfl

namespace Store

theorem run_record (event : Event) (store : Store) :
    (liftM (record event) : Act Store Unit).run.run store =
      (.ok (), { store with toJournal := store.toJournal.record event }) := rfl

theorem exists_run_forM_record {Item : Type} (event : Item → Event) (items : List Item)
    (store : Store) : ∃ journal,
      (items.forM fun item => (liftM (record (event item)) : Act Store Unit)).run.run store =
        (.ok (), { store with toJournal := journal }) := by
  induction items generalizing store with
  | nil => exact ⟨store.toJournal, rfl⟩
  | cons head rest ih =>
      rw [List.forM_eq_forM, List.forM_cons, Act.run_bind, run_record]
      exact ih _

theorem exists_run_encodeText {encoding : TextEncoding} {text : String} {bytes : List UInt8}
    (encoded : (encoding.encode text).outcome = .ok bytes) (store : Store) : ∃ journal,
      (encodeText encoding text).run.run store =
        (.ok bytes, { store with toJournal := journal }) := by
  obtain ⟨journal, recorded⟩ := exists_run_forM_record
    (fun growth : Nat × Nat => .bufferGrown growth.1 growth.2) (encoding.encode text).growths store
  refine ⟨journal, ?_⟩
  simp only [encodeText]
  rw [Act.run_bind, recorded, encoded]
  rfl

theorem run_textAt {encoding : TextEncoding} {text : String} {bytes following : List UInt8}
    (encoded : (encoding.encode text).outcome = .ok bytes) {store : Store} {address : UInt64}
    (there : store.memory.readRest address.toNat = bytes ++ following) :
    (textAt encoding address).run.run store = (.ok (beforeZero text), store) := by
  have read := encoding.decode_append encoded following
  change (liftM (encoding.decode (encoding.body (store.memory.readRest address.toNat))) :
    Act Store String).run.run store = _
  rw [there, TextEncoding.decode_body, read]
  rfl

end Store

namespace ConverterBody

/-- A text arrives in native memory as it was encoded, and is read back as far as its first zero
character. -/
theorem text_passed_and_read (encoding : TextEncoding) (text : String)
    (encodable : ∀ character ∈ text.toList, (encoding.encodeChar? character).isSome = true)
    (passing : ConversionContext) (store : Store) :
    ∃ bytes reference after,
      (encoding.encode text).outcome = .ok bytes ∧
      encoding.decode bytes = .ok (beforeZero text) ∧
      ((textToNative encoding).convert (.text text) passing).run.run store =
        (.ok (.array reference), after) ∧
      marshalElements (after.heap.array reference)
        (.ofAnnotations (textToNative encoding).annotations) = bytes ++ [0] ∧
      ∀ (reading : ConversionContext) (later : Store) (pointer : Value) (address : Int64)
        (following : List UInt8), pointer.toInt64? = some address → address ≠ 0 →
        later.memory.readRest address.toUInt64.toNat =
          marshalElements (after.heap.array reference)
            (.ofAnnotations (textToNative encoding).annotations) ++ following →
        ((textFromNative encoding).convert pointer reading).run.run later =
          (.ok (.text (beforeZero text)), later) := by
  obtain ⟨bytes, encoded⟩ := TextEncoding.exists_outcome_encode encodable
  obtain ⟨journal, ran⟩ := Store.exists_run_encodeText encoded store
  let after := { store with
    toJournal := journal
    heap := (store.heap.newArray (.ofBytes bytes)).2 }
  have stored : after.heap.array store.heap.arrays.length = .ofBytes bytes :=
    Heap.array_newArray store.heap _
  have buffer : marshalElements (after.heap.array store.heap.arrays.length)
      (.ofAnnotations (textToNative encoding).annotations) = bytes ++ [0] := by
    rw [stored]
    exact marshalElements_ofBytes bytes false
  refine ⟨bytes, store.heap.arrays.length, after, encoded, TextEncoding.decode_encode encoded,
    ?_, buffer, ?_⟩
  · change (Store.encodeText encoding text >>= fun bytes =>
      liftM (Store.newArray (.ofBytes bytes))).run.run store = _
    rw [Act.run_bind, ran]
    rfl
  · intro reading later pointer address following known somewhere there
    rw [buffer, List.append_assoc] at there
    have read := Store.run_textAt encoded there
    simp only [textFromNative, known, if_neg somewhere]
    rw [Act.run_bind, read]
    rfl

/-- In UTF-16 the zero bytes of two neighbouring units do not end a text; its zero character
does. -/
theorem text_passed_and_read_across_units :
    ∃ reference after later,
      ((textToNative .utf16le).convert (.text (.ofList ['a', 'Ā', '\x00', 'z']))
        ⟨.empty, .utf8⟩).run.run {} = (.ok (.array reference), after) ∧
      later.memory.readRest 16 =
        [97, 0, 0, 1, 0, 0, 122, 0, 0, 0, 0, 0, 0] ++ [1, 2, 3] ∧
      ((textFromNative .utf16le).convert (.address 16) ⟨.empty, .utf8⟩).run.run later =
        (.ok (.text (.ofList ['a', 'Ā'])), later) := by
  obtain ⟨bytes, reference, after, encoded, -, passed, buffer, read⟩ :=
    text_passed_and_read .utf16le (.ofList ['a', 'Ā', '\x00', 'z']) (fun _ _ => rfl)
      ⟨.empty, .utf8⟩ {}
  have known : (TextEncoding.encode .utf16le (.ofList ['a', 'Ā', '\x00', 'z'])).outcome =
      .ok [97, 0, 0, 1, 0, 0, 122, 0, 0, 0, 0, 0] := by
    refine TextEncoding.outcome_encode_iff.2 ⟨[97, 0, 0, 1, 0, 0, 122, 0], ?_, rfl⟩
    rw [String.toList_ofList]
    exact (TextEncoding.Spells.iff_flatMap fun _ => rfl).2 (by decide)
  cases encoded.symm.trans known
  let bytes : List UInt8 := [97, 0, 0, 1, 0, 0, 122, 0, 0, 0, 0, 0, 0] ++ [1, 2, 3]
  let later : Store := { memory := { regions := [⟨16, bytes.length, bytes⟩] } }
  have there : later.memory.readRest 16 = bytes := rfl
  refine ⟨reference, after, later, passed, there, ?_⟩
  have cut : beforeZero (.ofList ['a', 'Ā', '\x00', 'z']) = .ofList ['a', 'Ā'] := by
    rw [beforeZero, String.toList_ofList]
    rfl
  rw [← cut]
  exact read ⟨.empty, .utf8⟩ later (.address 16) 16 [1, 2, 3] rfl (by decide)
    (there.trans (buffer ▸ rfl))

end ConverterBody

end ForeignCall
