import ForeignCall.Proofs.Text.Spelling

/-! The buffer that a text is encoded into. It is doubled where it gets too small, at most once for
each character and once for the terminator, and never holds more than it can. -/

namespace ForeignCall

/-- A buffer: what it holds, how much it can hold, and how it has grown. -/
structure GrowingBuffer where
  bytes : List UInt8
  capacity : Nat
  growths : List (Nat × Nat)

namespace GrowingBuffer

def start (capacity : Nat) : GrowingBuffer := ⟨[], capacity, []⟩

def write (buffer : GrowingBuffer) (code : List UInt8) : GrowingBuffer :=
  let (growths, grown) := TextEncoding.doubleUntil (buffer.bytes.length + code.length)
    buffer.capacity
  ⟨buffer.bytes ++ code, grown, buffer.growths ++ growths⟩

def double (buffer : GrowingBuffer) : GrowingBuffer :=
  ⟨buffer.bytes, buffer.capacity * 2,
    buffer.growths ++ [(buffer.capacity, buffer.capacity * 2)]⟩

def close (buffer : GrowingBuffer) : GrowingBuffer :=
  if buffer.capacity - buffer.bytes.length ≤ TextEncoding.terminatorSize then buffer.double
  else buffer

theorem bytes_close (buffer : GrowingBuffer) : buffer.close.bytes = buffer.bytes := by
  rw [close]
  split <;> rfl

end GrowingBuffer

def doublings (capacity count : Nat) : List (Nat × Nat) :=
  (List.range count).map fun step => (capacity * 2 ^ step, capacity * 2 ^ (step + 1))

theorem doublings_succ (capacity count : Nat) :
    doublings capacity (count + 1) =
      doublings capacity count ++ [(capacity * 2 ^ count, capacity * 2 ^ (count + 1))] := by
  rw [doublings, List.range_succ, List.map_append]
  rfl

namespace TextEncoding

def EncodeRun.after (run : EncodeRun) (buffer : GrowingBuffer) : EncodeRun :=
  ⟨buffer.growths ++ run.growths, run.outcome.map (buffer.bytes ++ ·)⟩

theorem doubleUntil_of_le {needed capacity : Nat} (enough : needed ≤ capacity) :
    doubleUntil needed capacity = ([], capacity) := by
  rw [doubleUntil, dif_neg (by omega)]

theorem doubleUntil_of_lt {needed capacity : Nat} (short : capacity < needed)
    (once : needed ≤ capacity * 2) :
    doubleUntil needed capacity = ([(capacity, capacity * 2)], capacity * 2) := by
  rw [doubleUntil, dif_pos (by omega), doubleUntil_of_le once]

theorem length_flatMap_pair (bigEndian : Bool) (units : List UInt16) :
    (units.flatMap (pair bigEndian)).length = 2 * units.length := by
  induction units with
  | nil => rfl
  | cons unit rest ih =>
      rw [List.flatMap_cons, List.length_append, length_pair, ih, List.length_cons]
      omega

theorem length_utf16Units_le (character : Char) : (utf16Units character).length ≤ 2 := by
  rw [utf16Units]
  split <;> simp

theorem length_le_of_encodeChar? {encoding : TextEncoding} {character : Char} {code : List UInt8}
    (found : encoding.encodeChar? character = some code) : code.length ≤ terminatorSize := by
  have units := length_utf16Units_le character
  cases encoding with
  | utf8 =>
      cases found
      rw [String.length_utf8EncodeChar]
      exact character.utf8Size_le_four
  | utf16le | utf16be =>
      cases found
      rw [length_flatMap_pair]
      exact Nat.mul_le_mul_left 2 units
  | utf32le | utf32be =>
      cases found
      exact Nat.le_of_eq (length_quadruple _ _)
  | ascii =>
      obtain ⟨byte, _, _, rfl⟩ := (encodeChar?_ascii_eq_some_iff character code).1 found
      simp [terminatorSize]
  | latin1 =>
      obtain ⟨byte, _, _, rfl⟩ := (encodeChar?_latin1_eq_some_iff character code).1 found
      simp [terminatorSize]

def bufferAfter (encoding : TextEncoding) (characters : List Char) (buffer : GrowingBuffer) :
    Option GrowingBuffer :=
  characters.foldlM (fun buffer character => (encoding.encodeChar? character).map buffer.write)
    buffer

end TextEncoding

namespace GrowingBuffer

variable {buffer : GrowingBuffer} {initial : Nat}

/-- A buffer that holds no more than it can, and that got its capacity by doublings. -/
structure Regular (initial : Nat) (buffer : GrowingBuffer) : Prop where
  fits : buffer.bytes.length ≤ buffer.capacity
  doubled : ∃ count, buffer.capacity = initial * 2 ^ count ∧
    buffer.growths = doublings initial count

theorem regular_start (initial : Nat) : (start initial).Regular initial :=
  ⟨Nat.zero_le _, 0, (Nat.mul_one initial).symm, rfl⟩

theorem write_cases (fits : buffer.bytes.length ≤ buffer.capacity) {code : List UInt8}
    (small : code.length ≤ buffer.capacity) :
    buffer.bytes.length + code.length ≤ buffer.capacity ∧
        buffer.write code = { buffer with bytes := buffer.bytes ++ code } ∨
      buffer.capacity < buffer.bytes.length + code.length ∧
        buffer.write code = { buffer.double with bytes := buffer.bytes ++ code } := by
  rcases Nat.lt_or_ge buffer.capacity (buffer.bytes.length + code.length) with short | enough
  · right
    rw [write, TextEncoding.doubleUntil_of_lt short (by omega)]
    exact ⟨short, rfl⟩
  · left
    rw [write, TextEncoding.doubleUntil_of_le enough]
    exact ⟨enough, by simp⟩

namespace Regular

theorem initial_le (regular : buffer.Regular initial) : initial ≤ buffer.capacity := by
  obtain ⟨count, capacity, _⟩ := regular.doubled
  rw [capacity]
  exact Nat.le_mul_of_pos_right initial (Nat.two_pow_pos count)

theorem double (regular : buffer.Regular initial) : buffer.double.Regular initial := by
  obtain ⟨fits, count, capacity, growths⟩ := regular
  have next : initial * 2 ^ (count + 1) = buffer.capacity * 2 := by
    rw [capacity, Nat.pow_succ, Nat.mul_assoc]
  refine ⟨?_, count + 1, next.symm, ?_⟩
  · exact Nat.le_trans fits (Nat.le_mul_of_pos_right _ (by decide))
  · rw [doublings_succ, next, ← capacity, ← growths]
    rfl

theorem write (regular : buffer.Regular initial) {code : List UInt8}
    (small : code.length ≤ initial) : (buffer.write code).Regular initial := by
  have fits := regular.fits
  have room := regular.initial_le
  rcases write_cases fits (Nat.le_trans small room) with ⟨enough, same⟩ | ⟨_, same⟩
  · rw [same]
    exact ⟨by simpa using enough, regular.doubled⟩
  · rw [same]
    refine ⟨?_, regular.double.doubled⟩
    change (buffer.bytes ++ code).length ≤ buffer.capacity * 2
    rw [List.length_append]
    omega

theorem close (regular : buffer.Regular initial) : buffer.close.Regular initial := by
  rw [GrowingBuffer.close]
  split
  next => exact regular.double
  next => exact regular

theorem terminator_fits (regular : buffer.Regular initial)
    (roomy : TextEncoding.terminatorSize < initial ∨
      TextEncoding.terminatorSize ≤ initial ∧ buffer.bytes = []) :
    buffer.close.bytes.length + TextEncoding.terminatorSize < buffer.close.capacity := by
  have fits := regular.fits
  have room := regular.initial_le
  rw [GrowingBuffer.close]
  split
  next tight =>
    change buffer.bytes.length + _ < buffer.capacity * 2
    -- Doubling adds the capacity once more, and that alone has to exceed the terminator; after an
    -- empty text it just equals it, but then the rest of the buffer is free too.
    rcases roomy with more | ⟨exact, empty⟩
    · omega
    · rw [empty, List.length_nil]
      simp only [TextEncoding.terminatorSize] at *
      omega
  next loose => omega

theorem bufferAfter {encoding : TextEncoding} {characters : List Char} {after : GrowingBuffer}
    (regular : buffer.Regular initial) (small : TextEncoding.terminatorSize ≤ initial)
    (written : encoding.bufferAfter characters buffer = some after) : after.Regular initial := by
  induction characters generalizing buffer with
  | nil =>
      cases written
      exact regular
  | cons character rest ih =>
      obtain ⟨next, known, later⟩ := Option.bind_eq_some_iff.1 written
      obtain ⟨code, found, rfl⟩ := Option.map_eq_some_iff.1 known
      exact ih (regular.write (Nat.le_trans (TextEncoding.length_le_of_encodeChar? found) small))
        later

end Regular

end GrowingBuffer

namespace TextEncoding

variable {encoding : TextEncoding}

/-- Encoding goes through the buffers after each of its characters: from there on it encodes the
rest. -/
theorem encodeChars_after_bufferAfter {written : List Char} {buffer after : GrowingBuffer}
    (reached : encoding.bufferAfter written buffer = some after) (rest : List Char) :
    (encoding.encodeChars (written ++ rest) buffer.bytes.length buffer.capacity).after buffer =
      (encoding.encodeChars rest after.bytes.length after.capacity).after after := by
  induction written generalizing buffer with
  | nil =>
      cases reached
      rfl
  | cons character others ih =>
      obtain ⟨next, known, later⟩ := Option.bind_eq_some_iff.1 reached
      obtain ⟨code, found, rfl⟩ := Option.map_eq_some_iff.1 known
      rw [← ih later, List.cons_append, encodeChars, found]
      simp only [EncodeRun.after, GrowingBuffer.write, List.length_append, List.append_assoc]
      cases (encoding.encodeChars (others ++ rest) _ _).outcome with
      | error fault => rfl
      | ok bytes => simp [Except.map]

theorem isSome_bufferAfter (characters : List Char) (buffer : GrowingBuffer) :
    (encoding.bufferAfter characters buffer).isSome = true ↔
      ∀ character ∈ characters, (encoding.encodeChar? character).isSome = true := by
  induction characters generalizing buffer with
  | nil => simp [bufferAfter]
  | cons character rest ih =>
      rw [List.forall_mem_cons, bufferAfter, List.foldlM_cons]
      cases encoding.encodeChar? character with
      | none => simp
      | some code => exact (ih (buffer.write code)).trans (by simp)

def codes (encoding : TextEncoding) (characters : List Char) : List UInt8 :=
  characters.flatMap fun character => (encoding.encodeChar? character).getD []

theorem bytes_bufferAfter {characters : List Char} {buffer after : GrowingBuffer}
    (reached : encoding.bufferAfter characters buffer = some after) :
    after.bytes = buffer.bytes ++ encoding.codes characters := by
  induction characters generalizing buffer with
  | nil =>
      cases reached
      exact (List.append_nil _).symm
  | cons character rest ih =>
      obtain ⟨next, known, later⟩ := Option.bind_eq_some_iff.1 reached
      obtain ⟨code, found, rfl⟩ := Option.map_eq_some_iff.1 known
      rw [ih later, codes, codes, List.flatMap_cons, found]
      exact List.append_assoc ..

def unmappable (encoding : TextEncoding) (character : Char) : Fault :=
  .encodingError
    s!"character U+{codePointDigits character.toNat} is not representable in {encoding.label}"

section Encoding

variable {estimate : Nat} {text : String}

theorem encodeWithin_eq_after {written rest : List Char} {buffer : GrowingBuffer}
    (split : text.toList = written ++ rest)
    (reached : encoding.bufferAfter written (.start (estimate + terminatorSize)) = some buffer) :
    encoding.encodeWithin estimate text =
      (encoding.encodeChars rest buffer.bytes.length buffer.capacity).after buffer := by
  rw [← encodeChars_after_bufferAfter reached, encodeWithin, split]
  simp only [EncodeRun.after, GrowingBuffer.start, List.nil_append, List.length_nil]
  cases encoding.encodeChars (written ++ rest) 0 (estimate + terminatorSize) with
  | mk growths outcome => cases outcome <;> rfl

theorem encodeWithin_of_bufferAfter {buffer : GrowingBuffer}
    (reached : encoding.bufferAfter text.toList (.start (estimate + terminatorSize)) =
      some buffer) :
    encoding.encodeWithin estimate text = ⟨buffer.close.growths,
      .ok (buffer.close.bytes ++ List.replicate terminatorSize 0)⟩ := by
  rw [encodeWithin_eq_after (List.append_nil _).symm reached, encodeChars, GrowingBuffer.close]
  split
  next => rfl
  next => exact congrArg (EncodeRun.mk · _) (List.append_nil _)

theorem encodeWithin_of_unmappable {written rest : List Char} {character : Char}
    {buffer : GrowingBuffer} (split : text.toList = written ++ character :: rest)
    (missing : encoding.encodeChar? character = none)
    (reached : encoding.bufferAfter written (.start (estimate + terminatorSize)) = some buffer) :
    encoding.encodeWithin estimate text =
      ⟨buffer.growths, .error (encoding.unmappable character)⟩ := by
  rw [encodeWithin_eq_after split reached, encodeChars, missing]
  exact congrArg (EncodeRun.mk · _) (List.append_nil _)

theorem regular_bufferAfter {written : List Char} {buffer : GrowingBuffer}
    (reached : encoding.bufferAfter written (.start (estimate + terminatorSize)) = some buffer) :
    buffer.Regular (estimate + terminatorSize) :=
  (GrowingBuffer.regular_start _).bufferAfter (Nat.le_add_left _ _) reached

theorem encodeWithin_cases (encoding : TextEncoding) (estimate : Nat) (text : String) :
    (text.toList.find? (fun character => (encoding.encodeChar? character).isNone) = none ∧
      ∃ buffer,
        encoding.bufferAfter text.toList (.start (estimate + terminatorSize)) = some buffer ∧
        encoding.encodeWithin estimate text = ⟨buffer.close.growths,
          .ok (buffer.close.bytes ++ List.replicate terminatorSize 0)⟩) ∨
      ∃ character written buffer,
        text.toList.find? (fun character => (encoding.encodeChar? character).isNone) =
          some character ∧
        encoding.bufferAfter written (.start (estimate + terminatorSize)) = some buffer ∧
        encoding.encodeWithin estimate text =
          ⟨buffer.growths, .error (encoding.unmappable character)⟩ := by
  cases first : text.toList.find? fun character => (encoding.encodeChar? character).isNone with
  | none =>
      left
      have known : ∀ character ∈ text.toList, (encoding.encodeChar? character).isSome = true := by
        simpa [Option.isSome_iff_ne_none] using List.find?_eq_none.1 first
      obtain ⟨buffer, reached⟩ := Option.isSome_iff_exists.1
        ((isSome_bufferAfter text.toList (.start (estimate + terminatorSize))).2 known)
      exact ⟨rfl, buffer, reached, encodeWithin_of_bufferAfter reached⟩
  | some character =>
      right
      obtain ⟨missing, written, rest, split, before⟩ := List.find?_eq_some_iff_append.1 first
      have known : ∀ other ∈ written, (encoding.encodeChar? other).isSome = true := by
        simpa using before
      obtain ⟨buffer, reached⟩ := Option.isSome_iff_exists.1
        ((isSome_bufferAfter written (.start (estimate + terminatorSize))).2 known)
      exact ⟨character, written, buffer, rfl, reached,
        encodeWithin_of_unmappable split (by simpa using missing) reached⟩

theorem growths_encodeWithin (encoding : TextEncoding) (estimate : Nat) (text : String) :
    ∃ count, (encoding.encodeWithin estimate text).growths =
      doublings (estimate + terminatorSize) count := by
  rcases encodeWithin_cases encoding estimate text with
    ⟨_, buffer, reached, ran⟩ | ⟨_, _, buffer, _, reached, ran⟩
  · obtain ⟨count, _, growths⟩ := (regular_bufferAfter reached).close.doubled
    exact ⟨count, by rw [ran, growths]⟩
  · obtain ⟨count, _, growths⟩ := (regular_bufferAfter reached).doubled
    exact ⟨count, by rw [ran, growths]⟩

theorem outcome_encodeWithin (encoding : TextEncoding) (estimate : Nat) (text : String) :
    (encoding.encodeWithin estimate text).outcome =
      match text.toList.find? fun character => (encoding.encodeChar? character).isNone with
      | none => .ok (encoding.codes text.toList ++ List.replicate terminatorSize 0)
      | some character => .error (encoding.unmappable character) := by
  rcases encodeWithin_cases encoding estimate text with
    ⟨all, buffer, reached, ran⟩ | ⟨_, _, _, first, _, ran⟩
  · rw [ran, all, buffer.bytes_close, bytes_bufferAfter reached]
    rfl
  · rw [ran, first]

theorem terminator_fits {buffer : GrowingBuffer} (estimated : text ≠ "" → 1 ≤ estimate)
    (reached : encoding.bufferAfter text.toList (.start (estimate + terminatorSize)) =
      some buffer) :
    buffer.close.bytes.length + terminatorSize < buffer.close.capacity := by
  apply (regular_bufferAfter reached).terminator_fits
  by_cases empty : text = ""
  · subst empty
    cases reached
    exact .inr ⟨Nat.le_add_left _ _, rfl⟩
  · exact .inl (Nat.lt_add_of_pos_left (estimated empty))

end Encoding

/-- While a text is encoded its buffer never holds more than it can, so that no difference of the
two is negative; each character doubles it at most once; and when the terminator is appended more
room than that is left. All growths together are the doublings of the first capacity. The bytes are
those of the characters and a terminator, whatever the estimate was, and the fault is that of the
first character that the encoding does not have. -/
theorem encodeWithin_grows (encoding : TextEncoding) (text : String) (estimate : Nat)
    (estimated : text ≠ "" → 1 ≤ estimate) :
    let initial := estimate + terminatorSize
    let run := encoding.encodeWithin estimate text
    (∀ written rest, text.toList = written ++ rest →
      ((encoding.bufferAfter written (.start initial)).isSome = true ↔
        ∀ character ∈ written, (encoding.encodeChar? character).isSome = true) ∧
      ∀ buffer, encoding.bufferAfter written (.start initial) = some buffer →
        run = (encoding.encodeChars rest buffer.bytes.length buffer.capacity).after buffer ∧
        buffer.bytes = encoding.codes written ∧
        buffer.bytes.length ≤ buffer.capacity ∧
        buffer.bytes.length ≤ buffer.double.capacity ∧
        (∀ character code, encoding.encodeChar? character = some code →
          buffer.bytes.length + code.length ≤ buffer.capacity ∧
              buffer.write code = { buffer with bytes := buffer.bytes ++ code } ∨
            buffer.capacity < buffer.bytes.length + code.length ∧
              buffer.write code = { buffer.double with bytes := buffer.bytes ++ code }) ∧
        (rest = [] → run = ⟨buffer.close.growths,
            .ok (buffer.close.bytes ++ List.replicate terminatorSize 0)⟩ ∧
          buffer.close.bytes.length + terminatorSize < buffer.close.capacity)) ∧
    (∃ count, run.growths = doublings initial count) ∧
    run.outcome = match text.toList.find? fun character =>
        (encoding.encodeChar? character).isNone with
      | none => .ok (encoding.codes text.toList ++ List.replicate terminatorSize 0)
      | some character => .error (encoding.unmappable character) := by
  intro initial run
  refine ⟨?_, growths_encodeWithin encoding estimate text,
    outcome_encodeWithin encoding estimate text⟩
  intro written rest split
  refine ⟨isSome_bufferAfter written _, ?_⟩
  intro buffer reached
  have kept : buffer.Regular initial := regular_bufferAfter reached
  refine ⟨encodeWithin_eq_after split reached, bytes_bufferAfter reached, kept.fits,
    kept.double.fits, ?_, ?_⟩
  · intro character code found
    have small : code.length ≤ initial :=
      Nat.le_trans (length_le_of_encodeChar? found) (Nat.le_add_left _ _)
    exact GrowingBuffer.write_cases kept.fits (Nat.le_trans small kept.initial_le)
  · rintro rfl
    obtain rfl : text.toList = written := split.trans (List.append_nil written)
    exact ⟨encodeWithin_of_bufferAfter reached, terminator_fits estimated reached⟩

theorem encodeWithin_grows_twice :
    let text := "é€😀"
    (text ≠ "" → 1 ≤ 1) ∧ (utf8.encodeWithin 1 text).growths = [(5, 10), (10, 20)] ∧
      (∃ count, (utf8.encodeWithin 1 text).growths = doublings 5 count) ∧
      (utf8.encodeWithin 1 text).outcome =
        .ok [0xc3, 0xa9, 0xe2, 0x82, 0xac, 0xf0, 0x9f, 0x98, 0x80, 0, 0, 0, 0] := by
  have estimated : "é€😀" ≠ "" → 1 ≤ 1 := fun _ => Nat.le_refl 1
  obtain ⟨_, doubled, spelled⟩ := encodeWithin_grows utf8 "é€😀" 1 estimated
  exact ⟨estimated, by decide +kernel, doubled, spelled.trans rfl⟩

/-- Estimated at nothing, a character of four bytes leaves no more room than the terminator. -/
example : (bufferAfter utf8 ['😀'] (.start 4)).map
    (fun buffer => (buffer.close.bytes.length, buffer.close.capacity)) = some (4, 8) := by
  decide +kernel

end TextEncoding

end ForeignCall
