import ForeignCall.Proofs.Bytes
import ForeignCall.Proofs.Image

/-! Slots as places where an image lies for a while. A C type covers the bytes of its size, and at
least these are written to an argument's slot and read from it; a result fills its buffer, but for
a `float` and for a missing one. So the value that an image stands for outlives both, whatever other
bytes are there and whatever the upper bits of the image are. -/

namespace ForeignCall

namespace CType

variable {model : DataModel} (valid : model.Valid)
include valid

theorem size_le_readWidth (type : CType) : type.size model ≤ Slot.readWidth type model := by
  obtain ⟨pointer | pointer, long | long⟩ := valid <;>
    cases type <;> simp [size, Slot.readWidth, pointer, long]

theorem readWidth_eq_size {type : CType} (other : type ≠ .pointer) :
    Slot.readWidth type model = type.size model := by
  obtain ⟨-, long | long⟩ := valid <;>
    cases type <;> first | exact absurd rfl other | simp [size, Slot.readWidth, long]

theorem alike_iff_littleEndian (type : CType) (left right : UInt64) :
    type.Alike model left right ↔
      littleEndian (type.size model) left = littleEndian (type.size model) right := by
  have small := bits_le_of_valid valid type
  rw [bits] at small
  constructor
  · intro alike
    refine littleEndian_congr fun index below => ?_
    have bit := congrArg (·.getLsbD index) (show left.toBitVec.setWidth (type.bits model) =
      right.toBitVec.setWidth (type.bits model) from alike)
    have inside : index < type.bits model := by
      rw [bits]
      omega
    simpa only [BitVec.getLsbD_setWidth, inside, decide_true, Bool.true_and] using bit
  · intro same
    apply BitVec.eq_of_getLsbD_eq
    intro index below
    rw [bits] at below
    rw [BitVec.getLsbD_setWidth, BitVec.getLsbD_setWidth,
      getLsbD_of_littleEndian same (by omega) (by omega)]

/-- The bits that a C type covers are those of the bytes of its size. -/
theorem cut_eq_cut_iff (type : CType) (left right : UInt64) :
    type.cut model left = type.cut model right ↔
      littleEndian (type.size model) left = littleEndian (type.size model) right := by
  rw [← alike_iff_littleEndian valid]
  cases integral : type.isIntegral
  · obtain rfl | rfl | rfl := eq_of_not_isIntegral integral
    · constructor
      · intro
        exact BitVec.eq_of_getLsbD_eq fun _ below => absurd below (Nat.not_lt_zero _)
      · intro
        rfl
    · constructor
      · intro same
        rw [cut, cut] at same
        have narrowed := congrArg UInt64.toUInt32 same
        rw [UInt32.toUInt32_toUInt64, UInt32.toUInt32_toUInt64] at narrowed
        exact congrArg UInt32.toBitVec narrowed
      · intro alike
        have narrowed : left.toUInt32 = right.toUInt32 := UInt32.eq_of_toBitVec_eq alike
        exact congrArg UInt32.toUInt64 narrowed
    · constructor
      · intro same
        exact congrArg UInt64.toBitVec same
      · intro alike
        exact UInt64.eq_of_toBitVec_eq alike
  · constructor
    · intro same
      rw [cut_of_isIntegral model left integral, cut_of_isIntegral model right integral] at same
      have first := alike_normalize type model left
      rw [same] at first
      exact first.symm.trans (alike_normalize type model right)
    · intro alike
      exact cut_of_alike alike integral

end CType

namespace Slot

variable {model : DataModel} (valid : model.Valid)
include valid

theorem take_bytes_ofImage (type : CType) (image : UInt64) :
    (bytes (ofImage image type model)).take (type.size model) =
      littleEndian (type.size model) image := by
  have short : type.size model ≤ 8 :=
    Nat.le_trans (CType.size_le_readWidth valid type) (readWidth_le type model)
  rw [bytes, take_littleEndian short]
  exact (CType.cut_eq_cut_iff valid type _ _).1 (cut_ofImage valid type image)

/-- Whatever lies after the bytes of a type's size has no say in the value that is read. -/
theorem ofImage_readBytes {type : CType} {image : UInt64} {read : List UInt8}
    (enough : read.length = readWidth type model)
    (stored : read.take (type.size model) = littleEndian (type.size model) image)
    (host : HostType) :
    Value.ofImage (readBytes read type model) host type model =
      Value.ofImage image host type model := by
  have spelled : littleEndian (type.size model) (ofLittleEndian read) =
      littleEndian (type.size model) image := by
    have short : read.length ≤ 8 := enough ▸ readWidth_le type model
    rw [← stored, ← take_littleEndian (CType.size_le_readWidth valid type), ← enough,
      littleEndian_ofLittleEndian short]
  calc Value.ofImage (readBytes read type model) host type model
      = Value.ofImage (type.cut model (readBytes read type model)) host type model :=
        (Value.ofImage_cut _ host type model).symm
    _ = Value.ofImage (type.cut model (ofLittleEndian read)) host type model := by
        rw [readBytes, cut_widen, List.take_of_length_le (Nat.le_of_eq enough)]
    _ = Value.ofImage (type.cut model image) host type model := by
        rw [(CType.cut_eq_cut_iff valid type _ _).2 spelled]
    _ = Value.ofImage image host type model := Value.ofImage_cut image host type model

theorem width_eq_readWidth (type : CType) : width type model = readWidth type model := by
  by_cases pointer : type = .pointer
  · rw [pointer]
    rfl
  · have sized := CType.readWidth_eq_size valid pointer
    have short := readWidth_le type model
    cases type with
    | pointer => exact absurd rfl pointer
    | _ =>
      simp only [width]
      omega

def written (image : UInt64) (type : CType) (model : DataModel) : List UInt8 :=
  (bytes (ofImage image type model)).take (width type model)

theorem length_written (image : UInt64) (type : CType) :
    (written image type model).length = readWidth type model := by
  rw [written, bytes, List.length_take, length_littleEndian, width_eq_readWidth valid]
  exact Nat.min_eq_left (readWidth_le type model)

theorem take_written (image : UInt64) (type : CType) :
    (written image type model).take (type.size model) = littleEndian (type.size model) image := by
  have covered : type.size model ≤ width type model :=
    width_eq_readWidth valid type ▸ CType.size_le_readWidth valid type
  rw [written, List.take_take, Nat.min_eq_left covered, take_bytes_ofImage valid]

omit valid in
theorem readBytes_append {type : CType} {first : List UInt8}
    (enough : readWidth type model ≤ first.length) (rest : List UInt8) :
    readBytes (first ++ rest) type model = readBytes first type model := by
  rw [readBytes, List.take_append_of_le_length enough, readBytes]

theorem ofImage_readBytes_written (image : UInt64) (type : CType) (rest : List UInt8)
    (host : HostType) :
    Value.ofImage (readBytes (written image type model ++ rest) type model) host type model =
      Value.ofImage image host type model := by
  have filled := length_written valid image type
  rw [readBytes_append (Nat.le_of_eq filled.symm)]
  exact ofImage_readBytes valid filled (take_written valid image type) host

omit valid

theorem readBytes_replicate_zero (count : Nat) (type : CType) :
    readBytes (List.replicate count 0) type model = 0 := by
  rw [readBytes, List.take_replicate, ofLittleEndian_replicate_zero]
  cases type <;> simp only [widen] <;> (try split) <;> rfl

theorem cut_toImage (slot : UInt64) (type : CType) (model : DataModel) :
    type.cut model (toImage slot type) = type.cut model slot := by
  cases type with
  | float => exact congrArg UInt32.toUInt64 (UInt32.toUInt32_toUInt64 slot.toUInt32)
  | _ => rfl

theorem cut_putResult {type : CType} (some : type ≠ .void) (buffer image : UInt64)
    (model : DataModel) : type.cut model (putResult buffer image type) = type.cut model image := by
  cases type with
  | void => exact absurd rfl some
  | float =>
      have lower : (0xffffffff00000000 : UInt64).toUInt32 = 0 := rfl
      simp only [putResult, CType.cut, UInt64.toUInt32_or, UInt64.toUInt32_and, lower,
        UInt32.and_zero, UInt32.zero_or, UInt32.toUInt32_toUInt64]
  | _ => rfl

theorem ofImage_toImage_putResult (buffer image : UInt64) (type : CType) (model : DataModel)
    (host : HostType) :
    Value.ofImage (toImage (putResult buffer image type) type) host type model =
      Value.ofImage image host type model := by
  -- A missing result has no bits, so the buffer keeps what it held, and no value depends on that.
  by_cases missing : type = .void
  · rw [missing]
    rfl
  · rw [← Value.ofImage_cut, cut_toImage, cut_putResult missing, Value.ofImage_cut]

end Slot

namespace Value

/-- A value survives an argument's slot and a result's buffer: what is read from the bytes that were
written for it, and what is taken from the buffer that it was put into, is what its image stands for
by itself. That holds of images whose upper bits are not those of the C type as well. -/
theorem ofImage_through_slots {model : DataModel} (valid : model.Valid) (native : CType)
    (host : HostType) (image buffer : UInt64) (rest : List UInt8) :
    ofImage (Slot.readBytes (Slot.written image native model ++ rest) native model) host native
        model = ofImage image host native model ∧
      ofImage (Slot.toImage (Slot.putResult buffer image native) native) host native model =
        ofImage image host native model :=
  ⟨Slot.ofImage_readBytes_written valid image native rest host,
    Slot.ofImage_toImage_putResult buffer image native model host⟩

/-- A `long` of four bytes with bits above them, in a slot and in a buffer that are not clear. -/
theorem ofImage_through_slots_long :
    DataModel.llp64.Valid ∧
      Slot.written 0x5a5a5a5afffffffe .long .llp64 = [0xfe, 0xff, 0xff, 0xff] ∧
      ofImage (Slot.readBytes [0xfe, 0xff, 0xff, 0xff, 0xcc, 0xcc] .long .llp64) .long .long
        .llp64 = .ok (.long (-2)) ∧
      ofImage (Slot.toImage (Slot.putResult 0xa5a5a5a5a5a5a5a5 0x5a5a5a5afffffffe .long) .long)
        .long .long .llp64 = .ok (.long (-2)) := by
  have valid : DataModel.llp64.Valid := by decide
  have stands : ofImage 0x5a5a5a5afffffffe .long .long .llp64 = .ok (.long (-2)) := rfl
  obtain ⟨read, taken⟩ := ofImage_through_slots valid .long .long 0x5a5a5a5afffffffe
    0xa5a5a5a5a5a5a5a5 [0xcc, 0xcc]
  exact ⟨valid, by decide, read.trans stands, taken.trans stands⟩

end Value

end ForeignCall
