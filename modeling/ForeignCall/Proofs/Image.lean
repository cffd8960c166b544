import ForeignCall.CallInterface
import ForeignCall.Numeric

/-! What a register image means through a C type: the bits that the type covers, widened again. All
ways of moving an image about keep these bits, whatever they do to the rest. -/

namespace ForeignCall

/-- The bits of an image that a C type covers, widened as the type is. -/
def CType.cut (type : CType) (model : DataModel) (image : UInt64) : UInt64 :=
  match type with
  | .void => 0
  | .float => image.toUInt32.toUInt64
  | .double => image
  | _ => (normalize image.toInt64 type model).toUInt64

/-- Two images agree in all bits that an integer type covers. -/
def CType.Alike (type : CType) (model : DataModel) (left right : UInt64) : Prop :=
  left.toBitVec.setWidth (type.bits model) = right.toBitVec.setWidth (type.bits model)

theorem setWidth_signExtend_of_le {width narrow : Nat} (word : BitVec width)
    (below : narrow ≤ width) (inside : width ≤ 64) :
    (word.signExtend 64).setWidth narrow = word.setWidth narrow := by
  apply BitVec.eq_of_getLsbD_eq
  intro index bound
  have low : index < width := by omega
  have small : index < 64 := by omega
  simp only [BitVec.getLsbD_setWidth, BitVec.getLsbD_signExtend, bound, low, small, decide_true,
    Bool.true_and, ↓reduceIte]

theorem setWidth_zeroExtend_low (word : BitVec 64) (width : Nat) :
    ((word.setWidth width).setWidth 64).setWidth width = word.setWidth width := by
  apply BitVec.eq_of_getLsbD_eq
  intro index bound
  by_cases small : index < 64
  · simp only [BitVec.getLsbD_setWidth, bound, small, decide_true, Bool.true_and]
  · simp only [BitVec.getLsbD_setWidth, bound, small, decide_true, decide_false, Bool.true_and,
      Bool.false_and, BitVec.getLsbD_of_ge word index (Nat.le_of_not_lt small)]

theorem setWidth_signExtend_low (word : BitVec 64) (width : Nat) :
    ((word.setWidth width).signExtend 64).setWidth width = word.setWidth width := by
  apply BitVec.eq_of_getLsbD_eq
  intro index bound
  by_cases small : index < 64
  · simp only [BitVec.getLsbD_setWidth, BitVec.getLsbD_signExtend, bound, small, decide_true,
      Bool.true_and, ↓reduceIte]
  · simp only [BitVec.getLsbD_setWidth, BitVec.getLsbD_signExtend, bound, small, decide_true,
      decide_false, Bool.true_and, Bool.false_and,
      BitVec.getLsbD_of_ge word index (Nat.le_of_not_lt small)]

namespace CType

theorem normalize_of_alike {type : CType} {model : DataModel} {left right : UInt64}
    (alike : type.Alike model left right) (integral : type.isIntegral = true) :
    normalize left.toInt64 type model = normalize right.toInt64 type model := by
  have low : left.toInt64.toBitVec.setWidth (type.bits model) =
      right.toInt64.toBitVec.setWidth (type.bits model) := alike
  simp only [normalize, integral, if_true, low]

theorem alike_normalize (type : CType) (model : DataModel) (image : UInt64) :
    type.Alike model (normalize image.toInt64 type model).toUInt64 image := by
  unfold Alike normalize
  split
  · cases type.isSigned
    · exact setWidth_zeroExtend_low image.toBitVec _
    · exact setWidth_signExtend_low image.toBitVec _
  · rfl

theorem bits_le_of_valid {model : DataModel} (valid : model.Valid) (type : CType) :
    type.bits model ≤ 64 := by
  obtain ⟨pointer | pointer, long | long⟩ := valid <;>
    cases type <;> simp [bits, size, pointer, long]

theorem cut_of_isIntegral {type : CType} (model : DataModel) (image : UInt64)
    (integral : type.isIntegral = true) :
    type.cut model image = (normalize image.toInt64 type model).toUInt64 := by
  cases type <;> first | rfl | simp [isIntegral] at integral

theorem cut_of_alike {type : CType} {model : DataModel} {left right : UInt64}
    (alike : type.Alike model left right) (integral : type.isIntegral = true) :
    type.cut model left = type.cut model right := by
  rw [cut_of_isIntegral model left integral, cut_of_isIntegral model right integral,
    normalize_of_alike alike integral]

theorem cut_of_wide {type : CType} {model : DataModel} (image : UInt64)
    (integral : type.isIntegral = true) (wide : type.bits model = 64) :
    type.cut model image = image := by
  rw [cut_of_isIntegral model image integral, normalize_eq_self_of_wide _ _ _ wide]
  rfl

theorem eq_of_not_isIntegral {type : CType} (floating : type.isIntegral = false) :
    type = .void ∨ type = .float ∨ type = .double := by
  cases type <;> simp [isIntegral] at floating ⊢

theorem cut_cut (type : CType) (model : DataModel) (image : UInt64) :
    type.cut model (type.cut model image) = type.cut model image := by
  cases integral : type.isIntegral
  · obtain rfl | rfl | rfl := eq_of_not_isIntegral integral
    · rfl
    · exact congrArg UInt32.toUInt64 (UInt32.toUInt32_toUInt64 image.toUInt32)
    · rfl
  · apply cut_of_alike _ integral
    rw [cut_of_isIntegral model image integral]
    exact alike_normalize type model image

theorem alike_zeroExtend {type : CType} {model : DataModel} (width : Nat) (image : UInt64)
    (covered : type.bits model ≤ width) (inside : width ≤ 64) :
    type.Alike model ⟨(image.toBitVec.setWidth width).setWidth 64⟩ image := by
  change ((image.toBitVec.setWidth width).setWidth 64).setWidth _ = _
  rw [BitVec.setWidth_setWidth_of_le _ (by omega), BitVec.setWidth_setWidth_of_le _ covered]

theorem alike_signExtend {type : CType} {model : DataModel} (width : Nat) (image : UInt64)
    (covered : type.bits model ≤ width) (inside : width ≤ 64) :
    type.Alike model ⟨(image.toBitVec.setWidth width).signExtend 64⟩ image := by
  change ((image.toBitVec.setWidth width).signExtend 64).setWidth _ = _
  rw [setWidth_signExtend_of_le _ covered inside, BitVec.setWidth_setWidth_of_le _ covered]

end CType

namespace Slot

theorem alike_widen {type : CType} {model : DataModel} (integral : type.isIntegral = true)
    (image : UInt64) : type.Alike model (widen image type model) image := by
  have signed : ∀ width, type.bits model ≤ width → width ≤ 64 →
      type.Alike model ⟨(image.toBitVec.setWidth width).signExtend 64⟩ image :=
    fun width => CType.alike_signExtend width image
  have unsigned : ∀ width, type.bits model ≤ width → width ≤ 64 →
      type.Alike model ⟨(image.toBitVec.setWidth width).setWidth 64⟩ image :=
    fun width => CType.alike_zeroExtend width image
  cases type with
  | void | float | double => cases integral
  | pointer => rfl
  | _ =>
    simp only [widen]
    split
    next size _ => exact signed 8 (by simp [CType.bits, size]) (by decide)
    next size _ => exact signed 16 (by simp [CType.bits, size]) (by decide)
    next size _ => exact signed 32 (by simp [CType.bits, size]) (by decide)
    next size _ => exact unsigned 8 (by simp [CType.bits, size]) (by decide)
    next size _ => exact unsigned 16 (by simp [CType.bits, size]) (by decide)
    next size _ => exact unsigned 32 (by simp [CType.bits, size]) (by decide)
    next => rfl

theorem cut_widen (type : CType) (model : DataModel) (image : UInt64) :
    type.cut model (widen image type model) = type.cut model image := by
  cases integral : type.isIntegral
  · obtain rfl | rfl | rfl := CType.eq_of_not_isIntegral integral
    · rfl
    · exact congrArg UInt32.toUInt64 (UInt32.toUInt32_toUInt64 image.toUInt32)
    · rfl
  · exact CType.cut_of_alike (alike_widen integral image) integral

theorem cut_ofImage {model : DataModel} (valid : model.Valid) (type : CType) (image : UInt64) :
    type.cut model (ofImage image type model) = type.cut model image := by
  obtain ⟨pointer, long⟩ := model
  cases type with
  | void | double | longLong | unsignedLongLong | pointer => rfl
  | float => exact congrArg UInt32.toUInt64 (UInt32.toUInt32_toUInt64 image.toUInt32)
  | signedChar | unsignedChar =>
    exact CType.cut_of_alike (CType.alike_zeroExtend 8 image (by simp [CType.bits, CType.size])
      (by decide)) rfl
  | short | unsignedShort =>
    exact CType.cut_of_alike (CType.alike_zeroExtend 16 image (by simp [CType.bits, CType.size])
      (by decide)) rfl
  | int | unsignedInt =>
    exact CType.cut_of_alike (CType.alike_zeroExtend 32 image (by simp [CType.bits, CType.size])
      (by decide)) rfl
  | long | unsignedLong =>
    obtain ⟨_, rfl | rfl⟩ := valid
    · exact CType.cut_of_alike (CType.alike_zeroExtend 32 image (by simp [CType.bits, CType.size])
        (by decide)) rfl
    · rfl

end Slot

namespace Value

theorem ofImage_cut (image : UInt64) (type : HostType) (native : CType) (model : DataModel) :
    ofImage (native.cut model image) type native model = ofImage image type native model := by
  cases integral : native.isIntegral
  · obtain rfl | rfl | rfl := CType.eq_of_not_isIntegral integral
    · rfl
    · have same : (CType.float.cut model image).toUInt32 = image.toUInt32 :=
        UInt32.toUInt32_toUInt64 image.toUInt32
      simp only [ofImage, same, ↓reduceIte]
    · rfl
  · have same : normalize (native.cut model image).toInt64 native model =
        normalize image.toInt64 native model := by
      apply CType.normalize_of_alike _ integral
      rw [CType.cut_of_isIntegral model image integral]
      exact CType.alike_normalize native model image
    cases native with
    | void | float | double => simp [CType.isIntegral] at integral
    | _ => simp only [ofImage, convert, same]

end Value

end ForeignCall
