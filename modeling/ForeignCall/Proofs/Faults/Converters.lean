import ForeignCall.Converter.Rule
import ForeignCall.Proofs.Faults.Confinement

/-! Faults of converters. What comes with the library finds no converter only for a fault of the
declaration, and its converters fail only for single values; so do those that follow a rule. -/

namespace ForeignCall

namespace TextEncoding

theorem passing_encodeChars (encoding : TextEncoding) (characters : List Char)
    (length capacity : Nat) :
    OnlyFaults Fault.Passing (encoding.encodeChars characters length capacity).outcome := by
  induction characters generalizing length capacity with
  | nil => exact .ok _
  | cons character rest ih =>
    rw [encodeChars]
    split
    next => exact .error rfl
    next code encoded => exact (ih _ _).map _

theorem passing_decode (encoding : TextEncoding) (bytes : List UInt8) :
    OnlyFaults Fault.Passing (encoding.decode bytes) := by
  rw [decode]
  split
  next => exact .ok _
  next => exact .error rfl

end TextEncoding

namespace Enumeration

variable (enumeration : Enumeration)

theorem passing_intOf (constant : EnumConstant) :
    OnlyFaults Fault.Passing (enumeration.intOf constant) := by
  rw [intOf]
  split
  next =>
    split
    next => exact .ok _
    next => exact .error rfl
  next => exact .error rfl

theorem passing_constantOf (value : Int64) :
    OnlyFaults Fault.Passing (enumeration.constantOf value) := by
  rw [constantOf]
  split
  next => exact .ok _
  next => exact .error rfl

theorem passing_maskOf (members : List Nat) :
    OnlyFaults Fault.Passing (enumeration.maskOf members) := by
  induction members with
  | nil => exact .ok _
  | cons index rest ih =>
    exact (enumeration.passing_intOf _).bind fun mask => ih.bind fun more => .ok _

end Enumeration

namespace Value

variable (type : HostType) (native : CType) (model : DataModel)

theorem passing_integerOperand (value : Value) :
    OnlyFaults Fault.Passing (value.integerOperand type) := by
  cases value with
  | float | double => exact .error rfl
  | null =>
    change OnlyFaults _ (if type = .address then .ok 0 else _)
    split
    next => exact .ok _
    next => exact .error rfl
  | _ =>
    dsimp only [integerOperand]
    split
    next => exact .ok _
    next => exact .error rfl

theorem passing_floatOperand (value : Value) :
    OnlyFaults Fault.Passing (value.floatOperand type) := by
  cases value with
  | float | double | byte | short | char | int | long => exact .ok _
  | _ => exact .error rfl

theorem passing_toImage (value : Value) :
    OnlyFaults Fault.Passing (value.toImage type native model) := by
  cases native with
  | void => exact .ok _
  | float => exact (passing_floatOperand type value).bind fun _ => .ok _
  | double => exact passing_floatOperand type value
  | _ => exact (passing_integerOperand type value).bind fun _ => .ok _

theorem passing_ofImage (image : UInt64) :
    OnlyFaults Fault.Passing (ofImage image type native model) := by
  cases native with
  | void => exact .ok _
  | float | double =>
    cases type with
    | float | double => exact .ok _
    | _ => exact .error rfl
  | _ =>
    dsimp only [ofImage]
    split
    next => exact .ok _
    next => exact .error rfl

end Value

namespace Store

theorem passing_encodeText (encoding : TextEncoding) (text : String) :
    (encodeText encoding text).FailsOnly Fault.Passing := by
  refine .bind (.forM _ fun _ _ => Act.failsOnly_ofState _) fun _ _ => ?_
  exact Act.failsOnly_ofExcept (encoding.passing_encodeChars _ _ _)

theorem passing_textAt (encoding : TextEncoding) (address : UInt64) :
    (textAt encoding address).FailsOnly Fault.Passing := by
  exact .bind .get fun store _ => Act.failsOnly_ofExcept (encoding.passing_decode _)

end Store

def ConverterBody.FailsPassing (body : ConverterBody) : Prop :=
  ∀ value context, (body.convert value context).FailsOnly Fault.Passing

namespace ConverterBody

theorem failsPassing_text (encoding : TextEncoding) (way : Way) :
    (text encoding way).FailsPassing := by
  intro value context
  cases way with
  | toNative =>
    cases value with
    | null => exact .pure trivial
    | text text =>
      exact (Store.passing_encodeText encoding text).bind fun _ _ => Act.failsOnly_ofState _
    | _ => exact .throw rfl
  | fromNative =>
    dsimp only [text, textFromNative]
    split
    next integer =>
      split
      next => exact .pure trivial
      next => exact (Store.passing_textAt encoding _).bind fun _ _ => .pure trivial
    next => exact .throw rfl

theorem failsPassing_enum (enumeration : Enumeration) (way : Way) :
    (enum enumeration way).FailsPassing := by
  intro value context
  cases way with
  | toNative =>
    cases value with
    | enum constant =>
      refine .bind (Act.failsOnly_ofExcept ?_) fun _ _ => .pure trivial
      exact enumeration.passing_intOf constant
    | _ => exact .throw rfl
  | fromNative =>
    dsimp only [enum, enumFromNative]
    split
    next integer known =>
      refine .bind (Act.failsOnly_ofExcept ?_) fun _ _ => .pure trivial
      exact enumeration.passing_constantOf integer
    next => exact .throw rfl

theorem failsPassing_enumSet (enumeration : Enumeration) (way : Way) :
    (enumSet enumeration way).FailsPassing := by
  intro value context
  cases way with
  | toNative =>
    cases value with
    | enumSet subset =>
      dsimp only [enumSet, enumSetToNative]
      split
      next =>
        refine .bind (Act.failsOnly_ofExcept ?_) fun _ _ => .pure trivial
        exact enumeration.passing_maskOf _
      next => exact .throw rfl
    | _ => exact .throw rfl
  | fromNative =>
    dsimp only [enumSet, enumSetFromNative]
    split
    next => exact .pure trivial
    next => exact .throw rfl

theorem lasting_contextEncoding (context : ConversionContext) :
    OnlyFaults Fault.Lasting (contextEncoding context) := by
  rw [contextEncoding]
  split
  next =>
    split
    next => exact .ok _
    next => exact .error rfl
  next => exact .ok _

theorem lasting_builtin? (way : Way) (type : HostType) (context : ConversionContext) :
    OnlyFaults Fault.Lasting (builtin? way type context) := by
  cases type with
  | text => exact (lasting_contextEncoding context).bind fun _ => .ok _
  | _ => exact .ok _

theorem failsPassing_of_builtin? {way : Way} {type : HostType} {context : ConversionContext}
    {body : ConverterBody} (built : builtin? way type context = .ok (some body)) :
    body.FailsPassing := by
  cases type with
  | text =>
    simp only [builtin?] at built
    cases selected : contextEncoding context with
    | error fault =>
      rw [selected] at built
      cases built
    | ok encoding =>
      rw [selected] at built
      cases built
      exact failsPassing_text encoding way
  | enum enumeration =>
    cases built
    exact failsPassing_enum enumeration way
  | enumSet enumeration =>
    cases built
    exact failsPassing_enumSet enumeration way
  | _ => cases built

end ConverterBody

theorem RuleSpec.failsPassing_body (spec : RuleSpec) (way : Way) :
    (spec.body way).FailsPassing := by
  intro value context
  refine Act.failsOnly_ofExcept ?_
  dsimp only [RuleSpec.apply]
  cases spec.rule with
  | fail => exact .error rfl
  | _ => exact .ok _

end ForeignCall
