import ForeignCall.Proofs.Binding.Standard
import ForeignCall.Proofs.Closure.Shaping
import ForeignCall.Proofs.Numeric

/-! Scalars that cross without a converter. Every C type but `void` may be declared for each of
them, but a C type suits a scalar or it does not: then every value crosses, or every single one is
refused. -/

namespace ForeignCall

namespace HostType

def isFloating (type : HostType) : Bool := type matches float | double

def isNumber (type : HostType) : Bool := !(type matches boolean | address)

inductive Holds : HostType → Value → Prop
  | boolean (value : Bool) : Holds .boolean (.bool value)
  | byte (value : Int8) : Holds .byte (.byte value)
  | short (value : Int16) : Holds .short (.short value)
  | char (value : UInt16) : Holds .char (.char value)
  | int (value : Int32) : Holds .int (.int value)
  | long (value : Int64) : Holds .long (.long value)
  | float (value : Single) : Holds .float (.float value)
  | double (value : Double) : Holds .double (.double value)
  | address (value : UInt64) : Holds .address (.address value)

variable {type : HostType} {value : Value}

theorem Holds.kind_eq (holds : type.Holds value) : value.kind = type.describe := by
  cases holds <;> rfl

theorem holds_valueOfInt64 {kind : IntegerKind} (numbered : type.integerKind? = some kind)
    (integer : Int64) : type.Holds (type.valueOfInt64 integer) := by
  cases type with
  | boolean | byte | short | char | int | long | address => constructor
  | _ => cases numbered

theorem ne_void_of_lower {annotations : Annotations} {native : CType}
    (scalar : type.isScalar = true) (lowered : lower type annotations = .ok native) :
    native ≠ .void := by
  rw [lower_scalar scalar] at lowered
  split at lowered
  next => cases lowered
  next other =>
    cases lowered
    cases declared : annotations.native? with
    | none =>
        cases type with
        | void | text | array | struct | enum | enumSet | callback | named => cases scalar
        | _ => decide
    | some native =>
        rintro rfl
        exact other declared

end HostType

namespace CType

def takes (native : CType) (type : HostType) : Bool :=
  if native.isFloating then type.isNumber else !type.isFloating

def gives (native : CType) (type : HostType) : Bool := native.isFloating == type.isFloating

end CType

namespace Value

variable {type : HostType} {native : CType} {value : Value} (model : DataModel)

theorem toImage_of_isFloating (floating : native.isFloating = true) (value : Value) :
    ∃ image : Double → UInt64,
      value.toImage type native model = (value.floatOperand type).map image := by
  cases native with
  | float =>
      refine ⟨fun number => (Double.narrow number).toUInt64, ?_⟩
      simp only [toImage]
      cases value.floatOperand type <;> rfl
  | double =>
      refine ⟨id, ?_⟩
      simp only [toImage]
      cases value.floatOperand type <;> rfl
  | _ => cases floating

theorem toImage_of_isIntegral (integral : native.isIntegral = true) (value : Value) :
    ∃ image : Int64 → UInt64,
      value.toImage type native model = (value.integerOperand type).map image := by
  refine ⟨fun integer =>
    (normalize ((type.integerKind?.map (narrow integer)).getD integer) native model).toUInt64, ?_⟩
  cases native with
  | void | float | double => cases integral
  | _ =>
      simp only [toImage]
      cases value.integerOperand type <;> rfl

theorem floatOperand_cases (holds : type.Holds value) :
    type.isNumber = true ∧ (∃ number, value.floatOperand type = .ok number) ∨
      type.isNumber = false ∧
        value.floatOperand type = .error (.typeMismatch type.describe value.kind) := by
  cases holds with
  | boolean | address => exact .inr ⟨rfl, rfl⟩
  | _ => exact .inl ⟨rfl, _, rfl⟩

theorem integerOperand_cases (holds : type.Holds value) :
    type.isFloating = false ∧ (∃ integer, value.integerOperand type = .ok integer) ∨
      type.isFloating = true ∧
        value.integerOperand type = .error (.typeMismatch type.describe value.kind) := by
  cases holds with
  | float | double => exact .inr ⟨rfl, rfl⟩
  | _ => exact .inl ⟨rfl, _, rfl⟩

theorem toImage_cases (some : native ≠ .void) (holds : type.Holds value) :
    native.takes type = true ∧ (∃ image, value.toImage type native model = .ok image) ∨
      native.takes type = false ∧
        value.toImage type native model = .error (.typeMismatch type.describe value.kind) := by
  cases floating : native.isFloating with
  | true =>
      obtain ⟨image, same⟩ := toImage_of_isFloating model floating value
      rw [same, CType.takes, floating, if_pos rfl]
      rcases floatOperand_cases holds with ⟨suits, number, known⟩ | ⟨unsuited, known⟩
      · rw [known]
        exact .inl ⟨suits, image number, rfl⟩
      · rw [known]
        exact .inr ⟨unsuited, rfl⟩
  | false =>
      have integral := native.isIntegral_iff.2 ⟨some, floating⟩
      obtain ⟨image, same⟩ := toImage_of_isIntegral model integral value
      rw [same, CType.takes, floating, if_neg Bool.false_ne_true]
      rcases integerOperand_cases holds with ⟨suits, integer, known⟩ | ⟨unsuited, known⟩
      · rw [known, suits]
        exact .inl ⟨rfl, image integer, rfl⟩
      · rw [known, unsuited]
        exact .inr ⟨rfl, rfl⟩

theorem ofImage_of_isFloating (floating : native.isFloating = true) (image : UInt64) :
    ∃ pattern : Double, ofImage image type native model =
      match type with
      | .float => .ok (.float (Double.narrow pattern))
      | .double => .ok (.double pattern)
      | _ => .error (.typeMismatch type.describe native.spelling) := by
  cases native with
  | float => exact ⟨Single.widen image.toUInt32, rfl⟩
  | double => exact ⟨image, rfl⟩
  | _ => cases floating

theorem ofImage_of_numberless (integral : native.isIntegral = true)
    (numberless : type.integerKind? = none) (image : UInt64) :
    ofImage image type native model = .error (.typeMismatch type.describe native.spelling) := by
  cases native with
  | void | float | double => cases integral
  | _ => simp only [ofImage, numberless]

theorem ofImage_cases (some : native ≠ .void) (scalar : type.isScalar = true) (image : UInt64) :
    native.gives type = true ∧
        (∃ value, type.Holds value ∧ ofImage image type native model = .ok value) ∨
      native.gives type = false ∧
        ofImage image type native model =
          .error (.typeMismatch type.describe native.spelling) := by
  cases floating : native.isFloating with
  | true =>
      obtain ⟨pattern, same⟩ := @ofImage_of_isFloating type native model floating image
      rw [same, CType.gives, floating]
      cases type with
      | float => exact .inl ⟨rfl, _, .float _, rfl⟩
      | double => exact .inl ⟨rfl, _, .double _, rfl⟩
      | _ => exact .inr ⟨rfl, rfl⟩
  | false =>
      have integral := native.isIntegral_iff.2 ⟨some, floating⟩
      rw [CType.gives, floating]
      cases numbered : type.integerKind? with
      | some kind =>
          refine .inl ⟨?_, _, HostType.holds_valueOfInt64 numbered _,
            ofImage_of_isIntegral integral numbered image⟩
          cases type with
          | float | double => cases numbered
          | _ => rfl
      | none =>
          refine .inr ⟨?_, ofImage_of_numberless model integral numbered image⟩
          cases type with
          | float | double => rfl
          | _ => simp_all [HostType.isScalar, HostType.integerKind?]

end Value

/-- What a parameter of a scalar type sends. -/
structure Passage.Sends (passage : Passage) (type : HostType) : Prop where
  all : passage.native.takes type = true → ∀ value context model, type.Holds value →
    ∃ image, passage.send value context model = pure image
  none : passage.native.takes type = false → ∀ value context model, type.Holds value →
    passage.send value context model = throw (.typeMismatch type.describe type.describe)

structure Passage.Receives (passage : Passage) (type : HostType) : Prop where
  all : passage.native.gives type = true → ∀ image context model,
    ∃ value, type.Holds value ∧ passage.receive image context model = pure value
  none : passage.native.gives type = false → ∀ image context model,
    passage.receive image context model =
      throw (.typeMismatch type.describe passage.native.spelling)

namespace Passage

variable {passage : Passage} {type : HostType} (plain : passage.converter = none)
  (carrier : passage.carrier = type) (some : passage.native ≠ .void)
include plain carrier some

theorem sends_of_plain : passage.Sends type := by
  have sent (value : Value) (context : ConversionContext) (model : DataModel) :
      passage.send value context model =
        liftM (value.toImage type passage.native model) := by
    rw [send, convert, plain, carrier]
    rfl
  constructor
  · intro suits value context model holds
    rcases Value.toImage_cases model some holds with ⟨_, image, known⟩ | ⟨unsuited, _⟩
    · exact ⟨image, by rw [sent, known]; rfl⟩
    · simp [suits] at unsuited
  · intro unsuited value context model holds
    rcases Value.toImage_cases model some holds with ⟨suits, _⟩ | ⟨_, known⟩
    · simp [unsuited] at suits
    · -- the message expects the very type that it was given
      rw [sent, known, holds.kind_eq]
      rfl

theorem receives_of_plain (scalar : type.isScalar = true) : passage.Receives type := by
  have received (image : UInt64) (context : ConversionContext) (model : DataModel) :
      passage.receive image context model =
        liftM (Value.ofImage image type passage.native model) := by
    simp only [receive, convert, plain, carrier]
    exact bind_pure _
  constructor
  · intro suits image context model
    rcases Value.ofImage_cases model some scalar image with ⟨_, value, holds, known⟩ | ⟨unsuited, _⟩
    · exact ⟨value, holds, by rw [received, known]; rfl⟩
    · simp [suits] at unsuited
  · intro unsuited image context model
    rcases Value.ofImage_cases model some scalar image with ⟨suits, _⟩ | ⟨_, known⟩
    · simp [unsuited] at suits
    · rw [received, known]
      rfl

end Passage

def Parameter.Crosses (item : ValueDeclaration) (parameter : Parameter) : Prop :=
  parameter.converter = none → item.type.isScalar = true →
    lower item.type item.annotations = .ok parameter.native ∧ parameter.Sends item.type

def ResultSlot.Crosses (item : ValueDeclaration) (slot : ResultSlot) : Prop :=
  slot.converter = none → item.type.isScalar = true →
    lower item.type item.annotations = .ok slot.native ∧ slot.Receives item.type

structure Signature.Crosses (declaration : FunctionDeclaration) (signature : Signature) : Prop where
  parameters : List.Forall₂ Parameter.Crosses declaration.parameters signature.parameters
  result : signature.result.Crosses declaration.result

namespace World

theorem crosses_resolveParameter (defaults : SignatureDefaults) (item : ValueDeclaration) :
    (resolveParameter defaults item).Returns (Parameter.Crosses item) := by
  refine .bind (Act.returns_true _) fun found _ => ?_
  refine .bind (ensures_onTypes (LoweringTable.returns_resolve _ _)) fun layout lowered => ?_
  refine .bind (Act.returns_true _) fun kind _ => .pure ?_
  intro plain scalar
  cases (plain : found = none)
  exact ⟨lowered, Passage.sends_of_plain rfl rfl (HostType.ne_void_of_lower scalar lowered)⟩

theorem crosses_resolveResult (defaults : SignatureDefaults) (item : ValueDeclaration) :
    (resolveResult defaults item).Returns (ResultSlot.Crosses item) := by
  refine .bind (Act.returns_true _) fun found _ => ?_
  dsimp only
  split
  next =>
    refine .bind (ensures_onTypes (LoweringTable.returns_resolve _ _)) fun layout lowered => ?_
    refine .pure ?_
    intro plain scalar
    cases (plain : found = none)
    exact ⟨lowered,
      Passage.receives_of_plain rfl rfl (HostType.ne_void_of_lower scalar lowered) scalar⟩
  next => exact .throw_bind _ _

theorem crosses_resolveSignature (defaults : SignatureDefaults)
    (declaration : FunctionDeclaration) :
    (resolveSignature defaults declaration).Returns (Signature.Crosses declaration) := by
  have each : ∀ item ∈ declaration.parameters,
      (resolveParameter defaults item).Returns (Parameter.Crosses item) :=
    fun item _ => crosses_resolveParameter defaults item
  exact (ensures_resolveSignature each (crosses_resolveResult defaults _)).weaken fun _ both =>
    ⟨both.1, both.2⟩

section Accepting

variable {defaults : SignatureDefaults} {item : ValueDeclaration} (unowned : item.converter = none)
  (scalar : item.type.isScalar = true) {now : World} (standard : now.Standard defaults.converters)
include unowned scalar standard

theorem run_converter_scalar (way : Way) :
    ∃ after, (liftM (defaults.converters.choose way item.converter item.type
      ⟨item.annotations, defaults.encoding⟩) : Act World (Option Converter)).run.run now =
        (.ok none, after) := by
  refine run_converter_of_missing unowned standard fun context => ?_
  cases type : item.type with
  | void | text | array | struct | enum | enumSet | callback | named =>
      rw [type] at scalar
      cases scalar
  | _ => rfl

theorem native_resolveParameter_scalar :
    ((resolveParameter defaults item).run.run now).1.map (·.native) =
      lower item.type item.annotations := by
  obtain ⟨chosen, chooses⟩ := run_converter_scalar unowned scalar standard .toNative
  rw [resolveParameter, Act.run_bind]
  dsimp only
  rw [chooses]
  refine map_run_resolve (fun layout world => ?_) chosen
  obtain ⟨kind, passed⟩ := exists_parameterKind scalar layout.type item.annotations
  change Except.map _ ((parameterKind item.type layout.type item.annotations >>= _ :
    Act World Parameter).run.run world).1 = _
  rw [passed]
  rfl

theorem native_resolveResult_scalar :
    ((resolveResult defaults item).run.run now).1.map (·.native) =
      lower item.type item.annotations := by
  obtain ⟨chosen, chooses⟩ := run_converter_scalar unowned scalar standard .fromNative
  rw [resolveResult, Act.run_bind]
  dsimp only
  rw [chooses]
  dsimp only
  split
  next => exact map_run_resolve (fun _ _ => rfl) chosen
  next unfit => simp [scalar] at unfit

end Accepting

/-- Where only the converters of the library are looked for, any C type but `void` may be declared
for a scalar. Whatever mappers there are, a scalar without a converter then crosses in one way: all
values of its type are sent if the C type takes them, and else a call fails for each of them, by a
message that expects the type that it was given; and from native code every image is received if
the C type gives values of the type, and else none is. -/
theorem scalars_resolved (defaults : SignatureDefaults) :
    (∀ declaration : FunctionDeclaration,
      (resolveSignature defaults declaration).Returns (Signature.Crosses declaration)) ∧
      ∀ (now : World) (item : ValueDeclaration), now.Standard defaults.converters →
        item.converter = none → item.type.isScalar = true →
          let accepted : Except Fault CType :=
            if item.annotations.native? = some .void then
              .error (.unsupportedType (item.type.describe ++ " cannot be aliased to void"))
            else .ok (item.annotations.native?.getD item.type.usual)
          ((resolveParameter defaults item).run.run now).1.map (·.native) = accepted ∧
            ((resolveResult defaults item).run.run now).1.map (·.native) = accepted := by
  refine ⟨crosses_resolveSignature defaults, ?_⟩
  intro now item standard unowned scalar accepted
  have lowered : lower item.type item.annotations = accepted := lower_scalar scalar _
  constructor
  · exact (native_resolveParameter_scalar unowned scalar standard).trans lowered
  · exact (native_resolveResult_scalar unowned scalar standard).trans lowered

def doubling : FunctionDeclaration where
  name := "f"
  parameters := [{ type := .boolean, annotations := .ofList [.native .double] }]
  result := { type := .int, annotations := .ofList [.native .double] }

theorem scalars_resolved_doubling :
    let defaults : SignatureDefaults := { converters := ⟨0, none⟩, encoding := .utf8 }
    let world := initial {} (.limited 4096 none true)
    ∃ signature later parameter,
      (resolveSignature defaults doubling).run.run world = (.ok signature, later) ∧
        signature.parameters = [parameter] ∧
        ((resolveResult defaults doubling.result).run.run world).1.map (·.native) = .ok .double ∧
        (∀ value context model, parameter.send (.bool value) context model =
          throw (.typeMismatch "boolean" "boolean")) ∧
        ∀ image context model, signature.result.receive image context model =
          throw (.typeMismatch "int" "double") := by
  intro defaults world
  obtain ⟨crosses, accepts⟩ := scalars_resolved defaults
  have standard : world.Standard defaults.converters := ⟨rfl, .of_empty rfl rfl⟩
  have signed := (crosses doubling).of_run (rfl : (resolveSignature defaults doubling).run.run
    world = (.ok _, _))
  have sends := (List.forall₂_cons.1 signed.parameters).1 rfl rfl
  have receives := signed.result rfl rfl
  refine ⟨_, _, _, rfl, rfl, (accepts world doubling.result standard rfl rfl).2, ?_, ?_⟩
  · exact fun value context model => sends.2.none rfl _ context model (.boolean value)
  · exact receives.2.none rfl

end World

end ForeignCall
