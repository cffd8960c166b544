import ForeignCall.Proofs.Running
import ForeignCall.Signature

/-! Resolved signatures: the C type of a parameter fits the way in which the parameter is passed. -/

namespace ForeignCall

/-- What is passed in an integer register is no floating-point number, and what is passed by
reference is passed as a pointer. -/
structure Parameter.Coherent (parameter : Parameter) : Prop where
  integer : parameter.kind = .integer → parameter.native.isFloating = false
  reference : parameter.kind.isScalar = false → parameter.native = .pointer

def Signature.Coherent (signature : Signature) : Prop :=
  ∀ parameter ∈ signature.parameters, parameter.Coherent

theorem LoweringTable.returns_resolve (type : HostType) (annotations : Annotations) :
    (resolve type annotations).Returns fun layout =>
      lower type annotations = .ok layout.type := by
  intro table outcome after _ ran
  refine ⟨trivial, ?_⟩
  rintro layout rfl
  obtain ⟨known, between, got, ran⟩ := Act.of_run_bind ran
  cases got
  cases found : table.find? type annotations with
  | some earlier =>
      rw [found] at ran
      cases ran
      exact lower_of_find? found
  | none =>
      rw [found] at ran
      dsimp only at ran
      split at ran
      next native lowered =>
        cases ran
        exact lowered
      next fault _ => cases ran

def HostType.isReference : HostType → Bool
  | array _ | struct _ | callback .. => true
  | _ => false

def HostType.usual (type : HostType) : CType := (lower type .empty).toOption.getD .void

section Lowering

variable {type : HostType}

theorem lower_reference (reference : type.isReference = true) (annotations : Annotations) :
    lower type annotations = annotations.native?.elim (.ok .pointer) fun declared =>
      .error (.unsupportedType s!"{type.describe} cannot be aliased to {declared.spelling}") := by
  unfold lower
  cases type with
  | array | struct | callback => cases annotations.native? <;> rfl
  | _ => cases reference

theorem lower_scalar (scalar : type.isScalar = true) (annotations : Annotations) :
    lower type annotations =
      if annotations.native? = some .void then
        .error (.unsupportedType (type.describe ++ " cannot be aliased to void"))
      else .ok (annotations.native?.getD type.usual) := by
  unfold lower
  cases annotations.native? with
  | none =>
      cases type with
      | void | text | array | struct | enum | enumSet | callback | named => cases scalar
      | _ => rfl
  | some declared =>
      cases type with
      | void | text | array | struct | enum | enumSet | callback | named => cases scalar
      | _ => simp

theorem eq_pointer_of_lower {annotations : Annotations} {native : CType}
    (lowered : lower type annotations = .ok native) (reference : type.isReference = true) :
    native = .pointer := by
  rw [lower_reference reference] at lowered
  cases declared : annotations.native? with
  | none =>
      rw [declared] at lowered
      exact (Except.ok.inj lowered).symm
  | some other =>
      rw [declared] at lowered
      cases lowered

end Lowering

namespace World

theorem returns_parameterKind (carrier : HostType) (native : CType) (annotations : Annotations) :
    (parameterKind carrier native annotations).Returns fun kind =>
      carrier.isReference = true ∧ kind.isScalar = false ∨
        kind.isScalar = true ∧ (kind = .integer → native.isFloating = false) := by
  unfold parameterKind
  split
  next element => exact .pure (.inl ⟨rfl, rfl⟩)
  next layout => exact .pure (.inl ⟨rfl, rfl⟩)
  next parameters result convention =>
    exact .bind (Act.returns_true _) fun site _ => .pure (.inl ⟨rfl, rfl⟩)
  next =>
    split
    next =>
      refine .pure (.inr ?_)
      cases native <;> simp [ParameterKind.isScalar, CType.isFloating]
    next => exact .throw _

theorem returns_resolveParameter (defaults : SignatureDefaults) (declaration : ValueDeclaration) :
    (resolveParameter defaults declaration).Returns Parameter.Coherent := by
  refine .bind (Act.returns_true _) fun converter _ => ?_
  refine .bind (ensures_onTypes (LoweringTable.returns_resolve _ _)) fun layout lowered => ?_
  refine .bind (returns_parameterKind _ _ _) fun kind passed => .pure ?_
  rcases passed with ⟨reference, other⟩ | ⟨scalar, integer⟩
  · refine ⟨fun same => ?_, fun _ => eq_pointer_of_lower lowered reference⟩
    simp [show kind = .integer from same, ParameterKind.isScalar] at other
  · refine ⟨integer, fun other => ?_⟩
    exact absurd scalar (by simpa using other)

theorem ensures_resolveSignature {invariant : World → Prop}
    {parameter : ValueDeclaration → Parameter → Prop} {result : ResultSlot → Prop}
    {defaults : SignatureDefaults} {declaration : FunctionDeclaration}
    (each : ∀ item ∈ declaration.parameters,
      (resolveParameter defaults item).Ensures invariant (parameter item))
    (last : (resolveResult defaults declaration.result).Ensures invariant result) :
    (resolveSignature defaults declaration).Ensures invariant fun signature =>
      List.Forall₂ parameter declaration.parameters signature.parameters ∧
        result signature.result := by
  refine (Act.Ensures.forall₂_mapM _ each).bind fun parameters all => ?_
  exact last.bind fun slot good => Act.Ensures.get.bind fun _ _ => .pure ⟨all, good⟩

theorem returns_parameters {defaults : SignatureDefaults} {property : Parameter → Prop}
    (each : ∀ declaration, (resolveParameter defaults declaration).Returns property)
    (declaration : FunctionDeclaration) :
    (resolveSignature defaults declaration).Returns fun signature =>
      ∀ parameter ∈ signature.parameters, property parameter := by
  refine .bind (.mapM_all _ fun item _ => each item) fun parameters good => ?_
  exact .bind (Act.returns_true _) fun result _ =>
    .bind (Act.returns_true _) fun world _ => .pure good

theorem returns_resolveSignature (defaults : SignatureDefaults)
    (declaration : FunctionDeclaration) :
    (resolveSignature defaults declaration).Returns Signature.Coherent :=
  returns_parameters (returns_resolveParameter defaults) declaration

end World

end ForeignCall
