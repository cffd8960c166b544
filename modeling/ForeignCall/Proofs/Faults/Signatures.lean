import ForeignCall.Proofs.Closure.Upkeep
import ForeignCall.Proofs.Faults.Mappers
import ForeignCall.Proofs.Signature

/-! Faults of declarations. A signature is refused only for what is declared, and the converters
that it comes to have fail only for single values. -/

namespace ForeignCall

theorem lasting_lower (type : HostType) (annotations : Annotations) :
    OnlyFaults Fault.Lasting (lower type annotations) := by
  unfold lower
  split
  next declared known =>
    cases type with
    | void | text | array | struct | callback => exact .error rfl
    | _ =>
      dsimp only
      split
      next => exact .error rfl
      next => exact .ok _
  next unknown =>
    cases type with
    | named => exact .error rfl
    | _ => exact .ok _

theorem LoweringTable.lasting_resolve (type : HostType) (annotations : Annotations) :
    (resolve type annotations).FailsOnly Fault.Lasting := by
  refine .bind .get fun table _ => ?_
  split
  next => exact .pure trivial
  next =>
    split
    next => exact .bind (Act.failsOnly_ofState _) fun _ _ => .pure trivial
    next fault lowered => exact .throw (lasting_lower type annotations fault lowered)

def Passage.FailsPassing (passage : Passage) : Prop := Mapper.Found passage.converter

structure Signature.FailsPassing (signature : Signature) : Prop where
  parameters : ∀ parameter ∈ signature.parameters, parameter.FailsPassing
  result : signature.result.FailsPassing

namespace World

structure Regular (world : World) : Prop where
  mappers : world.mappers.Regular
  closures : ∀ mapper, world.closureConverters.custom = some mapper → mapper.Regular

abbrev Declares {Result : Type} (property : Result → Prop) (action : Act World Result) : Prop :=
  action.Confines Regular Fault.Lasting property

theorem declares_ofState {Result : Type} {action : StateM World Result}
    (keeps : ∀ world, world.Regular → (action.run world).2.Regular) :
    Declares (fun _ => True) (liftM action : Act World Result) :=
  .ofState keeps fun _ _ => trivial

section Converters

variable {pipeline : Pipeline}

theorem declares_choose (custom : ∀ mapper, pipeline.custom = some mapper → mapper.Regular)
    {own : Option Converter} (known : Mapper.Found own) (way : Way) (type : HostType)
    (context : ConversionContext) :
    Declares Mapper.Found
      (liftM (pipeline.choose way own type context) : Act World (Option Converter)) :=
  confines_onMappers (pipeline.confines_choose custom known way type context)
    (fun _ regular => regular.mappers) fun _ _ regular mappers => ⟨mappers, regular.closures⟩

theorem declares_lowering (type : HostType) (annotations : Annotations) :
    Declares (fun _ => True)
      (liftM (LoweringTable.resolve type annotations) : Act World CLayout) :=
  confines_onTypes (LoweringTable.lasting_resolve type annotations)
    fun _ _ regular => ⟨regular.mappers, regular.closures⟩

end Converters

section Closures

theorem declares_passageIn (context : ConversionContext) (type : HostType) :
    Declares (fun _ => True) (passageIn context type) := by
  refine .bind .get fun world regular => ?_
  have finds := declares_choose regular.closures Mapper.found_none .fromNative type context
  refine finds.bind fun found _ => ?_
  dsimp only
  split
  next => exact (declares_lowering _ _).bind fun _ _ => .pure trivial
  next => exact .throw_bind (Fault.lasting_unsupportedType _) _

theorem declares_passageOut (context : ConversionContext) (type : HostType) :
    Declares (fun _ => True) (passageOut context type) := by
  refine .bind .get fun world regular => ?_
  have finds := declares_choose regular.closures Mapper.found_none .toNative type context
  refine finds.bind fun found _ => ?_
  dsimp only
  split
  next => exact (declares_lowering _ _).bind fun _ _ => .pure trivial
  next => exact .throw_bind (Fault.lasting_unsupportedType _) _

theorem declares_buildShape (type : CallbackType) : Declares (fun _ => True) (buildShape type) := by
  refine .bind .get fun world _ => ?_
  refine .bind (.mapM_all _ fun item _ => declares_passageIn _ item) fun parameters _ => ?_
  refine (declares_passageOut _ type.result).bind fun result _ => .bind .get fun later _ => ?_
  rw [CallInterface.prepare_named_all]
  exact .pure trivial

theorem declares_openPool (type : CallbackType) : Declares (fun _ => True) (openPool type) := by
  have enters : Declares (fun _ => True) (liftM (poolNumber type) : Act World Nat) := by
    refine declares_ofState fun world regular => ?_
    rw [run_poolNumber]
    split
    next => exact regular
    next => exact ⟨regular.mappers, regular.closures⟩
  refine enters.bind fun number _ => .bind .get fun world _ => ?_
  have returns : Declares (fun _ => True) (pure number : Act World Nat) := .pure trivial
  split
  next =>
    refine (declares_buildShape type).bind fun shape _ => .bind .get fun built _ => ?_
    refine .bind (declares_ofState fun later regular => ?_) fun _ _ => returns
    exact ⟨regular.mappers, regular.closures⟩
  next => exact returns

theorem declares_newSite (type : CallbackType) : Declares (fun _ => True) (newSite type) := by
  refine (declares_openPool type).bind fun pool _ => ?_
  refine declares_ofState fun world regular => ?_
  exact ⟨regular.mappers, regular.closures⟩

end Closures

section Resolved

variable {defaults : SignatureDefaults}
  (custom : ∀ mapper, defaults.converters.custom = some mapper → mapper.Regular)

theorem declares_parameterKind (carrier : HostType) (native : CType) (annotations : Annotations) :
    Declares (fun _ => True) (parameterKind carrier native annotations) := by
  unfold parameterKind
  split
  next => exact .pure trivial
  next => exact .pure trivial
  next => exact (declares_newSite _).bind fun _ _ => .pure trivial
  next =>
    split
    next => exact .pure trivial
    next => exact .throw (Fault.lasting_unsupportedType _)

include custom in
theorem declares_resolveParameter {declaration : ValueDeclaration}
    (own : Mapper.Found declaration.converter) :
    Declares (·.FailsPassing) (resolveParameter defaults declaration) := by
  refine (declares_choose custom own .toNative _ _).bind fun converter found => ?_
  refine (declares_lowering _ _).bind fun layout _ => ?_
  exact (declares_parameterKind _ _ _).bind fun kind _ => .pure found

include custom in
theorem declares_resolveResult {declaration : ValueDeclaration}
    (own : Mapper.Found declaration.converter) :
    Declares (·.FailsPassing) (resolveResult defaults declaration) := by
  refine (declares_choose custom own .fromNative _ _).bind fun converter found => ?_
  dsimp only
  split
  next => exact (declares_lowering _ _).bind fun layout _ => .pure found
  next => exact .throw_bind (Fault.lasting_unsupportedType _) _

include custom in
theorem declares_resolveSignature {declaration : FunctionDeclaration}
    (own : ∀ item ∈ declaration.result :: declaration.parameters, Mapper.Found item.converter) :
    Declares Signature.FailsPassing (resolveSignature defaults declaration) := by
  obtain ⟨result, parameters⟩ := List.forall_mem_cons.1 own
  refine .bind (.mapM_all _ fun item known => declares_resolveParameter custom
    (parameters item known)) fun resolved ⟨_, good⟩ => ?_
  refine (declares_resolveResult custom result).bind fun slot received => ?_
  exact .bind .get fun world _ => .pure ⟨good, received⟩

end Resolved

end World

end ForeignCall
