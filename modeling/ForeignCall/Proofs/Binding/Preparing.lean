import ForeignCall.Binding.Library
import ForeignCall.Proofs.Binding.Resolving

/-! Preparing functions: the same declaration comes to the same strategy, address and signature,
whatever is prepared before it. -/

namespace ForeignCall

def Converter.essence (converter : Converter) : Converter := { converter with identity := 0 }

def Passage.essence (passage : Passage) : Passage :=
  { passage with converter := passage.converter.map (·.essence) }

def ParameterKind.essence : ParameterKind → ParameterKind
  | callback _ => callback 0
  | kind => kind

def Parameter.essence (parameter : Parameter) : Parameter :=
  { parameter with
    toPassage := parameter.toPassage.essence
    kind := parameter.kind.essence }

def ResultSlot.essence (slot : ResultSlot) : ResultSlot :=
  { slot with toPassage := slot.toPassage.essence }

namespace Signature

/-- A signature, but for the identities of converters and call sites. -/
def essence (signature : Signature) : Signature :=
  { signature with
    parameters := signature.parameters.map (·.essence)
    result := signature.result.essence }

end Signature

namespace Strategy

end Strategy

def PreparedFunction.essence (prepared : PreparedFunction) : PreparedFunction :=
  { prepared with signature := prepared.signature.essence }

def CallPath.essence : CallPath → CallPath
  | stub _ _ => stub 0 0
  | path => path

def BoundFunction.essence (bound : BoundFunction) : BoundFunction :=
  { bound with signature := bound.signature.essence, path := bound.path.essence }

/-- An entry point, but for the identities of converters and call sites and the places of stubs. -/
def EntryPoint.essence (entry : EntryPoint) : EntryPoint :=
  { entry with outcome := entry.outcome.map (·.essence) }

namespace World

variable {origin : World} {behind : Nat → CacheKey → Except Fault (Option ConverterBody)}

section Signatures

variable (closures : origin.Stocks behind origin.closureConverters)

include closures in
theorem settled_newSite (type : CallbackType) :
    Act.Settled (origin.Kindred behind) (fun _ => ()) (newSite type) := by
  refine (settled_openPool closures type).bind fun _ _ _ => ?_
  have listed : ∀ (pool : Nat) (world : World), origin.Kindred behind world →
      origin.Kindred behind { world with sites := world.sites ++ [{ pool }] } :=
    fun _ world kindred =>
      ⟨{ kindred.toResembles with }, kindred.opened, kindred.passable⟩
  exact .ofState (listed _) (listed _) fun _ _ _ _ => rfl

include closures in
theorem settled_parameterKind (carrier : HostType) (native : CType) (annotations : Annotations) :
    Act.Settled (origin.Kindred behind) (·.essence) (parameterKind carrier native annotations) := by
  unfold parameterKind
  split
  next => exact .pure rfl
  next => exact .pure rfl
  next => exact (settled_newSite closures _).bind fun _ _ _ => .pure rfl
  next =>
    split
    next => exact .pure rfl
    next => exact .throw _

variable {defaults : SignatureDefaults} (encodes : defaults.encoding = origin.encoding)
  (stocks : origin.Stocks behind defaults.converters)

include encodes stocks in
theorem settled_converter (way : Way) (declaration : ValueDeclaration) :
    Act.Settled (origin.Kindred behind) (Option.map (·.toConverterBody))
      (liftM (defaults.converters.choose way declaration.converter declaration.type
        ⟨declaration.annotations, defaults.encoding⟩) : Act World (Option Converter)) := by
  rw [encodes]
  exact Kindred.settled (settled_choose stocks way declaration.converter declaration.type _)
    fun pools => keeps_pools_onMappers pools _

theorem settled_lowering (type : HostType) (annotations : Annotations) :
    Act.Settled (origin.Kindred behind) CLayout.type
      (liftM (LoweringTable.resolve type annotations) : Act World CLayout) :=
  Kindred.settled (settled_resolve type annotations) fun pools => keeps_pools_onTypes pools _

end Signatures

section Functions

variable (closures : origin.Stocks behind origin.closureConverters) {binder : Binder}
  (encodes : binder.defaults.encoding = origin.encoding)
  (stocks : origin.Stocks behind binder.defaults.converters)

end Functions

end World

end ForeignCall
