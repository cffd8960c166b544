import ForeignCall.Binding.Library
import ForeignCall.Proofs.Binding.Resolving
import ForeignCall.Proofs.Signature

/-! Invariants that preparing a function cannot break: converters are found, types are lowered and
callback types get their entries without a change of what such an invariant is about. -/

namespace ForeignCall

namespace World

/-- An invariant that is not about the tables of types and of converters, nor about call sites and
pools that are still empty. -/
structure Upheld (invariant : World → Prop) : Prop where
  mappers : ∀ world mappers, invariant world → invariant { world with mappers }
  types : ∀ world types, invariant world → invariant { world with types }
  sites : ∀ world sites, invariant world → invariant { world with sites }
  newEntry : ∀ world type, invariant world →
    invariant { world with pools := world.pools ++ [(type, none)] }
  newPool : ∀ world number shape magazinePages, world.pool? number = none → invariant world →
    invariant (world.withPool number { shape, magazinePages })

namespace Upheld

variable {invariant : World → Prop} (upheld : Upheld invariant)
include upheld

theorem onMappers {Result : Type} (action : Act MapperState Result) :
    (liftM action : Act World Result).Keeps invariant := by
  intro world outcome after holds ran
  cases ran
  exact ⟨upheld.mappers world _ holds, fun _ _ => trivial⟩

theorem onTypes {Result : Type} (action : Act LoweringTable Result) :
    (liftM action : Act World Result).Keeps invariant := by
  intro world outcome after holds ran
  cases ran
  exact ⟨upheld.types world _ holds, fun _ _ => trivial⟩

theorem resolvable : Resolvable invariant where
  choose _ _ _ _ _ _ := upheld.onMappers _
  resolve _ _ := upheld.onTypes _

theorem openPool (type : CallbackType) : (World.openPool type).Keeps invariant := by
  intro world outcome after holds ran
  refine ⟨?_, fun _ _ => trivial⟩
  have entered : invariant ((poolNumber type).run world).2 := by
    rw [run_poolNumber]
    split
    next => exact holds
    next => exact upheld.newEntry world type holds
  rw [run_openPool] at ran
  generalize (poolNumber type).run world = entry at *
  obtain ⟨number, opened⟩ := entry
  dsimp only at entered ran
  cases absent : opened.pool? number with
  | some pool =>
    rw [absent] at ran
    cases ran
    exact entered
  | none =>
    rw [absent] at ran
    dsimp only at ran
    generalize built : (buildShape type).run.run opened = ended at ran
    obtain ⟨outcome, between⟩ : Except Fault ClosureShape × World := ended
    have prepared := Act.Keeps.of_run invariant built entered
      (upheld.resolvable.keeps_buildShape type)
    have same : between.pools = opened.pools :=
      ((resolvable_pools opened.pools).keeps_buildShape type _ _ _ rfl built).1
    rw [pool?, ← same] at absent
    cases outcome with
    | error fault =>
      cases ran
      exact prepared
    | ok shape =>
      cases ran
      exact upheld.newPool between number shape _ absent prepared

theorem newSite (type : CallbackType) : (World.newSite type).Keeps invariant :=
  keeps_newSite upheld.openPool upheld.sites type

theorem resolveParameter (defaults : SignatureDefaults) (declaration : ValueDeclaration) :
    (World.resolveParameter defaults declaration).Keeps invariant := by
  refine (upheld.onMappers _).bind fun converter _ => (upheld.onTypes _).bind fun layout _ => ?_
  refine (keeps_parameterKind upheld.openPool upheld.sites _ _ _).bind fun kind _ => ?_
  exact .pure trivial

theorem resolveResult (defaults : SignatureDefaults) (declaration : ValueDeclaration) :
    (World.resolveResult defaults declaration).Keeps invariant := by
  refine (upheld.onMappers _).bind fun converter _ => ?_
  dsimp only
  split
  next => exact (upheld.onTypes _).bind fun layout _ => .pure trivial
  next => exact .throw_bind _ _

theorem resolveSignature (defaults : SignatureDefaults) (declaration : FunctionDeclaration) :
    (World.resolveSignature defaults declaration).Keeps invariant := by
  have each : ∀ item ∈ declaration.parameters,
      (World.resolveParameter defaults item).Keeps invariant :=
    fun item _ => upheld.resolveParameter defaults item
  exact (ensures_resolveSignature each
    (upheld.resolveResult defaults declaration.result)).weaken fun _ _ => trivial

theorem prepare (symbols : SymbolTable) (binder : Binder) (declaration : FunctionDeclaration) :
    (World.prepare symbols binder declaration).Keeps invariant := by
  refine .bind (.ofExcept fun _ _ => trivial) fun address _ => ?_
  refine (upheld.resolveSignature binder.defaults declaration).bind fun signature _ => ?_
  exact .bind (.ofExcept fun _ _ => trivial) fun strategy _ => .pure trivial

end Upheld

end World

end ForeignCall
