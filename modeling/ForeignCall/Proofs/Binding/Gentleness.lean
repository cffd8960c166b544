import ForeignCall.Proofs.Binding.Beginning
import ForeignCall.Proofs.Call.Preparation

/-! The converters of resolved signatures. Those of the library are gentle, and where mappers and
declarations bring gentle ones only, so are all that a signature comes to have. -/

namespace ForeignCall

def Brings (found : Option Converter) : Prop :=
  ∀ converter, found = some converter → converter.Gentle

def Mapper.Gentle (mapper : Mapper) (state : MapperState) : Prop :=
  ∀ way type context body, mapper.answering state way type context = .ok (some body) → body.Gentle

theorem Mapper.gentle_builtin (state : MapperState) : builtin.Gentle state := by
  intro way type context body answers
  rw [answering] at answers
  exact (ConverterBody.mild_of_builtin? answers).gentle

theorem Mapper.gentle_chain {mappers : List Mapper} {state : MapperState}
    (all : ∀ mapper ∈ mappers, mapper.Gentle state) : (chain mappers).Gentle state := by
  intro way type context body answers
  rw [answering] at answers
  induction mappers with
  | nil => cases answers
  | cons first rest ih =>
      rw [answeringFirst] at answers
      dsimp only at answers
      split at answers
      next => exact ih (fun mapper known => all mapper (by simp [known])) answers
      next => exact all first (by simp) way type context body answers

theorem Pipeline.gentle_mapper {pipeline : Pipeline} {state : MapperState}
    (fresh : state.cache pipeline.cache = [])
    (custom : ∀ mapper, pipeline.custom = some mapper → mapper.Gentle state) :
    pipeline.mapper.Gentle state := by
  intro way type context body answers
  have chained : (Mapper.chain (pipeline.custom.toList ++ [.builtin])).Gentle state := by
    refine Mapper.gentle_chain fun mapper known => ?_
    rcases List.mem_append.1 known with added | last
    · exact custom mapper (Option.mem_toList.1 added)
    · rw [List.mem_singleton.1 last]
      exact Mapper.gentle_builtin state
  refine chained way type context body ?_
  rwa [Pipeline.mapper, Mapper.answering_of_unshared] at answers
  intro found known
  rw [fresh] at known
  cases known

namespace World

section Resolved

variable {origin : World} {behind : Nat → CacheKey → Except Fault (Option ConverterBody)}
  (closures : origin.Stocks behind origin.closureConverters) {defaults : SignatureDefaults}
  (encodes : defaults.encoding = origin.encoding)
  (stocks : origin.Stocks behind defaults.converters)
  (gentle : defaults.converters.mapper.Gentle origin.mappers)

include encodes stocks gentle in
theorem brings_choose (way : Way) {declaration : ValueDeclaration}
    (own : Brings declaration.converter) :
    Act.Ensures (origin.Kindred behind) Brings
      (liftM (defaults.converters.choose way declaration.converter declaration.type
        ⟨declaration.annotations, defaults.encoding⟩) : Act World (Option Converter)) := by
  have keeps := (settled_converter encodes stocks way declaration).keeps
  intro world outcome after holds ran
  refine ⟨(keeps world outcome after holds ran).1, ?_⟩
  cases known : declaration.converter with
  | some converter =>
      rw [known] at ran own
      cases ran
      rintro _ ⟨⟩
      exact own
  | none =>
      rw [known] at ran
      have answered := (Mapper.answers_lookup way declaration.type declaration.annotations
        defaults.converters.mapper stocks world.mappers holds.mappers).2
      cases ran
      rintro found answer converter rfl
      rw [encodes] at answer
      have body := congrArg (Except.map (Option.map Converter.toConverterBody)) answer
      exact gentle way declaration.type ⟨declaration.annotations, origin.encoding⟩ _
        (answered.symm.trans body)

include closures encodes stocks gentle in
theorem gentle_resolveParameter {declaration : ValueDeclaration}
    (own : Brings declaration.converter) :
    (resolveParameter defaults declaration).Ensures (origin.Kindred behind) (·.Gentle) := by
  refine (brings_choose encodes stocks gentle .toNative own).bind fun converter brings => ?_
  refine (settled_lowering _ _).keeps.bind fun layout _ => ?_
  exact (settled_parameterKind closures _ _ _).keeps.bind fun kind _ => .pure brings

include encodes stocks gentle in
theorem gentle_resolveResult {declaration : ValueDeclaration}
    (own : Brings declaration.converter) :
    (resolveResult defaults declaration).Ensures (origin.Kindred behind) (·.Gentle) := by
  refine (brings_choose encodes stocks gentle .fromNative own).bind fun converter brings => ?_
  dsimp only
  split
  next => exact (settled_lowering _ _).keeps.bind fun layout _ => .pure brings
  next => exact .throw_bind _ _

include closures encodes stocks gentle in
theorem gentle_resolveSignature {declaration : FunctionDeclaration}
    (parameters : ∀ item ∈ declaration.parameters, Brings item.converter)
    (result : Brings declaration.result.converter) :
    (resolveSignature defaults declaration).Ensures (origin.Kindred behind) Signature.Gentle := by
  have each : ∀ item ∈ declaration.parameters,
      (resolveParameter defaults item).Ensures (origin.Kindred behind) (·.Gentle) :=
    fun item known => gentle_resolveParameter closures encodes stocks gentle (parameters item known)
  refine (Act.Ensures.mapM_all _ each).bind fun parameters good => ?_
  refine (gentle_resolveResult encodes stocks gentle result).bind fun slot received => ?_
  exact Act.Ensures.get.bind fun world _ => .pure ⟨good, received⟩

end Resolved

/-- All that is resolved for a library that was opened with gentle converters is gentle. -/
theorem gentle_of_newBinder {options : LibraryOptions} {world opened : World} {binder : Binder}
    (furnished : world.Furnished)
    (provided : ∀ mapper, options.mapper = some mapper →
      world.Provides mapper ∧ mapper.Gentle opened.mappers)
    (opens : (newBinder options).run world = (binder, opened)) :
    ∃ behind, opened.Kindred behind opened ∧ ∀ declaration : FunctionDeclaration,
      (∀ item ∈ declaration.result :: declaration.parameters, Brings item.converter) →
        (resolveSignature binder.defaults declaration).Ensures (opened.Kindred behind)
          Signature.Gentle := by
  obtain ⟨behind, kindred, closures, stocks, encodes⟩ := kindred_newBinder furnished
    (fun mapper known => (provided mapper known).1) opens
  have gentle : binder.defaults.converters.mapper.Gentle opened.mappers := by
    refine Pipeline.gentle_mapper ?_ ?_
    · cases opens
      simp [MapperState.cache]
    · cases opens
      exact fun mapper known => (provided mapper known).2
  refine ⟨behind, kindred, fun declaration own => ?_⟩
  exact gentle_resolveSignature closures encodes stocks gentle
    (fun item known => own item (List.mem_cons_of_mem _ known)) (own _ List.mem_cons_self)

end World

end ForeignCall
