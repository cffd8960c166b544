import ForeignCall.Proofs.Binding.Resolving
import ForeignCall.Proofs.Closure.Indifference
import ForeignCall.Proofs.Converter.Plain

/-! Shapes of closures: each parameter of a callback type crosses as the result of a function would,
and its result as a parameter of a function would. -/

namespace ForeignCall

/-- What a callback type comes to, at an encoding and a data model: everything crosses in the way in
which it crosses with the converters of the library. -/
structure ClosureShape.Plain (shape : ClosureShape) (type : CallbackType)
    (encoding : TextEncoding) (model : DataModel) : Prop where
  parameters : List.Forall₂ (fun type passage =>
    passage.Plain .fromNative type encoding ∧ passage.carrier.isScalar = true)
      type.parameters shape.parameters
  result : shape.result.Plain .toNative type.result encoding
  returned : (shape.result.carrier.isScalar || shape.result.carrier.isVoid) = true
  context : shape.context = ⟨.empty, encoding⟩
  interface : shape.interface = ⟨shape.parameters.map (·.native), shape.result.native, model⟩

namespace World

structure Plain (pipeline : Pipeline) (encoding : TextEncoding) (model : DataModel)
    (world : World) : Prop where
  closures : world.closureConverters = pipeline
  converters : pipeline.Plain encoding world.mappers
  encodes : world.encoding = encoding
  lowers : world.model = model

section Shapes

variable {pipeline : Pipeline} {encoding : TextEncoding} {model : DataModel}

theorem ensures_choose (way : Way) (type : HostType) :
    Act.Ensures (World.Plain pipeline encoding model)
      (fun converter => ConverterBody.builtin? way type ⟨.empty, encoding⟩ =
        .ok (converter.map (·.toConverterBody)))
      (liftM (pipeline.choose way none type ⟨.empty, encoding⟩) :
        Act World (Option Converter)) := by
  rintro world outcome after plain ran
  cases ran
  obtain ⟨kept, answered⟩ := plain.converters.choose way type .empty
  refine ⟨{ plain with converters := kept }, fun converter found => ?_⟩
  rw [← answered]
  exact congrArg (Except.map _) found

theorem ensures_resolve (type : HostType) :
    Act.Ensures (World.Plain pipeline encoding model)
      (fun layout => lower type .empty = .ok layout.type)
      (liftM (LoweringTable.resolve type .empty) : Act World CLayout) := by
  rintro world outcome after plain ran
  cases ran
  obtain ⟨kept, lowered⟩ := world.types.run_resolve type .empty
  refine ⟨{ plain with lowers := kept.trans plain.lowers }, fun layout found => ?_⟩
  rw [← lowered]
  exact congrArg (Except.map _) found

theorem ensures_passage (way : Way) (type : HostType) (allowed : HostType → Bool)
    (fault : Fault) :
    Act.Ensures (World.Plain pipeline encoding model)
      (fun passage => passage.Plain way type encoding ∧ allowed passage.carrier = true) (do
        let converter ← (← get).closureConverters.choose way none type ⟨.empty, encoding⟩
        let carrier := (converter.map (·.carrier)).getD type
        unless allowed carrier do throw fault
        return ⟨carrier, (← LoweringTable.resolve carrier .empty).type, converter⟩ :
          Act World Passage) := by
  refine Act.Ensures.get.bind fun world holds => ?_
  rw [holds.closures]
  refine (ensures_choose way type).bind fun converter found => ?_
  dsimp only
  split
  next fits =>
    exact (ensures_resolve _).bind fun layout lowered => .pure ⟨⟨found, rfl, lowered⟩, fits⟩
  next => exact .throw_bind fault _

theorem ensures_buildShape (type : CallbackType) :
    (buildShape type).Ensures (World.Plain pipeline encoding model)
      (·.Plain type encoding model) := by
  refine Act.Ensures.get.bind fun world holds => ?_
  rw [holds.encodes]
  have each : ∀ item ∈ type.parameters,
      (passageIn ⟨.empty, encoding⟩ item).Ensures (World.Plain pipeline encoding model)
        fun passage => passage.Plain .fromNative item encoding ∧
          passage.carrier.isScalar = true :=
    fun item _ => ensures_passage .fromNative item (·.isScalar) _
  have last : (passageOut ⟨.empty, encoding⟩ type.result).Ensures
      (World.Plain pipeline encoding model) fun passage =>
        passage.Plain .toNative type.result encoding ∧
          (passage.carrier.isScalar || passage.carrier.isVoid) = true :=
    ensures_passage .toNative type.result (fun type => type.isScalar || type.isVoid) _
  refine (Act.Ensures.forall₂_mapM _ each).bind fun parameters all => ?_
  refine last.bind fun result ⟨crosses, fits⟩ => Act.Ensures.get.bind fun world holds => ?_
  rw [CallInterface.prepare_named_all, holds.lowers]
  refine .bind (.ofExcept fun _ prepared => prepared) fun interface prepared => ?_
  exact .pure ⟨all, crosses, fits, rfl, (Except.ok.inj prepared).symm⟩

theorem indifferent_plain : Indifferent (World.Plain pipeline encoding model) where
  pools _ _ plain := { plain with }
  sites _ _ plain := { plain with }
  journal _ _ plain := { plain with }
  allocate _ := by
    rintro world outcome after plain ran
    cases ran
    exact ⟨{ plain with }, fun _ _ => trivial⟩

theorem resolvable_plain : Resolvable (World.Plain pipeline encoding model) where
  choose world other plain known way type := by
    rw [plain.closures, known.encodes]
    exact (ensures_choose way type).weaken fun _ _ => trivial
  resolve type annotations := by
    rintro world outcome after plain ran
    cases ran
    have kept := (world.types.run_resolve type annotations).1
    exact ⟨{ plain with lowers := kept.trans plain.lowers }, fun _ _ => trivial⟩

theorem Plain.newCallableAt {world : World} (plain : world.Plain pipeline encoding model)
    (identity : Nat) (respond : List Value → StateM Heap Response) :
    ((World.newCallableAt identity respond).run world).2.Plain pipeline encoding model :=
  { plain with }

end Shapes

theorem Plain.of_run_buildShape {pipeline : Pipeline} {encoding : TextEncoding} {model : DataModel}
    {origin built : World} {type : CallbackType} {shape : ClosureShape}
    (plain : origin.Plain pipeline encoding model)
    (builds : (buildShape type).run.run origin = (.ok shape, built)) :
    shape.Plain type encoding model :=
  (ensures_buildShape type origin _ built plain builds).2 shape rfl

theorem plain_of_start {config : Config} {policy : Option PagePolicy} {world : World}
    (started : World.start config policy = .ok world) :
    world.Plain world.closureConverters config.encoding config.model := by
  obtain ⟨granting, event, rfl⟩ := eq_of_start started
  exact ⟨rfl, .of_empty rfl rfl, rfl, rfl⟩

section Signatures

variable {defaults : SignatureDefaults} {world : World} {type : HostType} {passage : Passage}

theorem run_choose_of_plain {way : Way}
    (plain : defaults.converters.Plain defaults.encoding world.mappers)
    (crosses : passage.Plain way type defaults.encoding) :
    ∃ converter after,
      (liftM (defaults.converters.choose way none type ⟨.empty, defaults.encoding⟩) :
        Act World (Option Converter)).run.run world = (.ok converter, after) ∧
      converter.map (·.toConverterBody) = passage.converter.map (·.toConverterBody) :=
  Act.exists_run_of_map ((plain.choose way type .empty).2.trans crosses.found)

theorem run_resolve_of_lower {carrier : HostType} {annotations : Annotations} {native : CType}
    (lowered : lower carrier annotations = .ok native) (world : World) :
    ∃ layout after, (liftM (LoweringTable.resolve carrier annotations) : Act World CLayout).run.run
      world = (.ok layout, after) ∧ layout.type = native :=
  Act.exists_run_of_map ((world.types.run_resolve carrier annotations).2.trans lowered)

def ResolvesResult (world : World) (defaults : SignatureDefaults) (type : HostType)
    (slot : ResultSlot) : Prop :=
  ∃ after, (resolveResult defaults ⟨type, .empty, none⟩).run.run world = (.ok slot, after)

def ResolvesParameter (world : World) (defaults : SignatureDefaults) (type : HostType)
    (parameter : Parameter) : Prop :=
  ∃ after, (resolveParameter defaults ⟨type, .empty, none⟩).run.run world = (.ok parameter, after)

theorem exists_resolvesResult (plain : defaults.converters.Plain defaults.encoding world.mappers)
    (crosses : passage.Plain .fromNative type defaults.encoding)
    (fits : passage.carrier.isScalar = true) :
    ∃ slot, world.ResolvesResult defaults type slot ∧
      slot.Plain .fromNative type defaults.encoding ∧
      slot.context = ⟨.empty, defaults.encoding⟩ := by
  obtain ⟨converter, chosen, chooses, bodies⟩ := run_choose_of_plain plain crosses
  have carried : (converter.map (·.carrier)).getD type = passage.carrier :=
    (carrier_eq bodies type).trans crosses.carried.symm
  obtain ⟨layout, after, resolves, native⟩ := run_resolve_of_lower crosses.lowered chosen
  let slot : ResultSlot := ⟨⟨passage.carrier, layout.type, converter⟩, type,
    ⟨.empty, defaults.encoding⟩⟩
  refine ⟨slot, ⟨after, ?_⟩, ⟨?_, ?_, ?_⟩, rfl⟩
  · rw [resolveResult, Act.run_bind]
    dsimp only
    rw [chooses]
    dsimp only
    rw [carried, fits, Bool.true_or, if_pos rfl]
    rw [Act.run_bind, resolves]
    rfl
  · exact crosses.found.trans (congrArg Except.ok bodies.symm)
  · exact carried.symm
  · exact crosses.lowered.trans (congrArg Except.ok native.symm)

theorem exists_parameterKind {carrier : HostType} (scalar : carrier.isScalar = true)
    (native : CType) (annotations : Annotations) :
    ∃ kind, parameterKind carrier native annotations = pure kind := by
  cases carrier with
  | void | text | array | struct | enum | enumSet | callback | named => cases scalar
  | _ => exact ⟨_, rfl⟩

theorem annotations_eq_empty {converter : Option Converter}
    (found : ConverterBody.builtin? .toNative type ⟨.empty, defaults.encoding⟩ =
      .ok (converter.map (·.toConverterBody)))
    (fits : ((converter.map (·.carrier)).getD type).isScalar = true) :
    (match converter with
      | some converter => Annotations.empty.union converter.annotations
      | none => .empty) = .empty := by
  cases converter with
  | none => rfl
  | some converter =>
      dsimp only
      rw [(ConverterBody.of_builtin?_toNative found fits).2]
      rfl

theorem exists_resolvesParameter
    (plain : defaults.converters.Plain defaults.encoding world.mappers)
    (crosses : passage.Plain .toNative type defaults.encoding)
    (fits : passage.carrier.isScalar = true) :
    ∃ parameter, world.ResolvesParameter defaults type parameter ∧
      parameter.Plain .toNative type defaults.encoding ∧
      parameter.context = ⟨.empty, defaults.encoding⟩ := by
  obtain ⟨converter, chosen, chooses, bodies⟩ := run_choose_of_plain plain crosses
  have carried : (converter.map (·.carrier)).getD type = passage.carrier :=
    (carrier_eq bodies type).trans crosses.carried.symm
  have found := crosses.found.trans (congrArg Except.ok bodies.symm)
  have unmarked := annotations_eq_empty found (carried.symm ▸ fits)
  obtain ⟨layout, after, resolves, native⟩ := run_resolve_of_lower crosses.lowered chosen
  obtain ⟨kind, passed⟩ := exists_parameterKind fits layout.type .empty
  let parameter : Parameter := ⟨⟨passage.carrier, layout.type, converter⟩, type, .empty,
    ⟨.empty, defaults.encoding⟩, kind⟩
  have ends : ∀ annotations, annotations = Annotations.empty → (do
      let native := (← LoweringTable.resolve passage.carrier annotations).type
      let kind ← parameterKind passage.carrier native annotations
      return { parameter with native, annotations, kind } :
        Act World Parameter).run.run chosen = (.ok parameter, after) := by
    rintro _ rfl
    rw [Act.run_bind, resolves]
    dsimp only
    rw [passed]
    rfl
  refine ⟨parameter, ⟨after, ?_⟩, ⟨found, carried.symm, ?_⟩, rfl⟩
  · rw [resolveParameter, Act.run_bind]
    dsimp only
    rw [chooses]
    dsimp only
    rw [carried]
    exact ends _ unmarked
  · exact crosses.lowered.trans (congrArg Except.ok native.symm)

end Signatures

end World

end ForeignCall
