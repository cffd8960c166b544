import ForeignCall.Proofs.Binding.Finding
import ForeignCall.Proofs.Closure.Upkeep
import ForeignCall.Signature

/-! Resolving signatures: whatever else is resolved before, the same declaration comes to the same
signature, or to the same fault. -/

namespace ForeignCall

theorem LoweringTable.run_resolve (type : HostType) (annotations : Annotations)
    (table : LoweringTable) :
    ((resolve type annotations).run.run table).2.model = table.model ∧
      ((resolve type annotations).run.run table).1.map CLayout.type = lower type annotations := by
  rw [resolve, Act.run_bind, Act.run_get]
  dsimp only
  cases found : table.find? type annotations with
  | some layout => exact ⟨rfl, (lower_of_find? found).symm⟩
  | none =>
      dsimp only
      split
      next native lowered => exact ⟨rfl, lowered.symm⟩
      next fault refused => exact ⟨rfl, refused.symm⟩

namespace World

variable {origin : World} {behind : Nat → CacheKey → Except Fault (Option ConverterBody)}

/-- A world in which functions look as they looked in another one. -/
structure Resembles (origin : World)
    (behind : Nat → CacheKey → Except Fault (Option ConverterBody)) (world : World) : Prop where
  config : world.config = origin.config
  model : world.types.model = origin.types.model
  closures : world.closureConverters = origin.closureConverters
  mappers : origin.mappers.Grown behind world.mappers
  memory : world.memory = origin.memory
  policy : world.policy = origin.policy
  blocks : world.blocks = origin.blocks
  history : world.history = origin.history

def Stocks (origin : World) (behind : Nat → CacheKey → Except Fault (Option ConverterBody))
    (pipeline : Pipeline) : Prop :=
  pipeline.mapper.Backed origin.mappers behind origin.encoding

theorem settled_choose {pipeline : Pipeline} (stocks : origin.Stocks behind pipeline) (way : Way)
    (explicit : Option Converter) (type : HostType) (annotations : Annotations) :
    Act.Settled (origin.Resembles behind) (Option.map (·.toConverterBody))
      (liftM (pipeline.choose way explicit type ⟨annotations, origin.encoding⟩) :
        Act World (Option Converter)) := by
  cases explicit with
  | some converter => exact .pure rfl
  | none =>
      intro left right leftHolds rightHolds
      have answers := Mapper.answers_lookup way type annotations pipeline.mapper stocks
      obtain ⟨leftGrown, leftAnswer⟩ := answers left.mappers leftHolds.mappers
      obtain ⟨rightGrown, rightAnswer⟩ := answers right.mappers rightHolds.mappers
      exact ⟨{ leftHolds with mappers := leftGrown }, { rightHolds with mappers := rightGrown },
        leftAnswer.trans rightAnswer.symm⟩

theorem settled_resolve (type : HostType) (annotations : Annotations) :
    Act.Settled (origin.Resembles behind) CLayout.type
      (liftM (LoweringTable.resolve type annotations) : Act World CLayout) := by
  intro left right leftHolds rightHolds
  obtain ⟨leftModel, leftLowers⟩ := left.types.run_resolve type annotations
  obtain ⟨rightModel, rightLowers⟩ := right.types.run_resolve type annotations
  exact ⟨{ leftHolds with model := leftModel.trans leftHolds.model },
    { rightHolds with model := rightModel.trans rightHolds.model },
    leftLowers.trans rightLowers.symm⟩

theorem carrier_eq {left right : Option Converter}
    (same : left.map (·.toConverterBody) = right.map (·.toConverterBody)) (type : HostType) :
    (left.map (·.carrier)).getD type = (right.map (·.carrier)).getD type := by
  have carriers := congrArg (Option.map ConverterBody.carrier) same
  rw [Option.map_map, Option.map_map] at carriers
  exact congrArg (·.getD type) carriers

section Shapes

variable (closures : origin.Stocks behind origin.closureConverters)

include closures in
theorem settled_passage (way : Way) (type : HostType) (allowed : HostType → Bool)
    (fault : Fault) :
    Act.Settled (origin.Resembles behind) (·.native) (do
      let converter ← (← get).closureConverters.choose way none type ⟨.empty, origin.encoding⟩
      let carrier := (converter.map (·.carrier)).getD type
      unless allowed carrier do throw fault
      return ⟨carrier, (← LoweringTable.resolve carrier .empty).type, converter⟩ :
        Act World Passage) := by
  refine .get_bind fun left right leftHolds rightHolds => ?_
  rw [leftHolds.closures, rightHolds.closures]
  refine (settled_choose closures way none type .empty).bind fun found twin same => ?_
  dsimp only
  rw [carrier_eq same]
  split
  next =>
    exact (settled_resolve _ .empty).bind fun _ _ native => .pure native
  next => exact .throw_bind fault _ _

include closures in
theorem settled_buildShape (type : CallbackType) :
    Act.Settled (origin.Resembles behind) (fun _ => ()) (buildShape type) := by
  refine .get_bind fun left right leftHolds rightHolds => ?_
  have encodings : left.encoding = origin.encoding ∧ right.encoding = origin.encoding :=
    ⟨congrArg Config.encoding leftHolds.config, congrArg Config.encoding rightHolds.config⟩
  rw [encodings.1, encodings.2]
  have each : ∀ item ∈ type.parameters, Act.Settled (origin.Resembles behind) (·.native)
      (passageIn ⟨.empty, origin.encoding⟩ item) :=
    fun item _ => settled_passage closures .fromNative item (·.isScalar) _
  refine (Act.Alike.mapM _ each).bind fun parameters others natives => ?_
  have last : Act.Settled (origin.Resembles behind) (·.native)
      (passageOut ⟨.empty, origin.encoding⟩ type.result) :=
    settled_passage closures .toNative type.result (fun type => type.isScalar || type.isVoid) _
  refine last.bind fun result twin native => .get_bind fun before after leftHolds rightHolds => ?_
  have models : before.model = after.model := leftHolds.model.trans rightHolds.model.symm
  rw [natives, native, models]
  have prepared : Act.Settled (origin.Resembles behind) (fun _ => ())
      (liftM (CallInterface.prepare (others.map (·.native)) none twin.native after.model) :
        Act World CallInterface) := .ofExcept rfl
  exact prepared.bind fun _ _ _ => .pure rfl

end Shapes

theorem holds_poolNumber {invariant : World → Prop}
    (pools : ∀ world pools, invariant world → invariant { world with pools })
    (type : CallbackType) {world : World} (holds : invariant world) :
    invariant ((poolNumber type).run world).2 := by
  rw [run_poolNumber]
  split
  next => exact holds
  next => exact pools world _ holds

/-- An invariant that neither the search for converters of callback types nor lowering can break. -/
structure Resolvable (invariant : World → Prop) : Prop where
  choose : ∀ world other, invariant world → invariant other → ∀ (way : Way) (type : HostType),
    Act.Keeps invariant (liftM
      (world.closureConverters.choose way none type ⟨.empty, other.encoding⟩) :
        Act World (Option Converter))
  resolve : ∀ (type : HostType) (annotations : Annotations), Act.Keeps invariant
    (liftM (LoweringTable.resolve type annotations) : Act World CLayout)

namespace Resolvable

variable {invariant : World → Prop} (resolvable : Resolvable invariant)
include resolvable

theorem keeps_passage {other : World} (known : invariant other) (way : Way) (type : HostType)
    (allowed : HostType → Bool) (fault : Fault) :
    Act.Keeps invariant (do
      let converter ← (← get).closureConverters.choose way none type ⟨.empty, other.encoding⟩
      let carrier := (converter.map (·.carrier)).getD type
      unless allowed carrier do throw fault
      return ⟨carrier, (← LoweringTable.resolve carrier .empty).type, converter⟩ :
        Act World Passage) := by
  refine Act.Ensures.get.bind fun world holds => ?_
  refine (resolvable.choose world other holds known way type).bind fun found _ => ?_
  dsimp only
  split
  next => exact (resolvable.resolve _ _).bind fun _ _ => .pure trivial
  next => exact .throw_bind fault _

theorem keeps_buildShape (type : CallbackType) : (buildShape type).Keeps invariant := by
  refine Act.Ensures.get.bind fun world holds => ?_
  have each : ∀ item ∈ type.parameters,
      (passageIn ⟨.empty, world.encoding⟩ item).Keeps invariant :=
    fun item _ => resolvable.keeps_passage holds .fromNative item (·.isScalar) _
  refine (Act.Ensures.mapM_all _ each).bind fun parameters _ => ?_
  have last : (passageOut ⟨.empty, world.encoding⟩ type.result).Keeps invariant :=
    resolvable.keeps_passage holds .toNative type.result
      (fun type => type.isScalar || type.isVoid) _
  refine last.bind fun result _ => Act.Ensures.get.bind fun _ _ => ?_
  exact .bind (.ofExcept fun _ _ => trivial) fun _ _ => .pure trivial

theorem keeps_openPool (pools : ∀ world pools, invariant world → invariant { world with pools })
    (type : CallbackType) : (openPool type).Keeps invariant := by
  refine .bind (Act.keeps_ofState fun _ => holds_poolNumber pools type) fun number _ => ?_
  refine Act.Ensures.get.bind fun world _ => ?_
  split
  next =>
    refine (resolvable.keeps_buildShape type).bind fun shape _ => ?_
    refine Act.Ensures.get.bind fun built _ => ?_
    exact .bind (Act.keeps_ofState fun world => pools world _) fun _ _ => .pure trivial
  next => exact .pure trivial

end Resolvable

section Sites

variable {invariant : World → Prop} (opens : ∀ type, (openPool type).Keeps invariant)
  (sites : ∀ world sites, invariant world → invariant { world with sites })
include opens sites

theorem keeps_newSite (type : CallbackType) : (newSite type).Keeps invariant :=
  (opens type).bind fun _ _ => Act.keeps_ofState fun world => sites world _

theorem keeps_parameterKind (carrier : HostType) (native : CType) (annotations : Annotations) :
    (parameterKind carrier native annotations).Keeps invariant := by
  unfold parameterKind
  split
  next => exact .pure trivial
  next => exact .pure trivial
  next => exact (keeps_newSite opens sites _).bind fun _ _ => .pure trivial
  next =>
    split
    next => exact .pure trivial
    next => exact .throw _

end Sites

theorem keeps_pools_onMappers {Result : Type} (pools : List (CallbackType × Option Pool))
    (action : Act MapperState Result) :
    Act.Keeps (fun world => world.pools = pools) (liftM action : Act World Result) := by
  intro world outcome after same ran
  cases ran
  exact ⟨same, fun _ _ => trivial⟩

theorem keeps_pools_onTypes {Result : Type} (pools : List (CallbackType × Option Pool))
    (action : Act LoweringTable Result) :
    Act.Keeps (fun world => world.pools = pools) (liftM action : Act World Result) := by
  intro world outcome after same ran
  cases ran
  exact ⟨same, fun _ _ => trivial⟩

theorem resolvable_pools (pools : List (CallbackType × Option Pool)) :
    Resolvable fun world => world.pools = pools where
  choose _ _ _ _ _ _ := keeps_pools_onMappers pools _
  resolve _ _ := keeps_pools_onTypes pools _

section Pools

def Opens (world : World) (type : CallbackType) : Prop :=
  ∃ number pool, world.pools.findIdx? (·.1 == type) = some number ∧
    world.pool? number = some pool

theorem opens_congr {left right : World} (same : left.pools = right.pools) (type : CallbackType) :
    left.Opens type ↔ right.Opens type := by
  simp only [Opens, pool?, same]

theorem opens_poolNumber (world : World) (type query : CallbackType) :
    ((poolNumber type).run world).2.Opens query ↔ world.Opens query := by
  rw [run_poolNumber]
  split
  next => rfl
  next missing =>
    let pools := world.pools ++ [(type, none)]
    have earlier : ∀ number < world.pools.length, pools[number]? = world.pools[number]? :=
      fun number below => List.getElem?_append_left below
    have split : pools.findIdx? (·.1 == query) = (world.pools.findIdx? (·.1 == query)).or
        (if type == query then some world.pools.length else none) := by
      simp only [pools, List.findIdx?_append, List.findIdx?_singleton, Option.map_if, Nat.zero_add]
    constructor
    · rintro ⟨number, pool, found, there⟩
      rw [split, Option.or_eq_some_iff] at found
      rcases found with found | ⟨_, last⟩
      · have inside := (List.findIdx?_eq_some_iff_getElem.1 found).1
        rw [pool?, earlier number inside] at there
        exact ⟨number, pool, found, there⟩
      · obtain ⟨_, same⟩ := Option.ite_none_right_eq_some.1 last
        cases same
        simp [pool?] at there
    · rintro ⟨number, pool, found, there⟩
      have inside := (List.findIdx?_eq_some_iff_getElem.1 found).1
      refine ⟨number, pool, ?_, ?_⟩
      · rw [split, found]
        rfl
      · rw [pool?, earlier number inside]
        exact there

theorem findIdx?_poolNumber (world : World) (type : CallbackType) :
    ((poolNumber type).run world).2.pools.findIdx? (·.1 == type) =
      some ((poolNumber type).run world).1 := by
  rw [run_poolNumber]
  split
  next number found => exact found
  next missing =>
    simp [List.findIdx?_append, missing]

theorem opens_withPool {world : World} {type : CallbackType} {number : Nat}
    (numbered : world.pools.findIdx? (·.1 == type) = some number) (pool : Pool)
    (query : CallbackType) :
    (world.withPool number pool).Opens query ↔ query = type ∨ world.Opens query := by
  have present := (List.findIdx?_eq_some_iff_getElem.1 numbered).1
  have index : ∀ pools : List (CallbackType × Option Pool), pools.findIdx? (·.1 == query) =
      (pools.map (·.1)).findIdx? (· == query) := by
    intro pools
    rw [List.findIdx?_map]
    rfl
  have same : (world.withPool number pool).pools.findIdx? (·.1 == query) =
      world.pools.findIdx? (·.1 == query) := by
    rw [index, index, types_withPool]
  simp only [Opens, same, pool?_withPool world present]
  constructor
  · rintro ⟨other, held, found, there⟩
    split at there
    next here =>
      subst here
      have first := (List.findIdx?_eq_some_iff_getElem.1 numbered).2.1
      have second := (List.findIdx?_eq_some_iff_getElem.1 found).2.1
      exact .inl ((eq_of_beq second).symm.trans (eq_of_beq first))
    next => exact .inr ⟨other, held, found, there⟩
  · rintro (rfl | ⟨other, held, found, there⟩)
    · exact ⟨number, pool, numbered, if_pos rfl⟩
    · by_cases here : other = number
      · exact ⟨other, pool, found, if_pos here⟩
      · exact ⟨other, held, found, (if_neg here).trans there⟩

end Pools

def Passable (origin : World) (behind : Nat → CacheKey → Except Fault (Option ConverterBody))
    (type : CallbackType) : Prop :=
  ∃ between shape after, origin.Resembles behind between ∧
    (buildShape type).run.run between = (.ok shape, after)

/-- A world in which callback types look as they looked in another one, too. -/
structure Kindred (origin : World)
    (behind : Nat → CacheKey → Except Fault (Option ConverterBody)) (world : World) : Prop
    extends origin.Resembles behind world where
  opened : ∀ type, origin.Opens type → world.Opens type
  passable : ∀ type, world.Opens type → origin.Opens type ∨ origin.Passable behind type

namespace Kindred

variable {world after : World}

theorem of_resembles (kindred : origin.Kindred behind world)
    (resembles : origin.Resembles behind after) (same : after.pools = world.pools) :
    origin.Kindred behind after :=
  ⟨resembles, fun type known => (opens_congr same type).2 (kindred.opened type known),
    fun type known => kindred.passable type ((opens_congr same type).1 known)⟩

theorem settled {Result View : Type} {view : Result → View} {action : Act World Result}
    (settled : Act.Settled (origin.Resembles behind) view action)
    (keeps : ∀ pools, action.Keeps fun world => world.pools = pools) :
    Act.Settled (origin.Kindred behind) view action := by
  intro left right leftHolds rightHolds
  obtain ⟨leftKept, rightKept, same⟩ :=
    settled left right leftHolds.toResembles rightHolds.toResembles
  exact ⟨leftHolds.of_resembles leftKept (keeps left.pools left _ _ rfl rfl).1,
    rightHolds.of_resembles rightKept (keeps right.pools right _ _ rfl rfl).1, same⟩

theorem poolNumber (kindred : origin.Kindred behind world) (type : CallbackType) :
    origin.Kindred behind ((World.poolNumber type).run world).2 := by
  have resembles : origin.Resembles behind ((World.poolNumber type).run world).2 := by
    rw [run_poolNumber]
    split
    next => exact kindred.toResembles
    next => exact { kindred.toResembles with }
  have opens := opens_poolNumber world type
  exact ⟨resembles, fun query known => (opens query).2 (kindred.opened query known),
    fun query known => kindred.passable query ((opens query).1 known)⟩

theorem withPool (kindred : origin.Kindred behind world) {type : CallbackType}
    (passable : origin.Passable behind type) {number : Nat}
    (numbered : world.pools.findIdx? (·.1 == type) = some number) (pool : Pool) :
    origin.Kindred behind (world.withPool number pool) := by
  refine ⟨{ kindred.toResembles with }, fun query known => ?_, fun query known => ?_⟩
  · exact (opens_withPool numbered pool query).2 (.inr (kindred.opened query known))
  · rcases (opens_withPool numbered pool query).1 known with rfl | earlier
    · exact .inr passable
    · exact kindred.passable query earlier

end Kindred

section Opening

variable (closures : origin.Stocks behind origin.closureConverters)
include closures

theorem Kindred.openPool {world : World} (kindred : origin.Kindred behind world)
    (type : CallbackType) :
    let run := (World.openPool type).run.run world
    origin.Kindred behind run.2 ∧
      (world.Opens type ∧ run.1.map (fun _ => ()) = .ok () ∨
        ¬ world.Opens type ∧ ∃ entered, origin.Resembles behind entered ∧
          run.1.map (fun _ => ()) = ((buildShape type).run.run entered).1.map fun _ => ()) := by
  have entering := kindred.poolNumber type
  have opens := opens_poolNumber world type type
  have numbered := findIdx?_poolNumber world type
  rw [run_openPool]
  generalize (World.poolNumber type).run world = entry at *
  obtain ⟨number, entered⟩ := entry
  dsimp only at *
  cases known : entered.pool? number with
  | some pool => exact ⟨entering, .inl ⟨opens.1 ⟨number, pool, numbered, known⟩, rfl⟩⟩
  | none =>
      have closed : ¬ world.Opens type := by
        intro already
        obtain ⟨other, pool, found, there⟩ := opens.2 already
        cases numbered.symm.trans found
        cases known.symm.trans there
      have resembles := (settled_buildShape closures type entered entered entering.toResembles
        entering.toResembles).1
      have pools : ((buildShape type).run.run entered).2.pools = entered.pools :=
        ((resolvable_pools entered.pools).keeps_buildShape type entered _ _ rfl rfl).1
      dsimp only
      cases ran : (buildShape type).run.run entered with
      | mk outcome built =>
      rw [ran] at resembles pools
      have kept := entering.of_resembles resembles pools
      have shaped : outcome.map (fun _ => ()) =
          ((buildShape type).run.run entered).1.map fun _ => () := by rw [ran]
      cases outcome with
      | error fault => exact ⟨kept, .inr ⟨closed, entered, entering.toResembles, shaped⟩⟩
      | ok shape =>
          have passable : origin.Passable behind type :=
            ⟨entered, shape, built, entering.toResembles, ran⟩
          have indexed : built.pools.findIdx? (·.1 == type) = some number := by
            rw [pools]
            exact numbered
          exact ⟨kept.withPool passable indexed _,
            .inr ⟨closed, entered, entering.toResembles, shaped⟩⟩

theorem settled_openPool (type : CallbackType) :
    Act.Settled (origin.Kindred behind) (fun _ => ()) (openPool type) := by
  intro left right leftHolds rightHolds
  obtain ⟨leftKept, leftRun⟩ := leftHolds.openPool closures type
  obtain ⟨rightKept, rightRun⟩ := rightHolds.openPool closures type
  refine ⟨leftKept, rightKept, ?_⟩
  by_cases can : origin.Opens type ∨ origin.Passable behind type
  · have opens : ∀ {world : World} {outcome : Except Fault Unit}, origin.Kindred behind world →
        (world.Opens type ∧ outcome = .ok () ∨
          ¬ world.Opens type ∧ ∃ entered, origin.Resembles behind entered ∧
            outcome = ((buildShape type).run.run entered).1.map fun _ => ()) →
          outcome = .ok () := by
      rintro world outcome kindred (⟨_, done⟩ | ⟨closed, entered, resembles, same⟩)
      · exact done
      · rcases can with already | ⟨between, shape, after, holds, ran⟩
        · exact absurd (kindred.opened type already) closed
        · have alike := (settled_buildShape closures type between entered holds resembles).2.2
          rw [same, ← alike, ran]
          rfl
    rw [opens leftHolds leftRun, opens rightHolds rightRun]
  · rcases leftRun with ⟨already, _⟩ | ⟨_, entered, leftResembles, leftSame⟩
    · exact absurd (leftHolds.passable type already) can
    rcases rightRun with ⟨already, _⟩ | ⟨_, other, rightResembles, rightSame⟩
    · exact absurd (rightHolds.passable type already) can
    rw [leftSame, rightSame]
    exact (settled_buildShape closures type entered other leftResembles rightResembles).2.2

end Opening

end World

end ForeignCall
