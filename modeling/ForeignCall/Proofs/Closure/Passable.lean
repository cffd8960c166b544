import ForeignCall.Proofs.Closure.Shaping

/-! Which callback types can be passed: those whose parameters a callable can be given and whose
result it can give, each in one register. -/

namespace ForeignCall

namespace HostType

def isReceivable : HostType → Bool
  | .text | .enum _ | .enumSet _ => true
  | type => type.isScalar

def isReturnable : HostType → Bool
  | .void | .enum _ | .enumSet _ => true
  | type => type.isScalar

def checkReceivable (type : HostType) : Except Fault Unit :=
  if type.isReceivable then .ok ()
  else .error (.unsupportedType
    s!"callback parameter of type {type.describe} cannot be received from native code")

def checkReturnable (type : HostType) : Except Fault Unit :=
  if type.isReturnable then .ok ()
  else .error (.unsupportedType
    s!"callback result of type {type.describe} cannot be returned to native code")

end HostType

namespace CallbackType

/-- Whether a callback type can be passed, or else the first thing that is the matter with it. -/
def check (type : CallbackType) : Except Fault Unit := do
  type.parameters.forM (·.checkReceivable)
  type.result.checkReturnable

def isPassable (type : CallbackType) : Bool :=
  type.parameters.all (·.isReceivable) && type.result.isReturnable

theorem check_eq_ok_iff (type : CallbackType) : type.check = .ok () ↔ type.isPassable = true := by
  obtain ⟨parameters, result, convention⟩ := type
  rw [check, isPassable]
  dsimp only
  induction parameters with
  | nil =>
    change result.checkReturnable = .ok () ↔ result.isReturnable = true
    rw [HostType.checkReturnable]
    cases result.isReturnable <;> simp
  | cons parameter rest ih =>
    change (parameter.checkReceivable >>= fun _ => rest.forM _) >>= _ = .ok () ↔ _
    rw [HostType.checkReceivable, List.all_cons]
    cases parameter.isReceivable with
    | true => exact ih
    | false => exact iff_of_false (fun done => nomatch done) (fun done => nomatch done)

end CallbackType

namespace Act

variable {State Result Final : Type} {invariant : State → Prop} {wanted : Except Fault Unit}

/-- Wherever an invariant holds, an effect keeps it, and succeeds or fails as foreseen. -/
def Meets (invariant : State → Prop) (wanted : Except Fault Unit) (action : Act State Result) :
    Prop :=
  ∀ state, invariant state → invariant (action.run.run state).2 ∧
    (action.run.run state).1.map (fun _ => ()) = wanted

theorem Meets.bind {action : Act State Result} {next : Result → Act State Final}
    {later : Except Fault Unit} (first : Meets invariant wanted action)
    (others : ∀ result, Meets invariant later (next result)) :
    Meets invariant (wanted >>= fun _ => later) (action >>= next) := by
  intro state holds
  obtain ⟨kept, answered⟩ := first state holds
  rw [run_bind]
  generalize action.run.run state = ended at *
  obtain ⟨outcome, after⟩ := ended
  subst answered
  cases outcome with
  | ok result => exact others result after kept
  | error fault => exact ⟨kept, rfl⟩

theorem Meets.mapM {Item : Type} {check : Item → Except Fault Unit}
    {step : Item → Act State Result} (each : ∀ item, Meets invariant (check item) (step item))
    (items : List Item) : Meets invariant (items.forM check) (items.mapM step) := by
  induction items with
  | nil => exact fun state holds => ⟨holds, rfl⟩
  | cons head rest ih =>
    rw [List.mapM_cons]
    refine (each head).bind fun result => ?_
    have last := ih.bind fun results : List Result => (show Meets invariant (.ok ())
      (pure (result :: results)) from fun state holds => ⟨holds, rfl⟩)
    have same : (rest.forM check >>= fun _ => .ok ()) = rest.forM check := by
      cases rest.forM check <;> rfl
    rwa [same] at last

end Act
namespace ConverterBody

theorem exists_builtin? (way : Way) (type : HostType) (encoding : TextEncoding) :
    ∃ body, builtin? way type ⟨.empty, encoding⟩ = .ok body ∧
      ((body.map (·.carrier)).getD type).isVoid = type.isVoid ∧
        ((body.map (·.carrier)).getD type).isScalar = match way with
          | .fromNative => type.isReceivable
          | .toNative => type.isReturnable && !type.isVoid := by
  cases type <;> cases way <;> exact ⟨_, rfl, rfl, rfl⟩

end ConverterBody

theorem exists_lower_of_fits {carrier : HostType}
    (fits : (carrier.isScalar || carrier.isVoid) = true) :
    ∃ native, lower carrier .empty = .ok native := by
  cases carrier with
  | text | array | struct | enum | enumSet | callback | named => cases fits
  | _ => exact ⟨_, rfl⟩

namespace World

section Shapes

variable {pipeline : Pipeline} {encoding : TextEncoding} {model : DataModel}

theorem meets_passage (way : Way) (type : HostType) (allowed : HostType → Bool) (fault : Fault)
    (lowers : ∀ carrier, allowed carrier = true → (carrier.isScalar || carrier.isVoid) = true)
    {verdict : Bool} (judged : ∀ body, ConverterBody.builtin? way type ⟨.empty, encoding⟩ =
      .ok body → allowed ((body.map (·.carrier)).getD type) = verdict) :
    Act.Meets (World.Plain pipeline encoding model) (if verdict then .ok () else .error fault) (do
      let converter ← (← get).closureConverters.choose way none type ⟨.empty, encoding⟩
      let carrier := (converter.map (·.carrier)).getD type
      unless allowed carrier do throw fault
      return ⟨carrier, (← LoweringTable.resolve carrier .empty).type, converter⟩ :
        Act World Passage) := by
  intro world plain
  have kept := (ensures_passage way type allowed fault).weaken (fun _ _ => trivial) world _ _
    plain rfl
  refine ⟨kept.1, ?_⟩
  obtain ⟨body, built, -⟩ := ConverterBody.exists_builtin? way type encoding
  rw [Act.run_bind, Act.run_get]
  dsimp only
  rw [plain.closures]
  have answered := (plain.converters.choose way type .empty).2.trans built
  obtain ⟨converter, after, chooses, same⟩ : ∃ converter after,
      (liftM (pipeline.choose way none type ⟨.empty, encoding⟩) :
        Act World (Option Converter)).run.run world = (.ok converter, after) ∧
      converter.map (·.toConverterBody) = body := Act.exists_run_of_map answered
  have carried : ((converter.map (·.carrier)).getD type) = (body.map (·.carrier)).getD type := by
    rw [← same, Option.map_map]
    rfl
  rw [Act.run_bind, chooses]
  dsimp only
  rw [carried, judged body built]
  cases verdict with
  | false => rfl
  | true =>
    obtain ⟨native, lowered⟩ := exists_lower_of_fits (lowers _ (judged body built))
    obtain ⟨layout, last, resolves, -⟩ := run_resolve_of_lower lowered after
    rw [if_pos rfl, Act.run_bind, resolves]
    rfl

theorem meets_buildShape (type : CallbackType) :
    Act.Meets (World.Plain pipeline encoding model) type.check (buildShape type) := by
  intro world plain
  have receives (item : HostType) : Act.Meets (World.Plain pipeline encoding model)
      item.checkReceivable (passageIn ⟨.empty, encoding⟩ item) := by
    refine meets_passage .fromNative item (·.isScalar) _ (fun _ scalar => ?_) fun body built => ?_
    · rw [scalar, Bool.true_or]
    · obtain ⟨_, same, -, scalar⟩ := ConverterBody.exists_builtin? .fromNative item encoding
      cases built.symm.trans same
      exact scalar
  have returns : Act.Meets (World.Plain pipeline encoding model)
      type.result.checkReturnable (passageOut ⟨.empty, encoding⟩ type.result) := by
    refine meets_passage .toNative type.result (fun type => type.isScalar || type.isVoid) _
      (fun _ fits => fits) fun body built => ?_
    obtain ⟨_, same, void, scalar⟩ :=
      ConverterBody.exists_builtin? .toNative type.result encoding
    cases built.symm.trans same
    rw [void, scalar]
    cases type.result <;> rfl
  have prepares (parameters : List Passage) (result : Passage) :
      Act.Meets (World.Plain pipeline encoding model) (.ok ()) (do
        let interface ← CallInterface.prepare (parameters.map (·.native)) none result.native
          (← get).model
        return ({ type, parameters, result, context := ⟨.empty, encoding⟩, interface } :
          ClosureShape) : Act World ClosureShape) := by
    intro world plain
    rw [Act.run_bind, Act.run_get]
    dsimp only
    rw [CallInterface.prepare_named_all]
    exact ⟨plain, rfl⟩
  have whole := (Act.Meets.mapM receives type.parameters).bind fun parameters =>
    returns.bind fun result => prepares parameters result
  rw [buildShape, Act.run_bind, Act.run_get]
  dsimp only
  rw [plain.encodes]
  have same : (type.result.checkReturnable >>= fun _ => .ok ()) = type.result.checkReturnable := by
    rw [HostType.checkReturnable]
    cases type.result.isReturnable <;> rfl
  rw [same] at whole
  exact whole world plain

end Shapes

end World

end ForeignCall
