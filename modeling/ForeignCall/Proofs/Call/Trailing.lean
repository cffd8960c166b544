import ForeignCall.Proofs.Call.Calling
import ForeignCall.Proofs.Call.Promotion

/-! Calls with trailing arguments, which are planned as if a parameter were declared for each of
them. What has no such parameter is refused. -/

namespace ForeignCall

theorem zip_take_length {Left Right : Type} {lefts : List Left} {rights : List Right}
    (enough : lefts.length ≤ rights.length) :
    lefts.zip (rights.take lefts.length) = lefts.zip rights := by
  rw [@List.zip_eq_zip_take_min _ _ lefts rights, Nat.min_eq_left enough, List.take_length]

/-- The signature with parameters for what follows the declared arguments of a call. -/
def Signature.declaring (signature : Signature) (parameters : List Parameter) : Signature :=
  { signature with parameters := signature.parameters ++ parameters, variadic := false }

theorem Signature.takes_declaring {signature : Signature} {arguments : List Value}
    {parameters : List Parameter} (enough : signature.parameters.length ≤ arguments.length)
    (counted : parameters.length = (arguments.drop signature.parameters.length).length) :
    (signature.declaring parameters).Takes arguments := by
  refine .inl ?_
  rw [declaring, List.length_append, counted, List.length_drop]
  omega

theorem Value.natives_of_passedBy {encoding : TextEncoding} {heap : Heap} {values : List Value}
    {parameters : List Parameter}
    (all : List.Forall₂ (·.PassedBy encoding heap ·) values parameters) :
    parameters.map (·.native) = values.map (·.trailingType) := by
  induction all with
  | nil => rfl
  | cons passed _ ih => exact congrArg₂ List.cons passed.native ih

theorem Signature.natives_declaring {signature : Signature} {arguments : List Value}
    {encoding : TextEncoding} {heap : Heap} {parameters : List Parameter}
    (all : List.Forall₂ (·.PassedBy encoding heap ·)
      (arguments.drop signature.parameters.length) parameters) :
    (signature.declaring parameters).natives = signature.nativesFor arguments := by
  rw [natives, declaring, List.map_append, nativesFor, natives, Value.natives_of_passedBy all]

namespace Store

theorem lendAll_arriving (model : DataModel) (operands : List Operand) (store : Store) :
    let lent := (lendAll model operands).run store
    let twin := (lendAll model (operands.map (Operand.arriving model))).run store
    twin.2 = lent.2 ∧ twin.1.2 = lent.1.2 ∧
      (operands.map (·.native)).zipWith (·.cut model ·) twin.1.1 =
        (operands.map (·.native)).zipWith (·.cut model ·) lent.1.1 := by
  induction operands generalizing store with
  | nil => exact ⟨rfl, rfl, rfl⟩
  | cons operand rest ih =>
      cases operand with
      | image native word =>
          obtain ⟨same, loans, slots⟩ := ih store
          cases native with
          | pointer =>
              exact ⟨same, loans, congrArg₂ List.cons (CType.cut_cut .pointer model word) slots⟩
          | _ => exact ⟨same, loans, congrArg₂ List.cons rfl slots⟩
      | loan owner direction buffer =>
          obtain ⟨same, loans, slots⟩ := ih ((lend buffer).run store).2
          exact ⟨same, congrArg (List.cons _) loans, congrArg₂ List.cons rfl slots⟩

end Store

namespace World

theorem convertAll_declaring {signature : Signature} {arguments : List Value}
    {parameters : List Parameter} (enough : signature.parameters.length ≤ arguments.length)
    (counted : parameters.length = (arguments.drop signature.parameters.length).length) :
    convertAll (signature.declaring parameters) arguments = do
      let declared ← (signature.parameters.zip arguments).mapM fun (parameter, value) =>
        operand signature parameter value
      let trailing ← (parameters.zip (arguments.drop signature.parameters.length)).mapM
        fun (parameter, value) => operand signature parameter value
      return declared ++ trailing := by
  have whole : (signature.declaring parameters).parameters.length = arguments.length := by
    rw [Signature.declaring, List.length_append, counted, List.length_drop]
    omega
  have zipped : (signature.declaring parameters).parameters.zip arguments =
      signature.parameters.zip arguments ++
        parameters.zip (arguments.drop signature.parameters.length) := by
    have long : signature.parameters.length =
        (arguments.take signature.parameters.length).length := by
      rw [List.length_take, Nat.min_eq_left enough]
    rw [← zip_take_length enough, ← List.zip_append long, List.take_append_drop]
    rfl
  rw [convertAll, whole, zipped, List.drop_length]
  simp only [List.mapM_append, List.mapM_nil, bind_assoc, pure_bind, List.append_nil]
  rfl

def convertDeclared (signature : Signature) (arguments : List Value) : Act World (List Operand) :=
  (signature.parameters.zip arguments).mapM fun (parameter, value) =>
    operand signature parameter value

theorem run_convertAll_declaring {signature : Signature} {arguments : List Value}
    (enough : signature.parameters.length ≤ arguments.length) {parameters : List Parameter}
    (now : World) :
    let heap := ((convertDeclared signature arguments).run.run now).2.heap
    let view := List.map (Operand.arriving signature.model)
    List.Forall₂ (·.PassedBy signature.encoding heap ·)
        (arguments.drop signature.parameters.length) parameters →
      (view <$> convertAll signature arguments).run.run now =
        (view <$> convertAll (signature.declaring parameters) arguments).run.run now := by
  intro heap view all
  have split (rest : Act World (List Operand)) :
      view <$> (convertDeclared signature arguments >>= fun front => rest >>= fun back =>
          pure (front ++ back)) =
        convertDeclared signature arguments >>= fun front => (view <$> rest) >>= fun back =>
          pure (view front ++ back) := by
    simp only [map_bind, bind_map_left, map_pure, view, List.map_append]
  rw [convertAll_declaring enough all.length_eq.symm, convertAll]
  refine (congrArg (·.run.run now) (split _)).trans
    (.trans ?_ (congrArg (·.run.run now) (split _)).symm)
  apply Act.run_bind_congr
  intro front between ran
  have same : heap = between.heap := by
    simp only [heap]
    rw [ran]
  rw [Act.run_bind, Act.run_bind, run_trailingOperands signature all fun _ => by rw [same]]

end World

namespace World

theorem trailingOperand_of_unfit (signature : Signature) {value : Value}
    (unfit : value.mayTrail = false) :
    trailingOperand signature value = throw (.typeMismatch "variadic argument" value.kind) := by
  cases value with
  | void | enumSet | callback | object => rfl
  | _ => cases unfit

theorem convertAll_of_unfit {signature : Signature} {earlier : List Value}
    (enough : signature.parameters.length ≤ earlier.length) {value : Value}
    (unfit : value.mayTrail = false) (rest : List Value) :
    convertAll signature (earlier ++ value :: rest) = convertAll signature earlier >>= fun _ =>
      throw (.typeMismatch "variadic argument" value.kind) := by
  have zipped : signature.parameters.zip (earlier ++ value :: rest) =
      signature.parameters.zip earlier := by
    have more : signature.parameters.length ≤ (earlier ++ value :: rest).length := by
      rw [List.length_append]
      omega
    rw [← zip_take_length more, List.take_append_of_le_length enough, zip_take_length enough]
  rw [convertAll, convertAll, zipped, List.drop_append_of_le_length enough]
  simp only [List.mapM_append, List.mapM_cons, trailingOperand_of_unfit signature unfit, bind_assoc,
    pure_bind]
  rfl

end World

namespace CallPlan

theorem of_congr {left right : Signature} (leftCoherent : left.Coherent)
    (rightCoherent : right.Coherent) (models : right.model = left.model) {arguments : List Value}
    (leftTakes : left.Takes arguments) (rightTakes : right.Takes arguments)
    (natives : right.nativesFor arguments = left.nativesFor arguments) (name : String)
    {now : World}
    (same : (List.map (Operand.arriving left.model) <$>
        World.convertAll left arguments).run.run (now.noting name arguments) =
      (List.map (Operand.arriving left.model) <$>
        World.convertAll right arguments).run.run (now.noting name arguments)) :
    of name left arguments now = of name right arguments now := by
  rw [of_eq leftCoherent, of_eq rightCoherent, if_pos leftTakes, if_pos rightTakes, natives, models]
  rw [← bind_pure_comp, ← bind_pure_comp, Act.run_bind, Act.run_bind] at same
  cases leftRan : (World.convertAll left arguments).run.run (now.noting name arguments) with
  | mk leftOutcome leftAfter =>
  cases rightRan : (World.convertAll right arguments).run.run (now.noting name arguments) with
  | mk rightOutcome rightAfter =>
  rw [leftRan, rightRan] at same
  rcases leftOutcome with fault | operands <;> rcases rightOutcome with other | others
  · cases same
    rfl
  · cases same
  · cases same
  · obtain ⟨outcomes, worlds⟩ := Prod.mk.inj same
    cases (worlds : leftAfter = rightAfter)
    have views : operands.map (Operand.arriving left.model) =
      others.map (Operand.arriving left.model) := Except.ok.inj outcomes
    have leftNatives := (World.returns_convertAll leftCoherent leftTakes).of_run leftRan
    have rightNatives := (World.returns_convertAll rightCoherent rightTakes).of_run rightRan
    obtain ⟨leftStore, leftLoans, leftSlots⟩ :=
      Store.lendAll_arriving left.model operands leftAfter.toStore
    obtain ⟨rightStore, rightLoans, rightSlots⟩ :=
      Store.lendAll_arriving left.model others leftAfter.toStore
    rw [leftNatives, views] at leftSlots
    rw [rightNatives, natives] at rightSlots
    rw [views] at leftStore leftLoans
    dsimp only
    rw [← leftStore, ← leftLoans, ← leftSlots, rightStore, rightLoans, rightSlots]

theorem of_unfit {signature : Signature} (coherent : signature.Coherent)
    (variadic : signature.variadic = true) {earlier : List Value}
    (enough : signature.parameters.length ≤ earlier.length) {value : Value}
    (unfit : value.mayTrail = false) (rest : List Value) (name : String) (now : World) :
    let arguments := earlier ++ value :: rest
    ∃ after, of name signature arguments now = .refuse
      ((World.refusal? signature earlier (now.noting name arguments)).getD
        (.typeMismatch "variadic argument" value.kind)) after := by
  intro arguments
  have takes : signature.Takes arguments := .inr ⟨variadic, by simp [arguments]; omega⟩
  rw [of_eq coherent, if_pos takes, World.convertAll_of_unfit enough unfit, Act.run_bind,
    World.refusal?, if_pos (.inr ⟨variadic, enough⟩)]
  generalize (World.convertAll signature earlier).run.run _ = ran
  obtain ⟨fault | operands, after⟩ : Except Fault (List Operand) × World := ran
  · exact ⟨after, rfl⟩
  · exact ⟨after, rfl⟩

end CallPlan

theorem Strategy.eq_buffer_of_variadic {strategy : Strategy} {signature : Signature}
    {setting : StrategySetting} (variadic : signature.variadic = true)
    (accepted : strategy.accepts signature setting = true) : strategy = .buffer := by
  cases strategy with
  | buffer => rfl
  | _ => simp [accepts, isDirectCall, isPlainCall, variadic] at accepted

namespace EntryPoint

theorem Sound.goesBy_of_variadic {entry : EntryPoint} {setting : StrategySetting}
    (sound : entry.Sound setting) {bound : BoundFunction} (built : entry.outcome = .ok bound)
    (variadic : bound.signature.variadic = true) (arguments : List Value) (now : World) :
    entry.GoesBy bound arguments now (.of entry.name bound.signature arguments now) := by
  obtain ⟨name, outcome⟩ := entry
  cases built
  intro code body computes
  obtain ⟨coherent, -, accepted, plain⟩ := sound bound rfl
  obtain ⟨signature, address, path⟩ := bound
  have buffered : path.strategy = .buffer := Strategy.eq_buffer_of_variadic variadic accepted
  have blockless : path.block? = none := by
    cases path with
    | stub => cases buffered
    | _ => rfl
  have planned := plain blockless
  rw [buffered] at planned
  exact World.invokeIn_buffer coherent planned computes name now

theorem run_trailingText (signature : Signature) {text : String} {bytes : List UInt8}
    (encoded : (signature.encoding.encode text).outcome = .ok bytes) (now : World) :
    ∃ code reference after, signature.encoding.Spells text.toList code ∧
      bytes = code ++ List.replicate TextEncoding.terminatorSize 0 ∧
      (World.trailingOperand signature (.text text)).run.run now =
        (.ok (.loan (.array reference) ⟨true, false, false⟩ bytes), after) := by
  obtain ⟨code, spells, same⟩ := TextEncoding.outcome_encode_iff.1 encoded
  obtain ⟨journal, ran⟩ := Store.exists_run_encodeText encoded now.toStore
  have whole : marshalElements (.ofBytes bytes) ⟨true, false, false⟩ = bytes := by
    rw [marshalElements_eq, if_pos rfl, if_neg Bool.false_ne_true, Elements.toBytes_ofBytes]
    exact List.append_nil bytes
  rw [World.run_trailingOperand_text, ran]
  dsimp only
  rw [whole]
  exact ⟨code, _, _, spells, same, rfl⟩

/-- An interface for a call with trailing arguments is always accepted, and what arrives is the same
as if a parameter were declared for each of them: an `int` for what is no wider and for constants,
and else a parameter of the value's own type, where an address counts as far as a pointer reaches.
A trailing text is a buffer with its encoding, zeros included. Once an argument cannot trail nothing
is called. -/
theorem trailing_as_declared {entry : EntryPoint} {setting : StrategySetting}
    (sound : entry.Sound setting) {bound : BoundFunction} (built : entry.outcome = .ok bound)
    (variadic : bound.signature.variadic = true) {arguments : List Value}
    (enough : bound.signature.parameters.length ≤ arguments.length) (now : World) :
    let signature := bound.signature
    let noted := now.noting entry.name arguments
    let trailing := arguments.drop signature.parameters.length
    let heap := ((World.convertDeclared signature arguments).run.run noted).2.heap
    let plan := CallPlan.of entry.name signature arguments now
    let types := signature.nativesFor arguments
    entry.GoesBy bound arguments now plan ∧
      CallInterface.prepare types (some signature.parameters.length) signature.result.native
          signature.model = .ok ⟨types, signature.result.native, signature.model⟩ ∧
      ((∀ value ∈ trailing, value.mayTrail = true) → ∃ declarations,
        trailing.mapM (·.promotion? signature.encoding heap) = some declarations ∧
        ∀ (defaults : SignatureDefaults) (world : World), world.Standard defaults.converters →
          ∃ parameters after,
            (declarations.mapM (World.resolveParameter defaults)).run.run world =
              (.ok parameters, after) ∧
            (signature.declaring parameters).natives = types ∧
            plan = .of entry.name (signature.declaring parameters) arguments now) ∧
      (∀ text bytes world, (signature.encoding.encode text).outcome = .ok bytes →
        ∃ code reference after, signature.encoding.Spells text.toList code ∧
          bytes = code ++ List.replicate TextEncoding.terminatorSize 0 ∧
          (World.trailingOperand signature (.text text)).run.run world =
            (.ok (.loan (.array reference) ⟨true, false, false⟩ bytes), after)) ∧
      ∀ earlier value rest, arguments = earlier ++ value :: rest →
        signature.parameters.length ≤ earlier.length → value.mayTrail = false →
          ∃ after, plan = .refuse ((World.refusal? signature earlier noted).getD
            (.typeMismatch "variadic argument" value.kind)) after := by
  intro signature noted trailing heap plan types
  have coherent : signature.Coherent := (sound bound built).coherent
  refine ⟨sound.goesBy_of_variadic built variadic arguments now, ?_, ?_,
    fun text bytes world encoded => run_trailingText signature encoded world, ?_⟩
  · exact World.prepare_nativesFor signature arguments _ _
  · intro fit
    obtain ⟨declarations, promoted⟩ := Value.exists_promotions signature.encoding heap fit
    refine ⟨declarations, promoted, fun defaults world standard => ?_⟩
    obtain ⟨parameters, after, ran, all⟩ :=
      World.exists_resolveParameters_promotion promoted standard
    have natives := Signature.natives_declaring all
    refine ⟨parameters, after, ran, natives, ?_⟩
    have takes := Signature.takes_declaring enough all.length_eq.symm
    have declared : (signature.declaring parameters).Coherent := by
      have each : (declarations.mapM (World.resolveParameter defaults)).Returns
          fun resolved => ∀ parameter ∈ resolved, parameter.Coherent :=
        .mapM_all _ fun declaration _ => World.returns_resolveParameter defaults declaration
      exact List.forall_mem_append.2 ⟨coherent, each.of_run ran⟩
    refine CallPlan.of_congr coherent declared rfl (.inr ⟨variadic, enough⟩) takes ?_ entry.name
      (World.run_convertAll_declaring enough noted all)
    rw [Signature.nativesFor_of_counted _ (takes.resolve_right (by simp [Signature.declaring])),
      natives]
  · rintro earlier value rest rfl counted unfit
    exact CallPlan.of_unfit coherent variadic counted unfit rest entry.name now

theorem trailing_as_declared_mixing :
    let arguments := sharedArguments ++ [.short (-1), .text "a"]
    let plan := CallPlan.of "mix" .mixing arguments .sharing
    let declarations : List ValueDeclaration :=
      [{ type := .array .short }, { type := .int },
        { type := .text, converter := some ⟨.lentText .utf8, 0⟩ }]
    mixing.GoesBy ⟨.mixing, 0x10000, .buffer none⟩ arguments .sharing plan ∧
      (∃ parameters after, (declarations.mapM (World.resolveParameter
          { converters := ⟨0, none⟩, encoding := .utf8 })).run.run
            (.initial {} (.limited 4096 none true)) = (.ok parameters, after) ∧
        plan = .of "mix" (Signature.mixing.declaring parameters) arguments .sharing) ∧
      ∃ after, CallPlan.of "mix" .mixing (sharedArguments ++ [.void]) .sharing =
        .refuse (.typeMismatch "variadic argument" "void") after := by
  intro arguments plan declarations
  obtain ⟨goes, -, declared, -⟩ := trailing_as_declared sound_mixing
    (rfl : mixing.outcome = .ok ⟨.mixing, 0x10000, .buffer none⟩) rfl
    (by decide : Signature.mixing.parameters.length ≤ arguments.length) .sharing
  obtain ⟨found, promoted, resolves⟩ := declared (by decide)
  cases (promoted.symm.trans rfl : some found = some declarations)
  obtain ⟨parameters, after, ran, -, same⟩ := resolves
    { converters := ⟨0, none⟩, encoding := .utf8 } (.initial {} (.limited 4096 none true))
    ⟨rfl, .of_empty rfl rfl⟩
  have longer : Signature.mixing.parameters.length ≤ (sharedArguments ++ [Value.void]).length := by
    decide
  obtain ⟨-, -, -, -, refused⟩ := trailing_as_declared sound_mixing
    (rfl : mixing.outcome = .ok ⟨.mixing, 0x10000, .buffer none⟩) rfl longer .sharing
  exact ⟨goes, ⟨parameters, after, ran, same⟩, refused sharedArguments .void [] rfl (by decide) rfl⟩

end EntryPoint

end ForeignCall
