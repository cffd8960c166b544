import ForeignCall.Proofs.Call.Lending

/-! Invocations whose arguments all travel as register images: every way of calling delivers them
to the function and fetches its result. -/

namespace ForeignCall

theorem zipWith_cut_ofImage {model : DataModel} (valid : model.Valid) (types : List CType)
    (images : List UInt64) :
    types.zipWith (·.cut model ·)
        (types.zipWith (fun type image => Slot.ofImage image type model) images) =
      types.zipWith (·.cut model ·) images := by
  apply List.ext_getElem
  · simp
  · intro index _ _
    simp [Slot.cut_ofImage valid]

namespace World

def imagesFor (signature : Signature) (arguments : List Value) : Act World (List UInt64) :=
  (signature.parameters.zip arguments).mapM fun (parameter, value) =>
    liftM (parameter.send value parameter.context signature.model : Act Store UInt64)

theorem operand_of_isScalar (signature : Signature) {parameter : Parameter} (value : Value)
    (scalar : parameter.kind.isScalar = true) :
    operand signature parameter value =
      (Operand.image parameter.native ·) <$>
        (liftM (parameter.send value parameter.context signature.model : Act Store UInt64) :
          Act World UInt64) := by
  unfold operand
  cases kind : parameter.kind with
  | integer | single | double => rfl
  | array | struct | callback => simp [kind, ParameterKind.isScalar] at scalar

theorem mapM_operand (signature : Signature) (pairs : List (Parameter × Value))
    (scalar : ∀ pair ∈ pairs, pair.1.kind.isScalar = true) :
    pairs.mapM (fun (parameter, value) => operand signature parameter value) =
      (fun images => (pairs.map (·.1.native)).zipWith Operand.image images) <$>
        pairs.mapM fun (parameter, value) =>
          (liftM (parameter.send value parameter.context signature.model : Act Store UInt64) :
            Act World UInt64) := by
  induction pairs with
  | nil => simp
  | cons pair rest ih =>
      obtain ⟨parameter, value⟩ := pair
      have others := ih fun pair known => scalar pair (by simp [known])
      have first := operand_of_isScalar signature value (scalar (parameter, value) (by simp))
      rw [List.mapM_cons, List.mapM_cons, others]
      simp [first]

theorem operandsFor_of_isScalarOnly {signature : Signature} {arguments : List Value}
    (scalar : signature.isScalarOnly = true) (fixed : signature.variadic = false)
    (counted : arguments.length = signature.parameters.length) :
    operandsFor signature arguments =
      (fun images => signature.natives.zipWith Operand.image images) <$>
        imagesFor signature arguments := by
  have none : arguments.drop signature.parameters.length = [] := by simp [← counted]
  have natives : (signature.parameters.zip arguments).map (·.1.native) = signature.natives := by
    have first : (signature.parameters.zip arguments).map (·.1) = signature.parameters :=
      List.map_fst_zip (by omega)
    rw [Signature.natives, ← congrArg (List.map (·.native)) first, List.map_map]
    rfl
  have each : ∀ pair ∈ signature.parameters.zip arguments, pair.1.kind.isScalar = true :=
    fun pair known => List.all_eq_true.1 scalar _ (List.of_mem_zip known).1
  have declared := mapM_operand signature (signature.parameters.zip arguments) each
  rw [natives] at declared
  simp only [operandsFor, none, List.mapM_nil, pure_bind, List.append_nil, fixed,
    Bool.false_eq_true, ↓reduceIte, bind_pure]
  exact declared

theorem run_lendAll_images (model : DataModel) (types : List CType) (images : List UInt64)
    (store : Store) :
    (Store.lendAll model (types.zipWith Operand.image images)).run store =
      ((types.zipWith (fun type image => Slot.ofImage image type model) images, []), store) := by
  induction types generalizing images with
  | nil => rfl
  | cons type types ih =>
      cases images with
      | nil => rfl
      | cons image images =>
          rw [List.zipWith_cons_cons, Store.lendAll]
          rw [StateT.run_bind, ih images]
          rfl

theorem invokeScalar_eq (code : NativeCode) (bound : BoundFunction) (arguments : List Value) :
    invokeScalar code bound arguments =
      imagesFor bound.signature arguments >>= fun images =>
        liftM (callScalar code bound images) >>= conclude bound.signature [] := by
  rfl

theorem invokeIn_of_direct (code : NativeCode) {bound : BoundFunction} {arguments : List Value}
    (takes : bound.signature.Takes arguments)
    (direct : ∀ interface, bound.path ≠ .buffer interface) (name : String) :
    invokeIn code ⟨name, .ok bound⟩ arguments =
      liftM (Store.record (.nativeCall name arguments.length)) >>= fun _ =>
        invokeScalar code bound arguments := by
  rw [invokeIn_of_takes code takes]
  congr 1
  funext _
  split
  next interface path => exact absurd path (direct interface)
  next => rfl

/-- A call enters the function with the arguments that some images stand for, and answers with what
the function leaves, as far as the type of the result covers it. -/
def Delivers (call : StateM World UInt64) (function : EntryRegisters → StateM World ReturnRegisters)
    (signature : Signature) (images : List UInt64) (world : World) : Prop :=
  ∃ (answer : ReturnRegisters → UInt64) (entry : EntryRegisters),
    call.run world = (answer <$> function entry).run world ∧
      entry.read signature.model signature.natives =
        signature.natives.zipWith (·.cut signature.model ·) images ∧
      ∀ returned, signature.result.native.cut signature.model (answer returned) =
        signature.result.native.cut signature.model (returned.image signature.result.native)

theorem invokeIn_of_delivers {code : NativeCode} (bound : BoundFunction) {arguments : List Value}
    {body : List UInt64 → StateM World UInt64} (valid : bound.signature.model.Valid)
    (scalar : bound.signature.isScalarOnly = true) (fixed : bound.signature.variadic = false)
    (direct : ∀ interface, bound.path ≠ .buffer interface)
    (computes : Computes (code (UInt64.ofNat bound.address)) body bound.signature.model
      (bound.signature.nativesFor arguments) bound.signature.result.native) (name : String)
    (now : World)
    (delivers : ∀ world images before, world.memory = now.memory →
      (imagesFor bound.signature arguments).run.run world = (.ok images, before) →
        bound.signature.natives.length = images.length →
          Delivers (callScalar code bound images) (code (UInt64.ofNat bound.address))
            bound.signature images before) :
    (invokeIn code ⟨name, .ok bound⟩ arguments).run.run now =
      (CallPlan.of name bound.signature arguments now).run bound.signature body := by
  by_cases takes : bound.signature.Takes arguments
  · have counted : arguments.length = bound.signature.parameters.length := by
      simpa [Signature.Takes, fixed] using takes
    rw [CallPlan.run_of, prepareCall_of_takes takes, invokeIn_of_direct code takes direct,
      operandsFor_of_isScalarOnly scalar fixed counted, invokeScalar_eq]
    simp only [bind_map_left, bind_assoc]
    apply Act.run_bind_congr
    intro _ world recorded
    have memory : world.memory = now.memory := by cases recorded; rfl
    apply Act.run_bind_congr
    intro images before ran
    have enough : bound.signature.natives.length = images.length := by
      obtain ⟨same, _⟩ := Act.Returns.of_run (.mapM _ fun pair _ => Act.returns_true _) ran
      simp [same, Signature.natives, counted]
    obtain ⟨answer, entry, answers, arrives, faithful⟩ :=
      delivers world images before memory ran enough
    rw [bound.signature.nativesFor_of_counted counted] at computes ⊢
    have same := conclude_of_computes computes faithful [] entry
    rw [arrives] at same
    have answered : (liftM (callScalar code bound images) >>= conclude bound.signature [] :
        Act World Value).run.run before =
          (liftM (answer <$> code (UInt64.ofNat bound.address) entry) >>=
            conclude bound.signature [] : Act World Value).run.run before := by
      rw [Act.run_bind, Act.run_bind, Act.run_lift, Act.run_lift, answers]
    have lent : (liftM (Store.lendAll bound.signature.model
        (bound.signature.natives.zipWith Operand.image images)) : Act World _).run.run before =
          (.ok (bound.signature.natives.zipWith
            (fun type image => Slot.ofImage image type bound.signature.model) images, []),
            before) := by
      rw [run_onStore, run_lendAll_images]
    rw [answered, same, Act.run_bind (liftM (Store.lendAll _ _)), lent]
    simp only [zipWith_cut_ofImage valid]
  · exact invokeIn_of_not_takes code takes name now body

end World

end ForeignCall
