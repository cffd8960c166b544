import ForeignCall.Proofs.Call.Plan

/-! Invocations through a prepared interface: the operands have the C types that the interface has,
and their slots arrive as the arguments of the plan. -/

namespace ForeignCall

theorem CallInterface.read_enter (interface : CallInterface) (slots : List UInt64)
    (counted : interface.arguments.length = slots.length) :
    (interface.enter slots).read interface.model interface.arguments =
      interface.arguments.zipWith (·.cut interface.model ·) slots := by
  let widened := interface.arguments.zipWith (fun type slot => Slot.widen slot type interface.model)
    slots
  have entered : interface.enter slots =
      .ofArguments (EntryRegisters.classed interface.arguments widened) := by
    rw [enter, EntryRegisters.classed]
    congr 1
    apply List.ext_getElem
    · simp [widened]
    · intro index _ _
      simp [widened]
  rw [entered, EntryRegisters.read_ofArguments _ _ _ (by simp [widened, counted])]
  apply List.ext_getElem
  · simp [widened]
  · intro index _ _
    simp [widened, Slot.cut_widen]

theorem Store.length_lendAll (model : DataModel) (operands : List Operand) (store : Store) :
    ((lendAll model operands).run store).1.1.length = operands.length := by
  induction operands generalizing store with
  | nil => rfl
  | cons operand rest ih =>
      cases operand with
      | image native image => exact congrArg (· + 1) (ih store)
      | loan owner direction buffer => exact congrArg (· + 1) (ih _)

namespace World

theorem returns_operand (signature : Signature) {parameter : Parameter} (value : Value)
    (coherent : parameter.Coherent) :
    (operand signature parameter value).Returns fun result =>
      result.native = parameter.native := by
  unfold operand
  split
  next => exact .bind (Act.returns_true _) fun image _ => .pure rfl
  next => exact .bind (Act.returns_true _) fun image _ => .pure rfl
  next => exact .bind (Act.returns_true _) fun image _ => .pure rfl
  next element direction kind =>
    rw [coherent.reference (kind ▸ rfl)]
    refine .bind (Act.returns_true _) fun converted _ => ?_
    split
    next => exact .pure rfl
    next reference =>
      refine .bind (Act.returns_true _) fun world _ => ?_
      dsimp only
      split
      next => exact .pure rfl
      next => exact .throw _
    next => exact .throw _
  next direction kind =>
    rw [coherent.reference (kind ▸ rfl)]
    refine .bind (Act.returns_true _) fun converted _ => ?_
    split
    next => exact .pure rfl
    next layout reference => exact .bind (Act.returns_true _) fun world _ => .pure rfl
    next => exact .throw _
  next site kind =>
    rw [coherent.reference (kind ▸ rfl)]
    refine .bind (Act.returns_true _) fun converted _ => ?_
    cases converted with
    | callback serial =>
        refine .bind (Act.returns_true _) fun address _ => ?_
        exact .pure rfl
    | null => exact .pure rfl
    | address => exact .pure rfl
    | _ => exact .throw _

theorem returns_trailingOperand (signature : Signature) (value : Value) :
    (trailingOperand signature value).Returns fun result =>
      result.native = value.trailingType := by
  cases value with
  | bool | byte | short | char | int | float | double =>
      exact .bind (Act.returns_true _) fun image _ => .pure rfl
  | enum constant => exact .bind (Act.returns_true _) fun image _ => .pure rfl
  | long | address | null => exact .pure rfl
  | text text =>
      refine .bind (Act.returns_true _) fun bytes _ => .bind (Act.returns_true _) fun array _ => ?_
      split
      next reference => exact .pure rfl
      next => exact .throw _
  | array | struct =>
      refine .bind (Act.returns_true _) fun world _ => ?_
      split
      next => exact .pure rfl
      next => exact .throw _
  | void | enumSet | callback | object => exact .throw _

def convertAll (signature : Signature) (arguments : List Value) : Act World (List Operand) := do
  let declared ← (signature.parameters.zip arguments).mapM fun (parameter, value) =>
    operand signature parameter value
  let trailing ← (arguments.drop signature.parameters.length).mapM (trailingOperand signature)
  return declared ++ trailing

theorem operandsFor_eq (signature : Signature) (arguments : List Value) :
    operandsFor signature arguments = convertAll signature arguments >>= fun operands => do
      if signature.variadic then
        discard (CallInterface.prepare (operands.map (·.native))
          (some signature.parameters.length) signature.result.native signature.model)
      return operands := by
  simp only [operandsFor, convertAll, bind_assoc, pure_bind]

theorem ensures_convertAll {signature : Signature} {arguments : List Value}
    (takes : signature.Takes arguments) {invariant : World → Prop}
    {declared : Parameter → Value → Operand → Prop} {trailing : Value → Operand → Prop}
    (each : ∀ parameter ∈ signature.parameters, ∀ value,
      (operand signature parameter value).Ensures invariant (declared parameter value))
    (others : ∀ value, (trailingOperand signature value).Ensures invariant (trailing value)) :
    (convertAll signature arguments).Ensures invariant fun operands =>
      operands.length = arguments.length ∧
        (∀ (index : Nat) parameter value operand, signature.parameters[index]? = some parameter →
          arguments[index]? = some value → operands[index]? = some operand →
            declared parameter value operand) ∧
        ∀ (index : Nat) value operand, signature.parameters.length ≤ index →
          arguments[index]? = some value → operands[index]? = some operand →
            trailing value operand := by
  have enough : signature.parameters.length ≤ arguments.length := by
    rcases takes with exact | ⟨_, more⟩ <;> omega
  have pairs : ∀ item ∈ signature.parameters.zip arguments,
      (operand signature item.1 item.2).Ensures invariant (declared item.1 item.2) :=
    fun item known => each _ (List.of_mem_zip known).1 _
  refine .bind (.mapM _ pairs) fun front good => .bind (.mapM _ fun value _ => others value) ?_
  rintro back ⟨backCount, backGood⟩
  obtain ⟨frontCount, frontGood⟩ := good
  have counted : front.length = signature.parameters.length := by simp [frontCount, enough]
  refine .pure ⟨by simp [counted, backCount, enough], ?_, ?_⟩
  · intro index parameter value operand known given present
    have inside := (List.getElem?_eq_some_iff.1 known).1
    rw [List.getElem?_append_left (by omega)] at present
    exact frontGood index (parameter, value) operand
      (List.getElem?_zip_eq_some.2 ⟨known, given⟩) present
  · intro index value operand beyond given present
    rw [List.getElem?_append_right (by omega), counted] at present
    refine backGood (index - signature.parameters.length) value operand ?_ present
    rw [List.getElem?_drop, Nat.add_sub_cancel' beyond, given]

theorem returns_convertAll {signature : Signature} (coherent : signature.Coherent)
    {arguments : List Value} (takes : signature.Takes arguments) :
    (convertAll signature arguments).Returns fun operands =>
      operands.map (·.native) = signature.nativesFor arguments := by
  have each : ∀ parameter ∈ signature.parameters, ∀ value,
      (operand signature parameter value).Returns fun result => result.native = parameter.native :=
    fun parameter known value => returns_operand signature value (coherent parameter known)
  refine (ensures_convertAll takes each (returns_trailingOperand signature)).weaken ?_
  rintro operands ⟨counted, front, back⟩
  have enough : signature.parameters.length ≤ arguments.length := by
    rcases takes with exact | ⟨_, more⟩ <;> omega
  apply List.ext_getElem
  · simp [Signature.nativesFor, Signature.natives, counted, enough]
  · intro index present expected
    have known : index < operands.length := by simpa using present
    have given : index < arguments.length := by omega
    simp only [List.getElem_map, Signature.nativesFor, Signature.natives]
    by_cases inside : index < signature.parameters.length
    · rw [List.getElem_append_left (by simpa using inside), List.getElem_map]
      exact front index _ _ _ (List.getElem?_eq_getElem inside) (List.getElem?_eq_getElem given)
        (List.getElem?_eq_getElem known)
    · have beyond : signature.parameters.length ≤ index := by omega
      have same := back index _ _ beyond (List.getElem?_eq_getElem given)
        (List.getElem?_eq_getElem known)
      rw [List.getElem_append_right (by simpa using beyond), List.getElem_map, List.getElem_drop]
      simpa [Nat.add_sub_cancel' beyond] using same

theorem returns_operandsFor {signature : Signature} (coherent : signature.Coherent)
    {arguments : List Value} (takes : signature.Takes arguments) :
    (operandsFor signature arguments).Returns fun operands =>
      operands.map (·.native) = signature.nativesFor arguments := by
  rw [operandsFor_eq]
  refine (returns_convertAll coherent takes).bind fun operands natives => ?_
  split
  next => exact .bind (Act.returns_true _) fun _ _ => .pure natives
  next => exact .pure natives

def callLent (code : NativeCode) (bound : BoundFunction) (types : List CType)
    (operands : List Operand) : Act World Value := do
  let signature := bound.signature
  let (slots, loans) ← Store.lendAll signature.model operands
  let interface : CallInterface := ⟨types, signature.result.native, signature.model⟩
  conclude signature loans 
    (← liftM (interface.call (code (UInt64.ofNat bound.address)) slots))

theorem invokeBuffered_none (code : NativeCode) (bound : BoundFunction) (arguments : List Value)
    (variadic : bound.signature.variadic = true) :
    invokeBuffered code bound none arguments =
      operandsFor bound.signature arguments >>= fun operands =>
        callLent code bound (operands.map (·.native)) operands := by
  simp only [invokeBuffered, operandsFor, bind_assoc, pure_bind, variadic, if_true, callLent]
  congr 1
  funext declared
  congr 1
  funext trailing
  simp only [CallInterface.prepare]
  split
  · rfl
  · rfl

theorem invokeBuffered_some (code : NativeCode) (bound : BoundFunction) (arguments : List Value)
    (fixed : bound.signature.variadic = false)
    (counted : arguments.length = bound.signature.parameters.length) (types : List CType) :
    invokeBuffered code bound
        (some ⟨types, bound.signature.result.native, bound.signature.model⟩) arguments =
      operandsFor bound.signature arguments >>= callLent code bound types := by
  have none : arguments.drop bound.signature.parameters.length = [] := by simp [← counted]
  simp only [invokeBuffered, operandsFor, bind_assoc, pure_bind, fixed, none, List.mapM_nil,
    List.append_nil]
  rfl

theorem run_callLent {code : NativeCode} (bound : BoundFunction) {types : List CType}
    {body : List UInt64 → StateM World UInt64}
    (computes : Computes (code (UInt64.ofNat bound.address)) body bound.signature.model types
      bound.signature.result.native) {operands : List Operand}
    (counted : types.length = operands.length) (world : World) :
    (callLent code bound types operands).run.run world =
      ((Store.lendAll bound.signature.model operands : Act World _) >>= fun (slots, loans) =>
        liftM (body (types.zipWith (·.cut bound.signature.model ·) slots)) >>=
          conclude bound.signature loans).run.run world := by
  have lent : ((Store.lendAll bound.signature.model operands).run world.toStore).1.1.length =
      operands.length := Store.length_lendAll _ operands world.toStore
  let interface : CallInterface := ⟨types, bound.signature.result.native, bound.signature.model⟩
  have faithful : ∀ returned : ReturnRegisters,
      interface.result.cut interface.model (interface.resultImage returned) =
        interface.result.cut interface.model (returned.image interface.result) :=
    fun returned => Slot.cut_widen _ _ _
  have called := conclude_of_computes computes faithful
  rw [callLent, Act.run_bind, Act.run_bind]
  generalize lendAll : (Store.lendAll bound.signature.model operands).run world.toStore = result
    at lent
  obtain ⟨⟨slots, loans⟩, store⟩ := result
  have arrives := interface.read_enter slots (by simp [interface, counted, lent])
  have same := called loans (interface.enter slots)
  rw [arrives] at same
  rw [run_onStore, lendAll]
  exact congrArg (fun action : Act World Value => action.run.run _) same

theorem invokeIn_buffer {code : NativeCode} {signature : Signature} {address : Nat}
    {path : CallPath} {arguments : List Value} {body : List UInt64 → StateM World UInt64}
    (coherent : signature.Coherent) (planned : plainPath signature .buffer = .ok path)
    (computes : Computes (code (UInt64.ofNat address)) body signature.model
      (signature.nativesFor arguments) signature.result.native) (name : String) (now : World) :
    (invokeIn code ⟨name, .ok ⟨signature, address, path⟩⟩ arguments).run.run now =
      (CallPlan.of name signature arguments now).run signature body := by
  by_cases takes : signature.Takes arguments
  · rw [CallPlan.run_of, prepareCall_of_takes takes, invokeIn_of_takes code takes, bind_assoc]
    apply Act.run_bind_congr
    intro _ world _
    rw [bind_assoc]
    have operandsAgree : ∀ (types : List CType → List CType),
        types (signature.nativesFor arguments) = signature.nativesFor arguments →
        (operandsFor signature arguments >>= fun operands =>
          callLent code ⟨signature, address, path⟩ (types (operands.map (·.native)))
            operands).run.run world =
        (operandsFor signature arguments >>= fun operands =>
          liftM (Store.lendAll signature.model operands) >>= fun (slots, loans) =>
            liftM (body ((signature.nativesFor arguments).zipWith (·.cut signature.model ·) slots))
              >>= conclude signature loans).run.run world := by
      intro types kept
      apply Act.run_bind_congr
      intro operands between ran
      have natives := (returns_operandsFor coherent takes).of_run ran
      rw [natives, kept]
      exact run_callLent ⟨signature, address, path⟩ computes (by simp [← natives]) between
    cases variadic : signature.variadic with
    | true =>
        simp only [plainPath, variadic, if_true] at planned
        cases planned
        change (invokeBuffered code ⟨signature, address, .buffer none⟩ none arguments).run.run
          world = _
        rw [invokeBuffered_none code ⟨signature, address, .buffer none⟩ arguments variadic]
        exact operandsAgree id rfl
    | false =>
        simp only [plainPath, variadic, Bool.false_eq_true, ↓reduceIte,
          CallInterface.prepare_named_all] at planned
        let interface : CallInterface :=
          ⟨signature.natives, signature.result.native, signature.model⟩
        cases planned
        have counted : arguments.length = signature.parameters.length := by
          simpa [Signature.Takes, variadic] using takes
        let bound : BoundFunction := ⟨signature, address, .buffer (some interface)⟩
        change (invokeBuffered code bound (some interface) arguments).run.run world = _
        rw [invokeBuffered_some code bound arguments variadic counted]
        exact operandsAgree (fun _ => signature.natives)
          (signature.nativesFor_of_counted counted).symm
  · exact invokeIn_of_not_takes code takes name now body

end World

end ForeignCall
