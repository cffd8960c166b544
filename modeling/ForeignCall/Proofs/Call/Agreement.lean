import ForeignCall.Proofs.Call.Paths

/-! The ways of calling agree: through every strategy that accepts a signature an invocation makes
the same call, or none, and ends in the same way. -/

namespace ForeignCall

/-- A function can be called along a path in some world: the path was built for the strategy, or it
leads through a stub that memory holds. Conversions leave stubs alone, which lie in sealed pages. -/
inductive Served (signature : Signature) (address : Nat) (world : World) :
    Strategy → CallPath → Prop
  | plain {strategy : Strategy} {path : CallPath}
      (built : World.plainPath signature strategy = .ok path) :
      Served signature address world strategy path
  | stub {start block : Nat} {code : X86.Code}
      (assembled : Stub.assemble? (UInt64.ofNat address) signature.argumentClasses
        signature.result.native signature.model = some code)
      (installed : world.memory.HoldsCode start code.relocated)
      (spares : signature.Spares start code.relocated) :
      Served signature address world .stub (.stub start block)

namespace Strategy

theorem isScalarOnly_of_isDirectCall {signature : Signature}
    (direct : isDirectCall signature = true) :
    signature.variadic = false ∧ signature.isScalarOnly = true := by
  simp only [isDirectCall, isPlainCall, Bool.and_eq_true, Bool.not_eq_true', List.all_eq_true,
    beq_iff_eq] at direct
  obtain ⟨⟨⟨⟨fixed, _⟩, _⟩, _⟩, integers⟩ := direct
  refine ⟨fixed, ?_⟩
  rw [Signature.isScalarOnly, List.all_eq_true]
  intro parameter known
  rw [integers parameter known]
  rfl

theorem isScalarOnly_of_accepts {strategy : Strategy} {signature : Signature}
    {setting : StrategySetting} (accepted : strategy.accepts signature setting = true)
    (direct : strategy ≠ .buffer) :
    signature.variadic = false ∧ signature.isScalarOnly = true := by
  cases strategy with
  | stub =>
      simp only [accepts, isPlainCall, Bool.and_eq_true, Bool.not_eq_true'] at accepted
      obtain ⟨⟨⟨⟨_, fixed, _⟩, scalar⟩, _⟩, _⟩ := accepted
      exact ⟨fixed, scalar⟩
  | fastInt =>
      simp only [accepts, Bool.and_eq_true] at accepted
      exact isScalarOnly_of_isDirectCall accepted.1.1.2
  | fastLong =>
      simp only [accepts, Bool.and_eq_true] at accepted
      exact isScalarOnly_of_isDirectCall accepted.1.2
  | fastNumeric =>
      simp only [accepts, Bool.and_eq_true, Bool.not_eq_true'] at accepted
      obtain ⟨⟨⟨_, fixed⟩, _⟩, scalar⟩ := accepted
      exact ⟨fixed, scalar⟩
  | buffer => exact absurd rfl direct

end Strategy

namespace World

theorem delivers_of_plainPath (code : NativeCode) {signature : Signature}
    (valid : signature.model.Valid) (coherent : signature.Coherent) {setting : StrategySetting}
    (sameModel : setting.model = signature.model) {strategy : Strategy}
    (accepted : strategy.accepts signature setting = true) (direct : strategy ≠ .buffer)
    (address : Nat) {path : CallPath} (built : plainPath signature strategy = .ok path) :
    (∀ interface, path ≠ .buffer interface) ∧ ∀ (images : List UInt64) (world : World),
      signature.natives.length = images.length →
        Delivers (callScalar code ⟨signature, address, path⟩ images) (code (UInt64.ofNat address))
          signature images world := by
  cases strategy with
  | stub => cases built
  | fastInt =>
      cases built
      refine ⟨by rintro interface ⟨⟩, fun images world counted => ?_⟩
      exact delivers_fastInt code address sameModel coherent accepted world counted
  | fastLong =>
      cases built
      refine ⟨by rintro interface ⟨⟩, fun images world counted => ?_⟩
      exact delivers_fastLong code address coherent accepted world counted
  | fastNumeric =>
      simp only [plainPath, CallInterface.prepare_named_all] at built
      cases built
      refine ⟨by rintro interface ⟨⟩, fun images world counted => ?_⟩
      exact delivers_numeric code signature address valid world counted
  | buffer => exact absurd rfl direct

theorem invokeIn_of_served {signature : Signature} (valid : signature.model.Valid)
    (coherent : signature.Coherent) {setting : StrategySetting}
    (sameModel : setting.model = signature.model) {strategy : Strategy}
    (accepted : strategy.accepts signature setting = true) {address : Nat} {now : World}
    {path : CallPath} (served : Served signature address now strategy path) {code : NativeCode}
    {body : List UInt64 → StateM World UInt64} {arguments : List Value}
    (computes : Computes (code (UInt64.ofNat address)) body signature.model
      (signature.nativesFor arguments) signature.result.native) (name : String) :
    (invokeIn code ⟨name, .ok ⟨signature, address, path⟩⟩ arguments).run.run now =
      (CallPlan.of name signature arguments now).run signature body := by
  by_cases lending : strategy = .buffer
  · subst lending
    cases served with
    | plain built => exact invokeIn_buffer coherent built computes name now
  · obtain ⟨fixed, scalar⟩ := Strategy.isScalarOnly_of_accepts accepted lending
    let bound : BoundFunction := ⟨signature, address, path⟩
    cases served with
    | plain built =>
        obtain ⟨direct, delivers⟩ :=
          delivers_of_plainPath code valid coherent sameModel accepted lending address built
        exact invokeIn_of_delivers bound valid scalar fixed direct computes name now
          fun _ images before _ _ counted => delivers images before counted
    | stub assembled installed spares =>
        refine invokeIn_of_delivers bound valid scalar fixed ?_ computes name now ?_
        · rintro interface ⟨⟩
        intro world images before memory ran counted
        rw [← memory] at installed
        -- the stub still lies where it was once the arguments are converted
        have holds := (keeps_imagesFor spares arguments _ _ _ installed ran).1
        exact delivers_stub code address valid assembled holds counted

/-- Invocations through any two strategies that accept a signature follow one plan, whatever
function is called: they are refused alike, or call the function once with the same arguments and
conclude alike. -/
theorem invocations_agree_of_accepts {defaults : SignatureDefaults}
    {declaration : FunctionDeclaration} {before after : World} {signature : Signature}
    (resolved : (resolveSignature defaults declaration).run.run before = (.ok signature, after))
    (valid : signature.model.Valid) {setting : StrategySetting}
    (sameModel : setting.model = signature.model) {left right : Strategy}
    (leftAccepts : left.accepts signature setting = true)
    (rightAccepts : right.accepts signature setting = true) {address : Nat} {now : World}
    {leftPath rightPath : CallPath} (leftServed : Served signature address now left leftPath)
    (rightServed : Served signature address now right rightPath) (name : String)
    (arguments : List Value) :
    ∃ plan : CallPlan, ∀ (code : NativeCode) (body : List UInt64 → StateM World UInt64),
      Computes (code (UInt64.ofNat address)) body signature.model
        (signature.nativesFor arguments) signature.result.native →
      (invokeIn code ⟨name, .ok ⟨signature, address, leftPath⟩⟩ arguments).run.run now =
          plan.run signature body ∧
        (invokeIn code ⟨name, .ok ⟨signature, address, rightPath⟩⟩ arguments).run.run now =
          plan.run signature body := by
  have coherent := (returns_resolveSignature defaults declaration).of_run resolved
  refine ⟨.of name signature arguments now, fun code body computes => ⟨?_, ?_⟩⟩
  · exact invokeIn_of_served valid coherent sameModel leftAccepts leftServed computes name
  · exact invokeIn_of_served valid coherent sameModel rightAccepts rightServed computes name

/-- A sum of a `long` and a `short` as a `byte`, above which the function leaves garbage, called
through a stub and directly. -/
theorem invocations_agree_narrow :
    let world := World.initial {} (.limited 4096 none true)
    let defaults : SignatureDefaults := { converters := ⟨0, none⟩, encoding := .utf8 }
    let declaration : FunctionDeclaration :=
      { name := "narrow", parameters := [{ type := .long }, { type := .short }],
        result := { type := .byte } }
    let arguments : List Value := [.long 300, .short (-1)]
    let body : List UInt64 → StateM World UInt64 := fun arguments =>
      return arguments.foldl (· + ·) 0
    let code : NativeCode := fun _ entry => do
      return ⟨(← body (entry.read .lp64 [.longLong, .short])) ^^^ 0xabcdef00, 0xdead⟩
    let loaded (stub : X86.Code) : World :=
      { world with memory := { regions := [⟨0x200000, 4096, stub.relocated⟩] } }
    ∃ (signature : Signature) (resolved : World) (stub : X86.Code) (plan : CallPlan),
      (resolveSignature defaults declaration).run.run world = (.ok signature, resolved) ∧
        Strategy.stub.accepts signature (.of .lp64 true true) = true ∧
        Strategy.fastLong.accepts signature (.of .lp64 true true) = true ∧
        (invokeIn code ⟨"narrow", .ok ⟨signature, 0x10000, .stub 0x200000 0⟩⟩ arguments).run.run
            (loaded stub) = plan.run signature body ∧
        (invokeIn code ⟨"narrow", .ok ⟨signature, 0x10000, .fastLong⟩⟩ arguments).run.run
            (loaded stub) = plan.run signature body := by
  intro world defaults declaration arguments body code loaded
  let plain (type : HostType) (native : CType) : Parameter :=
    { carrier := type, native, converter := none, declared := type, annotations := .empty
      context := ⟨.empty, .utf8⟩, kind := .integer }
  let signature : Signature :=
    { name := "narrow", parameters := [plain .long .longLong, plain .short .short]
      result :=
        { carrier := .byte, native := .signedChar, converter := none, declared := .byte
          context := ⟨.empty, .utf8⟩ }
      convention := .default, savesError := false, variadic := false, model := .lp64
      encoding := .utf8 }
  let stub := Stub.assemble 0x10000 [.integer, .integer] [0, 1] .signedChar .lp64
  have computes : Computes (code (UInt64.ofNat 0x10000)) body .lp64 [.longLong, .short]
      .signedChar := by
    intro entry
    simp only [code, body, bind_pure_comp, Functor.map_map]
    congr 1
    funext image
    refine CType.cut_of_alike ?_ rfl
    change (image.toBitVec ^^^ (0xabcdef00 : UInt64).toBitVec).setWidth 8 =
      image.toBitVec.setWidth 8
    rw [BitVec.setWidth_xor]
    exact BitVec.xor_zero
  have spares : signature.Spares 0x200000 stub.relocated := by
    intro parameter known value
    simp only [signature, List.mem_cons, List.not_mem_nil, or_false] at known
    rcases known with rfl | rfl <;> exact .pure trivial
  have held : (loaded stub).memory.HoldsCode 0x200000 stub.relocated := by
    refine ⟨[], ?_⟩
    simp [loaded, Memory.readWritten, Memory.find?, Region.holds, Region.writtenFrom]
  have stubServed : Served signature 0x10000 (loaded stub) .stub (.stub 0x200000 0) :=
    .stub rfl held spares
  obtain ⟨plan, agrees⟩ := invocations_agree_of_accepts
    (show (resolveSignature defaults declaration).run.run world = (.ok signature, _) from rfl)
    (by decide) (show (StrategySetting.of .lp64 true true).model = signature.model from rfl)
    (show Strategy.stub.accepts signature _ = true from rfl)
    (show Strategy.fastLong.accepts signature _ = true from rfl)
    stubServed (.plain rfl) "narrow" arguments
  exact ⟨signature, _, stub, plan, rfl, rfl, rfl, agrees code body computes⟩

end World

end ForeignCall
