import ForeignCall.Proofs.Call.Scalars
import ForeignCall.Proofs.Closure.Quiet
import ForeignCall.Proofs.Pages

/-! The ways of calling with register images: what each of them demands of a signature is enough for
the arguments to arrive and for the result to come back. -/

namespace ForeignCall

/-- The conversions of the arguments leave code where it is. -/
def Signature.Spares (signature : Signature) (address : Nat) (code : List UInt8) : Prop :=
  ∀ parameter ∈ signature.parameters, ∀ value : Value,
    (parameter.convert value parameter.context).Keeps (·.memory.HoldsCode address code)

theorem Signature.spares_of_quiet {signature : Signature}
    (quiet : ∀ parameter ∈ signature.parameters, parameter.Quiet) (address : Nat)
    (code : List UInt8) : signature.Spares address code := by
  intro parameter known value store outcome after holds ran
  have same : after.memory = store.memory :=
    Act.Keeps.of_run (fun later => later.memory = store.memory) ran rfl
      ((quiet parameter known).keeps_convert store.memory value parameter.context)
  refine ⟨?_, fun _ _ => trivial⟩
  rwa [← same] at holds

namespace EntryRegisters

theorem classed_of_integers {types : List CType} {words : List UInt64}
    (counted : types.length = words.length)
    (integers : ∀ type ∈ types, type.isFloating = false) :
    classed types words = words.map (false, ·) := by
  apply List.ext_getElem
  · simp [classed, counted]
  · intro index present _
    have inside : index < types.length := by
      simp only [classed, List.length_map, List.length_zip] at present
      omega
    simp [classed, integers _ (List.getElem_mem inside)]

end EntryRegisters

namespace World

theorem keeps_imagesFor {signature : Signature} {address : Nat} {code : List UInt8}
    (spares : signature.Spares address code) (arguments : List Value) :
    (imagesFor signature arguments).Keeps (·.memory.HoldsCode address code) := by
  have each : ∀ item ∈ signature.parameters.zip arguments,
      Act.Keeps (fun world : World => world.memory.HoldsCode address code)
        (liftM (item.1.send item.2 item.1.context signature.model)) := by
    rintro ⟨parameter, value⟩ known
    have converted : Act.Keeps (fun store => store.memory.HoldsCode address code)
        (parameter.convert value parameter.context) :=
      spares parameter (List.of_mem_zip known).1 value
    have sent : Act.Keeps (fun store => store.memory.HoldsCode address code)
        (parameter.send value parameter.context signature.model) :=
      converted.bind fun result _ => .ofExcept fun _ _ => trivial
    exact ensures_onStore sent
  exact (Act.Ensures.mapM _ each).weaken fun _ _ => trivial

theorem delivers_numeric (code : NativeCode) (signature : Signature) (address : Nat)
    (valid : signature.model.Valid) {images : List UInt64} (world : World)
    (counted : signature.natives.length = images.length) :
    let interface : CallInterface := ⟨signature.natives, signature.result.native, signature.model⟩
    Delivers (callScalar code ⟨signature, address, .numeric interface⟩ images)
      (code (UInt64.ofNat address)) signature images world := by
  intro interface
  let slots := signature.natives.zipWith
    (fun type image => Slot.ofImage image type signature.model) images
  refine ⟨interface.resultImage, interface.enter slots, ?_, ?_,
    fun returned => Slot.cut_widen _ _ _⟩
  · have filled : (signature.natives.zip images).map
        (fun item => Slot.ofImage item.2 item.1 signature.model) = slots := by
      simp [slots, List.zip, List.map_zipWith]
    change (interface.call (code (UInt64.ofNat address)) ((signature.natives.zip images).map
      fun item => Slot.ofImage item.2 item.1 signature.model)).run world = _
    rw [filled]
    rfl
  · rw [interface.read_enter slots (by simp [slots, counted, interface])]
    exact zipWith_cut_ofImage valid signature.natives images

theorem read_integers {model : DataModel} {types : List CType} {images : List UInt64}
    (counted : types.length = images.length)
    (integers : ∀ type ∈ types, type.isFloating = false) (word : UInt64 → UInt64)
    (covered : ∀ type ∈ types, ∀ image, type.cut model (word image) = type.cut model image) :
    (EntryRegisters.ofArguments (images.map fun image => (false, word image))).read model types =
      types.zipWith (·.cut model ·) images := by
  have classes : images.map (fun image => (false, word image)) =
      EntryRegisters.classed types (images.map word) := by
    rw [EntryRegisters.classed_of_integers (by simpa using counted) integers]
    simp
  rw [classes, EntryRegisters.read_ofArguments _ _ _ (by simpa using counted)]
  apply List.ext_getElem
  · simp
  · intro index present _
    have inside : index < types.length := by
      simp only [List.length_zipWith] at present
      omega
    simp [covered _ (List.getElem_mem inside)]

theorem image_of_isIntegral {type : CType} (integral : type.isIntegral = true)
    (returned : ReturnRegisters) : returned.image type = returned.integer := by
  have whole := ((CType.isIntegral_iff type).1 integral).2
  simp [ReturnRegisters.image, whole]

theorem cut_lowInteger {type : CType} {model : DataModel}
    (fits : Strategy.fitsInt type model = true)
    (image : UInt64) : type.cut model image.toUInt32.toUInt64 = type.cut model image := by
  simp only [Strategy.fitsInt, Bool.and_eq_true, decide_eq_true_eq] at fits
  exact CType.cut_of_alike (CType.alike_zeroExtend 32 image (by simp [CType.bits]; omega)
    (by decide)) fits.1

theorem cut_signedInteger {type : CType} {model : DataModel}
    (fits : Strategy.fitsInt type model = true) (image : UInt64) :
    type.cut model image.toUInt32.toInt32.toInt64.toUInt64 = type.cut model image := by
  simp only [Strategy.fitsInt, Bool.and_eq_true, decide_eq_true_eq] at fits
  exact CType.cut_of_alike (CType.alike_signExtend 32 image (by simp [CType.bits]; omega)
    (by decide)) fits.1

theorem natives_of_isDirectCall {signature : Signature} (coherent : signature.Coherent)
    (direct : Strategy.isDirectCall signature = true) :
    ∀ type ∈ signature.natives, type.isFloating = false := by
  intro type known
  obtain ⟨parameter, declared, rfl⟩ := List.mem_map.1 known
  simp only [Strategy.isDirectCall, Bool.and_eq_true, List.all_eq_true, beq_iff_eq] at direct
  exact (coherent parameter declared).integer (direct.2 parameter declared)

theorem delivers_fastInt (code : NativeCode) {signature : Signature} (address : Nat)
    {setting : StrategySetting} (sameModel : setting.model = signature.model)
    (coherent : signature.Coherent) (accepted : Strategy.fastInt.accepts signature setting = true)
    {images : List UInt64} (world : World)
    (counted : signature.natives.length = images.length) :
    Delivers (callScalar code ⟨signature, address, .fastInt⟩ images) (code (UInt64.ofNat address))
      signature images world := by
  simp only [Strategy.accepts, Bool.and_eq_true, List.all_eq_true, Bool.or_eq_true, beq_iff_eq,
    sameModel] at accepted
  obtain ⟨⟨⟨_, direct⟩, narrow⟩, result⟩ := accepted
  refine ⟨fun returned => returned.integer.toUInt32.toInt32.toInt64.toUInt64,
    .ofArguments (images.map fun image => (false, image.toUInt32.toUInt64)), ?_, ?_, ?_⟩
  · rfl
  · exact read_integers counted (natives_of_isDirectCall coherent direct) (·.toUInt32.toUInt64)
      fun type known => cut_lowInteger (narrow type known)
  · intro returned
    rcases result with void | fits
    · rw [void]
      rfl
    · have integral : signature.result.native.isIntegral = true := by
        simp only [Strategy.fitsInt, Bool.and_eq_true] at fits
        exact fits.1
      rw [image_of_isIntegral integral]
      exact cut_signedInteger fits returned.integer

theorem delivers_fastLong (code : NativeCode) {signature : Signature} (address : Nat)
    {setting : StrategySetting} (coherent : signature.Coherent)
    (accepted : Strategy.fastLong.accepts signature setting = true)
    {images : List UInt64} (world : World)
    (counted : signature.natives.length = images.length) :
    Delivers (callScalar code ⟨signature, address, .fastLong⟩ images) (code (UInt64.ofNat address))
      signature images world := by
  simp only [Strategy.accepts, Bool.and_eq_true, Bool.or_eq_true, beq_iff_eq] at accepted
  obtain ⟨⟨⟨_, _⟩, direct⟩, result⟩ := accepted
  refine ⟨fun returned => returned.integer, .ofArguments (images.map (false, ·)), rfl, ?_, ?_⟩
  · exact read_integers counted (natives_of_isDirectCall coherent direct) id fun _ _ _ => rfl
  · intro returned
    rcases result with void | integral
    · rw [void]
      rfl
    · rw [image_of_isIntegral integral]

theorem delivers_stub (code : NativeCode) {signature : Signature} (address : Nat)
    (valid : signature.model.Valid) {start block : Nat} {stub : X86.Code}
    (assembled : Stub.assemble? (UInt64.ofNat address) signature.argumentClasses
      signature.result.native signature.model = some stub)
    {images : List UInt64} {world : World} (holds : world.memory.HoldsCode start stub.relocated)
    (counted : signature.natives.length = images.length) :
    Delivers (callScalar code ⟨signature, address, .stub start block⟩ images)
      (code (UInt64.ofNat address)) signature images world := by
  obtain ⟨registers, assigned, rfl⟩ := Option.map_eq_some_iff.1 assembled
  obtain ⟨rest, written⟩ := holds
  have few := RegisterUse.length_le_of_assignFrom_systemV assigned (by decide) (by decide)
  simp only [List.length_map, Signature.argumentClasses] at few
  have entered : Stub.EnteredWith (X86.Cpu.start images) images :=
    Stub.enteredWith_start (by omega)
  have calls : Stub.CallsOnce ((Stub.assemble (UInt64.ofNat address) signature.argumentClasses
      registers signature.result.native signature.model).relocated ++ rest) (.start images)
        (UInt64.ofNat address) signature.argumentClasses images signature.result.native
        signature.model :=
    Stub.callsOnce_assemble signature.result.native rest valid assigned entered
  obtain ⟨entry, arrives, runs⟩ := X86.callBlock_of_callsOnce counted calls
  refine ⟨fun returned => signature.result.native.cut signature.model
    (returned.image signature.result.native), entry, ?_, arrives,
    fun returned => CType.cut_cut _ _ _⟩
  have answered := runs (StateM World) code
  change (X86.callBlock code (world.memory.readWritten start) images).run world = _
  rw [written, answered]

end World

end ForeignCall
