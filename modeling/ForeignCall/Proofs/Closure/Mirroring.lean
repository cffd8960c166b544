import ForeignCall.Proofs.Call.Plan
import ForeignCall.Proofs.Closure.Shaping
import ForeignCall.Proofs.Slot

/-! Calls from native code mirror calls to it: a callable receives its arguments as a caller
receives the results of functions, and what it answers goes back as a caller's arguments go to
functions. -/

namespace ForeignCall

def ResultSlot.valueOf (slot : ResultSlot) (model : DataModel) (store : Store) (word : UInt64) :
    Except Fault Value :=
  ((slot.receive word slot.context model).run.run store).1

def ResultSlot.valuesOf (slots : List ResultSlot) (model : DataModel) (store : Store)
    (words : List UInt64) : Except Fault (List Value) :=
  (slots.zip words).mapM fun (slot, word) => slot.valueOf model store word

theorem ResultSlot.valuesOf_cons (slot : ResultSlot) (slots : List ResultSlot) (model : DataModel)
    (store : Store) (word : UInt64) (words : List UInt64) :
    valuesOf (slot :: slots) model store (word :: words) = do
      let value ← slot.valueOf model store word
      return value :: (← valuesOf slots model store words) := by
  rw [valuesOf, List.zip_cons_cons, List.mapM_cons]
  rfl

def Parameter.imageOf (parameter : Parameter) (model : DataModel) (store : Store) (value : Value) :
    Except Fault UInt64 :=
  ((parameter.send value parameter.context model).run.run store).1

namespace World

/-- What native code finds that called a callable with a result of some type: what a function with
such a parameter would find, as far as its C type covers it, or nothing at all. -/
def FindsAnswer (world : World) (defaults : SignatureDefaults) (model : DataModel)
    (type : HostType) (response : Response) (returned : ReturnRegisters) : Prop :=
  match response with
  | .value value =>
    if value = .void ∨ type = .void then returned = ⟨0, 0⟩
    else ∃ parameter, world.ResolvesParameter defaults type parameter ∧ ∀ store,
      match parameter.imageOf model store value with
      | .ok image => parameter.native.cut model (returned.image parameter.native) =
          parameter.native.cut model image
      | .error _ => returned = ⟨0, 0⟩
  | .fault _ | .panic => returned = ⟨0, 0⟩

end World

section Arguments

variable {encoding : TextEncoding} (model : DataModel)

theorem Passage.Plain.run_receive_widened {passage : Passage} {type : HostType} {slot : ResultSlot}
    (crosses : passage.Plain .fromNative type encoding)
    (resolved : slot.Plain .fromNative type encoding ∧ slot.context = ⟨.empty, encoding⟩)
    (word : UInt64) (store : Store) :
    (passage.receive (Slot.widen word passage.native model) ⟨.empty, encoding⟩ model).run.run
      store = (slot.valueOf model store (slot.native.cut model word), store) := by
  obtain ⟨plain, context⟩ := resolved
  rw [crosses.run_receive, ResultSlot.valueOf, context, World.receive_cut slot.toPassage,
    ← crosses.receive_eq plain, ← World.receive_cut passage (Slot.widen word _ _), Slot.cut_widen,
    World.receive_cut]

theorem run_receive_fetched {types : List HostType} {passages : List Passage}
    {slots : List ResultSlot}
    (crossing : List.Forall₂ (fun type passage =>
      passage.Plain .fromNative type encoding ∧ passage.carrier.isScalar = true) types passages)
    (resolved : List.Forall₂ (fun type slot => slot.Plain .fromNative type encoding ∧
      slot.context = ⟨.empty, encoding⟩) types slots)
    (entry : EntryRegisters) (store : Store) :
    (((passages.zip (entry.fetch model (passages.map Passage.native)).1).mapM
        fun ((passage, image) : Passage × UInt64) =>
          passage.receive image ⟨.empty, encoding⟩ model) : Act Store (List Value)).run.run store =
      (ResultSlot.valuesOf slots model store (entry.read model (slots.map (·.native))), store) := by
  induction crossing generalizing slots entry with
  | nil =>
      cases resolved
      rfl
  | @cons type passage types passages crosses _ ih =>
      cases resolved with
      | @cons _ slot _ slots first others =>
      have head := crosses.1.run_receive_widened model first
        (entry.pop passage.native.isFloating).1 store
      have tail := ih others (entry.pop passage.native.isFloating).2
      simp only [List.map_cons, EntryRegisters.fetch, EntryRegisters.read, List.zip_cons_cons,
        List.mapM_cons, ResultSlot.valuesOf_cons]
      rw [Act.run_bind, head, ← crosses.1.native_eq first.1]
      cases slot.valueOf model store (passage.native.cut model
        (entry.pop passage.native.isFloating).1) with
      | error fault => rfl
      | ok value =>
          dsimp only
          rw [Act.run_bind, tail]
          cases ResultSlot.valuesOf slots model store _ <;> rfl

end Arguments

namespace ClosureShape.Plain

variable {shape : ClosureShape} {type : CallbackType} {encoding : TextEncoding} {model : DataModel}
  (plain : shape.Plain type encoding model)
include plain

theorem run_receiveAll {slots : List ResultSlot}
    (resolved : List.Forall₂ (fun type slot => slot.Plain .fromNative type encoding ∧
      slot.context = ⟨.empty, encoding⟩) type.parameters slots)
    (entry : EntryRegisters) (store : Store) :
    (shape.receiveAll (entry.fetch shape.interface.model shape.interface.arguments).1).run.run
      store =
        (ResultSlot.valuesOf slots model store (entry.read model (slots.map (·.native))),
          store) := by
  rw [receiveAll, plain.context, plain.interface]
  exact run_receive_fetched model plain.parameters resolved entry store

theorem run_sendResult_nothing {value : Value} (nothing : value = .void ∨ type.result = .void)
    (store : Store) : (shape.sendResult value).run.run store = (.ok 0, store) := by
  rw [sendResult, if_pos (nothing.imp id plain.result.native_eq_void_iff.2)]
  rfl

theorem run_sendResult {parameter : Parameter}
    (resolved : parameter.Plain .toNative type.result encoding)
    (context : parameter.context = ⟨.empty, encoding⟩) {value : Value}
    (something : ¬(value = .void ∨ type.result = .void)) (store other : Store) :
    (shape.sendResult value).run.run store = (parameter.imageOf model other value, store) := by
  have scalar := plain.result.isScalar_of_ne_void (fun nothing => something (.inr nothing))
    plain.returned
  obtain ⟨outcome, sends⟩ :=
    plain.result.exists_send_eq scalar value ⟨.empty, encoding⟩ model
  have sent : ¬(value = .void ∨ shape.result.native = .void) :=
    fun nothing => something (nothing.imp id plain.result.native_eq_void_iff.1)
  rw [sendResult, if_neg sent, plain.context, plain.interface, sends, Parameter.imageOf, context,
    ← plain.result.send_eq resolved, sends]
  cases outcome <;> rfl

end ClosureShape.Plain

namespace World

section Answers

variable {shape : ClosureShape} {type : CallbackType} {model : DataModel} {there : World}
  {defaults : SignatureDefaults}

theorem findsAnswer_value (plain : shape.Plain type defaults.encoding model)
    (likewise : defaults.converters.Plain defaults.encoding there.mappers)
    (value : Value) (store : Store) :
    there.FindsAnswer defaults model type.result (.value value) (closing shape.interface
      (((shape.sendResult value).run.run store).1.mapError Fault.message)) := by
  have result : shape.interface.result = shape.result.native := by rw [plain.interface]
  have lowers : shape.interface.model = model := by rw [plain.interface]
  rw [FindsAnswer]
  split
  next nothing =>
    rw [plain.run_sendResult_nothing nothing]
    exact ofImage_widen_zero _ _
  next something =>
    have some : type.result ≠ .void := fun nothing => something (.inr nothing)
    have scalar := plain.result.isScalar_of_ne_void some plain.returned
    obtain ⟨parameter, resolves, crosses, context⟩ :=
      exists_resolvesParameter likewise plain.result scalar
    refine ⟨parameter, resolves, fun other => ?_⟩
    rw [plain.run_sendResult crosses context something store other]
    cases parameter.imageOf model other value with
    | error fault => rfl
    | ok image =>
        have native := plain.result.native_eq crosses
        have visible : shape.result.native ≠ .void :=
          fun nothing => some (plain.result.native_eq_void_iff.1 nothing)
        simp only [Except.mapError, closing, result, lowers, ← native,
          ReturnRegisters.image_ofImage, Slot.cut_widen, Slot.cut_putResult visible]

theorem findsAnswer_returning (plain : shape.Plain type defaults.encoding model)
    (likewise : defaults.converters.Plain defaults.encoding there.mappers)
    (response : Response) (left : World) :
    there.FindsAnswer defaults model type.result response
        (closing shape.interface (returning shape response left).1) ∧
      (returning shape response left).2.invocations = left.invocations := by
  cases response with
  | value value => exact ⟨findsAnswer_value plain likewise value left.toStore, rfl⟩
  | fault | panic => exact ⟨rfl, rfl⟩

theorem exists_resolvesResults {types : List HostType} {passages : List Passage}
    (crossing : List.Forall₂ (fun type passage => passage.Plain .fromNative type defaults.encoding ∧
      passage.carrier.isScalar = true) types passages)
    (likewise : defaults.converters.Plain defaults.encoding there.mappers) :
    ∃ results, List.Forall₂ (there.ResolvesResult defaults) types results ∧
      List.Forall₂ (fun type slot => slot.Plain .fromNative type defaults.encoding ∧
        slot.context = ⟨.empty, defaults.encoding⟩) types results := by
  induction crossing with
  | nil => exact ⟨[], .nil, .nil⟩
  | cons crosses _ ih =>
      obtain ⟨slot, resolves, plain⟩ := exists_resolvesResult likewise crosses.1 crosses.2
      obtain ⟨results, others, all⟩ := ih
      exact ⟨slot :: results, .cons resolves others, .cons plain all⟩

end Answers

variable {pipeline : Pipeline} {encoding : TextEncoding} {model : DataModel} {type : CallbackType}

theorem Sound.shape_of_run_openPool {origin opened world : World} (sound : origin.Sound)
    (plain : origin.Plain pipeline encoding model) (closed : ¬origin.Opens type) {number : Nat}
    (opens : (openPool type).run.run origin = (.ok number, opened)) (later : Steps opened world) :
    ∃ entered shape built, entered.Plain pipeline encoding model ∧
      (buildShape type).run.run entered = (.ok shape, built) ∧
        world.AtPool number (·.shape = shape) := by
  have kept := (later.sound (of_run_openPool sound opens).1.sound).2
  have numbered := findIdx?_poolNumber origin type
  have opensToo := opens_poolNumber origin type type
  have enters := holds_poolNumber indifferent_plain.pools type plain
  rw [run_openPool] at opens
  generalize (poolNumber type).run origin = entry at *
  obtain ⟨entry, entered⟩ := entry
  dsimp only at *
  split at opens
  next pool present => exact absurd (opensToo.1 ⟨entry, pool, numbered, present⟩) closed
  next =>
    split at opens
    next shape built builds =>
      cases opens
      refine ⟨entered, shape, built, enters, builds, kept.shapes _ shape ?_⟩
      have pools : built.pools = entered.pools :=
        ((resolvable_pools entered.pools).keeps_buildShape type entered _ _ rfl builds).1
      have present : number < built.pools.length :=
        pools ▸ (List.findIdx?_eq_some_iff_getElem.1 numbered).1
      exact (atPool_withPool built present _ number _).2 (by rw [if_pos rfl])
    next => cases opens

/-- Where a callback type has closures, a call through one of them mirrors calls of functions. Its
callable, if it lives, receives what functions with results of the declared types would return, if
they left the same words; and native code finds the image that a parameter of the result type would
have for the answer. If anything fails it finds zero, and if an argument fails the callable does not
run. -/
theorem enter_mirrors {origin built : World} (plain : origin.Plain pipeline encoding model)
    {pool : Pool} (builds : (buildShape type).run.run origin = (.ok pool.shape, built))
    {defaults : SignatureDefaults} (encodes : defaults.encoding = encoding) {there : World}
    (likewise : defaults.converters.Plain encoding there.mappers)
    {world : World} (reachable : world.Reachable) {number : Nat}
    (found : world.pool? number = some pool) {slot : ClosureSlot} (known : slot ∈ pool.handedOut)
    {pointer : UInt64} (code : pointer.toNat = slot.code) (entry : EntryRegisters) :
    ∃ results, List.Forall₂ (there.ResolvesResult defaults) type.parameters results ∧
      let words := entry.read model (results.map (·.native))
      let (returned, after) := (enter pointer entry).run world
      match world.liveTarget? pool slot, ResultSlot.valuesOf results model world.toStore words with
      | some (serial, callable), .ok arguments =>
        after.invocations = world.invocations ++ [(serial, arguments)] ∧
          there.FindsAnswer defaults model type.result
            ((callable.respond arguments).run world.heap).1 returned
      | _, _ => after.invocations = world.invocations ∧ returned = ⟨0, 0⟩ := by
  subst encodes
  have shaped := plain.of_run_buildShape builds
  obtain ⟨results, resolves, all⟩ := exists_resolvesResults shaped.parameters likewise
  refine ⟨results, resolves, ?_⟩
  have received := shaped.run_receiveAll all entry world.toStore
  have entering := run_enterClosure pool slot entry world
  rw [run_dispatch, imagesOf, received] at entering
  dsimp only at entering ⊢
  rw [reachable.sound.run_enter found known code entry, entering]
  cases world.liveTarget? pool slot with
  | none => exact ⟨rfl, rfl⟩
  | some target =>
      obtain ⟨serial, callable⟩ := target
      cases ResultSlot.valuesOf results model world.toStore _ with
      | error fault => exact ⟨rfl, rfl⟩
      | ok arguments =>
          obtain ⟨finds, kept⟩ := findsAnswer_returning shaped likewise
            ((callable.respond arguments).run world.heap).1
            ((runCallable serial callable arguments).run world).2
          refine ⟨Eq.trans ?_ kept, finds⟩
          dsimp only
          split <;> rfl

def narrowing : CallbackType := ⟨[.byte], .short, .default⟩

def answering : World :=
  ((newCallableAt 7 fun _ => return .value (.int 0x18345)).run small).2

def listening : World :=
  ((slotFor 0 0).run.run ((openPool narrowing).run.run answering).2).2

def bare : SignatureDefaults :=
  { converters := ((Pipeline.create none).run small.mappers).1, encoding := .utf8 }

def beside : World := { small with mappers := ((Pipeline.create none).run small.mappers).2 }

def arriving : EntryRegisters := ⟨[0x1ff], [], []⟩

theorem plain_answering : answering.Plain ⟨0, none⟩ .utf8 .host := by
  have started : World.start {} (some (.limited 256 none true)) = .ok small := rfl
  exact (plain_of_start started).newCallableAt 7 _

theorem reachable_answering : answering.Reachable := by
  have start : small.Reachable := ⟨{}, some (.limited 256 none true), small, rfl, .refl⟩
  exact start.step (.newCallableAt 7 _ fun serial lives =>
    absurd (lt_of_isAlive lives) (Nat.not_lt_zero serial))

theorem reachable_listening : listening.Reachable :=
  (reachable_answering.step (.openPool narrowing)).step (.slotFor 0 0 (by decide +kernel))

theorem exists_pool_listening : ∃ pool, listening.pool? 0 = some pool ∧
    ⟨0x101000, 0⟩ ∈ pool.handedOut ∧ ∃ entered built, entered.Plain ⟨0, none⟩ .utf8 .host ∧
      (buildShape narrowing).run.run entered = (.ok pool.shape, built) := by
  have opens : (openPool narrowing).run.run answering = (.ok 0, _) :=
    Act.run_of_toOption (by decide +kernel)
  have closed : ¬answering.Opens narrowing := by
    have absent : answering.pools.findIdx? (·.1 == narrowing) = none := by decide +kernel
    rintro ⟨number, pool, found, _⟩
    cases absent.symm.trans found
  have passed : Steps ((openPool narrowing).run.run answering).2 listening :=
    .step .refl (.slotFor 0 0 (by decide +kernel))
  obtain ⟨entered, shape, built, plain, builds, pool, found, rfl⟩ :=
    reachable_answering.sound.shape_of_run_openPool plain_answering closed opens passed
  refine ⟨pool, found, ?_, entered, built, plain, builds⟩
  have all : (listening.pool? 0).map (·.handedOut) = some [⟨0x101000, 0⟩] := by decide +kernel
  rw [found, Option.map_some, Option.some_inj] at all
  rw [all]
  exact List.mem_singleton_self _

theorem answers_listening {pool : Pool} (found : listening.pool? 0 = some pool) :
    (listening.liveTarget? pool ⟨0x101000, 0⟩).map (fun (serial, callable) =>
      (serial, ((callable.respond [.byte (-1)]).run listening.heap).1)) =
        some (0, .value (.int 0x18345)) := by
  have answers : (listening.pool? 0).bind (fun pool =>
      (listening.liveTarget? pool ⟨0x101000, 0⟩).map fun (serial, callable) =>
        (serial, ((callable.respond [.byte (-1)]).run listening.heap).1)) =
          some (0, .value (.int 0x18345)) := by
    decide +kernel
  rwa [found] at answers

theorem enter_mirrors_narrowing :
    ((enter 0x101000 arriving).run listening).2.invocations = [(0, [.byte (-1)])] ∧
      CType.short.cut .host (((enter 0x101000 arriving).run listening).1.image .short) =
        0xffffffffffff8345 := by
  obtain ⟨pool, found, known, entered, built, plain, builds⟩ := exists_pool_listening
  have likewise : bare.converters.Plain .utf8 beside.mappers := .create .utf8 small.mappers
  have encodes : bare.encoding = .utf8 := rfl
  have code : (0x101000 : UInt64).toNat = (⟨0x101000, 0⟩ : ClosureSlot).code := by decide
  have mirrors := enter_mirrors plain builds encodes likewise reachable_listening found known code
    arriving
  have answers := answers_listening found
  have fresh : listening.invocations = [] := by decide +kernel
  have received : ((resolveResult bare ⟨.byte, .empty, none⟩).run.run beside).1.map
      (fun slot => ResultSlot.valuesOf [slot] .host listening.toStore
        (arriving.read .host [slot.native])) = .ok (.ok [.byte (-1)]) := by
    decide +kernel
  have sent : ((resolveParameter bare ⟨.short, .empty, none⟩).run.run beside).1.map
      (fun parameter => (parameter.native, parameter.imageOf .host {} (.int 0x18345))) =
        .ok (.short, .ok 0xffffffffffff8345) := by
    decide +kernel
  -- the theorem tells the outcome of the call, which therefore is not run
  generalize (enter 0x101000 arriving).run listening = run at mirrors ⊢
  generalize listening.liveTarget? pool ⟨0x101000, 0⟩ = target at mirrors answers
  obtain ⟨returned, after⟩ := run
  obtain ⟨results, resolves, mirrors⟩ := mirrors
  dsimp only at mirrors
  generalize values : ResultSlot.valuesOf results .host listening.toStore
    (arriving.read .host (results.map (·.native))) = outcome at mirrors
  obtain rfl : outcome = .ok [.byte (-1)] := by
    cases resolves with
    | cons first others =>
        cases others
        obtain ⟨_, resolved⟩ := first
        rw [resolved] at received
        exact values.symm.trans (Except.ok.inj received)
  cases target with
  | none => cases answers
  | some target =>
      obtain ⟨serial, callable⟩ := target
      obtain ⟨rfl, responds⟩ := Prod.ext_iff.1 (Option.some.inj answers)
      dsimp only at responds mirrors
      rw [responds, fresh] at mirrors
      obtain ⟨invoked, finds⟩ := mirrors
      refine ⟨invoked, ?_⟩
      have finds : ∃ parameter, beside.ResolvesParameter bare .short parameter ∧ _ := finds
      obtain ⟨parameter, ⟨_, resolved⟩, finds⟩ := finds
      rw [resolved] at sent
      obtain ⟨native, image⟩ := Prod.ext_iff.1 (Except.ok.inj sent)
      specialize finds {}
      dsimp only at native image
      rw [image, native] at finds
      exact finds.trans (by decide)

end World

end ForeignCall
