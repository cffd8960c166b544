import ForeignCall.Proofs.Binding.Gentleness
import ForeignCall.Proofs.Binding.Invoking

/-! An invocation calls its function once if the arguments can be converted, and else changes
nothing. After a call the error code is saved and buffers are copied back, whatever comes of the
result. -/

namespace ForeignCall

theorem BoundFunction.spared_of_gentle {bound : BoundFunction} (gentle : bound.signature.Gentle) :
    bound.Spared :=
  fun start _ _ code => gentle.spares start code

namespace World

def refusal? (signature : Signature) (arguments : List Value) (world : World) : Option Fault :=
  if signature.Takes arguments then
    match ((convertAll signature arguments).run.run world :
      Except Fault (List Operand) × World) with
    | (.ok _, _) => none
    | (.error fault, _) => some fault
  else some (.argumentCount signature.parameters.length arguments.length)

def lentBytes (world : World) (loan : Loan) : List UInt8 :=
  world.memory.read loan.address loan.length

/-- How an invocation ends, told what the function answered and left: the error code is saved first.
Then buffers are copied back, all of them unless an array has outgrown its own. In that case the
program ends; else the result is converted. -/
structure Concluded (signature : Signature) (loans : List Loan) (called : UInt64 × World)
    (final : Except Fault Value × World) : Prop where
  saved : final.2.savedError =
    if signature.savesError then called.2.errorCode else called.2.savedError
  returned : ∃ heap, called.2.heap.copyBackAll? called.2.lentBytes (called.2.heap.returned loans) =
    some heap ∧ heap.Within final.2.heap
  outcome : (∀ loan ∈ loans, called.2.heap.fits loan = true) → ∃ store : Store,
    called.2.heap.copyBackAll? called.2.lentBytes loans = some store.heap ∧
      store.abort? = called.2.abort? ∧ final.1 = ((signature.result.receive called.1
        signature.result.context signature.model).run.run store).1
  aborted : (∃ loan ∈ loans, called.2.heap.fits loan = false) →
    final.1 = .error Store.outgrown ∧ final.2.abort? = some .outOfRange

theorem run_conclude (signature : Signature) (loans : List Loan) (image : UInt64) (world : World) :
    (conclude signature loans image).run.run world =
      let saved : World := { world with
        savedError := if signature.savesError then world.errorCode else world.savedError }
      match ((Store.settle loans).run.run world.toStore : Except Fault Unit × Store) with
      | (.ok _, store) =>
        let ended := (signature.result.receive image signature.result.context
          signature.model).run.run store
        (ended.1, { saved with toStore := ended.2 })
      | (.error fault, store) => (.error fault, { saved with toStore := store }) := by
  have recorded : (liftM (saveError signature) : Act World Unit).run.run world =
      (.ok (), { world with
        savedError := if signature.savesError then world.errorCode else world.savedError }) := by
    rw [saveError]
    cases signature.savesError <;> rfl
  rw [conclude, Act.run_bind, recorded]
  dsimp only
  rw [Act.run_bind, run_inStore]
  dsimp only
  generalize (Store.settle loans).run.run world.toStore = settled
  obtain ⟨fault | done, store⟩ : Except Fault Unit × Store := settled
  · rfl
  · rfl

theorem concluded_conclude {signature : Signature} (gentle : signature.result.Gentle)
    {loans : List Loan} (apart : loans.Pairwise (·.address ≠ ·.address)) (called : UInt64 × World)
    (lends : ∀ loan ∈ loans, called.2.memory.Lends loan.address loan.length) :
    Concluded signature loans called
      ((conclude signature loans called.1).run.run called.2) := by
  obtain ⟨heap, memory, copied, settled⟩ := Store.run_settle apart lends
  rw [run_conclude, settled]
  by_cases fit : loans.all called.2.heap.fits = true
  · rw [if_pos fit]
    have all := List.all_eq_true.1 fit
    let store : Store := { called.2.toStore with heap, memory }
    have kept := (gentle.keeps_receive heap called.1 signature.result.context
      signature.model store _ _ (.refl _) rfl).1
    refine ⟨rfl, ⟨heap, copied, kept⟩, fun _ => ⟨store, ?_, rfl, rfl⟩, ?_⟩
    · rwa [Heap.returned_eq_self all] at copied
    · rintro ⟨loan, known, outgrown⟩
      cases (all loan known).symm.trans outgrown
  · rw [if_neg fit]
    refine ⟨rfl, ⟨heap, copied, .refl _⟩, fun all => ?_, fun _ => ⟨rfl, rfl⟩⟩
    exact absurd (List.all_eq_true.2 all) fit

end World

namespace CallPlan

/-- What a plan comes to: it is refused and nothing was changed, or there is nothing to refuse, and
the call is concluded whatever the function did, as long as the buffers are still there. -/
def Settled (signature : Signature) (arguments : List Value) (now noted : World) :
    CallPlan → Prop
  | refuse fault after =>
    World.refusal? signature arguments noted = some fault ∧ now.Within after
  | call sent loans before =>
    World.refusal? signature arguments noted = none ∧ now.Within before ∧
      (∀ loan ∈ loans, before.memory.Lends loan.address loan.length) ∧
      ∀ body : List UInt64 → StateM World UInt64,
        let called := (body sent).run before
        (∀ loan ∈ loans, called.2.memory.Lends loan.address loan.length) →
          World.Concluded signature loans called ((call sent loans before).run signature body)

theorem settled_of {signature : Signature} (coherent : signature.Coherent)
    (gentle : signature.Gentle) (name : String) (arguments : List Value) (now : World) :
    (of name signature arguments now).Settled signature arguments now
      (now.noting name arguments) := by
  rw [of_eq coherent]
  by_cases takes : signature.Takes arguments
  · rw [if_pos takes]
    split
    next operands between ran =>
      have refused : World.refusal? signature arguments (now.noting name arguments) = none := by
        rw [World.refusal?, if_pos takes, ran]
      have within := (World.within_convertAll gentle arguments _ _ _
        (now.within_noting name arguments) ran).1
      have lending := Store.lending_lendAll signature.model operands between.toStore
      generalize (Store.lendAll signature.model operands).run between.toStore = lent at lending ⊢
      refine ⟨refused, ⟨?_, within.saved⟩, fun loan known => (lending.lent.of_mem known).1,
        fun body lends => ?_⟩
      · have same : lent.2.heap = between.heap := by rw [lending.rest]
        exact same ▸ within.heap
      · exact World.concluded_conclude gentle.result lending.apart _ lends
    next fault after ran =>
      have refused : World.refusal? signature arguments (now.noting name arguments) =
          some fault := by
        rw [World.refusal?, if_pos takes, ran]
      exact ⟨refused, (World.within_convertAll gentle arguments _ _ _
        (now.within_noting name arguments) ran).1⟩
  · rw [if_neg takes]
    exact ⟨if_neg takes, .refl now⟩

end CallPlan

/-- An invocation goes by a plan, whatever the function does. -/
def EntryPoint.GoesBy (entry : EntryPoint) (bound : BoundFunction) (arguments : List Value)
    (now : World) (plan : CallPlan) : Prop :=
  ∀ (code : World.NativeCode) (body : List UInt64 → StateM World UInt64),
    Computes (code (UInt64.ofNat bound.address)) body bound.signature.model
      (bound.signature.nativesFor arguments) bound.signature.result.native →
        (World.invokeIn code entry arguments).run.run now = plan.run bound.signature body

theorem EntryPoint.Sound.goesBy {entry : EntryPoint} {setting : StrategySetting}
    (valid : setting.model.Valid) (sound : entry.Sound setting) {bound : BoundFunction}
    (built : entry.outcome = .ok bound) (gentle : bound.signature.Gentle)
    (arguments : List Value) {now : World} (ready : entry.Ready now.memory) :
    entry.GoesBy bound arguments now (.of entry.name bound.signature arguments now) :=
  fun code body computes => sound.follows valid built bound built (bound.spared_of_gentle gentle)
    code body arguments now computes ready

def FunctionDeclaration.mixing : FunctionDeclaration where
  name := "mix"
  parameters := [{ type := .array .short, annotations := ⟨[.copyIn, .terminated]⟩ },
    { type := .struct ⟨"Wide", 16, 1⟩ }]
  result := { type := .int }
  annotations := ⟨[.saveError]⟩
  variadic := true

def Signature.mixing : Signature where
  name := "mix"
  parameters := [
    { carrier := .array .short, native := .pointer, converter := none, declared := .array .short
      annotations := ⟨[.copyIn, .terminated]⟩, context := ⟨⟨[.copyIn, .terminated]⟩, .utf8⟩
      kind := .array .short ⟨true, false, true⟩ },
    { carrier := .struct ⟨"Wide", 16, 1⟩, native := .pointer, converter := none
      declared := .struct ⟨"Wide", 16, 1⟩, annotations := .empty, context := ⟨.empty, .utf8⟩
      kind := .struct .both }]
  result :=
    { carrier := .int, native := .int, converter := none, declared := .int
      context := ⟨.empty, .utf8⟩ }
  convention := .default
  savesError := true
  variadic := true
  model := .lp64
  encoding := .utf8

namespace World

def vacant : World :=
  (start {} (some (.limited 4096 none true))).toOption.getD
    (initial {} (.limited 4096 none true))

def opening : Binder × World := (newBinder {}).run vacant

theorem resolved_mixing : ∃ later,
    (resolveSignature opening.1.defaults .mixing).run.run opening.2 = (.ok .mixing, later) :=
  ⟨_, rfl⟩

theorem gentle_mixing : Signature.mixing.Gentle := by
  obtain ⟨later, resolved⟩ := resolved_mixing
  have unconverted : ∀ item ∈ FunctionDeclaration.mixing.result ::
      FunctionDeclaration.mixing.parameters, Brings item.converter := by
    simp [FunctionDeclaration.mixing, Brings]
  have bare : ∀ mapper, ({} : LibraryOptions).mapper = some mapper →
      vacant.Provides mapper ∧ mapper.Gentle opening.2.mappers := by
    rintro mapper ⟨⟩
  have starts : start {} (some (.limited 4096 none true)) = .ok vacant := rfl
  obtain ⟨behind, kindred, gentle⟩ := gentle_of_newBinder (furnished_of_start starts) bare rfl
  exact (gentle .mixing unconverted opening.2 _ later kindred resolved).2 _ rfl

end World

def EntryPoint.mixing : EntryPoint := ⟨"mix", .ok ⟨.mixing, 0x10000, .buffer none⟩⟩

theorem EntryPoint.sound_mixing : mixing.Sound (.of .lp64 true true) := by
  obtain ⟨_, resolved⟩ := World.resolved_mixing
  rintro bound ⟨⟩
  exact ⟨(World.returns_resolveSignature _ _).of_run resolved, rfl, rfl, fun _ => rfl⟩

theorem EntryPoint.ready_mixing (memory : Memory) : mixing.Ready memory := by
  rintro bound start block ⟨⟩ ⟨⟩

def World.sharing : World :=
  { initial {} (.limited 4096 none true) with
    heap := ⟨[.shorts [1, -1]], [[1, 2, 3, 4]]⟩ }

def EntryPoint.sharedArguments : List Value := [.array 0, .struct ⟨"Short", 4, 1⟩ 0, .array 0]

end ForeignCall
