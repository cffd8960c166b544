import ForeignCall.Proofs.Call.Loans
import ForeignCall.Proofs.Call.Paths
import ForeignCall.Proofs.Closure.Indifference

/-! What happens before a call: arguments are converted, closures are made and buffers are lent, and
all that changes nothing that the host had before. -/

namespace ForeignCall

/-- What there was is still there, and as it was. -/
structure Heap.Within (before after : Heap) : Prop where
  arrays : before.arrays <+: after.arrays
  structs : before.structs <+: after.structs

namespace Heap.Within

variable {before after : Heap} {reference : Nat}

theorem refl (heap : Heap) : heap.Within heap := ⟨List.prefix_rfl, List.prefix_rfl⟩

theorem trans {first second third : Heap} (left : first.Within second)
    (right : second.Within third) : first.Within third :=
  ⟨left.arrays.trans right.arrays, left.structs.trans right.structs⟩

theorem newArray (heap : Heap) (elements : Elements) : heap.Within (heap.newArray elements).2 :=
  ⟨List.prefix_append _ _, List.prefix_rfl⟩

theorem array_eq (within : before.Within after) (bound : reference < before.arrays.length) :
    after.array reference = before.array reference := by
  obtain ⟨more, same⟩ := within.arrays
  rw [Heap.array, Heap.array, ← same, List.getElem?_append_left bound]

theorem struct_eq (within : before.Within after) (bound : reference < before.structs.length) :
    after.struct reference = before.struct reference := by
  obtain ⟨more, same⟩ := within.structs
  rw [Heap.struct, Heap.struct, ← same, List.getElem?_append_left bound]

end Heap.Within

/-- Conversions change nothing that there was, be it in the host's storage or in native memory. -/
def ConverterBody.Gentle (body : ConverterBody) : Prop :=
  ∀ (origin : Store) (value : Value) (context : ConversionContext),
    (body.convert value context).Keeps fun store =>
      origin.heap.Within store.heap ∧ store.memory = origin.memory

theorem ConverterBody.Mild.gentle {body : ConverterBody} (mild : body.Mild) : body.Gentle :=
  fun _ => mild _ ⟨fun _ _ => id, fun store elements before =>
    ⟨before.1.trans (.newArray store.heap elements), before.2⟩⟩

theorem ConverterBody.Gentle.quiet {body : ConverterBody} (gentle : body.Gentle) : body.Quiet := by
  intro memory value context store outcome after before ran
  obtain ⟨_, kept⟩ := (gentle store value context store outcome after ⟨.refl _, rfl⟩ ran).1
  exact ⟨kept.trans before, fun _ _ => trivial⟩

def Passage.Gentle (passage : Passage) : Prop :=
  ∀ converter, passage.converter = some converter → converter.Gentle

structure Signature.Gentle (signature : Signature) : Prop where
  parameters : ∀ parameter ∈ signature.parameters, parameter.Gentle
  result : signature.result.Gentle

theorem Passage.Gentle.keeps_convert {passage : Passage} (gentle : passage.Gentle) (heap : Heap)
    (value : Value) (context : ConversionContext) :
    (passage.convert value context).Keeps fun store => heap.Within store.heap := by
  rw [Passage.convert]
  split
  next converter present =>
    intro store outcome after before ran
    have kept := (gentle converter present store value context store outcome after
      ⟨.refl _, rfl⟩ ran).1
    exact ⟨before.trans kept.1, fun _ _ => trivial⟩
  next => exact .pure trivial

theorem Passage.Gentle.keeps_receive {passage : Passage} (gentle : passage.Gentle) (heap : Heap)
    (image : UInt64) (context : ConversionContext) (model : DataModel) :
    (passage.receive image context model).Keeps fun store => heap.Within store.heap :=
  .bind (.ofExcept fun _ _ => trivial) fun value _ => gentle.keeps_convert heap value context

theorem Signature.Gentle.spares {signature : Signature} (gentle : signature.Gentle) (address : Nat)
    (code : List UInt8) : signature.Spares address code :=
  Signature.spares_of_quiet (fun parameter known converter present =>
    (gentle.parameters parameter known converter present).quiet) address code

/-- A buffer that is lent holds what its owner does, or zeros. -/
def Operand.Shows (heap : Heap) : Operand → Prop
  | .image .. => True
  | .loan (.array reference) direction buffer =>
      buffer = marshalElements (heap.array reference) direction
  | .loan (.struct reference) direction buffer =>
      ∃ layout, buffer = marshalBytes layout (heap.struct reference) direction

structure World.Within (origin world : World) : Prop where
  heap : origin.heap.Within world.heap
  saved : world.savedError = origin.savedError

namespace PageStore

theorem heap_release (number : Nat) (pages : PageStore) :
    ((release number).run pages).2.heap = pages.heap := by
  rcases release_cases number pages with same | ⟨block, same⟩ <;> rw [same] <;> rfl

variable (heap : Heap)

theorem keeps_allocate (bytes : Nat) : (allocate bytes).Keeps (·.heap = heap) := by
  intro pages outcome after same ran
  refine ⟨?_, fun _ _ => trivial⟩
  rcases allocate_cases ran with ⟨-, rfl⟩ | ⟨-, rfl⟩ <;> exact same

theorem keeps_release (number : Nat) :
    Act.Keeps (·.heap = heap) (liftM (release number) : Act PageStore Unit) :=
  .ofState (fun pages same => (heap_release number pages).trans same) fun _ _ => trivial

theorem keeps_makeExecutableOrRelease (number : Nat) :
    (makeExecutableOrRelease number).Keeps (·.heap = heap) := by
  refine .tryCatch ?_ fun fault => (keeps_release heap number).bind fun _ _ => .throw _
  refine .bind .get fun pages _ => ?_
  have noted : Act.Keeps (·.heap = heap)
      (liftM (note (.sealed number (pages.block number).pages)) : Act PageStore Unit) :=
    .ofState (fun _ same => same) fun _ _ => trivial
  refine noted.bind fun _ _ => ?_
  split
  next => exact .pure trivial
  next => exact .throw _

end PageStore

theorem Magazine.keeps_allocate (heap : Heap) (count : Nat) :
    (allocate count).Keeps (·.heap = heap) := by
  have changes (action : StateM PageStore Unit)
      (same : ∀ pages, (action.run pages).2.heap = pages.heap) :
      Act.Keeps (·.heap = heap) (liftM action : Act PageStore Unit) :=
    .ofState (fun pages kept => (same pages).trans kept) fun _ _ => trivial
  refine .bind .get fun pages _ => .bind (PageStore.keeps_allocate heap _) fun block _ => ?_
  refine .bind .get fun pages _ => ?_
  dsimp only
  split
  next => exact (PageStore.keeps_release heap block).bind fun _ _ => .throw _
  next =>
    refine .bind (PageStore.keeps_makeExecutableOrRelease heap block) fun _ _ => ?_
    refine .bind .get fun pages _ => ?_
    exact .bind (changes _ fun _ => rfl) fun _ _ => .bind (changes _ fun _ => rfl) fun _ _ =>
      .pure trivial

namespace World

namespace Within

theorem refl (world : World) : world.Within world := ⟨.refl _, rfl⟩

theorem trans {first second third : World} (left : first.Within second)
    (right : second.Within third) : first.Within third :=
  ⟨left.heap.trans right.heap, right.saved.trans left.saved⟩

end Within

variable {origin : World} {Result : Type} {property : Result → Prop}

theorem keeps_onStore {action : Act Store Result}
    (keeps : ∀ heap : Heap, action.Keeps fun store => heap.Within store.heap) :
    Act.Keeps origin.Within (liftM action : Act World Result) := by
  intro world outcome after before ran
  cases ran
  refine ⟨⟨?_, before.saved⟩, fun _ _ => trivial⟩
  exact (keeps origin.heap world.toStore _ _ before.heap rfl).1

theorem keeps_onPages {action : Act PageStore Result}
    (keeps : ∀ heap, action.Keeps (·.heap = heap)) :
    Act.Keeps origin.Within (liftM action : Act World Result) := by
  intro world outcome after before ran
  cases ran
  refine ⟨⟨?_, before.saved⟩, fun _ _ => trivial⟩
  have same := (keeps world.heap world.toPageStore _ _ rfl rfl).1
  exact before.heap.trans (same ▸ .refl _)

theorem indifferent_within : Indifferent origin.Within where
  pools _ _ within := { within with }
  sites _ _ within := { within with }
  journal _ _ within := { within with }
  allocate count := keeps_onPages (Magazine.keeps_allocate · count)

theorem keeps_convert {passage : Passage} (gentle : passage.Gentle) (value : Value)
    (context : ConversionContext) :
    Act.Keeps origin.Within (liftM (passage.convert value context) : Act World Value) :=
  keeps_onStore (gentle.keeps_convert · value context)

theorem keeps_send {passage : Passage} (gentle : passage.Gentle) (value : Value)
    (context : ConversionContext) (model : DataModel) :
    Act.Keeps origin.Within (liftM (passage.send value context model) : Act World UInt64) :=
  keeps_onStore fun heap => (gentle.keeps_convert heap value context).bind fun _ _ =>
    .ofExcept fun _ _ => trivial

theorem within_operand (signature : Signature) {parameter : Parameter} (gentle : parameter.Gentle)
    (value : Value) : (operand signature parameter value).Keeps origin.Within := by
  unfold operand
  split
  next => exact (keeps_send gentle value _ _).bind fun _ _ => .pure trivial
  next => exact (keeps_send gentle value _ _).bind fun _ _ => .pure trivial
  next => exact (keeps_send gentle value _ _).bind fun _ _ => .pure trivial
  next element direction _ =>
    refine (keeps_convert gentle value _).bind fun converted _ => ?_
    split
    next => exact .pure trivial
    next reference =>
      refine .bind .get fun world _ => ?_
      dsimp only
      split
      next => exact .pure trivial
      next => exact .throw _
    next => exact .throw _
  next direction _ =>
    refine (keeps_convert gentle value _).bind fun converted _ => ?_
    split
    next => exact .pure trivial
    next => exact .bind .get fun _ _ => .pure trivial
    next => exact .throw _
  next site _ =>
    refine (keeps_convert gentle value _).bind fun converted _ => ?_
    cases converted with
    | callback serial =>
        exact (indifferent_within.closureAddress site serial).bind fun _ _ => .pure trivial
    | null => exact .pure trivial
    | address => exact .pure trivial
    | _ => exact .throw _

theorem within_trailingOperand (signature : Signature) (value : Value) :
    (trailingOperand signature value).Keeps origin.Within := by
  cases value with
  | bool | byte | short | char | int | float | double =>
      exact .bind (.ofExcept fun _ _ => trivial) fun image _ => .pure trivial
  | enum constant => exact .bind (.ofExcept fun _ _ => trivial) fun image _ => .pure trivial
  | long | address | null => exact .pure trivial
  | text text =>
      have encoded : Act.Keeps origin.Within
          (liftM (Store.encodeText signature.encoding text) : Act World (List UInt8)) :=
        keeps_onStore fun heap => Store.keeps_encodeText (fun _ _ => id) _ text
      have made (bytes : List UInt8) : Act.Keeps origin.Within
          (liftM (Store.newArray (.ofBytes bytes)) : Act World Value) :=
        .ofState (fun world before => before.trans ⟨.newArray _ _, rfl⟩) fun _ _ => trivial
      refine encoded.bind fun bytes _ => (made bytes).bind fun value _ => ?_
      split
      next => exact .pure trivial
      next => exact .throw _
  | array | struct => exact .bind .get fun world _ => .pure trivial
  | void | enumSet | callback | object => exact .throw _

theorem within_convertAll {signature : Signature} (gentle : signature.Gentle)
    (arguments : List Value) : (convertAll signature arguments).Keeps origin.Within := by
  have each : ∀ item ∈ signature.parameters.zip arguments,
      (operand signature item.1 item.2).Keeps origin.Within := fun item known =>
    within_operand signature (gentle.parameters _ (List.of_mem_zip known).1) item.2
  refine .bind (.mapM_all _ each) fun front _ => ?_
  exact .bind (.mapM_all _ fun value _ => within_trailingOperand signature value) fun _ _ =>
    .pure trivial

variable {before after : World} {lent : Operand}

theorem shows_of_run {action : Act World Result} {part : Result → Operand}
    (ran : (action >>= fun result => pure (part result)).run.run before = (.ok lent, after))
    (shows : ∀ result heap, (part result).Shows heap) : lent.Shows after.heap := by
  obtain ⟨result, between, -, done⟩ := Act.of_run_bind ran
  cases done
  exact shows result _

theorem shows_operand {signature : Signature} {parameter : Parameter} {value : Value}
    (ran : (operand signature parameter value).run.run before = (.ok lent, after)) :
    lent.Shows after.heap := by
  unfold operand at ran
  split at ran
  next => exact shows_of_run ran fun _ _ => trivial
  next => exact shows_of_run ran fun _ _ => trivial
  next => exact shows_of_run ran fun _ _ => trivial
  next element direction _ =>
    obtain ⟨converted, between, -, others⟩ := Act.of_run_bind ran
    split at others
    next =>
      cases others
      trivial
    next reference =>
      rw [Act.run_bind, Act.run_get] at others
      dsimp only at others
      split at others
      next =>
        cases others
        rfl
      next => cases others
    next => cases others
  next direction _ =>
    obtain ⟨converted, between, -, others⟩ := Act.of_run_bind ran
    split at others
    next =>
      cases others
      trivial
    next layout reference =>
      cases others
      exact ⟨layout, rfl⟩
    next => cases others
  next site _ =>
    obtain ⟨converted, between, -, others⟩ := Act.of_run_bind ran
    cases converted with
    | callback => exact shows_of_run others fun _ _ => trivial
    | address | null =>
        cases others
        trivial
    | _ => cases others

theorem shows_trailingOperand {signature : Signature} {value : Value}
    (ran : (trailingOperand signature value).run.run before = (.ok lent, after)) :
    lent.Shows after.heap := by
  cases value with
  | bool | byte | short | char | int | float | double | enum =>
      exact shows_of_run ran fun _ _ => trivial
  | long | address | null =>
      cases ran
      trivial
  | text text =>
      obtain ⟨bytes, between, -, others⟩ := Act.of_run_bind ran
      cases others
      simp [Operand.Shows, Heap.array]
  | array reference =>
      cases ran
      rfl
  | struct layout reference =>
      cases ran
      exact ⟨layout, rfl⟩
  | void | enumSet | callback | object => cases ran

/-- Every buffer shows what its owner held at some time while the arguments were converted. -/
theorem shows_convertAll {signature : Signature} (gentle : signature.Gentle)
    {arguments : List Value} {operands : List Operand}
    (ran : (convertAll signature arguments).run.run before = (.ok operands, after)) :
    ∀ lent ∈ operands, ∃ lending, before.Within lending ∧ lending.Within after ∧
      lent.Shows lending.heap := by
  have each : ∀ item ∈ signature.parameters.zip arguments, ∀ origin : World,
      (operand signature item.1 item.2).Keeps origin.Within := fun item known _ =>
    within_operand signature (gentle.parameters _ (List.of_mem_zip known).1) item.2
  obtain ⟨front, between, converted, others⟩ := Act.of_run_bind ran
  obtain ⟨back, last, trailed, done⟩ := Act.of_run_bind others
  cases done
  obtain ⟨early, named⟩ := Act.between_mapM Within.refl Within.trans each converted
  obtain ⟨late, beyond⟩ := Act.between_mapM Within.refl Within.trans
    (fun value _ _ => within_trailingOperand signature value) trailed
  intro lent known
  rcases List.mem_append.1 known with known | known
  · obtain ⟨item, -, first, lending, stepped, ahead, behind⟩ := named lent known
    exact ⟨lending, ahead, behind.trans late, shows_operand stepped⟩
  · obtain ⟨value, -, first, lending, stepped, ahead, behind⟩ := beyond lent known
    exact ⟨lending, early.trans ahead, behind, shows_trailingOperand stepped⟩

theorem mayTrail_trailingType (model : DataModel) (value : Value) :
    CallInterface.mayTrail model value.trailingType = true := by
  have wide : ∀ type ∈ [CType.int, .longLong, .double, .pointer],
      CallInterface.mayTrail model type = true := by
    simp [CallInterface.mayTrail, Slot.readWidth, CType.size]
  cases value <;> exact wide _ (by simp [Value.trailingType])

theorem prepare_nativesFor (signature : Signature) (arguments : List Value) (result : CType)
    (model : DataModel) :
    CallInterface.prepare (signature.nativesFor arguments) (some signature.parameters.length) result
      model = .ok ⟨signature.nativesFor arguments, result, model⟩ := by
  have trailing : (signature.nativesFor arguments).drop signature.parameters.length =
      (arguments.drop signature.parameters.length).map (·.trailingType) :=
    List.drop_left' (List.length_map _)
  rw [CallInterface.prepare, Option.getD_some, trailing, if_pos]
  exact List.all_eq_true.2
    (List.forall_mem_map.2 fun value _ => mayTrail_trailingType _ value)

theorem run_operandsFor {signature : Signature} (coherent : signature.Coherent)
    {arguments : List Value} (takes : signature.Takes arguments) (world : World) :
    (operandsFor signature arguments).run.run world =
      (convertAll signature arguments).run.run world := by
  rw [operandsFor_eq, Act.run_bind]
  split
  next operands after ran =>
    rw [(returns_convertAll coherent takes).of_run ran, prepare_nativesFor, ran]
    cases signature.variadic <;> rfl
  next fault after ran => exact ran.symm

def noting (world : World) (name : String) (arguments : List Value) : World :=
  { world with
    toStore := ((Store.record (.nativeCall name arguments.length)).run world.toStore).2 }

theorem within_noting (world : World) (name : String) (arguments : List Value) :
    world.Within (world.noting name arguments) := ⟨.refl _, rfl⟩

end World

/-- The plan of an invocation, in steps: the number of arguments is checked, all are converted, and
buffers are lent for them. -/
theorem CallPlan.of_eq {signature : Signature} (coherent : signature.Coherent) (name : String)
    (arguments : List Value) (now : World) :
    of name signature arguments now =
      if signature.Takes arguments then
        match ((World.convertAll signature arguments).run.run (now.noting name arguments) :
            Except Fault (List Operand) × World) with
        | (.ok operands, between) =>
          let lent := (Store.lendAll signature.model operands).run between.toStore
          .call ((signature.nativesFor arguments).zipWith (·.cut signature.model ·) lent.1.1)
            lent.1.2 { between with toStore := lent.2 }
        | (.error fault, after) => .refuse fault after
      else .refuse (.argumentCount signature.parameters.length arguments.length) now := by
  by_cases takes : signature.Takes arguments
  · have prepared : (World.prepareCall name signature arguments).run.run now =
        (World.convertAll signature arguments >>= fun operands =>
          liftM (Store.lendAll signature.model operands)).run.run (now.noting name arguments) := by
      rw [World.prepareCall_of_takes takes, Act.run_bind, World.run_onStore]
      dsimp only
      rw [Act.run_bind, Act.run_bind, World.run_operandsFor coherent takes]
      rfl
    rw [of, if_pos takes, prepared, Act.run_bind]
    generalize (World.convertAll signature arguments).run.run _ = ran
    obtain ⟨fault | operands, after⟩ : Except Fault (List Operand) × World := ran
    · rfl
    · rfl
  · rw [of, World.prepareCall, if_neg takes, if_neg takes]
    rfl

end ForeignCall
