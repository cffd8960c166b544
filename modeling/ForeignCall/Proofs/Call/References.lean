import ForeignCall.Proofs.Call.Calling

/-! Arrays and structs as arguments: what their buffers hold when the function is called, and what
they hold themselves once it has returned. -/

namespace ForeignCall

structure Parameter.Aimed (parameter : Parameter) : Prop where
  array : ∀ element, parameter.carrier = .array element →
    parameter.kind = .array element (.ofAnnotations parameter.annotations)
  struct : ∀ layout, parameter.carrier = .struct layout →
    parameter.kind = .struct (.ofAnnotations parameter.annotations)

theorem World.aimed_parameterKind (carrier : HostType) (native : CType)
    (annotations : Annotations) :
    (parameterKind carrier native annotations).Returns fun kind =>
      (∀ element, carrier = .array element → kind = .array element (.ofAnnotations annotations)) ∧
        ∀ layout, carrier = .struct layout → kind = .struct (.ofAnnotations annotations) := by
  cases carrier with
  | array element => exact .pure ⟨by rintro _ ⟨⟩; rfl, by rintro _ ⟨⟩⟩
  | struct layout => exact .pure ⟨by rintro _ ⟨⟩, by rintro _ ⟨⟩; rfl⟩
  | _ => exact (Act.returns_true _).weaken fun _ _ => ⟨by rintro _ ⟨⟩, by rintro _ ⟨⟩⟩

theorem World.aimed_resolveParameter (defaults : SignatureDefaults)
    (declaration : ValueDeclaration) :
    (resolveParameter defaults declaration).Returns Parameter.Aimed := by
  refine .bind (Act.returns_true _) fun converter _ => .bind (Act.returns_true _) fun layout _ => ?_
  exact (World.aimed_parameterKind _ _ _).bind fun kind passed => .pure ⟨passed.1, passed.2⟩

def Value.Bound (heap : Heap) : Value → Prop
  | .array reference => reference < heap.arrays.length
  | .struct _ reference => reference < heap.structs.length
  | _ => True

/-- Whose contents a buffer is for, and what it holds at first: the contents or zeros, and then the
zero element of a terminated array, or zeros up to the size of the layout. -/
def Heap.opening? (heap : Heap) (direction : Direction) : Value → Option (Owner × List UInt8)
  | .array reference =>
    let contents := heap.array reference
    some (.array reference,
      (if direction.copyIn then contents.toBytes else List.replicate contents.byteSize 0) ++
        List.replicate (if direction.terminated then contents.element.size else 0) 0)
  | .struct layout reference =>
    let contents := heap.struct reference
    some (.struct reference,
      (if direction.copyIn then contents else List.replicate contents.length 0) ++
        List.replicate (layout.size - contents.length) 0)
  | _ => none

theorem Value.lend?_eq (value : Value) (heap : Heap) (direction : Direction) :
    value.lend? heap direction = heap.opening? direction value := by
  cases value with
  | array reference => rw [lend?, marshalElements_eq, Heap.opening?]
  | struct layout reference => rw [lend?, marshalBytes_eq, Heap.opening?]
  | _ => rfl

/-- An argument is passed by reference, with these contents and in these directions. -/
inductive Signature.PassesAt (signature : Signature) (arguments : List Value) (index : Nat) :
    Value → Direction → Prop
  | declared {parameter : Parameter} {value converted : Value}
      (known : signature.parameters[index]? = some parameter)
      (given : arguments[index]? = some value)
      (reference : (∃ element, parameter.carrier = .array element) ∨
        ∃ layout, parameter.carrier = .struct layout)
      (yields : (parameter.convert value parameter.context).Returns (· = converted)) :
      PassesAt signature arguments index converted (.ofAnnotations parameter.annotations)
  | trailing {value : Value} (beyond : signature.parameters.length ≤ index)
      (given : arguments[index]? = some value) : PassesAt signature arguments index value .both

namespace World

variable {origin : World}

theorem yields_convert {passage : Passage} (gentle : passage.Gentle) (value : Value)
    (context : ConversionContext) :
    Act.Ensures origin.Within (fun result => ∀ converted,
      (passage.convert value context).Returns (· = converted) → result = converted)
        (liftM (passage.convert value context) : Act World Value) := by
  refine ((keeps_convert gentle value context).both ?_).weaken fun _ => And.right
  intro world outcome after _ ran
  cases ran
  exact ⟨trivial, fun result same converted yields =>
    (yields world.toStore _ _ trivial rfl).2 result same⟩

theorem lends_operand (signature : Signature) {parameter : Parameter} (aimed : parameter.Aimed)
    (gentle : parameter.Gentle) (value : Value) :
    (operand signature parameter value).Ensures origin.Within fun operand =>
      ((∃ element, parameter.carrier = .array element) ∨
        ∃ layout, parameter.carrier = .struct layout) → ∀ converted,
          (parameter.convert value parameter.context).Returns (· = converted) →
            converted.Bound origin.heap → ∀ owner buffer,
              origin.heap.opening? (.ofAnnotations parameter.annotations) converted =
                  some (owner, buffer) →
                operand = .loan owner (.ofAnnotations parameter.annotations) buffer := by
  have crosses := @yields_convert origin _ gentle value parameter.context
  simp only [← Value.lend?_eq]
  cases carrier : parameter.carrier with
  | array element =>
      simp only [operand, aimed.array element carrier]
      refine crosses.bind fun result crossed => ?_
      split
      next =>
        refine .pure fun _ converted yields _ owner buffer opens => ?_
        cases crossed converted yields
        cases opens
      next reference =>
        refine .bind .get fun world within => ?_
        split
        next =>
          refine .pure fun _ converted yields bound owner buffer opens => ?_
          cases crossed converted yields
          cases opens
          rw [within.heap.array_eq bound]
        next => exact .throw _
      next => exact .throw _
  | struct layout =>
      simp only [operand, aimed.struct layout carrier]
      refine crosses.bind fun result crossed => ?_
      split
      next =>
        refine .pure fun _ converted yields _ owner buffer opens => ?_
        cases crossed converted yields
        cases opens
      next own reference =>
        refine .bind .get fun world within => ?_
        refine .pure fun _ converted yields bound owner buffer opens => ?_
        cases crossed converted yields
        cases opens
        rw [within.heap.struct_eq bound]
      next => exact .throw _
  | _ =>
      refine (within_operand signature gentle value).weaken fun _ _ reference => ?_
      simp at reference

theorem lends_trailingOperand (signature : Signature) (value : Value) :
    (trailingOperand signature value).Ensures origin.Within fun operand =>
      value.Bound origin.heap → ∀ owner buffer,
        origin.heap.opening? .both value = some (owner, buffer) →
          operand = .loan owner .both buffer := by
  simp only [← Value.lend?_eq]
  cases value with
  | array reference =>
      refine .bind .get fun world within => .pure fun bound owner buffer opens => ?_
      cases opens
      rw [within.heap.array_eq bound]
  | struct layout reference =>
      refine .bind .get fun world within => .pure fun bound owner buffer opens => ?_
      cases opens
      rw [within.heap.struct_eq bound]
  | _ =>
      refine (within_trailingOperand signature _).weaken fun _ _ _ owner buffer opens => ?_
      cases opens

theorem lends_convertAll {signature : Signature}
    (aimed : ∀ parameter ∈ signature.parameters, parameter.Aimed) (gentle : signature.Gentle)
    {arguments : List Value} (takes : signature.Takes arguments) :
    (convertAll signature arguments).Ensures origin.Within fun operands =>
      operands.length = arguments.length ∧ ∀ (index : Nat) converted direction,
        signature.PassesAt arguments index converted direction → converted.Bound origin.heap →
          ∀ owner buffer, origin.heap.opening? direction converted = some (owner, buffer) →
            operands[index]? = some (.loan owner direction buffer) := by
  refine (ensures_convertAll takes (fun parameter known => lends_operand signature
    (aimed parameter known) (gentle.parameters parameter known))
    (lends_trailingOperand signature)).weaken ?_
  rintro operands ⟨counted, front, back⟩
  refine ⟨counted, fun index converted direction passes bound owner buffer opens => ?_⟩
  cases passes with
  | declared known given reference yields =>
      have inside := (List.getElem?_eq_some_iff.1 given).1
      have present := List.getElem?_eq_getElem (counted ▸ inside)
      rw [present, front index _ _ _ known given present reference converted yields bound owner
        buffer opens]
  | trailing beyond given =>
      have inside := (List.getElem?_eq_some_iff.1 given).1
      have present := List.getElem?_eq_getElem (counted ▸ inside)
      rw [present, back index _ _ beyond given present bound owner buffer opens]

end World

namespace CallPlan

theorem of_call {signature : Signature} (coherent : signature.Coherent) {name : String}
    {arguments : List Value} {now before : World} {sent : List UInt64} {loans : List Loan}
    (planned : of name signature arguments now = .call sent loans before) :
    signature.Takes arguments ∧ ∃ operands between slots,
      (World.convertAll signature arguments).run.run (now.noting name arguments) =
          (.ok operands, between) ∧
        Store.Lending signature.model operands between.toStore before.toStore slots loans ∧
        sent = (signature.nativesFor arguments).zipWith (·.cut signature.model ·) slots := by
  rw [of_eq coherent] at planned
  split at planned
  next takes =>
    split at planned
    next operands between ran =>
      cases planned
      exact ⟨takes, operands, between, _, ran, Store.lending_lendAll _ _ _, rfl⟩
    next => cases planned
  next => cases planned

end CallPlan

namespace World

/-- What arrays and structs hold after a call that left them alone: the last buffer that is copied
back to each of them, or what they held before. -/
structure CopiedBack (loans : List Loan) (now called final : World) : Prop where
  array : ∀ reference < now.heap.arrays.length,
    called.heap.arrays[reference]? = now.heap.arrays[reference]? →
      let contents := now.heap.array reference
      let after := final.heap.array reference
      after.element = contents.element ∧ after.length = contents.length ∧
        match lastReturned? loans (.array reference) with
        | some loan => after.toBytes = (called.lentBytes loan).take contents.byteSize
        | none => after = contents
  struct : ∀ reference < now.heap.structs.length,
    called.heap.structs[reference]? = now.heap.structs[reference]? →
      let contents := now.heap.struct reference
      let after := final.heap.struct reference
      after.length = contents.length ∧
        match lastReturned? loans (.struct reference) with
        | some loan => after = (called.lentBytes loan).take contents.length
        | none => after = contents

theorem length_lentBytes (world : World) (loan : Loan) :
    (world.lentBytes loan).length = loan.length := Memory.length_read _ _ _

/-- A buffer was made for all that its owner held at some time while arguments were converted. -/
def Suffices (now before : Heap) (loan : Loan) : Prop :=
  ∃ lending : Heap, now.Within lending ∧ lending.Within before ∧
    match loan.owner with
    | .array reference => (lending.array reference).byteSize ≤ loan.length
    | .struct reference => (lending.struct reference).length ≤ loan.length

theorem copiedBack_of_within {loans : List Loan} {now before called final : World} {heap : Heap}
    (copied : called.heap.copyBackAll? called.lentBytes loans = some heap)
    (within : heap.Within final.heap)
    (suffice : ∀ loan ∈ loans, Suffices now.heap before.heap loan) :
    CopiedBack loans now called final := by
  obtain ⟨manyArrays, manyStructs⟩ := Heap.length_copyBackAll? copied
  constructor
  · intro reference bound same contents after
    have kept : called.heap.array reference = contents := by
      rw [Heap.array, same]
      rfl
    have there : reference < called.heap.arrays.length := by
      rw [List.getElem?_eq_getElem bound] at same
      exact (List.getElem?_eq_some_iff.1 same).1
    have enough : ∀ loan ∈ loans, loan.ReturnsTo (.array reference) →
        (called.heap.array reference).byteSize ≤ (called.lentBytes loan).length :=
      fun loan known returns => by
        obtain ⟨lending, earlier, -, room⟩ := suffice loan known
        have shown : lending.array reference = contents := earlier.array_eq bound
        rw [returns.1] at room
        rwa [kept, length_lentBytes, ← shown]
    have final : after = _ := (within.array_eq (manyArrays ▸ there)).trans
      (Heap.array_copyBackAll? copied there enough)
    rw [final, kept]
    cases last : lastReturned? loans (.array reference) with
    | none => exact ⟨rfl, rfl, rfl⟩
    | some loan =>
        obtain ⟨known, returns⟩ := of_lastReturned? last
        have exact : ((called.lentBytes loan).take contents.byteSize).length =
            contents.byteSize := by
          rw [List.length_take, Nat.min_eq_left (kept ▸ enough loan known returns)]
        exact ⟨Elements.element_readFrom exact, Elements.length_readFrom exact,
          Elements.toBytes_readFrom exact⟩
  · intro reference bound same contents after
    have kept : called.heap.struct reference = contents := by
      rw [Heap.struct, same]
      rfl
    have there : reference < called.heap.structs.length := by
      rw [List.getElem?_eq_getElem bound] at same
      exact (List.getElem?_eq_some_iff.1 same).1
    have enough : ∀ loan ∈ loans, loan.ReturnsTo (.struct reference) →
        (called.heap.struct reference).length ≤ (called.lentBytes loan).length :=
      fun loan known returns => by
        obtain ⟨lending, earlier, -, room⟩ := suffice loan known
        have shown : lending.struct reference = contents := earlier.struct_eq bound
        rw [returns.1] at room
        rwa [kept, length_lentBytes, ← shown]
    have final : after = _ := (within.struct_eq (manyStructs ▸ there)).trans
      (Heap.struct_copyBackAll? copied there enough)
    rw [final, kept]
    cases last : lastReturned? loans (.struct reference) with
    | none => exact ⟨rfl, rfl⟩
    | some loan =>
        obtain ⟨known, returns⟩ := of_lastReturned? last
        refine ⟨?_, rfl⟩
        exact (List.length_take ..).trans (Nat.min_eq_left (kept ▸ enough loan known returns))

/-- An array has outgrown a buffer that is to be copied back to it. All of it was lent, so it was
changed during the call or did not exist when it was lent. -/
def Outgrows (loans : List Loan) (now before called : Heap) : Prop :=
  ∃ loan ∈ loans, ∃ reference, loan.ReturnsTo (.array reference) ∧
    loan.length < (called.array reference).byteSize ∧
      ∃ lending : Heap, now.Within lending ∧ lending.Within before ∧
        (lending.array reference).byteSize ≤ loan.length ∧
          (reference < lending.arrays.length →
            called.arrays[reference]? ≠ before.arrays[reference]?)

theorem returned_eq_or_outgrows {loans : List Loan} {now before : Heap} (called : Heap)
    (suffice : ∀ loan ∈ loans, Suffices now before loan) :
    called.returned loans = loans ∨ Outgrows loans now before called := by
  by_cases fit : loans.all called.fits = true
  · exact .inl (Heap.returned_eq_self (List.all_eq_true.1 fit))
  · obtain ⟨loan, known, outgrown⟩ : ∃ loan ∈ loans, called.fits loan = false := by
      simpa using fit
    obtain ⟨reference, returns, longer⟩ := Heap.of_fits_eq_false outgrown
    obtain ⟨lending, earlier, later, room⟩ := suffice loan known
    rw [returns.1] at room
    refine .inr ⟨loan, known, reference, returns, longer, lending, earlier, later, room, ?_⟩
    intro bound same
    have kept : called.array reference = lending.array reference := by
      rw [← later.array_eq bound, Heap.array, same, Heap.array]
    exact absurd room (Nat.not_le.2 (kept ▸ longer))

/-- How a call finds what is passed by reference: buffers are lent in the order of the arguments,
and each argument is the address of its own, which holds its opening. -/
structure Opened (signature : Signature) (arguments : List Value) (now : World)
    (sent : List UInt64) (loans : List Loan) (before : World) : Prop where
  inOrder : ∃ operands slots, operands.length = arguments.length ∧
    Lent signature.model before.memory operands slots loans ∧
      ∀ (index : Nat) converted direction, signature.PassesAt arguments index converted direction →
        converted.Bound now.heap → ∀ owner buffer,
          now.heap.opening? direction converted = some (owner, buffer) →
            operands[index]? = some (.loan owner direction buffer)
  reached : ∀ (index : Nat) converted direction,
    signature.PassesAt arguments index converted direction → converted.Bound now.heap →
      ∀ owner buffer, now.heap.opening? direction converted = some (owner, buffer) →
        ∃ address, ⟨address, buffer.length, owner, direction⟩ ∈ loans ∧
          sent[index]? = some (CType.pointer.cut signature.model (UInt64.ofNat address)) ∧
            before.memory.Lends address buffer.length ∧
              before.memory.read address buffer.length = buffer

end World

section Planned

variable {signature : Signature} (coherent : signature.Coherent) (gentle : signature.Gentle)
  {name : String} {arguments : List Value} {now before : World} {sent : List UInt64}
  {loans : List Loan} (planned : CallPlan.of name signature arguments now = .call sent loans before)
include coherent gentle planned

theorem World.opened_of_call (aimed : ∀ parameter ∈ signature.parameters, parameter.Aimed) :
    World.Opened signature arguments now sent loans before := by
  obtain ⟨takes, operands, between, slots, ran, lending, rfl⟩ := CallPlan.of_call coherent planned
  obtain ⟨counted, passes⟩ := (World.lends_convertAll aimed gentle takes _ _ _
    (now.within_noting name arguments) ran).2 operands rfl
  have natives := (World.returns_convertAll coherent takes).of_run ran
  refine ⟨⟨operands, slots, counted, lending.lent, passes⟩, ?_⟩
  intro index converted direction passed bound owner buffer opens
  have present := passes index converted direction passed bound owner buffer opens
  obtain ⟨address, known, slot, holds⟩ := lending.lent.of_loan present
  refine ⟨address, known, ?_, (lending.lent.of_mem known).1, holds⟩
  have native : (signature.nativesFor arguments)[index]? = some .pointer := by
    rw [← natives, List.getElem?_map, present]
    rfl
  rw [List.getElem?_zipWith, native, slot]

theorem World.suffices_of_call {loan : Loan} (known : loan ∈ loans) :
    Suffices now.heap before.heap loan := by
  obtain ⟨takes, operands, between, slots, ran, lending, -⟩ := CallPlan.of_call coherent planned
  obtain ⟨-, buffer, passed, sized⟩ := lending.lent.of_mem known
  obtain ⟨moment, earlier, later, shows⟩ := World.shows_convertAll gentle ran _ passed
  have same : before.heap = between.heap := by rw [lending.rest]
  have first := (now.within_noting name arguments).trans earlier
  refine ⟨moment.heap, first.heap, same ▸ later.heap, ?_⟩
  rw [sized]
  cases owner : loan.owner with
  | array reference =>
      rw [owner] at shows
      rw [shows]
      exact length_marshalElements _ _
  | struct reference =>
      rw [owner] at shows
      obtain ⟨layout, rfl⟩ := shows
      rw [length_marshalBytes]
      exact Nat.le_max_right _ _

end Planned

/-- Buffers open as their arguments say, and are copied back in order, as far as native code and
the callables that it calls leave the arrays and structs themselves alone. All of them are, unless
an array was made longer than its buffer. -/
theorem EntryPoint.references_passed {entry : EntryPoint} {setting : StrategySetting}
    (valid : setting.model.Valid) (sound : entry.Sound setting) {bound : BoundFunction}
    (built : entry.outcome = .ok bound) (gentle : bound.signature.Gentle)
    {defaults : SignatureDefaults} {declaration : FunctionDeclaration} {earlier later : World}
    (resolved : (World.resolveSignature defaults declaration).run.run earlier =
      (.ok bound.signature, later))
    (arguments : List Value) {now : World} (ready : entry.Ready now.memory) :
    let plan := CallPlan.of entry.name bound.signature arguments now
    entry.GoesBy bound arguments now plan ∧
      ∀ sent loans before, plan = .call sent loans before →
        World.Opened bound.signature arguments now sent loans before ∧
          ∀ body : List UInt64 → StateM World UInt64,
            let called := (body sent).run before
            let returned := called.2.heap.returned loans
            (∀ loan ∈ loans, called.2.memory.Lends loan.address loan.length) →
              World.CopiedBack returned now called.2 (plan.run bound.signature body).2 ∧
                (returned = loans ∨ World.Outgrows loans now.heap before.heap called.2.heap) := by
  have coherent := (sound bound built).coherent
  have aimed := (World.returns_parameters (World.aimed_resolveParameter defaults)
    declaration).of_run resolved
  refine ⟨sound.goesBy valid built gentle arguments ready, ?_⟩
  intro sent loans before planned
  refine ⟨World.opened_of_call coherent gentle planned aimed, ?_⟩
  intro body called returned lends
  have settled := CallPlan.settled_of coherent gentle entry.name arguments now
  rw [planned] at settled ⊢
  obtain ⟨-, -, -, concludes⟩ := settled
  have suffice (loan : Loan) (known : loan ∈ loans) :=
    World.suffices_of_call coherent gentle planned known
  obtain ⟨heap, copied, within⟩ := (concludes body lends).returned
  exact ⟨World.copiedBack_of_within copied within fun loan known =>
    suffice loan (Heap.mem_of_mem_returned known), World.returned_eq_or_outgrows _ suffice⟩

/-- An array that is passed for input only and then for both ways gets what the second of its
buffers holds. -/
theorem EntryPoint.references_passed_shared :
    ∃ sent loans before, CallPlan.of "mix" .mixing sharedArguments .sharing =
        .call sent loans before ∧
      loans.map (·.length) = [6, 4, 4] ∧
      (lastReturned? loans (.array 0)).map (·.address) = (loans[2]?).map (·.address) ∧
      World.Opened .mixing sharedArguments .sharing sent loans before ∧
        ∀ body : List UInt64 → StateM World UInt64,
          let called := (body sent).run before
          let returned := called.2.heap.returned loans
          (∀ loan ∈ loans, called.2.memory.Lends loan.address loan.length) →
            World.CopiedBack returned .sharing called.2
              ((CallPlan.call sent loans before).run .mixing body).2 ∧
                (returned = loans ∨
                  World.Outgrows loans World.sharing.heap before.heap called.2.heap) := by
  obtain ⟨_, resolved⟩ := World.resolved_mixing
  obtain ⟨-, passes⟩ := references_passed (by decide) sound_mixing rfl World.gentle_mixing
    resolved sharedArguments (ready_mixing World.sharing.memory)
  exact ⟨_, _, _, rfl, by decide, by decide, passes _ _ _ rfl⟩

/-- The buffer of a struct is as long as the layout of the value, or as its contents if these are
longer. The declared layout has no part in it: a buffer covers that only if one of the two does. -/
theorem EntryPoint.struct_buffer_sized {entry : EntryPoint} {setting : StrategySetting}
    (valid : setting.model.Valid) (sound : entry.Sound setting) {bound : BoundFunction}
    (built : entry.outcome = .ok bound) (gentle : bound.signature.Gentle)
    {defaults : SignatureDefaults} {declaration : FunctionDeclaration} {earlier later : World}
    (resolved : (World.resolveSignature defaults declaration).run.run earlier =
      (.ok bound.signature, later))
    (arguments : List Value) {now : World} (ready : entry.Ready now.memory) :
    let plan := CallPlan.of entry.name bound.signature arguments now
    entry.GoesBy bound arguments now plan ∧
      ∀ sent loans before, plan = .call sent loans before →
        ∀ (index : Nat) parameter declared value own reference,
          bound.signature.parameters[index]? = some parameter →
            parameter.carrier = .struct declared → arguments[index]? = some value →
              (parameter.convert value parameter.context).Returns (· = .struct own reference) →
                reference < now.heap.structs.length →
                  let contents := now.heap.struct reference
                  ∃ address length, length = max own.size contents.length ∧
                    ⟨address, length, .struct reference, .ofAnnotations parameter.annotations⟩ ∈
                        loans ∧
                      sent[index]? = some (CType.pointer.cut bound.signature.model
                        (UInt64.ofNat address)) ∧
                      (declared.size ≤ length ↔
                        declared.size ≤ own.size ∨ declared.size ≤ contents.length) := by
  have coherent := (sound bound built).coherent
  have aimed := (World.returns_parameters (World.aimed_resolveParameter defaults)
    declaration).of_run resolved
  refine ⟨sound.goesBy valid built gentle arguments ready, ?_⟩
  intro sent loans before planned index parameter declared value own reference known carrier given
    yields there contents
  obtain ⟨address, lent, reached, -, -⟩ :=
    (World.opened_of_call coherent gentle planned aimed).reached index _ _
      (.declared known given (.inr ⟨declared, carrier⟩) yields) there _ _
      (Value.lend?_eq (.struct own reference) now.heap _).symm
  rw [length_marshalBytes] at lent
  exact ⟨address, _, rfl, lent, reached, by omega⟩

/-- A struct of four bytes is lent as such where sixteen are declared. -/
theorem EntryPoint.struct_buffer_sized_short :
    ∃ sent loans before address, CallPlan.of "mix" .mixing sharedArguments .sharing =
        .call sent loans before ∧
      ⟨address, 4, .struct 0, .both⟩ ∈ loans ∧ sent[1]? = some (UInt64.ofNat address) ∧
        before.memory.readable address 16 = false := by
  obtain ⟨_, resolved⟩ := World.resolved_mixing
  obtain ⟨-, sized⟩ := struct_buffer_sized (by decide) sound_mixing rfl World.gentle_mixing
    resolved sharedArguments (ready_mixing World.sharing.memory)
  obtain ⟨address, length, rfl, lent, reached, -⟩ := sized _
    [⟨0x100010, 6, .array 0, ⟨true, false, true⟩⟩, ⟨0x100020, 4, .struct 0, .both⟩,
      ⟨0x100030, 4, .array 0, .both⟩] _ rfl 1 _ ⟨"Wide", 16, 1⟩
    (.struct ⟨"Short", 4, 1⟩ 0) ⟨"Short", 4, 1⟩ 0 rfl rfl rfl (.pure rfl) (by decide)
  refine ⟨_, _, _, address, rfl, lent, reached.trans ?_, ?_⟩
  · exact congrArg some (CType.cut_of_wide _ rfl rfl)
  · obtain ⟨rfl, -⟩ : address = 0x100020 ∧ _ := by simpa using lent
    decide

end ForeignCall
