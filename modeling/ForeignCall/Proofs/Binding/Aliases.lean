import ForeignCall.Proofs.Binding.Standard

/-! Aliases of texts, arrays, structs and callbacks, where nothing but the converters of the library
is used. Parameters of such types are pointers, and an alias is refused. Of results only texts are
taken: a text is read where a pointer leads that came back through the alias. -/

namespace ForeignCall

def HostType.isPointed : HostType → Bool
  | text => true
  | type => type.isReference

/-- The declaration is refused for its type. -/
def Refused {Result : Type} (outcome : Except Fault Result) : Prop :=
  ∃ reason, outcome = .error (.unsupportedType reason)

section Marks

theorem native?_insert (set : Annotations) {mark : Annotation}
    (unaliased : ∀ native, mark ≠ .native native) : (set.insert mark).native? = set.native? := by
  obtain ⟨items⟩ := set
  induction items with
  | nil => cases mark <;> simp_all [Annotations.insert, Annotations.place, Annotations.native?]
  | cons head rest ih =>
      simp only [Annotations.insert, Annotations.place, Annotations.native?] at ih ⊢
      split
      next => rfl
      next =>
        split
        next => cases mark <;> simp_all
        next => rw [List.findSome?_cons, List.findSome?_cons, ih]

theorem native?_union {extra : Annotations} (unaliased : extra.native? = none)
    (set : Annotations) : (set.union extra).native? = set.native? := by
  obtain ⟨items⟩ := extra
  simp only [Annotations.union]
  induction items generalizing set with
  | nil => rfl
  | cons mark rest ih =>
      cases mark with
      | native => cases unaliased
      | _ => exact (ih (set.insert _) unaliased).trans (native?_insert set (by simp))

end Marks

def Annotations.marked (annotations : Annotations) : Option Converter → Annotations
  | some converter => annotations.union converter.annotations
  | none => annotations

section Carriers

variable {type : HostType} {context : ConversionContext} {found : Option Converter}

theorem builtin?_text (way : Way) (context : ConversionContext) :
    ConverterBody.builtin? way .text context =
      (ConverterBody.contextEncoding context).map fun encoding => some (.text encoding way) := by
  rw [ConverterBody.builtin?]
  cases ConverterBody.contextEncoding context <;> rfl

theorem refused_contextEncoding {fault : Fault}
    (failed : ConverterBody.contextEncoding context = .error fault) :
    ∃ reason, fault = .unsupportedType reason := by
  rw [ConverterBody.contextEncoding] at failed
  split at failed
  next label _ =>
    split at failed
    next => cases failed
    next =>
      cases failed
      exact ⟨_, rfl⟩
  next => cases failed

theorem refused_builtin? {way : Way} {fault : Fault}
    (failed : ConverterBody.builtin? way type context = .error fault) :
    ∃ reason, fault = .unsupportedType reason := by
  cases type with
  | text =>
      rw [builtin?_text] at failed
      cases selected : ConverterBody.contextEncoding context with
      | ok encoding =>
          rw [selected] at failed
          cases failed
      | error other =>
          rw [selected] at failed
          cases failed
          exact refused_contextEncoding selected
  | _ => cases failed

theorem contextEncoding_cases (annotations : Annotations) (first second : TextEncoding) :
    (∃ fault, ConverterBody.contextEncoding ⟨annotations, first⟩ = .error fault ∧
        ConverterBody.contextEncoding ⟨annotations, second⟩ = .error fault) ∨
      ∃ one two, ConverterBody.contextEncoding ⟨annotations, first⟩ = .ok one ∧
        ConverterBody.contextEncoding ⟨annotations, second⟩ = .ok two := by
  simp only [ConverterBody.contextEncoding]
  cases annotations.encoding? with
  | none => exact .inr ⟨first, second, rfl, rfl⟩
  | some label =>
      dsimp only
      cases TextEncoding.ofLabel? label with
      | none => exact .inl ⟨_, rfl, rfl⟩
      | some encoding => exact .inr ⟨encoding, encoding, rfl, rfl⟩

theorem lower_toNative (pointed : type.isPointed = true)
    (answered : ConverterBody.builtin? .toNative type context =
      .ok (found.map (·.toConverterBody))) (annotations : Annotations) :
    let carrier := (found.map (·.carrier)).getD type
    lower carrier (annotations.marked found) =
      annotations.native?.elim (.ok .pointer) fun declared => .error (.unsupportedType
        s!"{carrier.describe} cannot be aliased to {declared.spelling}") := by
  cases type with
  | text =>
      obtain ⟨encoding, same⟩ := ConverterBody.exists_encoding_of_builtin?_text answered
      obtain ⟨converter, rfl, body⟩ := Option.map_eq_some_iff.1 same
      dsimp only [Option.map_some, Option.getD_some, Annotations.marked]
      rw [body, lower_reference rfl, native?_union rfl]
  | array | struct | callback =>
      obtain rfl : found = none := Option.map_eq_none_iff.1 (Except.ok.inj answered).symm
      exact lower_reference rfl annotations
  | _ => cases pointed

theorem carrier_fromNative (pointed : type.isPointed = true)
    (answered : ConverterBody.builtin? .fromNative type context =
      .ok (found.map (·.toConverterBody))) :
    let carrier := (found.map (·.carrier)).getD type
    type = .text ∧ carrier = .address ∨
      type ≠ .text ∧ (carrier.isScalar || carrier.isVoid) = false := by
  cases type with
  | text =>
      obtain ⟨encoding, same⟩ := ConverterBody.exists_encoding_of_builtin?_text answered
      obtain ⟨converter, rfl, body⟩ := Option.map_eq_some_iff.1 same
      refine .inl ⟨rfl, ?_⟩
      dsimp only [Option.map_some, Option.getD_some]
      rw [body]
      rfl
  | array | struct | callback =>
      obtain rfl : found = none := Option.map_eq_none_iff.1 (Except.ok.inj answered).symm
      exact .inr ⟨by simp, rfl⟩
  | _ => cases pointed

end Carriers

structure Parameter.Obeys (item : ValueDeclaration) (parameter : Parameter) : Prop where
  declared : parameter.declared = item.type
  native : item.type.isPointed = true → parameter.native = .pointer
  unaliased : item.type.isPointed = true → item.annotations.native? = none

/-- What comes of a result that is passed by its address: it is a text, and has the C type that is
declared for it. -/
structure ResultSlot.Obeys (item : ValueDeclaration) (slot : ResultSlot) : Prop where
  declared : slot.declared = item.type
  text : item.type.isPointed = true → item.type = .text
  native : item.type.isPointed = true → slot.native = item.annotations.native?.getD .pointer

structure Signature.Obeys (declaration : FunctionDeclaration) (signature : Signature) : Prop where
  parameters : List.Forall₂ Parameter.Obeys declaration.parameters signature.parameters
  result : signature.result.Obeys declaration.result

namespace World

section Accepting

variable {defaults : SignatureDefaults} {item : ValueDeclaration} (unowned : item.converter = none)
include unowned

theorem obeys_resolveParameter :
    (resolveParameter defaults item).Ensures (Standard defaults.converters)
      (Parameter.Obeys item) := by
  refine (ensures_converter unowned .toNative).bind ?_
  rintro found ⟨encoding, answered⟩
  refine (ensures_lowering _ _).bind fun layout lowered => ?_
  refine (keeps_standard_parameterKind _ _ _).bind fun kind _ => .pure ?_
  have goes (pointed : item.type.isPointed = true) :
      layout.type = .pointer ∧ item.annotations.native? = none := by
    have same := (lower_toNative pointed answered item.annotations).symm.trans lowered
    cases declared : item.annotations.native? with
    | none =>
        rw [declared] at same
        exact ⟨(Except.ok.inj same).symm, rfl⟩
    | some native =>
        rw [declared] at same
        cases same
  exact ⟨rfl, fun pointed => (goes pointed).1, fun pointed => (goes pointed).2⟩

theorem obeys_resolveResult :
    (resolveResult defaults item).Ensures (Standard defaults.converters)
      (ResultSlot.Obeys item) := by
  refine (ensures_converter unowned .fromNative).bind ?_
  rintro found ⟨encoding, answered⟩
  dsimp only
  split
  next fits =>
    refine (ensures_lowering _ _).bind fun layout lowered => .pure ?_
    have goes (pointed : item.type.isPointed = true) :
        item.type = .text ∧ layout.type = item.annotations.native?.getD .pointer := by
      rcases carrier_fromNative pointed answered with ⟨text, carrier⟩ | ⟨_, unfit⟩
      · rw [carrier, lower_scalar rfl] at lowered
        split at lowered
        next => cases lowered
        next => exact ⟨text, (Except.ok.inj lowered).symm⟩
      · rw [unfit] at fits
        cases fits
    exact ⟨rfl, fun pointed => (goes pointed).1, fun pointed => (goes pointed).2⟩
  next => exact .throw_bind _ _

end Accepting

theorem obeys_resolveSignature {defaults : SignatureDefaults} {declaration : FunctionDeclaration}
    (unowned : ∀ item ∈ declaration.result :: declaration.parameters, item.converter = none) :
    (resolveSignature defaults declaration).Ensures (Standard defaults.converters)
      (Signature.Obeys declaration) := by
  obtain ⟨last, others⟩ := List.forall_mem_cons.1 unowned
  have each : ∀ item ∈ declaration.parameters,
      (resolveParameter defaults item).Ensures (Standard defaults.converters)
        (Parameter.Obeys item) :=
    fun item known => obeys_resolveParameter (others item known)
  exact (ensures_resolveSignature each (obeys_resolveResult last)).weaken fun _ both =>
    ⟨both.1, both.2⟩

section Refusing

variable {defaults : SignatureDefaults} {now : World} (standard : now.Standard defaults.converters)
  {item : ValueDeclaration} (unowned : item.converter = none)
include standard unowned

variable (pointed : item.type.isPointed = true)
include pointed

theorem refused_resolveParameter (aliased : item.annotations.native? ≠ none) :
    Refused ((resolveParameter defaults item).run.run now).1 := by
  obtain ⟨outcome, chosen, encoding, chooses, -, answered⟩ :=
    run_converter unowned standard .toNative
  rw [resolveParameter, Act.run_bind]
  dsimp only
  rw [chooses]
  cases outcome with
  | error fault =>
      obtain ⟨reason, rfl⟩ := refused_builtin? answered.symm
      exact ⟨reason, rfl⟩
  | ok found =>
      have lowered := lower_toNative pointed answered.symm item.annotations
      obtain ⟨declared, known⟩ := Option.ne_none_iff_exists'.1 aliased
      rw [known] at lowered
      exact ⟨_, run_resolve_of_error lowered _ chosen⟩

theorem refused_resolveResult (other : item.type ≠ .text) :
    Refused ((resolveResult defaults item).run.run now).1 := by
  obtain ⟨outcome, chosen, encoding, chooses, -, answered⟩ :=
    run_converter unowned standard .fromNative
  rw [resolveResult, Act.run_bind]
  dsimp only
  rw [chooses]
  cases outcome with
  | error fault =>
      obtain ⟨reason, rfl⟩ := refused_builtin? answered.symm
      exact ⟨reason, rfl⟩
  | ok found =>
      rcases carrier_fromNative pointed answered.symm with ⟨text, _⟩ | ⟨_, unfit⟩
      · exact absurd text other
      · dsimp only
        rw [unfit]
        exact ⟨_, rfl⟩

omit pointed in
theorem native_resolveResult (text : item.type = .text) :
    ((resolveResult defaults item).run.run now).1.map (·.native) =
      (ConverterBody.contextEncoding ⟨item.annotations, defaults.encoding⟩).bind fun _ =>
        lower .address item.annotations := by
  obtain ⟨outcome, chosen, encoding, chooses, -, answered⟩ :=
    run_converter unowned standard .fromNative
  rw [text, builtin?_text] at answered
  rw [resolveResult, Act.run_bind]
  dsimp only
  rw [chooses, text]
  -- the converter may be one that was cached at another default encoding
  rcases contextEncoding_cases item.annotations encoding defaults.encoding with
    ⟨fault, here, there⟩ | ⟨one, two, here, there⟩
  · rw [here] at answered
    rw [there]
    cases outcome with
    | ok found => cases answered
    | error other =>
        cases answered
        rfl
  · rw [here] at answered
    rw [there]
    cases outcome with
    | error fault => cases answered
    | ok found =>
        obtain ⟨⟨body, identity⟩, rfl, same⟩ := Option.map_eq_some_iff.1 (Except.ok.inj answered)
        cases same
        exact map_run_resolve (fun _ _ => rfl) chosen

end Refusing

/-- Where a library has no mapper, whatever was resolved before, everything that is passed by its
address is a pointer and has no alias if it is a parameter. A result of this kind is a text, and
comes back as whatever C type but `void` is declared for it, however narrow. -/
theorem addresses_resolved {options : LibraryOptions} {world opened : World} {binder : Binder}
    (builtin : world.closureConverters.custom = none) (unmapped : options.mapper = none)
    (opens : (newBinder options).run world = (binder, opened)) :
    let defaults := binder.defaults
    opened.Standard defaults.converters ∧
      (∀ declaration : FunctionDeclaration,
        (∀ item ∈ declaration.result :: declaration.parameters, item.converter = none) →
          (resolveSignature defaults declaration).Ensures (Standard defaults.converters)
            (Signature.Obeys declaration)) ∧
      ∀ (now : World) (item : ValueDeclaration), now.Standard defaults.converters →
        item.converter = none → item.type.isPointed = true →
          (item.annotations.native? ≠ none →
            Refused ((resolveParameter defaults item).run.run now).1) ∧
          (item.type ≠ .text → Refused ((resolveResult defaults item).run.run now).1) ∧
          (item.type = .text → ((resolveResult defaults item).run.run now).1.map (·.native) =
            (ConverterBody.contextEncoding ⟨item.annotations, defaults.encoding⟩).bind fun _ =>
              if item.annotations.native? = some .void then
                .error (.unsupportedType "address cannot be aliased to void")
              else .ok (item.annotations.native?.getD .pointer)) := by
  intro defaults
  refine ⟨standard_newBinder builtin unmapped opens, fun declaration unowned =>
    obeys_resolveSignature unowned, ?_⟩
  intro now item standard unowned pointed
  refine ⟨refused_resolveParameter standard unowned pointed,
    refused_resolveResult standard unowned pointed, fun text => ?_⟩
  rw [native_resolveResult standard unowned text, lower_scalar rfl]
  rfl

def greeting : FunctionDeclaration where
  name := "greet"
  parameters := [{ type := .text }]
  result := { type := .text, annotations := .ofList [.native .unsignedInt] }

theorem addresses_resolved_halved :
    ∃ binder opened signature later,
      (newBinder {}).run (initial {} (.limited 4096 none true)) = (binder, opened) ∧
        (resolveSignature binder.defaults greeting).run.run opened = (.ok signature, later) ∧
        signature.Obeys greeting ∧ signature.natives = [.pointer] ∧
        signature.result.native = .unsignedInt ∧
        Refused ((resolveParameter binder.defaults greeting.result).run.run later).1 := by
  obtain ⟨standard, accepted, settled⟩ := addresses_resolved rfl rfl
    (rfl : (newBinder {}).run (initial {} (.limited 4096 none true)) = _)
  have resolved := accepted greeting (by simp [greeting]) _ _ _ standard rfl
  refine ⟨_, _, _, _, rfl, rfl, resolved.2 _ rfl, rfl, rfl, ?_⟩
  exact (settled _ greeting.result resolved.1 rfl rfl).1 (by decide)

end World

end ForeignCall
