import ForeignCall.Proofs.Binding.Fate
import ForeignCall.Proofs.Call.Suitability

/-! Types that are known by name only. A C type that is declared for such a type is all that
lowering asks for, but nothing of the type crosses: parameters, results and globals are refused
for their type, whatever is declared for it. -/

namespace ForeignCall

theorem lower_named {annotations : Annotations} {native : CType} (name : String)
    (declared : annotations.native? = some native) (integral : native.isIntegral = true) :
    lower (.named name) annotations = .ok native := by
  have valued : native ≠ .void := (native.isIntegral_iff.1 integral).1
  simp [lower, declared, valued]

namespace BoundVariable

theorem bind_of_lower {type : HostType} {annotations : Annotations} {native : CType}
    (scalar : type.isScalar = true) (lowered : lower type annotations = .ok native)
    (symbols : SymbolTable) (label : String) (table : LoweringTable) :
    ((bind symbols ⟨label, type, annotations⟩).run table).1 =
      ⟨label, type, native, table.model, symbols.lookup label⟩ := by
  obtain ⟨model, answered⟩ := table.run_resolve type annotations
  obtain ⟨layout, after, ran, same⟩ := Act.exists_run_of_map (answered.trans lowered)
  rw [ran] at model
  cases same
  have bound : (bind symbols ⟨label, type, annotations⟩).run table =
      (⟨label, type, layout.type, after.model, symbols.lookup label⟩, after) := by
    rw [bind, if_pos scalar, StateT.run_bind]
    change ((LoweringTable.resolve type annotations).run.run table >>= _) = _
    rw [ran]
    rfl
  rw [bound, show after.model = table.model from model]

end BoundVariable

def ValueDeclaration.IsBareName (item : ValueDeclaration) : Prop :=
  item.converter = none ∧ ∃ name, item.type = .named name

namespace World

section Refusing

variable {defaults : SignatureDefaults} {item : ValueDeclaration} {name : String}
  (unowned : item.converter = none) (named : item.type = .named name)
  {now : World} (standard : now.Standard defaults.converters)
include unowned named standard

theorem run_converter_named (way : Way) :
    ∃ after, (liftM (defaults.converters.choose way item.converter item.type
      ⟨item.annotations, defaults.encoding⟩) : Act World (Option Converter)).run.run now =
        (.ok none, after) := by
  refine run_converter_of_missing unowned standard fun context => ?_
  rw [named]
  rfl

theorem outcome_resolveParameter_named :
    ((resolveParameter defaults item).run.run now).1 =
      (lower item.type item.annotations).bind fun _ =>
        .error (.unsupportedType
          s!"parameter of type {name} cannot be passed to native code") := by
  obtain ⟨chosen, chooses⟩ := run_converter_named unowned named standard .toNative
  rw [resolveParameter, Act.run_bind]
  dsimp only
  rw [chooses]
  refine outcome_run_resolve (fun layout world => ?_) chosen
  rw [Act.run_bind]
  dsimp only
  rw [named]
  rfl

theorem outcome_resolveResult_named :
    ((resolveResult defaults item).run.run now).1 = .error (.unsupportedType
      s!"result of type {name} cannot be returned from native code") := by
  obtain ⟨chosen, chooses⟩ := run_converter_named unowned named standard .fromNative
  rw [resolveResult, Act.run_bind]
  dsimp only
  rw [chooses, named]
  rfl

end Refusing

section Failing

variable {defaults : SignatureDefaults}

theorem keeps_standard_resolveParameter (item : ValueDeclaration) :
    (resolveParameter defaults item).Keeps (Standard defaults.converters) := by
  refine (keeps_converter .toNative).bind fun found _ => ?_
  refine (keeps_standard_resolve _ _).bind fun layout _ => ?_
  exact (keeps_standard_parameterKind _ _ _).bind fun _ _ => .pure trivial

theorem keeps_standard_resolveResult (item : ValueDeclaration) :
    (resolveResult defaults item).Keeps (Standard defaults.converters) := by
  refine (keeps_converter .fromNative).bind fun found _ => ?_
  dsimp only
  split
  next => exact (keeps_standard_resolve _ _).bind fun _ _ => .pure trivial
  next => exact .throw_bind _ _

theorem ensures_resolveParameter_named (item : ValueDeclaration) :
    (resolveParameter defaults item).Ensures (Standard defaults.converters)
      fun _ => ¬item.IsBareName := by
  intro now outcome after standard ran
  refine ⟨(keeps_standard_resolveParameter item).of_run _ ran standard, ?_⟩
  rintro parameter rfl ⟨unowned, name, named⟩
  have refused := outcome_resolveParameter_named unowned named standard
  rw [ran] at refused
  cases lowered : lower item.type item.annotations <;> rw [lowered] at refused <;> cases refused

theorem ensures_resolveResult_named (item : ValueDeclaration) :
    (resolveResult defaults item).Ensures (Standard defaults.converters)
      fun _ => ¬item.IsBareName := by
  intro now outcome after standard ran
  refine ⟨(keeps_standard_resolveResult item).of_run _ ran standard, ?_⟩
  rintro slot rfl ⟨unowned, name, named⟩
  have refused := outcome_resolveResult_named unowned named standard
  rw [ran] at refused
  cases refused

theorem ensures_resolveSignature_named (declaration : FunctionDeclaration) :
    (resolveSignature defaults declaration).Ensures (Standard defaults.converters)
      fun _ => ∀ item ∈ declaration.result :: declaration.parameters, ¬item.IsBareName := by
  refine (ensures_resolveSignature (fun item _ => ensures_resolveParameter_named item)
    (ensures_resolveResult_named declaration.result)).weaken fun signature found => ?_
  have paired := found.1.imp fun item parameter free => And.intro free trivial
  exact List.forall_mem_cons.2 ⟨found.2, ((List.forall₂_and_left _ _).1 paired).1⟩

theorem fate_of_bareName {binder : Binder} {declaration : FunctionDeclaration}
    {item : ValueDeclaration} (known : item ∈ declaration.result :: declaration.parameters)
    (bare : item.IsBareName) {now : World} (standard : now.Standard binder.defaults.converters)
    (symbols : SymbolTable) :
    ∃ fault after, (fate symbols binder declaration).run now =
      (.built ⟨declaration.name, .error fault⟩, after) := by
  have fails : (prepare symbols binder declaration).Ensures (Standard binder.defaults.converters)
      fun _ => False := by
    refine .bind (.ofExcept fun _ _ => trivial) fun address _ => ?_
    refine (ensures_resolveSignature_named declaration).bind fun signature free => ?_
    exact absurd bare (free item known)
  rw [run_fate]
  cases prepared : (prepare symbols binder declaration).run.run now with
  | mk outcome after =>
  cases outcome with
  | ok function => exact ((fails now _ after standard prepared).2 function rfl).elim
  | error fault =>
      obtain ⟨journal, concluded⟩ := run_concludeEntry declaration.name (.error fault) after
      exact ⟨fault, _, by dsimp only; rw [concluded]; rfl⟩

end Failing

/-- What is declared by a name and an integral C type is lowered to that type, and is refused all
the same. A parameter, a result and a global each have a message of their own; a function with such
a parameter or result is bound to a fault that every call replays, and a global replays its own. A
`long` under the same annotations is accepted in each place. -/
theorem names_refused {annotations : Annotations} {native : CType} (name : String)
    (declared : annotations.native? = some native) (integral : native.isIntegral = true) :
    let item : ValueDeclaration := { type := .named name, annotations }
    let long : ValueDeclaration := { item with type := .long }
    lower item.type annotations = .ok native ∧ lower long.type annotations = .ok native ∧
      (∀ (defaults : SignatureDefaults) (now : World), now.Standard defaults.converters →
        ((resolveParameter defaults item).run.run now).1 = .error (.unsupportedType
            s!"parameter of type {name} cannot be passed to native code") ∧
          ((resolveResult defaults item).run.run now).1 = .error (.unsupportedType
            s!"result of type {name} cannot be returned from native code") ∧
          ((resolveParameter defaults long).run.run now).1.map (·.native) = .ok native ∧
          ((resolveResult defaults long).run.run now).1.map (·.native) = .ok native) ∧
      (∀ (symbols : SymbolTable) (binder : Binder) (declaration : FunctionDeclaration)
        (now : World), now.Standard binder.defaults.converters →
        item ∈ declaration.result :: declaration.parameters →
          ∃ fault after, (fate symbols binder declaration).run now =
              (.built ⟨declaration.name, .error fault⟩, after) ∧
            (bindFunction symbols binder declaration).run now =
              (⟨declaration.name, .error fault⟩, after) ∧
            ∀ code arguments later,
              (invokeIn code ⟨declaration.name, .error fault⟩ arguments).run.run later =
                (.error fault, later)) ∧
      ∀ (symbols : SymbolTable) (label : String) (table : LoweringTable),
        let bound (type : HostType) :=
          ((BoundVariable.bind symbols ⟨label, type, annotations⟩).run table).1
        let fault : Fault := .unsupportedType s!"global {label} of type {name} is not a scalar"
        (bound .long).native = native ∧ (bound .long).place = symbols.lookup label ∧
          ∀ memory, (bound item.type).read memory = .error fault ∧
            ∀ value, (bound item.type).write value memory = .error fault := by
  intro item long
  have lowered : lower item.type annotations = .ok native := lower_named name declared integral
  have valued : annotations.native? ≠ some .void := by
    rw [declared]
    exact fun same => (native.isIntegral_iff.1 integral).1 (Option.some.inj same)
  have alike : lower long.type annotations = .ok native := by
    rw [lower_scalar rfl, if_neg valued, declared]
    rfl
  refine ⟨lowered, alike, ?_, ?_, ?_⟩
  · intro defaults now standard
    refine ⟨?_, outcome_resolveResult_named rfl rfl standard, ?_, ?_⟩
    · rw [outcome_resolveParameter_named rfl rfl standard, lowered]
      rfl
    · exact (native_resolveParameter_scalar rfl rfl standard).trans alike
    · exact (native_resolveResult_scalar rfl rfl standard).trans alike
  · intro symbols binder declaration now standard known
    obtain ⟨fault, after, fated⟩ := fate_of_bareName known ⟨rfl, name, rfl⟩ standard symbols
    refine ⟨fault, after, fated, ?_, fun _ _ _ => rfl⟩
    rw [run_bindFunction, fated]
  · intro symbols label table bound fault
    have same : bound .long = ⟨label, .long, native, table.model, symbols.lookup label⟩ :=
      BoundVariable.bind_of_lower rfl alike symbols label table
    refine ⟨by rw [same], by rw [same], fun memory => ⟨rfl, fun value => rfl⟩⟩

def measuring : FunctionDeclaration :=
  let size : ValueDeclaration :=
    { type := .named "size_t", annotations := .ofList [.native .unsignedInt] }
  { name := "f", parameters := [size], result := size }

theorem names_refused_measuring :
    let world := initial {} (.limited 4096 none true)
    let (binder, opened) := (newBinder {}).run world
    opened.Standard binder.defaults.converters ∧
      ∃ fault after, (bindFunction ⟨[("f", 64)]⟩ binder measuring).run opened =
        (⟨"f", .error fault⟩, after) := by
  have standard := standard_newBinder rfl rfl
    (rfl : (newBinder {}).run (initial {} (.limited 4096 none true)) = _)
  obtain ⟨_, _, _, functions, _⟩ := names_refused "size_t"
    (rfl : (Annotations.ofList [.native .unsignedInt]).native? = some .unsignedInt) rfl
  obtain ⟨fault, after, _, bound, _⟩ := functions ⟨[("f", 64)]⟩ _ measuring _ standard
    (List.mem_cons_self ..)
  exact ⟨standard, fault, after, bound⟩

end World

end ForeignCall
