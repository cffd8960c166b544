import ForeignCall.Binding.Library
import ForeignCall.Proofs.Binding.Resolving
import ForeignCall.Proofs.Converter.Plain
import ForeignCall.Proofs.Signature

/-! Libraries without mappers of their own: whatever was resolved before, the converters that come
with the library are the only ones that are found. -/

namespace ForeignCall

namespace World

structure Standard (pipeline : Pipeline) (world : World) : Prop where
  closures : world.closureConverters.custom = none
  converters : pipeline.Standard world.mappers

section Keeping

variable {pipeline : Pipeline}

theorem Standard.grow {world : World} (standard : world.Standard pipeline) {other : Pipeline}
    (builtin : other.custom = none) (way : Way) (type : HostType) (context : ConversionContext) :
    let run := (liftM (other.choose way none type context) :
      Act World (Option Converter)).run.run world
    run.2.Standard pipeline :=
  ⟨standard.closures, standard.converters.grow builtin way type context⟩

theorem keeps_standard_resolve (type : HostType) (annotations : Annotations) :
    Act.Keeps (Standard pipeline)
      (liftM (LoweringTable.resolve type annotations) : Act World CLayout) := by
  intro world outcome after standard ran
  cases ran
  exact ⟨⟨standard.closures, standard.converters⟩, fun _ _ => trivial⟩

theorem ensures_lowering (type : HostType) (annotations : Annotations) :
    Act.Ensures (Standard pipeline) (fun layout => lower type annotations = .ok layout.type)
      (liftM (LoweringTable.resolve type annotations) : Act World CLayout) :=
  ((keeps_standard_resolve type annotations).both
    (ensures_onTypes (LoweringTable.returns_resolve type annotations))).weaken fun _ => And.right

theorem resolvable_standard : Resolvable (Standard pipeline) where
  choose known other asks _ way type := by
    intro world outcome after standard ran
    cases ran
    exact ⟨standard.grow asks.closures way type _, fun _ _ => trivial⟩
  resolve := keeps_standard_resolve

theorem keeps_standard_parameterKind (carrier : HostType) (native : CType)
    (annotations : Annotations) :
    (parameterKind carrier native annotations).Keeps (Standard pipeline) :=
  keeps_parameterKind (resolvable_standard.keeps_openPool fun _ _ standard => { standard with })
    (fun _ _ standard => { standard with }) carrier native annotations

theorem standard_newBinder {options : LibraryOptions} {world opened : World} {binder : Binder}
    (builtin : world.closureConverters.custom = none) (unmapped : options.mapper = none)
    (opens : (newBinder options).run world = (binder, opened)) :
    opened.Standard binder.defaults.converters := by
  cases opens
  exact ⟨builtin, .of_empty unmapped (by simp [MapperState.cache])⟩

end Keeping

section Resolving

variable {Result : Type} {type : HostType} {annotations : Annotations}

theorem map_run_resolve {next : CLayout → Act World Result} {native : Result → CType}
    (same : ∀ layout world, ((next layout).run.run world).1.map native = .ok layout.type)
    (world : World) :
    (((liftM (LoweringTable.resolve type annotations) : Act World CLayout) >>= next).run.run
      world).1.map native = lower type annotations := by
  have lowers : ((liftM (LoweringTable.resolve type annotations) :
      Act World CLayout).run.run world).1.map CLayout.type = lower type annotations :=
    (world.types.run_resolve type annotations).2
  rw [Act.run_bind]
  split
  next layout after ran =>
    rw [ran] at lowers
    exact (same layout after).trans lowers
  next fault after ran =>
    rw [ran] at lowers
    exact lowers

theorem outcome_run_resolve {next : CLayout → Act World Result}
    {outcome : CType → Except Fault Result}
    (same : ∀ layout world, ((next layout).run.run world).1 = outcome layout.type) (world : World) :
    (((liftM (LoweringTable.resolve type annotations) : Act World CLayout) >>= next).run.run
      world).1 = (lower type annotations).bind outcome := by
  have lowers : ((liftM (LoweringTable.resolve type annotations) :
      Act World CLayout).run.run world).1.map CLayout.type = lower type annotations :=
    (world.types.run_resolve type annotations).2
  rw [Act.run_bind, ← lowers]
  split
  next layout after ran =>
    rw [ran]
    exact same layout after
  next fault after ran =>
    rw [ran]
    rfl

theorem run_resolve_of_error {fault : Fault} (refused : lower type annotations = .error fault)
    (next : CLayout → Act World Result) (world : World) :
    (((liftM (LoweringTable.resolve type annotations) : Act World CLayout) >>= next).run.run
      world).1 = .error fault := by
  have resolves : ∃ after, (liftM (LoweringTable.resolve type annotations) :
      Act World CLayout).run.run world = (.error fault, after) :=
    Act.exists_run_of_map_error ((world.types.run_resolve type annotations).2.trans refused)
  obtain ⟨after, ran⟩ := resolves
  rw [Act.run_bind, ran]

end Resolving

section Choosing

variable {defaults : SignatureDefaults} {item : ValueDeclaration} (unowned : item.converter = none)
include unowned

theorem run_converter {now : World} (standard : now.Standard defaults.converters) (way : Way) :
    ∃ outcome after encoding,
      (liftM (defaults.converters.choose way item.converter item.type
        ⟨item.annotations, defaults.encoding⟩) : Act World (Option Converter)).run.run now =
          (outcome, after) ∧
        after.Standard defaults.converters ∧
        outcome.map (·.map (·.toConverterBody)) =
          ConverterBody.builtin? way item.type ⟨item.annotations, encoding⟩ := by
  rw [unowned]
  obtain ⟨encoding, answered⟩ := standard.converters.choose way item.type
    ⟨item.annotations, defaults.encoding⟩
  exact ⟨_, _, encoding, rfl, standard.grow standard.converters.builtin way item.type _, answered⟩

theorem run_converter_of_known {now : World} (standard : now.Standard defaults.converters)
    {way : Way} {body : Option ConverterBody}
    (known : ∀ context, ConverterBody.builtin? way item.type context = .ok body) :
    ∃ found after, (liftM (defaults.converters.choose way item.converter item.type
      ⟨item.annotations, defaults.encoding⟩) : Act World (Option Converter)).run.run now =
        (.ok found, after) ∧
      after.Standard defaults.converters ∧ found.map (·.toConverterBody) = body := by
  obtain ⟨outcome, after, encoding, chooses, kept, answered⟩ := run_converter unowned standard way
  rw [known] at answered
  cases outcome with
  | error fault => cases answered
  | ok found => exact ⟨found, after, chooses, kept, Except.ok.inj answered⟩

theorem run_converter_of_missing {now : World} (standard : now.Standard defaults.converters)
    {way : Way} (missing : ∀ context, ConverterBody.builtin? way item.type context = .ok none) :
    ∃ after, (liftM (defaults.converters.choose way item.converter item.type
      ⟨item.annotations, defaults.encoding⟩) : Act World (Option Converter)).run.run now =
        (.ok none, after) := by
  obtain ⟨found, after, chooses, -, same⟩ := run_converter_of_known unowned standard missing
  cases (Option.map_eq_none_iff.1 same : found = none)
  exact ⟨after, chooses⟩

theorem ensures_converter (way : Way) :
    Act.Ensures (Standard defaults.converters)
      (fun found => ∃ encoding, ConverterBody.builtin? way item.type
        ⟨item.annotations, encoding⟩ = .ok (found.map (·.toConverterBody)))
      (liftM (defaults.converters.choose way item.converter item.type
        ⟨item.annotations, defaults.encoding⟩) : Act World (Option Converter)) := by
  intro world outcome after standard ran
  obtain ⟨answer, later, encoding, asked, kept, answered⟩ := run_converter unowned standard way
  cases asked.symm.trans ran
  refine ⟨kept, ?_⟩
  rintro found rfl
  exact ⟨encoding, answered.symm⟩

omit unowned in
theorem keeps_converter (way : Way) :
    Act.Keeps (Standard defaults.converters)
      (liftM (defaults.converters.choose way item.converter item.type
        ⟨item.annotations, defaults.encoding⟩) : Act World (Option Converter)) := by
  cases own : item.converter with
  | some converter => exact Act.Ensures.pure trivial
  | none =>
      rw [← own]
      exact (ensures_converter own way).weaken fun _ _ => trivial

end Choosing

end World

end ForeignCall
