import ForeignCall.Proofs.Binding.Fate
import ForeignCall.Proofs.Call.Agreement

/-! Invoking entry points: each goes as planned for its signature, and the plan looks at nothing in
which the signatures of one declaration differ, unless callables are passed. -/

namespace ForeignCall

namespace Passage

end Passage

namespace World

end World

namespace CallPlan

end CallPlan

structure PreparedFunction.Sound (function : PreparedFunction) (setting : StrategySetting) :
    Prop where
  coherent : function.signature.Coherent
  model : setting.model = function.signature.model
  accepted : function.strategy.accepts function.signature setting = true

structure BoundFunction.Sound (bound : BoundFunction) (setting : StrategySetting) : Prop where
  coherent : bound.signature.Coherent
  model : setting.model = bound.signature.model
  accepted : bound.path.strategy.accepts bound.signature setting = true
  plain : bound.path.block? = none →
    World.plainPath bound.signature bound.path.strategy = .ok bound.path

def EntryPoint.Sound (entry : EntryPoint) (setting : StrategySetting) : Prop :=
  ∀ bound, entry.outcome = .ok bound → bound.Sound setting

theorem Strategy.accepts_of_selectFrom {strategies : List Strategy} {signature : Signature}
    {setting : StrategySetting} {strategy : Strategy}
    (selected : selectFrom strategies signature setting = .ok strategy) :
    strategy.accepts signature setting = true := by
  rw [selectFrom] at selected
  split at selected
  next other found =>
    cases selected
    have accepts := List.find?_some found
    exact accepts
  next => cases selected

namespace World

section Kindred

variable {origin : World} {behind : Nat → CacheKey → Except Fault (Option ConverterBody)}
  (closures : origin.Stocks behind origin.closureConverters) {binder : Binder}
  (encodes : binder.defaults.encoding = origin.encoding)
  (stocks : origin.Stocks behind binder.defaults.converters)
  (models : binder.setting.model = origin.model)
include closures encodes stocks models

end Kindred

end World

/-- Where an entry point leads through a stub, memory holds the stub of its function there. -/
def EntryPoint.Ready (entry : EntryPoint) (memory : Memory) : Prop :=
  ∀ bound start block, entry.outcome = .ok bound → bound.path = .stub start block →
    ∃ code, Stub.assemble? (UInt64.ofNat bound.address) bound.signature.argumentClasses
        bound.signature.result.native bound.signature.model = some code ∧
      memory.HoldsCode start code.relocated

def BoundFunction.Spared (bound : BoundFunction) : Prop :=
  ∀ start block, bound.path = .stub start block → ∀ code, bound.signature.Spares start code

/-- Invocations go as planned for a signature, whatever function is called, as long as memory holds
the entry point's stub. -/
def EntryPoint.Follows (entry : EntryPoint) (signature : Signature) : Prop :=
  ∀ bound, entry.outcome = .ok bound → bound.Spared →
    ∀ (code : World.NativeCode) (body : List UInt64 → StateM World UInt64)
      (arguments : List Value) (now : World),
      Computes (code (UInt64.ofNat bound.address)) body signature.model
        (signature.nativesFor arguments) signature.result.native →
      entry.Ready now.memory →
        (World.invokeIn code entry arguments).run.run now =
          (CallPlan.of entry.name signature arguments now).run signature body

theorem EntryPoint.Sound.follows {entry : EntryPoint} {setting : StrategySetting}
    (valid : setting.model.Valid) (sound : entry.Sound setting) {bound : BoundFunction}
    (built : entry.outcome = .ok bound) : entry.Follows bound.signature := by
  obtain ⟨name, outcome⟩ := entry
  cases built
  rintro _ ⟨⟩ spared code body arguments now computes ready
  obtain ⟨coherent, model, accepted, plain⟩ := sound bound rfl
  refine World.invokeIn_of_served (model ▸ valid) coherent model accepted ?_ computes name
  obtain ⟨signature, address, path⟩ := bound
  cases path with
  | stub start block =>
      obtain ⟨stub, assembled, held⟩ := ready _ start block rfl rfl
      exact .stub assembled held (spared start block rfl stub.relocated)
  | fastInt | fastLong | numeric | buffer => exact .plain (plain rfl)

end ForeignCall
