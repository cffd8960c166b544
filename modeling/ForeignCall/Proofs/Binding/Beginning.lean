import ForeignCall.Proofs.Binding.Preparing

/-! How a library begins: with a cache of its own, in a world where everything that it will look up
looks as it will look later. -/

namespace ForeignCall

theorem Config.of_validate {config : Config} (validated : config.validate = .ok ()) :
    config.model.Valid ∧ config.magazinePages ≠ 0 ∧
      ∀ size, config.pageSize = some size → isPowerOfTwo size = true := by
  have sound : config.defect? = none := by
    rw [Config.validate] at validated
    split at validated
    next => cases validated
    next none => exact none
  rw [Config.defect?] at sound
  split at sound
  next => cases sound
  next pointer =>
    split at sound
    next => cases sound
    next long =>
      split at sound
      next => cases sound
      next some_page =>
        split at sound
        next => cases sound
        next even =>
          refine ⟨⟨?_, ?_⟩, some_page, fun size sized => ?_⟩
          · change config.pointerBytes = 4 ∨ config.pointerBytes = 8
            omega
          · change config.longBytes = 4 ∨ config.longBytes = 8
            omega
          · simpa using Option.filter_eq_none_iff.1 even size sized

namespace World

/-- The data model was validated. Converters of callback types are the built-in ones, and their
cache was made before any library's. -/
structure Furnished (world : World) : Prop where
  valid : world.model.Valid
  builtin : world.closureConverters.custom = none
  listed : world.closureConverters.cache < world.mappers.caches.length

theorem valid_of_validate {config : Config} (validated : config.validate = .ok ()) :
    config.model.Valid :=
  (Config.of_validate validated).1

theorem furnished_of_start {config : Config} {policy : Option PagePolicy} {world : World}
    (started : start config policy = .ok world) : world.Furnished := by
  rw [start] at started
  cases valid : config.validate with
  | error fault =>
      rw [valid] at started
      cases started
  | ok _ =>
      rw [valid] at started
      cases started
      exact ⟨valid_of_validate valid, rfl, Nat.zero_lt_one⟩

/-- Each cache of a mapper was made before any library's, stands before one mapper only, and does
not serve callback types. -/
structure Provides (world : World) (mapper : Mapper) : Prop where
  listed : ∀ number inner, (number, inner) ∈ mapper.caches →
    number < world.mappers.caches.length ∧ number ≠ world.closureConverters.cache
  single : Mapper.Single mapper.caches

theorem caches_mapper (pipeline : Pipeline) :
    pipeline.mapper.caches = (pipeline.cache, .chain (pipeline.custom.toList ++ [.builtin])) ::
      (pipeline.custom.map (·.caches)).getD [] := by
  obtain ⟨cache, _ | custom⟩ := pipeline
  · rfl
  · exact congrArg (List.cons _) (List.append_nil custom.caches)

theorem kindred_newBinder {options : LibraryOptions} {world opened : World} {binder : Binder}
    (furnished : world.Furnished)
    (provided : ∀ mapper, options.mapper = some mapper → world.Provides mapper)
    (opens : (newBinder options).run world = (binder, opened)) :
    ∃ behind, opened.Kindred behind opened ∧ opened.Stocks behind opened.closureConverters ∧
      opened.Stocks behind binder.defaults.converters ∧
        binder.defaults.encoding = opened.encoding := by
  let own : Pipeline := ⟨world.mappers.caches.length, options.mapper⟩
  let custom := (options.mapper.map (·.caches)).getD []
  have listed : (∀ number inner, (number, inner) ∈ custom →
      number < own.cache ∧ number ≠ world.closureConverters.cache) ∧ Mapper.Single custom := by
    dsimp only [custom]
    cases known : options.mapper with
    | none => exact ⟨fun _ _ none => (nomatch none), fun _ _ _ none => (nomatch none)⟩
    | some mapper => exact ⟨(provided mapper known).listed, (provided mapper known).single⟩
  have single : Mapper.Single
      (world.closureConverters.mapper.caches ++ own.mapper.caches) := by
    rw [caches_mapper, caches_mapper, furnished.builtin]
    refine Mapper.Single.cons (listed.2.cons fun inner mine => ?_) fun inner known => ?_
    · exact Nat.lt_irrefl _ (listed.1 _ _ mine).1
    · rcases List.mem_cons.1 known with new | mine
      · exact Nat.ne_of_lt furnished.listed (Prod.mk.inj new).1
      · exact (listed.1 _ _ mine).2 rfl
  obtain ⟨behind, backed⟩ := Mapper.exists_behind opened.mappers opened.encoding single
  cases opens
  refine ⟨behind, ⟨⟨rfl, rfl, rfl, .refl _, rfl, rfl, rfl, rfl⟩, fun _ => id, fun _ => .inl⟩,
    backed _ (List.subset_append_left _ _), backed _ (List.subset_append_right _ _), rfl⟩

end World

end ForeignCall
