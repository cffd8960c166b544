import ForeignCall.Proofs.Closure.Upkeep

/-! Native code enters closures: which callable a call reaches, and what it leaves alone. -/

namespace ForeignCall

namespace World

/-- A call at a slot reaches a callable with some arguments: it is registered there, it lives, and
the arguments convert. -/
def Reaches (world : World) (pool : Pool) (slot : ClosureSlot) (images : List UInt64) (serial : Nat)
    (arguments : List Value) : Prop :=
  (∃ registration ∈ pool.registrations,
    registration.slot = slot ∧ registration.callable = serial) ∧
  world.isAlive serial = true ∧
  ∃ store, (pool.shape.receiveAll images).run.run world.toStore = (.ok arguments, store)

theorem Reaches.unique {world : World} {pool : Pool} {slot : ClosureSlot} {images : List UInt64}
    {serial other : Nat} {arguments others : List Value} (accounts : pool.Accounts [])
    (reaches : world.Reaches pool slot images serial arguments)
    (again : world.Reaches pool slot images other others) :
    serial = other ∧ arguments = others := by
  obtain ⟨⟨first, known, rfl, rfl⟩, _, store, received⟩ := reaches
  obtain ⟨⟨second, knownToo, same, rfl⟩, _, later, receivedToo⟩ := again
  refine ⟨congrArg Registration.callable (accounts.eq_of_slot_eq known knownToo same.symm), ?_⟩
  exact Except.ok.inj (congrArg Prod.fst (received.symm.trans receivedToo))

theorem liveTarget?_eq_some {world : World} {pool : Pool} {slot : ClosureSlot} {serial : Nat} :
    (∃ callable, world.liveTarget? pool slot = some (serial, callable)) ↔
      pool.target? slot = some serial ∧ world.isAlive serial = true := by
  simp only [liveTarget?, isAlive, Option.any_eq_true, bind, Option.bind_eq_some_iff]
  constructor
  · rintro ⟨callable, other, target, found, known, answer⟩
    split at answer
    next lives =>
      cases answer
      exact ⟨target, callable, known, lives⟩
    next => cases answer
  · rintro ⟨target, callable, known, lives⟩
    exact ⟨callable, serial, target, callable, known, if_pos lives⟩

theorem run_explain {Result : Type} (action : Act Store Result) (world : World) :
    (ExceptT.adapt Fault.message (liftM action : Act World Result) :
        ExceptT String (StateM World) Result).run.run world =
      (Except.mapError Fault.message (action.run.run world.toStore).1,
        { world with toStore := (action.run.run world.toStore).2 }) := rfl

def returning (shape : ClosureShape) (response : Response) (left : World) :
    Except String UInt64 × World :=
  match response with
  | .value value =>
    let (outcome, store) := (shape.sendResult value).run.run left.toStore
    (outcome.mapError Fault.message, { left with toStore := store })
  | .fault fault => (.error fault.message, left)
  | .panic => (.error "callback panicked", left)

theorem run_dispatch (pool : Pool) (slot : ClosureSlot) (images : List UInt64) (world : World) :
    (dispatch pool slot images).run.run world =
      match world.liveTarget? pool slot with
      | none =>
        (.error (Fault.typeMismatch "live callable" "reclaimed closure slot").message, world)
      | some (serial, callable) =>
        match (pool.shape.receiveAll images).run.run world.toStore with
        | (.error fault, store) => (.error fault.message, { world with toStore := store })
        | (.ok arguments, store) =>
          let ended := (runCallable serial callable arguments).run { world with toStore := store }
          returning pool.shape ended.1 ended.2 := by
  rw [dispatch]
  dsimp only
  rw [Act.run_bind, Act.run_get]
  dsimp only
  cases world.liveTarget? pool slot with
  | none => rfl
  | some target =>
      obtain ⟨serial, callable⟩ := target
      dsimp only
      rw [Act.run_bind, run_explain]
      generalize (pool.shape.receiveAll images).run.run world.toStore = received
      obtain ⟨fault | arguments, store⟩ : Except Fault (List Value) × Store := received
      · rfl
      · dsimp only [Except.mapError]
        rw [Act.run_bind, Act.run_lift]
        dsimp only
        generalize (runCallable serial callable arguments).run _ = ended
        obtain ⟨response, left⟩ : Response × World := ended
        cases response <;> rfl

theorem of_run_dispatch {world after : World} {pool : Pool} {slot : ClosureSlot}
    {images : List UInt64} {outcome : Except String UInt64} (accounts : pool.Accounts [])
    (quiet : pool.shape.Quiet)
    (ran : (dispatch pool slot images).run.run world = (outcome, after)) :
    world.Elsewhere after ∧
      ((∃ serial arguments, world.Reaches pool slot images serial arguments ∧
        after.invocations = world.invocations ++ [(serial, arguments)]) ∨
      (∀ serial arguments, ¬world.Reaches pool slot images serial arguments) ∧
        after.invocations = world.invocations ∧ ∃ reason, outcome = .error reason) := by
  rw [run_dispatch] at ran
  split at ran
  next missing =>
    cases ran
    refine ⟨.refl world, .inr ⟨?_, rfl, _, rfl⟩⟩
    rintro serial arguments ⟨registered, lives, _⟩
    have target := (accounts.bound slot serial List.not_mem_nil).2 registered
    obtain ⟨callable, found⟩ := liveTarget?_eq_some.2 ⟨target, lives⟩
    cases missing.symm.trans found
  next serial callable found =>
    obtain ⟨target, lives⟩ := liveTarget?_eq_some.1 ⟨callable, found⟩
    generalize received : (pool.shape.receiveAll images).run.run world.toStore = result at ran
    obtain ⟨answer, store⟩ := result
    obtain ⟨memory, _⟩ := quiet.keeps_receiveAll world.memory images world.toStore _ _ rfl received
    have converted : world.Elsewhere { world with toStore := store } :=
      elsewhere_onPages world (Nat.le_of_eq (congrArg Memory.unused memory.symm))
    cases answer with
    | error fault =>
        cases ran
        refine ⟨converted, .inr ⟨?_, rfl, _, rfl⟩⟩
        rintro serial arguments ⟨_, _, store, converts⟩
        cases received.symm.trans converts
    | ok arguments =>
        have reaches : world.Reaches pool slot images serial arguments :=
          ⟨(accounts.bound slot serial List.not_mem_nil).1 target, lives, store, received⟩
        let entered : World := { world with toStore := store }
        have called : world.Elsewhere ((runCallable serial callable arguments).run entered).2 :=
          converted.trans ⟨rfl, rfl, rfl, id, Nat.le_refl _⟩
        have recorded : ((runCallable serial callable arguments).run entered).2.invocations =
            world.invocations ++ [(serial, arguments)] := rfl
        dsimp only at ran
        generalize (runCallable serial callable arguments).run entered = ended at *
        obtain ⟨response, left⟩ := ended
        cases response with
        | value value =>
            have sent := quiet.keeps_sendResult left.memory value left.toStore _ _ rfl rfl
            cases ran
            refine ⟨called.trans (elsewhere_onPages left ?_),
              .inl ⟨serial, arguments, reaches, recorded⟩⟩
            exact Nat.le_of_eq (congrArg Memory.unused sent.1.symm)
        | fault | panic =>
            cases ran
            exact ⟨called, .inl ⟨serial, arguments, reaches, recorded⟩⟩

def imagesOf (pool : Pool) (entry : EntryRegisters) : List UInt64 :=
  (entry.fetch pool.shape.interface.model pool.shape.interface.arguments).1

theorem ofImage_widen_zero (type : CType) (model : DataModel) :
    ReturnRegisters.ofImage type (Slot.widen (Slot.putResult 0 0 type) type model) = ⟨0, 0⟩ := by
  have kept : Slot.putResult 0 0 type = 0 := by cases type <;> rfl
  have zero : Slot.widen 0 type model = 0 := by
    cases type with
    | void | float | double | pointer => rfl
    | _ =>
        simp only [Slot.widen]
        split <;> rfl
  rw [kept, zero, ReturnRegisters.ofImage]
  split <;> rfl

def closing (interface : CallInterface) : Except String UInt64 → ReturnRegisters
  | .ok image => .ofImage interface.result
    (Slot.widen (Slot.putResult 0 image interface.result) interface.result interface.model)
  | .error _ => ⟨0, 0⟩

theorem run_enterClosure (pool : Pool) (slot : ClosureSlot) (entry : EntryRegisters)
    (world : World) :
    let (outcome, left) := (dispatch pool slot (imagesOf pool entry)).run.run world
    (enterClosure pool slot entry).run world = (closing pool.shape.interface outcome,
      match outcome with
      | .ok _ => left
      | .error reason =>
        ((Store.record (.callbackFailed slot.code reason) : StateM World Unit).run left).2) := by
  rw [enterClosure]
  dsimp only
  rw [StateT.run_bind, imagesOf]
  generalize (dispatch pool slot _).run.run world = dispatched
  obtain ⟨reason | image, left⟩ : Except String UInt64 × World := dispatched
  · dsimp only [closing]
    rw [← ofImage_widen_zero pool.shape.interface.result pool.shape.interface.model]
    rfl
  · rfl
theorem of_run_enterClosure {world after : World} {pool : Pool} {slot : ClosureSlot}
    {entry : EntryRegisters} {returned : ReturnRegisters} (accounts : pool.Accounts [])
    (quiet : pool.shape.Quiet)
    (ran : (enterClosure pool slot entry).run world = (returned, after)) :
    world.Elsewhere after ∧
      ((∃ serial arguments, world.Reaches pool slot (imagesOf pool entry) serial arguments ∧
        after.invocations = world.invocations ++ [(serial, arguments)]) ∨
      (∀ serial arguments, ¬world.Reaches pool slot (imagesOf pool entry) serial arguments) ∧
        after.invocations = world.invocations ∧ returned = ⟨0, 0⟩) := by
  have entering := run_enterClosure pool slot entry world
  generalize dispatched : (dispatch pool slot (imagesOf pool entry)).run.run world = run at entering
  obtain ⟨outcome, left⟩ := run
  obtain ⟨elsewhere, reached⟩ := of_run_dispatch accounts quiet dispatched
  cases entering.symm.trans ran
  cases outcome with
  | ok image =>
      refine ⟨elsewhere, ?_⟩
      rcases reached with reaches | ⟨_, _, _, wrong⟩
      · exact .inl reaches
      · cases wrong
  | error reason =>
      refine ⟨elsewhere.trans (elsewhere_onPages left (Nat.le_refl _)), ?_⟩
      rcases reached with reaches | ⟨never, same, _⟩
      · exact .inl reaches
      · exact .inr ⟨never, same, rfl⟩

end World

namespace Magazine

theorem covers_slot {magazine : Magazine} {index : Nat} (below : index < magazine.capacity) :
    World.Covers magazine.span (magazine.slot index).code := by
  have before := Nat.mul_lt_mul_of_pos_right below (show 0 < ClosureSlot.stride by decide)
  simp only [World.Covers, span, slot]
  omega

theorem of_slotAt? {magazine : Magazine} {address : Nat} {slot : ClosureSlot}
    (found : magazine.slotAt? address = some slot) :
    slot.code = address ∧ ∃ index < magazine.capacity, magazine.slot index = slot := by
  rw [slotAt?] at found
  split at found
  next inside =>
    cases found
    exact ⟨inside.2.2, _, inside.2.1, rfl⟩
  next => cases found

end Magazine

namespace World

variable {world : World} {number : Nat} {pool : Pool} {slot : ClosureSlot}

theorem Sound.placed_slot (sound : world.Sound) (found : world.pool? number = some pool)
    (known : slot ∈ pool.handedOut) :
    ∃ magazine ∈ pool.magazines, ∃ index < magazine.capacity, magazine.slot index = slot := by
  obtain ⟨magazine, held, index, below, same⟩ := Pool.mem_handedOut.1 known
  have within := (sound.accounts number pool found).within magazine held
  exact ⟨magazine, held, index, Nat.lt_of_lt_of_le below within, same⟩

theorem Sound.eq_of_code_eq (sound : world.Sound) (found : world.pool? number = some pool)
    {other : Nat} {rival : Pool} (beside : world.pool? other = some rival)
    {left right : Magazine} (leftHeld : left ∈ pool.magazines) (rightHeld : right ∈ rival.magazines)
    {first second : Nat} (firstBelow : first < left.capacity)
    (secondBelow : second < right.capacity)
    (same : (left.slot first).code = (right.slot second).code) :
    number = other ∧ left.slot first = right.slot second := by
  have shared := Magazine.covers_slot secondBelow
  rw [← same] at shared
  obtain ⟨numbers, spans⟩ := sound.placed.apart _ number left.span other right.span
    ⟨pool, found, List.mem_map_of_mem leftHeld⟩ ⟨rival, beside, List.mem_map_of_mem rightHeld⟩
    (Magazine.covers_slot firstBelow) shared
  have bases : left.base = right.base := congrArg Prod.fst spans
  simp only [Magazine.slot, bases, ClosureSlot.stride] at same
  have indices : first = second := by omega
  refine ⟨numbers, ?_⟩
  rw [Magazine.slot, Magazine.slot, bases, indices]

theorem mem_filterMap_pools : pool ∈ world.pools.filterMap (·.2) ↔
    ∃ number, world.pool? number = some pool := by
  constructor
  · intro listed
    obtain ⟨entry, known, present⟩ := List.mem_filterMap.1 listed
    obtain ⟨number, there⟩ := List.mem_iff_getElem?.1 known
    exact ⟨number, Option.bind_eq_some_iff.2 ⟨entry, there, present⟩⟩
  · rintro ⟨number, found⟩
    obtain ⟨entry, there, present⟩ := Option.bind_eq_some_iff.1 found
    exact List.mem_filterMap.2 ⟨entry, List.mem_of_getElem? there, present⟩

theorem Sound.closureAt?_code (sound : world.Sound) (found : world.pool? number = some pool)
    (known : slot ∈ pool.handedOut) : world.closureAt? slot.code = some (pool, slot) := by
  obtain ⟨magazine, held, index, below, rfl⟩ := sound.placed_slot found known
  rw [closureAt?]
  cases searched : (world.pools.filterMap (·.2)).findSome? fun pool =>
      (pool.slotAt? (magazine.slot index).code).map (pool, ·) with
  | none =>
      have listed := mem_filterMap_pools.2 ⟨number, found⟩
      have absent := Option.map_eq_none_iff.1 (List.findSome?_eq_none_iff.1 searched pool listed)
      have nowhere := List.findSome?_eq_none_iff.1 absent magazine held
      cases nowhere.symm.trans (magazine.slotAt?_slot index below)
  | some answer =>
      obtain ⟨rival, listed, answered⟩ := List.exists_of_findSome?_eq_some searched
      obtain ⟨slot, there, rfl⟩ := Option.map_eq_some_iff.1 answered
      obtain ⟨other, beside⟩ := mem_filterMap_pools.1 listed
      obtain ⟨neighbour, rightHeld, hit⟩ := List.exists_of_findSome?_eq_some there
      obtain ⟨code, position, rightBelow, rfl⟩ := Magazine.of_slotAt? hit
      obtain ⟨rfl, same⟩ :=
        sound.eq_of_code_eq found beside held rightHeld below rightBelow code.symm
      cases found.symm.trans beside
      rw [same]

theorem atAddress?_of_le {address : Nat} (above : 0x100000 ≤ address) :
    NativeFunction.atAddress? address = none := by
  have few : NativeFunction.all.length ≤ 1000 := by decide
  rw [NativeFunction.atAddress?]
  split
  next => exact List.getElem?_eq_none (by omega)
  next => rfl

theorem Sound.run_enter (sound : world.Sound) (found : world.pool? number = some pool)
    (known : slot ∈ pool.handedOut) {pointer : UInt64} (code : pointer.toNat = slot.code)
    (entry : EntryRegisters) :
    (enter pointer entry).run world = (enterClosure pool slot entry).run world := by
  have above : 0x100000 ≤ slot.code := by
    obtain ⟨magazine, held, index, _, rfl⟩ := sound.placed_slot found known
    have inside := (sound.placed.inside number magazine.span
      ⟨pool, found, List.mem_map_of_mem held⟩).1
    exact Nat.le_trans inside (Nat.le_add_right _ _)
  have outside := atAddress?_of_le (code ▸ above)
  have there := sound.closureAt?_code found known
  rw [enter, outside]
  rw [enterLeaf, StateT.run_bind, StateT.run_get, code]
  simp only [pure_bind, there]

end World

end ForeignCall
