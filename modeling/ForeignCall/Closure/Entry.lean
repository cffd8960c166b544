import ForeignCall.Closure.Manager

/-! What happens when native code calls: a closure dispatches to the callable at its slot, and every
failure there reads as a zero result. -/

namespace ForeignCall

namespace World

def closureAt? (world : World) (address : Nat) : Option (Pool × ClosureSlot) :=
  (world.pools.filterMap (·.2)).findSome? fun pool =>
    (pool.slotAt? address).map (pool, ·)

def liveTarget? (world : World) (pool : Pool) (slot : ClosureSlot) : Option (Nat × Callable) := do
  let serial ← pool.target? slot
  let callable ← world.callables[serial]?
  if callable.isAlive then some (serial, callable) else none

def runCallable (serial : Nat) (callable : Callable) (arguments : List Value) :
    StateM World Response := do
  modify fun world => { world with invocations := world.invocations ++ [(serial, arguments)] }
  modifyGet fun world =>
    let (response, heap) := (callable.respond arguments).run world.heap
    (response, { world with heap })

def dispatch (pool : Pool) (slot : ClosureSlot) (images : List UInt64) :
    ExceptT String (StateM World) UInt64 := do
  let explain {α : Type} (action : Act World α) : ExceptT String (StateM World) α :=
    ExceptT.adapt Fault.message action
  match (← get).liveTarget? pool slot with
  | none => explain (throw (.typeMismatch "live callable" "reclaimed closure slot"))
  | some (serial, callable) =>
    let arguments ← explain (liftM (pool.shape.receiveAll images))
    match ← runCallable serial callable arguments with
    | .value value => explain (liftM (pool.shape.sendResult value))
    | .fault fault => throw fault.message
    | .panic => throw "callback panicked"

def enterClosure (pool : Pool) (slot : ClosureSlot) (entry : EntryRegisters) :
    StateM World ReturnRegisters := do
  let interface := pool.shape.interface
  let (images, _) := entry.fetch interface.model interface.arguments
  let image ← match ← (dispatch pool slot images).run with
    | .ok image => pure image
    | .error reason =>
      Store.record (.callbackFailed slot.code reason)
      pure 0
  let buffer := Slot.putResult 0 image interface.result
  return .ofImage interface.result (Slot.widen buffer interface.result interface.model)

/-- Enters what lies at an address, unless that calls back itself. Nothing happens at an address
without code. -/
def enterLeaf (address : UInt64) (entry : EntryRegisters) : StateM World ReturnRegisters := do
  match (← get).closureAt? address.toNat with
  | some (pool, slot) => enterClosure pool slot entry
  | none =>
    match (NativeFunction.atAddress? address.toNat).bind (·.enterLeaf? entry) with
    | some action => action
    | none => return ⟨0, 0⟩

def enter (address : UInt64) (entry : EntryRegisters) : StateM World ReturnRegisters := do
  match NativeFunction.atAddress? address.toNat with
  | some function =>
    match function.body with
    | .script run =>
      let (arguments, _) := entry.fetch .host function.parameters
      let script := run arguments (← get).memory
      return function.leave (← script.run enterLeaf)
    | _ => enterLeaf address entry
  | none => enterLeaf address entry

end World

end ForeignCall
