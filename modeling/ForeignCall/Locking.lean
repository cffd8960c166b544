import ForeignCall.Invocation

/-! Libraries whose functions are called one at a time. A call takes the lock of its library once
the arguments are counted, and gives it back when it is done, however it ends. -/

namespace ForeignCall

/-- What becomes of the world while a lock is taken, and while it is given back: others may do
anything then. -/
structure Lock where
  take : StateM World Unit
  giveBack : StateM World Unit

namespace World

def holding {Result : Type} (lock : Option Lock) (action : Act World Result) :
    Act World Result :=
  match lock with
  | none => action
  | some lock => ExceptT.mk do
    lock.take
    let outcome ← action.run
    lock.giveBack
    return outcome

def callBound (code : NativeCode) (name : String) (bound : BoundFunction)
    (arguments : List Value) : Act World Value := do
  Store.record (.nativeCall name arguments.length)
  match bound.path with
  | .buffer interface => invokeBuffered code bound interface arguments
  | _ => invokeScalar code bound arguments

def invokeLocked (lock : Option Lock) (code : NativeCode) (entry : EntryPoint)
    (arguments : List Value) : Act World Value := do
  let bound ← entry.outcome
  let named := bound.signature.parameters.length
  unless arguments.length = named ∨ (bound.signature.variadic ∧ named ≤ arguments.length) do
    throw (.argumentCount named arguments.length)
  holding lock (callBound code entry.name bound arguments)

theorem invokeLocked_none (code : NativeCode) (entry : EntryPoint) (arguments : List Value) :
    invokeLocked none code entry arguments = invokeIn code entry arguments := rfl

theorem run_invokeLocked_of_error {entry : EntryPoint} {fault : Fault}
    (failed : entry.outcome = .error fault) (lock : Option Lock) (code : NativeCode)
    (arguments : List Value) (world : World) :
    (invokeLocked lock code entry arguments).run.run world = (.error fault, world) := by
  rw [invokeLocked, failed]
  rfl

end World

end ForeignCall
