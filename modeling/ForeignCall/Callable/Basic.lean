import ForeignCall.Fault
import ForeignCall.Value

/-! Managed callables, which native code reaches through closures. -/

namespace ForeignCall

inductive Response
  | value (value : Value)
  | fault (fault : Fault)
  | panic
  deriving DecidableEq

structure Callable where
  /-- Tells callables apart while they live. -/
  identity : Nat
  /-- Holders that keep the callable alive. -/
  owners : Nat
  respond : List Value → StateM Heap Response

namespace Callable

def isAlive (callable : Callable) : Bool := 0 < callable.owners

end Callable

end ForeignCall
