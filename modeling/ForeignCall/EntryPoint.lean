import ForeignCall.Closure.Entry
import ForeignCall.Strategy.Selection
import ForeignCall.Stub.Attachment

/-! Entry points: bound functions ready to be called, or the fault that kept them from it. -/

namespace ForeignCall

inductive CallPath
  /-- Through an installed stub, in some block of pages. -/
  | stub (address block : Nat)
  | fastInt
  | fastLong
  | numeric (interface : CallInterface)
  /-- With buffers; the interface of a function with trailing arguments differs from call to
  call. -/
  | buffer (interface : Option CallInterface)
  deriving DecidableEq

namespace CallPath

def strategy : CallPath → Strategy
  | stub .. => .stub
  | fastInt => .fastInt
  | fastLong => .fastLong
  | numeric _ => .fastNumeric
  | buffer _ => .buffer

def block? : CallPath → Option Nat
  | stub _ block => some block
  | _ => none

end CallPath

structure BoundFunction where
  signature : Signature
  address : Nat
  path : CallPath

structure EntryPoint where
  name : String
  outcome : Except Fault BoundFunction

namespace EntryPoint

def bound? (entry : EntryPoint) : Option BoundFunction := entry.outcome.toOption

def fault? (entry : EntryPoint) : Option Fault :=
  match entry.outcome with
  | .ok _ => none
  | .error fault => some fault

def strategy? (entry : EntryPoint) : Option Strategy := entry.bound?.map (·.path.strategy)

def block? (entry : EntryPoint) : Option Nat := entry.bound?.bind (·.path.block?)

def describe (entry : EntryPoint) : String :=
  match entry.outcome with
  | .ok bound =>
    let shown := quoted bound.signature.describe
    s!"Invoker \x7b signature: {shown}, strategy: {bound.path.strategy.describe} \x7d"
  | .error fault =>
    let shown := quoted entry.name
    s!"Invoker \x7b name: {shown}, error: {fault.describe} \x7d"

end EntryPoint

namespace World

def countBuilt (strategy : Strategy) : StateM World Unit :=
  Store.count (·.countBuilt strategy)

def plainPath (signature : Signature) (strategy : Strategy) : Except Fault CallPath :=
  let interface :=
    CallInterface.prepare signature.natives none signature.result.native signature.model
  match strategy with
  | .stub => .error (.unsupportedSignature (signature.describe ++ " needs an installed stub"))
  | .fastInt => .ok .fastInt
  | .fastLong => .ok .fastLong
  | .fastNumeric => interface.map .numeric
  | .buffer =>
    if signature.variadic then .ok (.buffer none) else interface.map fun prepared =>
      .buffer (some prepared)

def buildPlain (signature : Signature) (address : Nat) (strategy : Strategy) :
    Act World EntryPoint := do
  let path ← plainPath signature strategy
  countBuilt strategy
  return ⟨signature.name, .ok { signature, address, path }⟩

def buildStub (signature : Signature) (address : Nat) (stub : InstalledStub) (block : Nat) :
    StateM World EntryPoint := do
  countBuilt .stub
  return ⟨signature.name, .ok { signature, address, path := .stub stub.address block }⟩

def buildFailing (name : String) (fault : Fault) : StateM World EntryPoint := do
  Store.count fun counters => { counters with failed := counters.failed + 1 }
  return ⟨name, .error fault⟩

def retainEntry (entry : EntryPoint) : StateM World Unit :=
  match entry.block? with
  | some block => PageStore.retain block
  | none => return ()

def releaseEntry (entry : EntryPoint) : StateM World Unit :=
  match entry.block? with
  | some block => PageStore.release block
  | none => return ()

end World

end ForeignCall
