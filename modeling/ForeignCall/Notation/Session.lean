import ForeignCall.Invocation
import ForeignCall.Notation.Tree

/-! Sessions: a world in which values and callables have names, and what is read from trees within
one. -/

namespace ForeignCall

structure Session where
  world : World := .initial {} (.system PagePolicy.systemPageSize)
  /-- Shared values. -/
  values : List (String × Value) := []
  /-- Callables that the session keeps alive. -/
  callables : List (String × Nat) := []
  formerCallables : List (String × Nat) := []
  /-- Number of opaque host objects made so far. -/
  objects : Nat := 0

inductive Misreading
  | missing (field : String)
  | expected (what : String)
  | unknown (word : String)
  /-- What it asked for has ended the program. -/
  | aborted (cause : Abort)

namespace Misreading

def message : Misreading → String
  | missing field => "missing field " ++ field
  | expected what => what ++ " expected"
  | unknown word => "unknown " ++ word
  | aborted .arithmetic => "arithmetic overflow"
  | aborted .outOfRange => "slice out of range"

end Misreading

abbrev Reading := ReaderT Tree (StateT Session (Except Misreading))

class Readable (α : Type) where
  read : Reading α

namespace Session

def run {α : Type} (action : StateM World α) : Reading α := do
  let session ← getThe Session
  let (result, world) := action.run session.world
  if let some cause := world.abort? then throw (.aborted cause)
  set { session with world }
  return result

def current : Reading World := return (← getThe Session).world

def found {α : Type} (name : String) : Option α → Reading α
  | some value => return value
  | none => throw (.unknown name)

def nameValue (name : String) (value : Value) : Reading Unit := do
  if let .callback serial := value then run (World.retainCallable serial)
  modify fun session => { session with values := (name, value) :: session.values }

def dropCallable (name : String) : Reading Bool := do
  match (← getThe Session).callables.lookup name with
  | some serial =>
    run (World.releaseCallable serial)
    modify fun session =>
      { session with callables := session.callables.filter (·.1 != name) }
    return true
  | none => return false

def nameCallable (name : String) (serial : Nat) : Reading Unit := do
  let _ ← dropCallable name
  modify fun session =>
    { session with
      callables := (name, serial) :: session.callables
      formerCallables := (name, serial) :: session.formerCallables }

def callable (name : String) : Reading Nat := do
  found name ((← getThe Session).formerCallables.lookup name)

def nameOf? (session : Session) (serial : Nat) : Option String :=
  (session.formerCallables.reverse.find? (·.2 == serial)).map (·.1)

end Session

end ForeignCall
