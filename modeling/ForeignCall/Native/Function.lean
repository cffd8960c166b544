import ForeignCall.CallInterface
import ForeignCall.Store

/-! Native functions: a prototype and what the function does with its arguments. -/

namespace ForeignCall

inductive Script
  | done (result : UInt64)
  | call (pointer : UInt64) (arguments : List (CType × UInt64)) (result : CType)
    (next : UInt64 → Script)

namespace Script

def run {m : Type → Type} [Monad m]
    (enter : UInt64 → EntryRegisters → m ReturnRegisters) : Script → m UInt64
  | done result => return result
  | call pointer arguments result next => do
    let interface : CallInterface := ⟨arguments.map (·.1), result, .host⟩
    let image ← interface.call (enter pointer) (arguments.map (·.2))
    run enter (next image)

end Script

inductive NativeBody
  /-- Works on memory and on the error code. -/
  | leaf (run : List UInt64 → StateM Store UInt64)
  /-- Takes trailing arguments as well. -/
  | variadic (run : List UInt64 → EntryRegisters → StateM Store UInt64)
  /-- Calls back. -/
  | script (run : List UInt64 → Memory → Script)

structure NativeFunction where
  name : String
  parameters : List CType
  result : CType
  body : NativeBody

namespace NativeFunction

def plain (name : String) (parameters : List CType) (result : CType)
    (run : List UInt64 → UInt64) : NativeFunction :=
  ⟨name, parameters, result, .leaf fun arguments => return run arguments⟩

def leave (function : NativeFunction) (image : UInt64) : ReturnRegisters :=
  .ofImage function.result (Slot.ofImage image function.result .host)

def enterLeaf? (function : NativeFunction) (entry : EntryRegisters) :
    Option (StateM Store ReturnRegisters) :=
  let (arguments, rest) := entry.fetch .host function.parameters
  match function.body with
  | .leaf run => some (function.leave <$> run arguments)
  | .variadic run => some (function.leave <$> run arguments rest)
  | .script _ => none

end NativeFunction

def intOfImage (image : UInt64) : Int32 := image.toUInt32.toInt32

/-- A count that is passed as an `int`; nothing is counted below zero. -/
def countOfImage (image : UInt64) : Nat := (intOfImage image).toInt.toNat

end ForeignCall
