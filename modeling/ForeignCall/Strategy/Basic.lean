/-! The ways in which a bound function can be called. -/

namespace ForeignCall

inductive Strategy
  /-- Machine code generated for the signature. -/
  | stub
  /-- A direct call in which every argument and the result have at most 32 bits. -/
  | fastInt
  /-- A direct call in which every argument and the result fill a 64-bit register. -/
  | fastLong
  /-- A prepared interface for scalar arguments without converters. -/
  | fastNumeric
  /-- A prepared interface with buffers, converters and trailing arguments. -/
  | buffer
  deriving DecidableEq

namespace Strategy

def order : List Strategy := [stub, fastInt, fastLong, fastNumeric, buffer]

theorem mem_order (strategy : Strategy) : strategy ∈ order := by
  cases strategy <;> decide

def index : Strategy → Nat
  | stub => 0
  | fastInt => 1
  | fastLong => 2
  | fastNumeric => 3
  | buffer => 4

def name : Strategy → String
  | stub => "x86-stub"
  | fastInt => "fast-int"
  | fastLong => "fast-long"
  | fastNumeric => "fast-numeric"
  | buffer => "buffer"

def describe : Strategy → String
  | stub => "X86Stub"
  | fastInt => "FastInt"
  | fastLong => "FastLong"
  | fastNumeric => "FastNumeric"
  | buffer => "Buffer"

end Strategy

end ForeignCall
