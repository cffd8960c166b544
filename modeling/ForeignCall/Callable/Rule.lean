import ForeignCall.Callable.Basic

/-! Callables that are described by a rule on their arguments. -/

namespace ForeignCall

inductive CallableRule
  | add
  | sub
  | mul
  | first
  | last
  /-- The sum of all integers. -/
  | sum
  /-- The sum of all numbers. -/
  | floatSum
  | textLength
  | constant (value : Value)
  | fail
  | panic
  deriving DecidableEq

namespace CallableRule

def integerAt (arguments : List Value) (position : Nat) : Int64 :=
  (arguments[position]?.bind Value.toInt64?).getD 0

def combine (arguments : List Value) (operation : Int64 → Int64 → Int64) : Value :=
  .int (operation (integerAt arguments 0) (integerAt arguments 1)).toInt32

def respond (rule : CallableRule) (arguments : List Value) : Response :=
  match rule with
  | add => .value (combine arguments (· + ·))
  | sub => .value (combine arguments (· - ·))
  | mul => .value (combine arguments (· * ·))
  | first => .value (arguments.head?.getD .void)
  | last => .value (arguments.getLast?.getD .void)
  | sum => .value (.long ((arguments.filterMap Value.toInt64?).foldl (· + ·) 0))
  | floatSum => .value (.double ((arguments.filterMap Value.toDouble?).foldl Double.add 0))
  | textLength =>
    match arguments with
    | .text text :: _ => .value (.int (Int32.ofNat text.length))
    | _ => .value (.int (-1))
  | constant value => .value value
  | fail => .fault (.encodingError "callable failed")
  | panic => .panic

end CallableRule

end ForeignCall
