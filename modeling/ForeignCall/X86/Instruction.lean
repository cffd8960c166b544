import ForeignCall.Bytes

/-! The x86-64 instructions that call stubs are made of, and their machine code. -/

namespace ForeignCall

namespace X86

inductive Register
  | rax
  | rcx
  | rdx
  | rbx
  | rsp
  | rsi
  | rdi
  | r8
  | r9
  deriving DecidableEq

namespace Register

def number : Register → UInt8
  | rax => 0
  | rcx => 1
  | rdx => 2
  | rbx => 3
  | rsp => 4
  | rsi => 6
  | rdi => 7
  | r8 => 8
  | r9 => 9

def all : List Register := [rax, rcx, rdx, rbx, rsp, rsi, rdi, r8, r9]

def ofNumber? (number : UInt8) : Option Register := all.find? (·.number == number)

theorem ofNumber?_number (register : Register) : ofNumber? register.number = some register := by
  cases register <;> decide

def integerArguments : List Register := [rdi, rsi, rdx, rcx, r8, r9]

end Register

abbrev VectorRegister := Fin 8

/-- The vector register of a number. Only the low three bits of the number count. -/
def VectorRegister.ofNumber (number : Nat) : VectorRegister :=
  ⟨number % 8, Nat.mod_lt number (by decide)⟩

inductive Width
  | byte
  | word
  | doubleword
  deriving DecidableEq

inductive Instruction
  | pushRbx
  | popRbx
  | moveRbxRdi
  /-- Loads eight bytes from a signed distance to `rbx`. -/
  | loadInteger (target : Register) (displacement : UInt8)
  /-- Loads a `float` or a `double` from a signed distance to `rbx`. -/
  | loadFloat (target : VectorRegister) (displacement : UInt8) (double : Bool)
  /-- Loads a whole word into `rax`. -/
  | moveRax (value : UInt64)
  | callRax
  | clearRax
  /-- Extends the low part of `rax` to the whole register. -/
  | extendRax (width : Width) (signed : Bool)
  /-- Moves the bits of a `float` or a `double` result to `rax`. -/
  | moveRaxFloat (double : Bool)
  | ret
  deriving DecidableEq

namespace Instruction

def operandByte (number : UInt8) : UInt8 := (number &&& 7) <<< 3 ||| 0x43

def encode : Instruction → List UInt8
  | pushRbx => [0x53]
  | popRbx => [0x5b]
  | moveRbxRdi => [0x48, 0x89, 0xfb]
  | loadInteger target displacement =>
    [if target.number < 8 then 0x48 else 0x4c, 0x8b, operandByte target.number, displacement]
  | loadFloat target displacement double =>
    [if double then 0xf2 else 0xf3, 0x0f, 0x10, operandByte (UInt8.ofNat target.val), displacement]
  | moveRax value => [0x48, 0xb8] ++ littleEndian 8 value
  | callRax => [0xff, 0xd0]
  | clearRax => [0x31, 0xc0]
  | extendRax .byte true => [0x48, 0x0f, 0xbe, 0xc0]
  | extendRax .byte false => [0x0f, 0xb6, 0xc0]
  | extendRax .word true => [0x48, 0x0f, 0xbf, 0xc0]
  | extendRax .word false => [0x0f, 0xb7, 0xc0]
  | extendRax .doubleword true => [0x48, 0x63, 0xc0]
  | extendRax .doubleword false => [0x89, 0xc0]
  | moveRaxFloat false => [0x66, 0x0f, 0x7e, 0xc0]
  | moveRaxFloat true => [0x66, 0x48, 0x0f, 0x7e, 0xc0]
  | ret => [0xc3]

def operandNumber? (byte : UInt8) : Option UInt8 :=
  if byte &&& 0xc7 = 0x43 then some ((byte >>> 3) &&& 7) else none

def integerLoad? (high operand displacement : UInt8) : Option Instruction := do
  return loadInteger (← Register.ofNumber? (high + (← operandNumber? operand))) displacement

def floatLoad? (double : Bool) (operand displacement : UInt8) : Option Instruction := do
  return loadFloat (.ofNumber (← operandNumber? operand).toNat) displacement double

def decode? : List UInt8 → Option (Instruction × List UInt8)
  | 0x53 :: rest => some (pushRbx, rest)
  | 0x5b :: rest => some (popRbx, rest)
  | 0xc3 :: rest => some (ret, rest)
  | 0xff :: 0xd0 :: rest => some (callRax, rest)
  | 0x31 :: 0xc0 :: rest => some (clearRax, rest)
  | 0x89 :: 0xc0 :: rest => some (extendRax .doubleword false, rest)
  | 0x0f :: 0xb6 :: 0xc0 :: rest => some (extendRax .byte false, rest)
  | 0x0f :: 0xb7 :: 0xc0 :: rest => some (extendRax .word false, rest)
  | 0x48 :: 0x89 :: 0xfb :: rest => some (moveRbxRdi, rest)
  | 0x48 :: 0x63 :: 0xc0 :: rest => some (extendRax .doubleword true, rest)
  | 0x48 :: 0x0f :: 0xbe :: 0xc0 :: rest => some (extendRax .byte true, rest)
  | 0x48 :: 0x0f :: 0xbf :: 0xc0 :: rest => some (extendRax .word true, rest)
  | 0x66 :: 0x0f :: 0x7e :: 0xc0 :: rest => some (moveRaxFloat false, rest)
  | 0x66 :: 0x48 :: 0x0f :: 0x7e :: 0xc0 :: rest => some (moveRaxFloat true, rest)
  | 0x48 :: 0x8b :: operand :: displacement :: rest =>
    (integerLoad? 0 operand displacement).map (·, rest)
  | 0x4c :: 0x8b :: operand :: displacement :: rest =>
    (integerLoad? 8 operand displacement).map (·, rest)
  | 0xf3 :: 0x0f :: 0x10 :: operand :: displacement :: rest =>
    (floatLoad? false operand displacement).map (·, rest)
  | 0xf2 :: 0x0f :: 0x10 :: operand :: displacement :: rest =>
    (floatLoad? true operand displacement).map (·, rest)
  | 0x48 :: 0xb8 :: first :: second :: third :: fourth :: fifth :: sixth :: seventh :: eighth ::
      rest =>
    some (moveRax (ofLittleEndian
      [first, second, third, fourth, fifth, sixth, seventh, eighth]), rest)
  | _ => none

theorem length_rest_lt {code rest : List UInt8} {instruction : Instruction}
    (decoded : decode? code = some (instruction, rest)) : rest.length < code.length := by
  unfold decode? at decoded
  split at decoded <;>
    simp only [Option.map_eq_some_iff, Option.some.injEq, Prod.mk.injEq, reduceCtorEq] at decoded
  all_goals
    first
    | obtain ⟨_, rfl⟩ := decoded
    | obtain ⟨_, _, _, rfl⟩ := decoded
  all_goals
    simp only [List.length_cons]
    omega

theorem decode?_encode (instruction : Instruction) (rest : List UInt8) :
    decode? (instruction.encode ++ rest) = some (instruction, rest) := by
  cases instruction with
  | loadInteger target displacement => cases target <;> rfl
  | loadFloat target displacement double =>
    match target, double with
    | 0, false | 1, false | 2, false | 3, false | 4, false | 5, false | 6, false | 7, false => rfl
    | 0, true | 1, true | 2, true | 3, true | 4, true | 5, true | 6, true | 7, true => rfl
  | moveRax value =>
    have decoded : decode? ((moveRax value).encode ++ rest) =
        some (moveRax (ofLittleEndian (littleEndian 8 value)), rest) := rfl
    rw [decoded, ofLittleEndian_littleEndian]
  | extendRax width signed => cases width <;> cases signed <;> rfl
  | moveRaxFloat double => cases double <;> rfl
  | _ => rfl

end Instruction

end X86

end ForeignCall
