import ForeignCall.Registers
import ForeignCall.X86.Instruction

/-! Execution of straight machine code that calls other functions. -/

namespace ForeignCall

namespace X86

/-- The part of the processor that call stubs use. Of a vector register only the low half is
kept. -/
structure Cpu where
  general : Register → UInt64
  vector : VectorRegister → UInt64
  memory : UInt64 → UInt8
  /-- The address of the next instruction. -/
  next : UInt64

namespace Cpu

def setGeneral (cpu : Cpu) (register : Register) (value : UInt64) : Cpu :=
  { cpu with
    general := fun query => if query = register then value else cpu.general query }

def setVector (cpu : Cpu) (register : VectorRegister) (value : UInt64) : Cpu :=
  { cpu with
    vector := fun query => if query = register then value else cpu.vector query }

def load (cpu : Cpu) (address : UInt64) : UInt64 :=
  ofLittleEndian ((List.range 8).map fun offset => cpu.memory (address + UInt64.ofNat offset))

def store (cpu : Cpu) (address value : UInt64) : Cpu :=
  { cpu with
    memory := fun query =>
      ((littleEndian 8 value)[(query - address).toNat]?).getD (cpu.memory query) }

def push (cpu : Cpu) (value : UInt64) : Cpu :=
  let top := cpu.general .rsp - 8
  (cpu.setGeneral .rsp top).store top value

def pop (cpu : Cpu) : UInt64 × Cpu :=
  let top := cpu.general .rsp
  (cpu.load top, cpu.setGeneral .rsp (top + 8))

/-- The registers with which a function is entered now. Call stubs leave no argument on the
stack. -/
def entry (cpu : Cpu) : EntryRegisters :=
  ⟨Register.integerArguments.map cpu.general, (List.finRange 8).map cpu.vector, []⟩

/-- The state in which a function returns that leaves memory alone. Besides its result it leaves
zeros in the registers that it need not keep. -/
def leave (cpu : Cpu) (returned : ReturnRegisters) : Cpu :=
  { cpu with
    general := fun register =>
      match register with
      | .rax => returned.integer
      | .rbx | .rsp => cpu.general register
      | _ => 0
    vector := fun register => if register.val = 0 then returned.floating else 0 }

def operandAddress (cpu : Cpu) (displacement : UInt8) : UInt64 :=
  cpu.general .rbx + displacement.toInt8.toInt64.toUInt64

def extend (value : UInt64) (width : Width) (signed : Bool) : UInt64 :=
  match width, signed with
  | .byte, true => value.toUInt8.toInt8.toInt64.toUInt64
  | .byte, false => value.toUInt8.toUInt64
  | .word, true => value.toUInt16.toInt16.toInt64.toUInt64
  | .word, false => value.toUInt16.toUInt64
  | .doubleword, true => value.toUInt32.toInt32.toInt64.toUInt64
  | .doubleword, false => value.toUInt32.toUInt64

def step (cpu : Cpu) : Instruction → Cpu
  | .pushRbx => cpu.push (cpu.general .rbx)
  | .popRbx =>
    let (value, popped) := cpu.pop
    popped.setGeneral .rbx value
  | .moveRbxRdi => cpu.setGeneral .rbx (cpu.general .rdi)
  | .loadInteger target displacement =>
    cpu.setGeneral target (cpu.load (cpu.operandAddress displacement))
  | .loadFloat target displacement double =>
    let word := cpu.load (cpu.operandAddress displacement)
    cpu.setVector target (if double then word else word.toUInt32.toUInt64)
  | .moveRax value => cpu.setGeneral .rax value
  | .clearRax => cpu.setGeneral .rax 0
  | .extendRax width signed => cpu.setGeneral .rax (extend (cpu.general .rax) width signed)
  | .moveRaxFloat double =>
    let word := cpu.vector (.ofNumber 0)
    cpu.setGeneral .rax (if double then word else word.toUInt32.toUInt64)
  | .callRax | .ret => cpu

end Cpu

/-- Runs code up to its return. A call pushes the address behind it and lets the called function
run, which comes back in the state in which it is about to pop that address. There is no outcome when
the code cannot be decoded, ends without a return, or a function comes back to another address. -/
def execute {m : Type → Type} [Monad m] (call : UInt64 → Cpu → m Cpu)
    (code : List UInt8) (cpu : Cpu) : m (Option Cpu) :=
  match _decoded : Instruction.decode? code with
  | none => return none
  | some (instruction, rest) =>
    let after := { cpu with next := cpu.next + UInt64.ofNat (code.length - rest.length) }
    match instruction with
    | .ret =>
      let (address, popped) := after.pop
      return some { popped with next := address }
    | .callRax => do
      let target := after.general .rax
      let left ← call target { after.push after.next with next := target }
      let (address, popped) := left.pop
      if address = after.next then execute call rest { popped with next := address }
      else return none
    | instruction => execute call rest (after.step instruction)
termination_by code.length
decreasing_by all_goals exact Instruction.length_rest_lt _decoded

/-- The state in which code is entered that takes the address of a block of words. The stack lies
below an address that is eight more than a multiple of sixteen, as after a call. -/
def Cpu.start (block : List UInt64) : Cpu where
  general register :=
    match register with
    | .rdi => 0x7000000
    | .rsp => 0x6fff008
    | _ => 0
  vector _ := 0
  memory address := (block.flatMap (littleEndian 8))[(address - 0x7000000).toNat]?.getD 0
  next := 0

def callBlock {m : Type → Type} [Monad m] (call : UInt64 → EntryRegisters → m ReturnRegisters)
    (code : List UInt8) (block : List UInt64) : m UInt64 := do
  let finish ← execute (fun target cpu => cpu.leave <$> call target cpu.entry) code (.start block)
  return (finish.map (·.general .rax)).getD 0

end X86

end ForeignCall
