import ForeignCall.X86.Instruction

/-! Relocatable machine code: bytes in which the call targets are still zero, and where they go. -/

namespace ForeignCall

namespace X86

structure Relocation where
  offset : Nat
  target : UInt64
  deriving DecidableEq

structure Code where
  bytes : List UInt8 := []
  relocations : List Relocation := []
  deriving DecidableEq

namespace Code

def append (code : Code) (instruction : Instruction) : Code :=
  { code with bytes := code.bytes ++ instruction.encode }

def appendCall (code : Code) (target : UInt64) : Code :=
  { bytes := code.bytes ++ (Instruction.moveRax 0).encode ++ Instruction.callRax.encode
    relocations := code.relocations ++ [⟨code.bytes.length + 2, target⟩] }

def appendAll (code : Code) (instructions : List Instruction) : Code :=
  instructions.foldl append code

def relocated (code : Code) : List UInt8 :=
  code.relocations.foldl
    (fun bytes relocation => overwrite bytes relocation.offset (littleEndian 8 relocation.target))
    code.bytes

end Code

end X86

end ForeignCall
