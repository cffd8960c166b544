import ForeignCall.CType
import ForeignCall.Registers
import ForeignCall.X86.Code

/-! Call stubs: machine code that takes a block with one register image for each argument, calls a
function with them and returns the function's result as a widened image. -/

namespace ForeignCall

namespace Stub

def widening (result : CType) (model : DataModel) : List X86.Instruction :=
  match result with
  | .void => [.clearRax]
  | .float => [.moveRaxFloat false]
  | .double => [.moveRaxFloat true]
  | _ =>
    match result.bits model with
    | 8 => [.extendRax .byte result.isSigned]
    | 16 => [.extendRax .word result.isSigned]
    | 32 => [.extendRax .doubleword result.isSigned]
    | _ => []

def fits (classes : List ArgumentClass) : Bool :=
  (assignRegisters .systemV (classes.map (·.isFloating))).isSome

def load (class_ : ArgumentClass) (register position : Nat) : X86.Instruction :=
  let displacement := UInt8.ofNat (position * 8)
  match class_ with
  | .integer =>
    .loadInteger (X86.Register.integerArguments[register]?.getD .rdi) displacement
  | .single => .loadFloat (.ofNumber register) displacement false
  | .double => .loadFloat (.ofNumber register) displacement true

def loads (classes : List ArgumentClass) (registers : List Nat) : List X86.Instruction :=
  (classes.zip registers).zipIdx.map fun ((class_, register), position) =>
    load class_ register position

def assemble (target : UInt64) (classes : List ArgumentClass) (registers : List Nat)
    (result : CType) (model : DataModel) : X86.Code :=
  let entered := X86.Code.appendAll {} ([.pushRbx, .moveRbxRdi] ++ loads classes registers)
  (entered.appendCall target).appendAll (widening result model ++ [.popRbx, .ret])

def assemble? (target : UInt64) (classes : List ArgumentClass) (result : CType)
    (model : DataModel) : Option X86.Code :=
  (assignRegisters .systemV (classes.map (·.isFloating))).map fun registers =>
    assemble target classes registers result model

theorem isSome_assemble? (target : UInt64) (classes : List ArgumentClass) (result : CType)
    (model : DataModel) : (assemble? target classes result model).isSome = fits classes := by
  simp [assemble?, fits]

end Stub

end ForeignCall
