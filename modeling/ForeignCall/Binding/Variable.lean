import ForeignCall.Binding.Symbols
import ForeignCall.Declaration
import ForeignCall.Lowering
import ForeignCall.Memory
import ForeignCall.Numeric
import ForeignCall.Slot

/-! Native global variables, read and written at the width of their C type. -/

namespace ForeignCall

structure BoundVariable where
  name : String
  type : HostType
  native : CType
  model : DataModel
  /-- The address, or the fault that every access replays. -/
  place : Except Fault Nat

namespace BoundVariable

def bind (symbols : SymbolTable) (declaration : VariableDeclaration) :
    StateM LoweringTable BoundVariable := do
  let lowered : Except Fault CLayout ← if declaration.type.isScalar then
      (LoweringTable.resolve declaration.type declaration.annotations).run
    else
      pure (.error (.unsupportedType
        s!"global {declaration.name} of type {declaration.type.describe} is not a scalar"))
  let (native, place) := match lowered with
    | .ok layout => (layout.type, symbols.lookup declaration.name)
    | .error fault => (.void, .error fault)
  return ⟨declaration.name, declaration.type, native, (← get).model, place⟩

def read (bound : BoundVariable) (memory : Memory) : Except Fault Value := do
  let address ← bound.place
  let bytes := memory.read address (Slot.readWidth bound.native bound.model)
  Value.ofImage (Slot.readBytes bytes bound.native bound.model) bound.type
    bound.native bound.model

def write (bound : BoundVariable) (value : Value) (memory : Memory) :
    Except Fault Memory := do
  let address ← bound.place
  let image ← value.toImage bound.type bound.native bound.model
  let slot := Slot.ofImage image bound.native bound.model
  return memory.write address
    ((Slot.bytes slot).take (bound.native.size bound.model))

def describe (bound : BoundVariable) : String :=
  let name := quoted bound.name
  s!"NativeVariable \x7b name: {name}, native: {bound.native.name}, " ++
    s!"bound: {bound.place.toBool} \x7d"

end BoundVariable

end ForeignCall
