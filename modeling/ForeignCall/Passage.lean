import ForeignCall.Converter.Basic

/-! How a single value crosses the boundary, in either direction. -/

namespace ForeignCall

/-- One value that crosses: the host type that carries it, its C type, and the converter between
the carrier and the declared type. -/
structure Passage where
  carrier : HostType
  native : CType
  converter : Option Converter

namespace Passage

def convert (passage : Passage) (value : Value) (context : ConversionContext) :
    Act Store Value :=
  match passage.converter with
  | some converter => converter.convert value context
  | none => return value

def receive (passage : Passage) (image : UInt64) (context : ConversionContext)
    (model : DataModel) : Act Store Value := do
  passage.convert (← Value.ofImage image passage.carrier passage.native model) context

def send (passage : Passage) (value : Value) (context : ConversionContext) (model : DataModel) :
    Act Store UInt64 := do
  (← passage.convert value context).toImage passage.carrier passage.native model

end Passage

end ForeignCall
