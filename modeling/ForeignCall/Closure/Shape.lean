import ForeignCall.CallInterface
import ForeignCall.Passage

/-! How the arguments and the result of a callback type cross the boundary. -/

namespace ForeignCall

structure CallbackType where
  parameters : List HostType
  result : HostType
  convention : CallConvention
  deriving DecidableEq

namespace CallbackType

def ofHostType? : HostType → Option CallbackType
  | .callback parameters result convention => some ⟨parameters, result, convention⟩
  | _ => none

end CallbackType

structure ClosureShape where
  type : CallbackType
  parameters : List Passage
  result : Passage
  context : ConversionContext
  interface : CallInterface

namespace ClosureShape

def receiveAll (shape : ClosureShape) (images : List UInt64) : Act Store (List Value) :=
  (shape.parameters.zip images).mapM fun (passage, image) =>
    passage.receive image shape.context shape.interface.model

def sendResult (shape : ClosureShape) (value : Value) : Act Store UInt64 :=
  if value = .void ∨ shape.result.native = .void then return 0
  else shape.result.send value shape.context shape.interface.model

end ClosureShape

end ForeignCall
