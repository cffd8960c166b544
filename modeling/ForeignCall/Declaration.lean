import ForeignCall.Converter.Basic

/-! What a native interface declares: functions and global variables. -/

namespace ForeignCall

structure ValueDeclaration where
  type : HostType
  annotations : Annotations := .empty
  /-- Used instead of what the mappers find. -/
  converter : Option Converter := none

structure FunctionDeclaration where
  name : String
  parameters : List ValueDeclaration := []
  result : ValueDeclaration := { type := .void }
  /-- The library's convention where there is none. -/
  convention : Option CallConvention := none
  annotations : Annotations := .empty
  /-- Arguments may follow the declared ones. -/
  variadic : Bool := false

structure VariableDeclaration where
  name : String
  type : HostType
  annotations : Annotations := .empty

structure InterfaceDeclaration where
  functions : List FunctionDeclaration := []
  globals : List VariableDeclaration := []

end ForeignCall
