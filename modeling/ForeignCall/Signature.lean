import ForeignCall.Closure.Manager
import ForeignCall.Declaration

/-! Signatures: what a declared function looks like once its types are resolved. -/

namespace ForeignCall

inductive ParameterKind
  /-- An integer or an address in an integer register. -/
  | integer
  | single
  | double
  /-- The address of a buffer with the elements. -/
  | array (element : Element) (direction : Direction)
  /-- The address of a buffer with the bytes. -/
  | struct (direction : Direction)
  /-- The address of a closure. -/
  | callback (site : Nat)
  deriving DecidableEq

def ParameterKind.isScalar : ParameterKind → Bool
  | integer | single | double => true
  | _ => false

structure Parameter extends Passage where
  declared : HostType
  /-- The declared annotations and those of the converter. -/
  annotations : Annotations
  context : ConversionContext
  kind : ParameterKind

structure ResultSlot extends Passage where
  declared : HostType
  context : ConversionContext

structure Signature where
  name : String
  parameters : List Parameter
  result : ResultSlot
  convention : CallConvention
  savesError : Bool
  variadic : Bool
  model : DataModel
  /-- The encoding of texts among trailing arguments. -/
  encoding : TextEncoding

structure SignatureDefaults where
  converters : Pipeline
  encoding : TextEncoding
  convention : CallConvention := .default
  savesError : Bool := false

namespace Signature

def isScalarOnly (signature : Signature) : Bool := signature.parameters.all (·.kind.isScalar)

def converters (signature : Signature) : List Converter :=
  (signature.parameters.map (·.toPassage) ++ [signature.result.toPassage]).filterMap (·.converter)

def hasConverters (signature : Signature) : Bool := !signature.converters.isEmpty

def isContextFree (signature : Signature) : Bool := signature.converters.all (·.contextFree)

def lowered (signature : Signature) : List (HostType × Annotations) :=
  let parameters := signature.parameters.map fun parameter =>
    (parameter.carrier, parameter.annotations)
  (parameters ++ [(signature.result.carrier, signature.result.context.annotations)]).eraseDups

def natives (signature : Signature) : List CType := signature.parameters.map (·.native)

def argumentClasses (signature : Signature) : List ArgumentClass :=
  signature.natives.map .ofCType

def describe (signature : Signature) : String :=
  let parameters := ", ".intercalate (signature.natives.map (·.spelling))
  let tail := if signature.variadic then ", ..." else ""
  s!"{signature.name}({parameters}{tail}) -> {signature.result.native.spelling}"

end Signature

namespace World

def parameterKind (carrier : HostType) (native : CType) (annotations : Annotations) :
    Act World ParameterKind :=
  match carrier with
  | .array element => return .array element (.ofAnnotations annotations)
  | .struct _ => return .struct (.ofAnnotations annotations)
  | .callback parameters result convention =>
    return .callback (← newSite ⟨parameters, result, convention⟩)
  | _ =>
    if carrier.isScalar then
      return match native with
        | .float => .single
        | .double => .double
        | _ => .integer
    else
      throw (.unsupportedType
        s!"parameter of type {carrier.describe} cannot be passed to native code")

def resolveParameter (defaults : SignatureDefaults) (declaration : ValueDeclaration) :
    Act World Parameter := do
  let context : ConversionContext := ⟨declaration.annotations, defaults.encoding⟩
  let converter ← defaults.converters.choose .toNative declaration.converter declaration.type
    context
  let carrier := (converter.map (·.carrier)).getD declaration.type
  let annotations := match converter with
    | some converter => declaration.annotations.union converter.annotations
    | none => declaration.annotations
  let native := (← LoweringTable.resolve carrier annotations).type
  let kind ← parameterKind carrier native annotations
  return { declared := declaration.type, converter, carrier, native, annotations, context, kind }

def resolveResult (defaults : SignatureDefaults) (declaration : ValueDeclaration) :
    Act World ResultSlot := do
  let context : ConversionContext := ⟨declaration.annotations, defaults.encoding⟩
  let converter ← defaults.converters.choose .fromNative declaration.converter declaration.type
    context
  let carrier := (converter.map (·.carrier)).getD declaration.type
  unless carrier.isScalar || carrier.isVoid do
    throw (.unsupportedType
      s!"result of type {declaration.type.describe} cannot be returned from native code")
  let native := (← LoweringTable.resolve carrier declaration.annotations).type
  return { declared := declaration.type, converter, carrier, native, context }

def resolveSignature (defaults : SignatureDefaults) (declaration : FunctionDeclaration) :
    Act World Signature := do
  let parameters ← declaration.parameters.mapM (resolveParameter defaults)
  let result ← resolveResult defaults declaration.result
  return {
    name := declaration.name, parameters, result
    convention := declaration.convention.getD defaults.convention
    savesError := declaration.annotations.savesError defaults.savesError
    variadic := declaration.variadic
    model := (← get).model
    encoding := defaults.encoding }

end World

end ForeignCall
