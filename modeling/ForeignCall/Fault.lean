import ForeignCall.Text.Quoted

/-! The ways in which binding a native function or calling it can fail. -/

namespace ForeignCall

inductive Fault
  | unsupportedType (reason : String)
  | unsupportedSignature (reason : String)
  | encodingError (reason : String)
  | unknownEnumValue (enumeration : String) (value : Int64)
  | symbolNotFound (symbol : String)
  | memoryExhausted (requested : Nat)
  | typeMismatch (expected found : String)
  | argumentCount (expected found : Nat)
  | invalidConfig (reason : String)
  deriving DecidableEq

namespace Fault

/-- Faults of a declaration or its surroundings. They are recorded once and replayed at every
call; the others belong to one call. -/
def ofConstruction : Fault → Bool
  | unsupportedType _ | unsupportedSignature _ | symbolNotFound _ | memoryExhausted _
  | invalidConfig _ => true
  | encodingError _ | unknownEnumValue .. | typeMismatch .. | argumentCount .. => false

def message : Fault → String
  | unsupportedType reason => "Unsupported type: " ++ reason
  | unsupportedSignature reason => "Unsupported signature: " ++ reason
  | encodingError reason => "Encoding error: " ++ reason
  | unknownEnumValue enumeration value =>
    s!"No constant of {enumeration} maps to native value {value.toInt}"
  | symbolNotFound symbol => "Symbol not found: " ++ symbol
  | memoryExhausted requested => s!"Native memory exhausted allocating {requested} bytes"
  | typeMismatch expected found => s!"Type mismatch: expected {expected}, found {found}"
  | argumentCount expected found => s!"Argument count mismatch: expected {expected}, found {found}"
  | invalidConfig reason => "Invalid configuration: " ++ reason

def kind : Fault → String
  | unsupportedType _ => "UnsupportedType"
  | unsupportedSignature _ => "UnsupportedSignature"
  | encodingError _ => "EncodingError"
  | unknownEnumValue .. => "UnknownEnumValue"
  | symbolNotFound _ => "SymbolNotFound"
  | memoryExhausted _ => "NativeMemoryExhausted"
  | typeMismatch .. => "TypeMismatch"
  | argumentCount .. => "ArgCountMismatch"
  | invalidConfig _ => "InvalidConfig"

def describe (fault : Fault) : String :=
  let opened := fault.kind ++ " \x7b "
  let closed := " \x7d"
  match fault with
  | unknownEnumValue enumeration value =>
    opened ++ "enum_name: " ++ quoted enumeration ++ ", value: " ++ toString value.toInt ++ closed
  | memoryExhausted requested => opened ++ "requested_bytes: " ++ toString requested ++ closed
  | typeMismatch expected found =>
    opened ++ "expected: " ++ quoted expected ++ ", found: " ++ quoted found ++ closed
  | argumentCount expected found =>
    opened ++ "expected: " ++ toString expected ++ ", found: " ++ toString found ++ closed
  | unsupportedType text | unsupportedSignature text | encodingError text | symbolNotFound text
  | invalidConfig text => fault.kind ++ "(" ++ quoted text ++ ")"

end Fault

/-- Effects that may fail; what happened before the failure stays. -/
abbrev Act (state result : Type) := ExceptT Fault (StateM state) result

end ForeignCall
