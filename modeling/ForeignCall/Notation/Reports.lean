import ForeignCall.Binding.Library
import ForeignCall.Binding.Loader
import ForeignCall.Config.Environment
import ForeignCall.Notation.Converters
import ForeignCall.Notation.Code

/-! How configurations and declarations are written, and reports on what was made of them. -/

namespace ForeignCall

namespace Reading

def textFaults : List (String × (String → Fault)) :=
  [("UnsupportedType", .unsupportedType), ("UnsupportedSignature", .unsupportedSignature),
   ("EncodingError", .encodingError), ("SymbolNotFound", .symbolNotFound),
   ("InvalidConfig", .invalidConfig)]

instance : Readable Fault where
  read := do
    let text ← fieldOr "text" ""
    let value : Int64 ← fieldOr "value" 0
    match ← field "kind" with
    | "UnknownEnumValue" => return .unknownEnumValue text value
    | "NativeMemoryExhausted" => return .memoryExhausted value.toUInt64.toNat
    | "TypeMismatch" => return .typeMismatch text (← field "found")
    | "ArgCountMismatch" => return .argumentCount value.toUInt64.toNat (← fieldOr "count" 0)
    | kind => return (← Session.found kind (textFaults.lookup kind)) text

instance : Readable Config where
  read := do
    let default : Config := {}
    return {
      pointerBytes := ← fieldOr "address_size" default.pointerBytes
      longBytes := ← fieldOr "long_size" default.longBytes
      pageSize := ← field? "page_size"
      stubs := ← fieldOr "enable_stubs" true
      fastPaths := ← fieldOr "enable_fast_paths" true
      encodingLabel := ← fieldOr "default_encoding" default.encodingLabel
      magazinePages := ← fieldOr "magazine_pages" default.magazinePages
      savesErrors := ← fieldOr "save_errors_by_default" false }

def valueDeclaration (way : Way) : Reading ValueDeclaration := do
  match ← child? "type" with
  | none => return { type := ← Readable.read }
  | some type =>
    let _ : Readable Converter := ⟨converter way⟩
    return ⟨← within type Readable.read, ← annotations, ← field? "converter"⟩

def functionDeclaration : Reading FunctionDeclaration := do
  let parameters ← (← fields "params").mapM (within · (valueDeclaration .toNative))
  let result ← match ← child? "result" with
    | some result => within result (valueDeclaration .fromNative)
    | none => pure { type := .void }
  return ⟨← field "name", parameters, result, ← field? "convention", ← annotations,
    ← fieldOr "variadic" false⟩

instance : Readable FunctionDeclaration := ⟨functionDeclaration⟩

instance : Readable VariableDeclaration :=
  ⟨return ⟨← field "name", ← field "type", ← annotations⟩⟩

instance : Readable InterfaceDeclaration :=
  ⟨return ⟨← fields "functions", ← fields "variables"⟩⟩

instance : Readable SymbolNaming where
  read := do
    if let some lead ← field? "strip" then return .strip lead
    if let some lead ← field? "add" then return .add lead
    return .same

instance : Readable LibraryOptions where
  read := return {
    naming := ← fieldOr "function_mapper" .same
    mapper := ← field? "type_mapper"
    convention := ← fieldOr "convention" .default
    savesError := ← field? "save_error"
    stubs := !(← fieldOr "no_stubs" false) }

def environment : Reading Environment := entries "env" fun name => return (name, ← text)

end Reading

instance : Written Field where
  write
    | .text value => value
    | .number value => value
    | .flag value => value

/-- Events are written without addresses, which differ from run to run. -/
instance : Written Event where
  write event :=
    .record (("message", event.message) :: ("level", event.level.name) ::
      (event.fields.filter (·.1 != "address")).map fun (name, field) => (name, write field))

instance : Written Config where
  write config := .record [("address_size", config.pointerBytes), ("long_size", config.longBytes),
    ("page_size", config.pageSize), ("enable_stubs", config.stubs),
    ("enable_fast_paths", config.fastPaths), ("default_encoding", config.encodingLabel),
    ("magazine_pages", config.magazinePages), ("save_errors_by_default", config.savesErrors),
    ("encoding", config.encoding), ("model", config.model), ("valid", config.validate)]

instance : Written LogConfig where
  write config := .record [("level", config.level.name), ("path", config.path),
    ("json", config.json), ("spans", config.spans)]

instance : Written StrategySetting where
  write setting := .record [("stubs", setting.stubs), ("fast", setting.fastPaths),
    ("supported", setting.stubsSupported), ("model", setting.model)]

instance : Written PoolStats where
  write stats := .record [("magazines", stats.magazines), ("allocated", stats.allocated),
    ("recycled", stats.recycled), ("live", stats.live), ("free", stats.free)]

instance : Written Counters where
  write counters := .record [("stubs", counters.stubsInstalled),
    ("blocks", counters.blocksAllocated), ("live_blocks", counters.liveBlocks),
    ("magazines", counters.magazinesAllocated), ("closures", counters.slotsAllocated),
    ("recycled", counters.slotsRecycled), ("invokers", write (Strategy.order.map counters.built)),
    ("failed", counters.failed)]

instance : Written ParameterKind where
  write
    | .integer => "integer"
    | .single => "float32"
    | .double => "float64"
    | .array element direction => .record [("array", element), ("direction", direction)]
    | .struct direction => .record [("struct", direction)]
    | .callback _ => "callback"

def Passage.fields (passage : Passage) (declared : HostType) : Fields :=
  [("declared", declared), ("carrier", passage.carrier), ("native", passage.native),
   ("converter", passage.converter.isSome)]

instance : Written Parameter where
  write parameter :=
    .record (parameter.toPassage.fields parameter.declared ++
      [("annotations", write parameter.annotations),
       ("context", write parameter.context.annotations), ("kind", write parameter.kind),
       ("class", write (ArgumentClass.ofCType parameter.native)),
       ("scalar", write parameter.kind.isScalar)])

def Signature.fields (signature : Signature) : Fields :=
  [("describe", signature.describe), ("name", signature.name), ("params", signature.parameters),
   ("result", .record (signature.result.toPassage.fields signature.result.declared)),
   ("convention", signature.convention), ("save_error", signature.savesError),
   ("variadic", signature.variadic), ("model", signature.model), ("encoding", signature.encoding),
   ("scalar_only", signature.isScalarOnly), ("has_converters", signature.hasConverters),
   ("context_free", signature.isContextFree), ("classes", signature.argumentClasses)]

instance : Written Signature := ⟨fun signature => .record signature.fields⟩

instance : Written EntryPoint where
  write entry :=
    let signature := entry.bound?.map (·.signature)
    .record [("name", entry.name), ("strategy", entry.strategy?), ("error", entry.fault?),
      ("describe", write (signature.map (·.describe))),
      ("save_error", write (signature.map (·.savesError))), ("stub", entry.block?.isSome),
      ("address", entry.bound?.isSome)]

instance : Written BoundVariable where
  write bound := .record [("name", bound.name), ("native", bound.native),
    ("bound", write (bound.place.map fun _ => ())), ("debug", bound.describe)]

def DynamicLibrary.report (library : DynamicLibrary) (symbols : List String) : Tree :=
  .record [("name", library.name), ("find", symbols.map fun name => (library.find? name).isSome),
    ("lookup", symbols.map fun name => (library.lookup name).map fun _ => ()),
    ("debug", library.describe)]

def World.report (world : World) : Fields :=
  [("config", world.config), ("model", world.model), ("page_size", world.policy.pageSize),
   ("encoding", world.encoding), ("env", world.strategySetting true),
   ("env_no_stubs", world.strategySetting false), ("closure_types", world.pools.length),
   ("debug", world.describe)]

end ForeignCall
