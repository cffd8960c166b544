import ForeignCall.CType
import ForeignCall.Text.Encoding
import ForeignCall.Toml.Document

/-! What a library is configured with: sizes, the ways of calling that are allowed, and the encoding
of texts. -/

namespace ForeignCall

structure Config where
  pointerBytes : Nat := DataModel.host.pointerBytes
  longBytes : Nat := DataModel.host.longBytes
  /-- The system's pages are used where there is none. -/
  pageSize : Option Nat := none
  stubs : Bool := true
  fastPaths : Bool := true
  /-- A label of the encoding of texts without an annotation. -/
  encodingLabel : String := "UTF-8"
  /-- Pages of each closure magazine. -/
  magazinePages : Nat := 1
  savesErrors : Bool := false
  deriving DecidableEq

namespace Config

def model (config : Config) : DataModel := ⟨config.pointerBytes, config.longBytes⟩

def encoding (config : Config) : TextEncoding :=
  (TextEncoding.ofLabel? config.encodingLabel).getD .utf8

def isPowerOfTwo (size : Nat) : Bool := size != 0 && size &&& (size - 1) == 0

def defect? (config : Config) : Option String :=
  if config.pointerBytes ≠ 4 ∧ config.pointerBytes ≠ 8 then
    some s!"address_size must be 4 or 8, got {config.pointerBytes}"
  else if config.longBytes ≠ 4 ∧ config.longBytes ≠ 8 then
    some s!"long_size must be 4 or 8, got {config.longBytes}"
  else if config.magazinePages = 0 then some "magazine_pages must be non-zero"
  else
    match config.pageSize.filter fun size => !isPowerOfTwo size with
    | some size => some s!"page_size must be a power of two, got {size}"
    | none =>
      if (TextEncoding.ofLabel? config.encodingLabel).isNone then
        some s!"unknown encoding {config.encodingLabel}"
      else none

def validate (config : Config) : Except Fault Unit :=
  match config.defect? with
  | some reason => .error (.invalidConfig reason)
  | none => .ok ()

def describe (config : Config) : String :=
  let pageSize := match config.pageSize with
    | some size => s!"Some({size})"
    | none => "None"
  let label := quoted config.encodingLabel
  s!"RuntimeConfig \x7b address_size: {config.pointerBytes}, long_size: {config.longBytes}, " ++
    s!"page_size: {pageSize}, enable_stubs: {config.stubs}, " ++
    s!"enable_fast_paths: {config.fastPaths}, default_encoding: {label}, " ++
    s!"magazine_pages: {config.magazinePages}, save_errors_by_default: {config.savesErrors} \x7d"

def size? : Toml.Value → Option Nat
  | .integer value => if 0 ≤ value then some value.toNat else none
  | _ => none

def flag? : Toml.Value → Option Bool
  | .boolean value => some value
  | _ => none

def label? : Toml.Value → Option String
  | .text value => some value
  | _ => none

def ofDefinitions? (definitions : Toml.Definitions) : Option Config := do
  let default : Config := {}
  return {
    pointerBytes := ← definitions.setting "address_size" default.pointerBytes size?
    longBytes := ← definitions.setting "long_size" default.longBytes size?
    pageSize := ← definitions.setting "page_size" default.pageSize fun value => some <$> size? value
    stubs := ← definitions.setting "enable_stubs" default.stubs flag?
    fastPaths := ← definitions.setting "enable_fast_paths" default.fastPaths flag?
    encodingLabel := ← definitions.setting "default_encoding" default.encodingLabel label?
    magazinePages := ← definitions.setting "magazine_pages" default.magazinePages size?
    savesErrors := ← definitions.setting "save_errors_by_default" default.savesErrors flag? }

def parse (text : String) : Except Fault Config := do
  match (Toml.read? text).bind ofDefinitions? with
  | some config =>
    config.validate
    return config
  | none => throw (.invalidConfig "Failed to parse config")

def ofFile (content : Option String) : Except Fault Config :=
  match content with
  | some text => parse text
  | none => .error (.invalidConfig "Failed to read config")

end Config

end ForeignCall
