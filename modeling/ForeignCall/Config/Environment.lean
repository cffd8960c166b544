import ForeignCall.Config.Basic
import ForeignCall.Journal
import ForeignCall.Text.Blank

/-! Configurations from environment variables. -/

namespace ForeignCall

abbrev Environment := List (String × String)

namespace Environment

/-- A 64-bit number in decimal digits, possibly after a plus sign. -/
def size? (text : List Char) : Option Nat :=
  let digits := if text.head? = some '+' then text.tail else text
  let value := digits.foldl (fun value digit => value * 10 + (digit.toNat - '0'.toNat)) 0
  if digits ≠ [] ∧ digits.all Char.isDigit ∧ value < UInt64.size then some value else none

def size (environment : Environment) (name : String) : Option Nat :=
  (environment.lookup name).bind fun text => size? (trimmed text.toList)

/-- Whether a variable is set to `1` or, in any case, to `true`. -/
def flag (environment : Environment) (name : String) : Bool :=
  (environment.lookup name).any fun text => text == "1" || text.map Char.toLower == "true"

end Environment

namespace Config

/-- The defaults with what the environment overrides; it is not validated. -/
def ofEnvironment (environment : Environment) : Config :=
  let default : Config := {}
  { pointerBytes := (environment.size "DYNBIND_ADDRESS_SIZE").getD default.pointerBytes
    stubs := !environment.flag "DYNBIND_NO_STUBS"
    fastPaths := !environment.flag "DYNBIND_NO_FAST_PATHS"
    encodingLabel := (environment.lookup "DYNBIND_ENCODING").getD default.encodingLabel
    magazinePages := (environment.size "DYNBIND_MAGAZINE_PAGES").getD default.magazinePages }

end Config

structure LogConfig where
  level : Level := .info
  /-- The console where there is none. -/
  path : Option String := none
  json : Bool := false
  /-- Whether entering and leaving spans is shown. -/
  spans : Bool := false
  deriving DecidableEq

namespace LogConfig

def performance : LogConfig := { level := .error }

def debug : LogConfig := { level := .trace, path := some "dynbind.log", spans := true }

/-- The level that a word names in any case; other words mean the usual one. -/
def levelOf (word : String) : Level :=
  match word.map Char.toLower with
  | "trace" => .trace
  | "debug" => .debug
  | "warn" => .warn
  | "error" => .error
  | _ => .info

def ofEnvironment (environment : Environment) : LogConfig where
  level := levelOf ((environment.lookup "DYNBIND_LOG_LEVEL").getD "")
  path := environment.lookup "DYNBIND_LOG_FILE"
  json := (environment.lookup "DYNBIND_LOG_JSON").isSome
  spans := (environment.lookup "DYNBIND_LOG_SPANS").isSome

end LogConfig

end ForeignCall
