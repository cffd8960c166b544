import ForeignCall.Notation.Reading

/-! How types and annotations are written. -/

namespace ForeignCall

namespace Reading

def named {α : Type} (values : List α) (name : α → String) : List (String × α) :=
  values.map fun value => (name value, value)

def ctypes : List (String × CType) := named CType.all (String.map Char.toLower ·.name)
def kinds : List (String × IntegerKind) := named IntegerKind.all (·.name)
def elements : List (String × Element) := named Element.all (·.name)
def conventions : List (String × CallConvention) := [("default", .default), ("stdcall", .stdcall)]

def argumentClasses : List (String × ArgumentClass) :=
  [("i", .integer), ("f", .single), ("d", .double)]

def marks : List (String × Annotation) :=
  [("save_error", .saveError), ("ignore_error", .ignoreError), ("in", .copyIn), ("out", .copyOut),
   ("nul", .terminated)]

instance : Readable CType := ⟨word ctypes⟩
instance : Readable IntegerKind := ⟨word kinds⟩
instance : Readable Element := ⟨word elements⟩
instance : Readable CallConvention := ⟨word conventions⟩
instance : Readable ArgumentClass := ⟨word argumentClasses⟩
instance : Readable Strategy := ⟨word (named Strategy.order (·.name))⟩

instance : Readable DataModel where
  read := do
    match ← read with
    | .list _ => return ⟨← item 0, ← item 1⟩
    | _ => word [("lp64", .lp64), ("host", .host), ("llp64", .llp64), ("ilp32", .ilp32)]

instance : Readable StructLayout :=
  ⟨return .of (← field "name") (← fieldOr "size" 0) (← fieldOr "align" 8)⟩

instance : Readable Enumeration where
  read := do
    match ← field? "ordinal" with
    | some constants => return .ordinal (← field "name") constants
    | none => return ⟨← field "name", ← fields "constants"⟩

def callback (part : Reading HostType) : Reading HostType :=
  let _ : Readable HostType := ⟨part⟩
  return .callback (← fields "params") (← fieldOr "result" .void) (← fieldOr "convention" .default)

def hostType (depth : Nat) : Reading HostType := do
  match ← read with
  | .record [("array", kind)] => .array <$> within kind Readable.read
  | .record [("struct", layout)] => .struct <$> within layout Readable.read
  | .record [("enum", enumeration)] => .enum <$> within enumeration Readable.read
  | .record [("enum_set", enumeration)] => .enumSet <$> within enumeration Readable.read
  | .record [("named", name)] => .named <$> within name text
  | .record [("callback", type)] =>
    match depth with
    | 0 => throw (.expected "shallow type")
    | depth + 1 => within type (callback (hostType depth))
  | _ => word (named HostType.plain (·.describe))

instance : Readable HostType := ⟨do hostType (← read).depth⟩

instance : Readable CallbackType where
  read := do
    match ← callback Readable.read with
    | .callback parameters result convention => return ⟨parameters, result, convention⟩
    | _ => throw (.expected "callback type")

instance : Readable Annotation where
  read := do
    if let some label ← field? "encoding" then return .encoding label
    if let some type ← field? "alias" then return .native type
    word marks

instance : Readable Annotations := ⟨return .ofList (← Readable.read)⟩

def annotations : Reading Annotations := fieldOr "annotations" .empty

instance : Readable TextEncoding where
  read := do
    let label ← text
    Session.found label (TextEncoding.ofLabel? label)

def encoding : Reading TextEncoding := fieldOr "encoding" .utf8

def context : Reading ConversionContext := return ⟨← annotations, ← encoding⟩

end Reading

instance : Written CType := ⟨Tree.word Reading.ctypes⟩
instance : Written IntegerKind := ⟨Tree.word Reading.kinds⟩
instance : Written Element := ⟨Tree.word Reading.elements⟩
instance : Written CallConvention := ⟨Tree.word Reading.conventions⟩
instance : Written ArgumentClass := ⟨Tree.word Reading.argumentClasses⟩
instance : Written HostType := ⟨fun type => .text type.describe⟩
instance : Written Strategy := ⟨fun strategy => .text strategy.name⟩
instance : Written TextEncoding := ⟨fun encoding => .text encoding.label⟩
instance : Written DataModel := ⟨fun model => write (model.pointerBytes, model.longBytes)⟩

instance : Written CLayout where
  write layout := .list [layout.type, layout.size, layout.alignment, layout.signed]

instance : Written Annotation where
  write
    | .encoding label => .record [("encoding", label)]
    | .native type => .record [("alias", type)]
    | mark => .word Reading.marks mark

instance : Written Annotations := ⟨fun set => write set.items⟩

instance : Written Direction where
  write direction := .record [("in", direction.copyIn), ("out", direction.copyOut),
    ("nul", direction.terminated)]

end ForeignCall
