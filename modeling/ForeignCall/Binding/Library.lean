import ForeignCall.Binding.Dispatch
import ForeignCall.Binding.Variable
import ForeignCall.Invocation

/-! Bound libraries. Binding never fails as a whole: a function or variable that cannot be bound
fails when it is used. -/

namespace ForeignCall

inductive SymbolNaming
  | same
  /-- Without a lead, where it is present. -/
  | strip (lead : String)
  | add (lead : String)
  deriving DecidableEq

namespace SymbolNaming

def apply (naming : SymbolNaming) (name : String) : String :=
  match naming with
  | same => name
  | strip lead =>
    if lead.toList.isPrefixOf name.toList then String.ofList (name.toList.drop lead.length)
    else name
  | add lead => lead ++ name

end SymbolNaming

structure LibraryOptions where
  naming : SymbolNaming := .same
  mapper : Option Mapper := none
  convention : CallConvention := .default
  /-- Overrides the configuration. -/
  savesError : Option Bool := none
  /-- Whether stubs may be used. -/
  stubs : Bool := true

structure Binder where
  naming : SymbolNaming
  defaults : SignatureDefaults
  setting : StrategySetting

structure PreparedFunction where
  signature : Signature
  address : Nat
  strategy : Strategy

namespace PreparedFunction

def pending? (prepared : PreparedFunction) : Option PendingStub :=
  if prepared.strategy = .stub then
    let signature := prepared.signature
    (Stub.assemble? (UInt64.ofNat prepared.address) signature.argumentClasses
      signature.result.native signature.model).map fun code =>
        ⟨signature.name, signature.describe, code⟩
  else none

end PreparedFunction

structure Library where
  binder : Binder
  functions : DispatchTable := {}
  globals : List (String × BoundVariable) := []

namespace Library

def function? (library : Library) (name : String) : Option EntryPoint :=
  library.functions.find? name

def variableNamed? (library : Library) (name : String) : Option BoundVariable :=
  library.globals.lookup name

def describe (library : Library) : String :=
  s!"LibraryBinding \x7b functions: {library.functions.size}, " ++
    s!"variables: {library.globals.length} \x7d"

end Library

namespace World

def strategySetting (world : World) (stubs : Bool) : StrategySetting :=
  .of world.model (world.config.stubs && stubs) world.config.fastPaths

def newBinder (options : LibraryOptions) : StateM World Binder := do
  let cache ← onMappers MapperState.newCache
  let world ← get
  return {
    naming := options.naming
    defaults := {
      converters := ⟨cache, options.mapper⟩
      encoding := world.encoding
      convention := options.convention
      savesError := options.savesError.getD world.config.savesErrors }
    setting := world.strategySetting options.stubs }

def prepare (symbols : SymbolTable) (binder : Binder) (declaration : FunctionDeclaration) :
    Act World PreparedFunction := do
  let address ← symbols.lookup (binder.naming.apply declaration.name)
  let signature ← resolveSignature binder.defaults declaration
  let strategy ← Strategy.select signature binder.setting
  return { signature, address, strategy }

def buildUnstubbed (binder : Binder) (prepared : PreparedFunction) : Act World EntryPoint := do
  let strategy ← if prepared.strategy = .stub then
      Strategy.selectFrom Strategy.order.tail prepared.signature binder.setting
    else pure prepared.strategy
  buildPlain prepared.signature prepared.address strategy

def buildStubbed (prepared : PreparedFunction) (stub : InstalledStub) (block : Nat) :
    StateM World EntryPoint := do
  let entry ← buildStub prepared.signature prepared.address stub block
  retainEntry entry
  return entry

def concludeEntry (name : String) (outcome : Except Fault EntryPoint) :
    StateM World EntryPoint := do
  match outcome with
  | .ok entry =>
    if let some strategy := entry.strategy? then
      Store.record (.strategySelected name strategy.name)
    return entry
  | .error fault =>
    Store.record (.bindingFailure name fault.message)
    buildFailing name fault

def bindFunction (symbols : SymbolTable) (binder : Binder) (declaration : FunctionDeclaration) :
    StateM World EntryPoint := do
  let build : Act World EntryPoint := do
    let prepared ← prepare symbols binder declaration
    match prepared.pending? with
    | none => buildUnstubbed binder prepared
    | some pending =>
      let (block, installed) ← Stub.attach [pending]
      let entry ← match installed with
        | stub :: _ => liftM (buildStubbed prepared stub block)
        | [] => buildUnstubbed binder prepared
      PageStore.release block
      return entry
  concludeEntry declaration.name (← build.run)

/-- Publishes an entry point; one that comes too late is given up. -/
def publish (table : DispatchTable) (name : String) (entry : EntryPoint) :
    StateM World DispatchTable := do
  if (table.find? name).isSome then releaseEntry entry
  return table.publish name entry

def publishUnstubbed (symbols : SymbolTable) (binder : Binder) :
    List FunctionDeclaration → DispatchTable →
      StateM World (DispatchTable × List (PreparedFunction × PendingStub))
  | [], table => return (table, [])
  | declaration :: rest, table => do
    let prepared ← (prepare symbols binder declaration).run
    match prepared.toOption.bind fun function => (function.pending?).map (function, ·) with
    | some stubbed =>
      let (table, others) ← publishUnstubbed symbols binder rest table
      return (table, stubbed :: others)
    | none =>
      let outcome ← (do buildUnstubbed binder (← prepared) : Act World EntryPoint).run
      let table ← publish table declaration.name (← concludeEntry declaration.name outcome)
      publishUnstubbed symbols binder rest table

def publishStubbed (stubbed : List (PreparedFunction × PendingStub)) (table : DispatchTable) :
    StateM World DispatchTable := do
  if stubbed.isEmpty then return table
  let attached : Act World (Nat × List InstalledStub) := Stub.attach (stubbed.map (·.2))
  match ← attached.run with
  | .ok (block, installed) =>
    Store.record (.stubsAttached installed.length ((← get).block block).pages)
    let table ← (stubbed.zip installed).foldlM (fun table ((prepared, _), stub) => do
      let name := prepared.signature.name
      publish table name (← concludeEntry name (.ok (← buildStubbed prepared stub block)))) table
    PageStore.release block
    return table
  | .error fault =>
    stubbed.foldlM (fun table (prepared, _) => do
      let name := prepared.signature.name
      publish table name (← concludeEntry name (.error fault))) table

def bindVariable (symbols : SymbolTable) (declaration : VariableDeclaration) :
    StateM World (String × BoundVariable) := do
  let bound ← onTypes (BoundVariable.bind symbols declaration)
  if let .error fault := bound.place then
    Store.record (.bindingFailure declaration.name fault.message)
  return (declaration.name, bound)

/-- Binds everything that an interface declares. Of two variables of one name the later counts. -/
def bindLibrary (symbols : SymbolTable) (interface : InterfaceDeclaration)
    (options : LibraryOptions) : StateM World Library := do
  let binder ← newBinder options
  let (table, stubbed) ← publishUnstubbed symbols binder interface.functions {}
  let functions ← publishStubbed stubbed table
  let globals ← interface.globals.foldlM (fun bound declaration => do
    let entry ← bindVariable symbols declaration
    return entry :: bound.filter (·.1 != entry.1)) []
  Store.record (.finished "bind_library")
  return { binder, functions, globals }

def bindLate (symbols : SymbolTable) (library : Library) (declaration : FunctionDeclaration) :
    StateM World (EntryPoint × Library) := do
  match library.function? declaration.name with
  | some entry => return (entry, library)
  | none =>
    let entry ← bindFunction symbols library.binder declaration
    let functions ← publish library.functions declaration.name entry
    return (entry, { library with functions })

def invokeNamed (library : Library) (name : String) (arguments : List Value) :
    Act World Value :=
  match library.function? name with
  | some entry => invoke entry arguments
  | none => throw (.symbolNotFound name)

def closeLibrary (library : Library) : StateM World Unit :=
  library.functions.entries.forM fun (_, entry) => releaseEntry entry

end World

end ForeignCall
