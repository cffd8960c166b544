import ForeignCall.Callable.Basic
import ForeignCall.Closure.Pool
import ForeignCall.Config.Basic
import ForeignCall.Converter.Mapper
import ForeignCall.Lowering
import ForeignCall.Native.Catalog

/-! Everything that a call can reach: the store and its pages, the callables, the closures made for
them, and the tables of resolved types and converters. -/

namespace ForeignCall

structure CallSite where
  pool : Nat
  /-- The last callable's serial number and its slot. -/
  last : Option (Nat × ClosureSlot) := none

structure World extends PageStore where
  config : Config := {}
  types : LoweringTable := { model := .host }
  mappers : MapperState := { caches := [[]] }
  /-- Converters of callback types; only the built-in ones serve there. -/
  closureConverters : Pipeline := ⟨0, none⟩
  /-- Every callable, by its serial number. -/
  callables : List Callable := []
  /-- Calls of callables, in order: serial number and arguments. -/
  invocations : List (Nat × List Value) := []
  /-- Callback types that were asked for, with their closures where the type can be passed. -/
  pools : List (CallbackType × Option Pool) := []
  sites : List CallSite := []
  savedError : Int32 := 0

namespace World

def onPages {α : Type} (action : StateM PageStore α) : StateM World α :=
  modifyGet fun world =>
    let (result, pages) := action.run world.toPageStore
    (result, { world with toPageStore := pages })

instance : MonadLiftT (StateM PageStore) (StateM World) := ⟨onPages⟩

instance : MonadLiftT (StateM PageStore) (Act World) := ⟨fun action => liftM (onPages action)⟩

instance : MonadLiftT (Act PageStore) (Act World) :=
  ⟨fun action => ExceptT.mk (onPages action.run)⟩

instance : MonadLiftT (StateM Store) (StateM World) :=
  ⟨fun action => onPages (PageStore.onStore action)⟩

instance : MonadLiftT (StateM Store) (Act World) :=
  ⟨fun action => liftM (onPages (PageStore.onStore action))⟩

instance : MonadLiftT (Act Store) (Act World) :=
  ⟨fun action => ExceptT.mk (onPages (PageStore.onStore action.run))⟩

def onMappers {α : Type} (action : StateM MapperState α) : StateM World α :=
  modifyGet fun world =>
    let (result, mappers) := action.run world.mappers
    (result, { world with mappers })

instance : MonadLiftT (Act MapperState) (Act World) :=
  ⟨fun action => ExceptT.mk (onMappers action.run)⟩

def onTypes {α : Type} (action : StateM LoweringTable α) : StateM World α :=
  modifyGet fun world =>
    let (result, types) := action.run world.types
    (result, { world with types })

instance : MonadLiftT (Act LoweringTable) (Act World) :=
  ⟨fun action => ExceptT.mk (onTypes action.run)⟩

def model (world : World) : DataModel := world.types.model

def encoding (world : World) : TextEncoding := world.config.encoding

def initial (config : Config) (policy : PagePolicy) : World where
  policy := policy
  memory := .initial
  config := config
  types := { model := config.model }

def start (config : Config) (policy : Option PagePolicy) : Except Fault World := do
  config.validate
  let policy := policy.getD (.system (config.pageSize.getD PagePolicy.systemPageSize))
  let started := Event.initialized config.pointerBytes config.longBytes config.stubs
    config.fastPaths policy.pageSize
  return (onPages (PageStore.onStore (Store.record started)) |>.run (initial config policy)).2

def describe (world : World) : String :=
  s!"Runtime \x7b config: {world.config.describe}, closure_types: {world.pools.length} \x7d"

def isAlive (world : World) (serial : Nat) : Bool :=
  world.callables[serial]?.any (·.isAlive)

def identity (world : World) (serial : Nat) : Nat :=
  (world.callables[serial]?.map (·.identity)).getD serial

/-- A new callable with one owner. A callable that is gone may have had the same identity. -/
def newCallableAt (identity : Nat) (respond : List Value → StateM Heap Response) :
    StateM World Nat :=
  modifyGet fun world =>
    (world.callables.length,
      { world with callables := world.callables ++ [⟨identity, 1, respond⟩] })

def newCallable (respond : List Value → StateM Heap Response) : StateM World Nat := do
  newCallableAt (← get).callables.length respond

def changeOwners (serial : Nat) (change : Nat → Nat) : StateM World Unit :=
  modify fun world =>
    { world with
      callables := world.callables.modify serial fun callable =>
        { callable with owners := change callable.owners } }

def retainCallable (serial : Nat) : StateM World Unit := changeOwners serial (· + 1)

def releaseCallable (serial : Nat) : StateM World Unit := changeOwners serial (· - 1)

def pool? (world : World) (number : Nat) : Option Pool :=
  world.pools[number]?.bind (·.2)

def setPool (number : Nat) (pool : Pool) : StateM World Unit :=
  modify fun world =>
    { world with
      pools := world.pools.modify number fun (type, _) => (type, some pool) }

end World

end ForeignCall
