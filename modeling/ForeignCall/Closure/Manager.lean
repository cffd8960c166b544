import ForeignCall.World

/-! Closures by callback type: their shape is built when a type is first asked for, and a callable
gets a slot when it is first passed as that type. -/

namespace ForeignCall

namespace World

def passageIn (context : ConversionContext) (type : HostType) : Act World Passage := do
  let converter ← (← get).closureConverters.choose .fromNative none type context
  let carrier := (converter.map (·.carrier)).getD type
  unless carrier.isScalar do
    throw (.unsupportedType
      s!"callback parameter of type {type.describe} cannot be received from native code")
  return ⟨carrier, (← LoweringTable.resolve carrier .empty).type, converter⟩

def passageOut (context : ConversionContext) (type : HostType) : Act World Passage := do
  let converter ← (← get).closureConverters.choose .toNative none type context
  let carrier := (converter.map (·.carrier)).getD type
  unless carrier.isScalar || carrier.isVoid do
    throw (.unsupportedType
      s!"callback result of type {type.describe} cannot be returned to native code")
  return ⟨carrier, (← LoweringTable.resolve carrier .empty).type, converter⟩

def buildShape (type : CallbackType) : Act World ClosureShape := do
  let context : ConversionContext := ⟨.empty, (← get).encoding⟩
  let parameters ← type.parameters.mapM (passageIn context)
  let result ← passageOut context type.result
  let interface ← CallInterface.prepare (parameters.map (·.native)) none result.native
    (← get).model
  return { type, parameters, result, context, interface }

def poolNumber (type : CallbackType) : StateM World Nat :=
  modifyGet fun world =>
    match world.pools.findIdx? (·.1 == type) with
    | some number => (number, world)
    | none => (world.pools.length, { world with pools := world.pools ++ [(type, none)] })

/-- The pool for a callback type. A type that cannot be passed keeps its entry. -/
def openPool (type : CallbackType) : Act World Nat := do
  let number ← poolNumber type
  if ((← get).pool? number).isNone then
    let shape ← buildShape type
    setPool number { shape, magazinePages := (← get).config.magazinePages }
  return number

def noteReleased (slots : List ClosureSlot) : StateM World Unit :=
  slots.forM fun slot => Store.record (.slotReturned slot.code)

def drainPool (number : Nat) : StateM World Unit := do
  let world ← get
  if let some pool := world.pool? number then
    let (slots, drained) := pool.drain world.isAlive
    setPool number drained
    noteReleased slots

def takeSlot (number : Nat) (pool : Pool) : Act World ClosureSlot := do
  let taken ← match pool.take? with
    | some taken => pure taken
    | none =>
      let magazine ← Magazine.allocate pool.magazinePages
      match (pool.addMagazine magazine).take? with
      | some taken => pure taken
      | none => throw (.memoryExhausted ClosureSlot.stride)
  let (slot, recycled, after) := taken
  setPool number after
  Store.count (·.countSlot recycled)
  Store.record (.slotAssigned slot.code recycled)
  return slot

def slotFor (number serial : Nat) : Act World ClosureSlot := do
  drainPool number
  let world ← get
  let some pool := world.pool? number | throw (.typeMismatch "callback" "no closures")
  match pool.find? world.isAlive (world.identity serial) serial with
  | some slot => return slot
  | none =>
    let slot ← takeSlot number pool
    if let some pool := (← get).pool? number then
      let (stale, after) := pool.register ⟨world.identity serial, serial, slot⟩
      setPool number after
      noteReleased stale.toList
    return slot

def closureFor (type : CallbackType) (serial : Nat) : Act World Nat := do
  let number ← openPool type
  return (← slotFor number serial).code

def notifyUnreachable (number identity : Nat) : StateM World Bool := do
  let world ← get
  match (world.pool? number).bind (·.notify world.isAlive identity) with
  | some (slot, after) =>
    setPool number after
    noteReleased [slot]
    return true
  | none => return false

def postUnreachable (number identity : Nat) : StateM World Unit := do
  if let some pool := (← get).pool? number then setPool number (pool.post identity)

/-- Gives up the slots of all dead callables of a pool; answers how many the sweep found. -/
def reclaimPool (number : Nat) : StateM World Nat := do
  drainPool number
  let world ← get
  match world.pool? number with
  | some pool =>
    let (slots, after) := pool.sweep world.isAlive
    setPool number after
    noteReleased slots
    return slots.length
  | none => return 0

def reclaim : StateM World Nat := do
  let counts ← (List.range (← get).pools.length).mapM reclaimPool
  return counts.foldl (· + ·) 0

def poolStats (world : World) : PoolStats :=
  (world.pools.filterMap (·.2)).foldl (fun total pool => total.add pool.stats) {}

def newSite (type : CallbackType) : Act World Nat := do
  let pool ← openPool type
  modifyGet fun world => (world.sites.length, { world with sites := world.sites ++ [{ pool }] })

def rememberedSlot? (world : World) (site : CallSite) (serial : Nat) : Option ClosureSlot :=
  match site.last with
  | some (last, slot) =>
    if last = serial ∧ world.isAlive last ∧
        (world.pool? site.pool).bind (·.target? slot) = some serial then some slot
    else none
  | none => none

def closureAddress (number serial : Nat) : Act World Nat := do
  let world ← get
  let some site := world.sites[number]? | throw (.typeMismatch "callback" "no call site")
  match world.rememberedSlot? site serial with
  | some slot => return slot.code
  | none =>
    let slot ← slotFor site.pool serial
    modify fun world =>
      { world with sites := world.sites.set number { site with last := some (serial, slot) } }
    return slot.code

end World

end ForeignCall
