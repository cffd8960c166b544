import ForeignCall.Converter.Basic
import ForeignCall.Lookup

/-! Mappers find the converter of a type. A cache in front of a mapper remembers its answers by
direction, type and annotations. -/

namespace ForeignCall

structure CacheKey where
  way : Way
  type : HostType
  annotations : Annotations
  deriving DecidableEq

inductive CacheCell
  /-- Every lookup so far has failed. -/
  | unsettled
  /-- The answer of the first lookup serves all later ones. -/
  | shared (answer : Option Converter)
  /-- Each lookup asks the mapper again. -/
  | perUse

abbrev ConverterCache := List (CacheKey × CacheCell)

namespace ConverterCache

def find? (cache : ConverterCache) (key : CacheKey) : Option CacheCell := cache.lookup key

def put (cache : ConverterCache) (key : CacheKey) (cell : CacheCell) : ConverterCache :=
  match cache with
  | [] => [(key, cell)]
  | (head, old) :: rest =>
    if head = key then (head, cell) :: rest else (head, old) :: put rest key cell

theorem find?_put (cache : ConverterCache) (key query : CacheKey) (cell : CacheCell) :
    (cache.put key cell).find? query = if query = key then some cell else cache.find? query := by
  induction cache with
  | nil => simp [put, find?, lookup_cons_eq_ite]
  | cons head rest ih =>
    obtain ⟨head, old⟩ := head
    simp only [find?, put] at ih ⊢
    by_cases replaced : head = key
    · simp only [replaced, ↓reduceIte, lookup_cons_eq_ite]
      by_cases same : query = key <;> simp [same]
    · simp only [replaced, ↓reduceIte, lookup_cons_eq_ite, ih]
      by_cases matched : query = head
      · simp [matched, replaced]
      · simp [matched]

end ConverterCache

structure MapperState where
  /-- The identity of the next converter that is built. -/
  nextIdentity : Nat := 0
  /-- Every cache, by number. -/
  caches : List ConverterCache := []
  /-- Converters built by counting mappers. -/
  built : Nat := 0

namespace MapperState

def instantiate (body : ConverterBody) : StateM MapperState Converter :=
  modifyGet fun state =>
    ({ body with identity := state.nextIdentity },
      { state with nextIdentity := state.nextIdentity + 1 })

def newCache : StateM MapperState Nat :=
  modifyGet fun state => (state.caches.length, { state with caches := state.caches ++ [[]] })

def cache (state : MapperState) (number : Nat) : ConverterCache :=
  state.caches[number]?.getD []

def putCell (number : Nat) (key : CacheKey) (cell : CacheCell) : StateM MapperState Unit :=
  modify fun state =>
    { state with caches := state.caches.modify number (·.put key cell) }

def cachedKeys (state : MapperState) (number : Nat) : Nat := (state.cache number).length

end MapperState

inductive Mapper
  /-- The converters that come with the library. -/
  | builtin
  /-- Instances that were built beforehand. -/
  | fixed (answer : Way → HostType → ConversionContext → Except Fault (Option Converter))
  /-- A new instance at every lookup of one type. -/
  | building (type : HostType) (body : Way → ConverterBody)
  /-- The first mapper that finds something. -/
  | chain (mappers : List Mapper)
  | caching (cache : Nat) (inner : Mapper)

namespace Mapper

def silent : Mapper := .fixed fun _ _ _ => .ok none

def refusing (refused : HostType) : Mapper :=
  .fixed fun _ type _ =>
    if type = refused then .error (.unsupportedType ("mapper refuses " ++ type.describe))
    else .ok none

/-- One instance for each of some types; later entries replace earlier ones. -/
def table (toNative fromNative : List (HostType × Converter)) : Mapper :=
  .fixed fun way type _ =>
    .ok ((match way with
      | .toNative => toNative
      | .fromNative => fromNative).reverse.lookup type)

/-- The inner mapper's answer, which is filed. Nothing but a failure leaves the cell open. -/
def fileAnswer (cache : Nat) (key : CacheKey) (inner : Act MapperState (Option Converter)) :
    Act MapperState (Option Converter) := do
  MapperState.putCell cache key .unsettled
  let answer ← inner
  MapperState.putCell cache key
    (if answer.all (·.cacheable) then .shared answer else .perUse)
  return answer

def lookupCached (cache : Nat) (way : Way) (type : HostType) (context : ConversionContext)
    (inner : Act MapperState (Option Converter)) : Act MapperState (Option Converter) := do
  let key : CacheKey := ⟨way, type, context.annotations⟩
  match ((← get).cache cache).find? key with
  | some (.shared answer) => return answer
  | some .perUse => inner
  | some .unsettled | none => fileAnswer cache key inner

mutual

@[simp] def lookup (way : Way) (type : HostType) (context : ConversionContext) :
    Mapper → Act MapperState (Option Converter)
  | builtin => do
    match ← ConverterBody.builtin? way type context with
    | some body => return some (← MapperState.instantiate body)
    | none => return none
  | fixed answer => answer way type context
  | building known body => do
    if type = known then
      modify fun state => { state with built := state.built + 1 }
      return some (← MapperState.instantiate (body way))
    else return none
  | chain mappers => lookupFirst way type context mappers
  | caching cache inner => lookupCached cache way type context (lookup way type context inner)

@[simp] def lookupFirst (way : Way) (type : HostType) (context : ConversionContext) :
    List Mapper → Act MapperState (Option Converter)
  | [] => return none
  | mapper :: rest => do
    match ← lookup way type context mapper with
    | some converter => return some converter
    | none => lookupFirst way type context rest

end

end Mapper

structure Pipeline where
  cache : Nat
  custom : Option Mapper

namespace Pipeline

def create (custom : Option Mapper) : StateM MapperState Pipeline := do
  return ⟨← MapperState.newCache, custom⟩

def mapper (pipeline : Pipeline) : Mapper :=
  .caching pipeline.cache (.chain (pipeline.custom.toList ++ [.builtin]))

def choose (pipeline : Pipeline) (way : Way) (explicit : Option Converter) (type : HostType)
    (context : ConversionContext) : Act MapperState (Option Converter) :=
  match explicit with
  | some converter => return some converter
  | none => pipeline.mapper.lookup way type context

end Pipeline

end ForeignCall
