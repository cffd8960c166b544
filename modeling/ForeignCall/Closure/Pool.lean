import ForeignCall.Closure.Magazine
import ForeignCall.Closure.Shape
import ForeignCall.Lookup

/-! The closures of one callback type: which callable is registered at which slot, and which slots
are free again. A registration does not keep its callable alive. -/

namespace ForeignCall

structure Registration where
  identity : Nat
  callable : Nat
  slot : ClosureSlot
  deriving DecidableEq

structure PoolStats where
  magazines : Nat := 0
  allocated : Nat := 0
  recycled : Nat := 0
  live : Nat := 0
  free : Nat := 0
  deriving DecidableEq

namespace PoolStats

def add (left right : PoolStats) : PoolStats where
  magazines := left.magazines + right.magazines
  allocated := left.allocated + right.allocated
  recycled := left.recycled + right.recycled
  live := left.live + right.live
  free := left.free + right.free

def describe (stats : PoolStats) : String :=
  s!"ClosureFactory \x7b stats: FactoryStats \x7b magazines: {stats.magazines}, " ++
    s!"slots_allocated: {stats.allocated}, slots_recycled: {stats.recycled}, live: {stats.live}, " ++
    s!"free: {stats.free} \x7d \x7d"

end PoolStats

structure Pool where
  shape : ClosureShape
  magazinePages : Nat
  /-- Every magazine, the newest first. -/
  magazines : List Magazine := []
  /-- Slots that were used and are free again, the oldest first. -/
  free : List ClosureSlot := []
  registrations : List Registration := []
  /-- The callable that each slot dispatches to. -/
  bound : List (ClosureSlot × Nat) := []
  /-- Identities that were reported unreachable and not looked at yet. -/
  pending : List Nat := []
  allocated : Nat := 0
  recycled : Nat := 0

namespace Pool

def stats (pool : Pool) : PoolStats where
  magazines := pool.magazines.length
  allocated := pool.allocated
  recycled := pool.recycled
  live := pool.registrations.length
  free := pool.free.length

def target? (pool : Pool) (slot : ClosureSlot) : Option Nat := pool.bound.lookup slot

def unbind (pool : Pool) (slot : ClosureSlot) : Pool :=
  { pool with bound := pool.bound.filter (·.1 != slot) }

def bind (pool : Pool) (slot : ClosureSlot) (callable : Nat) : Pool :=
  { pool with bound := (slot, callable) :: (pool.unbind slot).bound }

theorem target?_unbind (pool : Pool) (slot query : ClosureSlot) :
    (pool.unbind slot).target? query = if query = slot then none else pool.target? query :=
  lookup_filter_ne pool.bound slot query

theorem target?_bind (pool : Pool) (slot query : ClosureSlot) (callable : Nat) :
    (pool.bind slot callable).target? query =
      if query = slot then some callable else pool.target? query := by
  simp only [target?, bind, unbind, lookup_cons_eq_ite, lookup_filter_ne]
  by_cases same : query = slot <;> simp [same]

def release (pool : Pool) (slot : ClosureSlot) : Pool :=
  { pool.unbind slot with free := pool.free ++ [slot] }

def releaseAll (pool : Pool) (slots : List ClosureSlot) : Pool := slots.foldl release pool

def find? (pool : Pool) (alive : Nat → Bool) (identity callable : Nat) : Option ClosureSlot :=
  (pool.registrations.find? fun registration =>
    registration.identity == identity && registration.callable == callable &&
      alive registration.callable).map (·.slot)

def isDead (alive : Nat → Bool) (identity : Nat) (registration : Registration) : Bool :=
  registration.identity == identity && !alive registration.callable

/-- Takes note that an identity is unreachable. A registration whose callable is alive is left
alone; another one gives up its slot. -/
def notify (pool : Pool) (alive : Nat → Bool) (identity : Nat) : Option (ClosureSlot × Pool) :=
  match pool.registrations.find? (isDead alive identity) with
  | some dead =>
    let kept := { pool with registrations := pool.registrations.erase dead }
    some (dead.slot, kept.release dead.slot)
  | none => none

def notifyAll (alive : Nat → Bool) : List Nat → Pool → List ClosureSlot × Pool
  | [], pool => ([], pool)
  | identity :: rest, pool =>
    match pool.notify alive identity with
    | some (slot, after) =>
      let (slots, final) := notifyAll alive rest after
      (slot :: slots, final)
    | none => notifyAll alive rest pool

def drain (pool : Pool) (alive : Nat → Bool) : List ClosureSlot × Pool :=
  notifyAll alive pool.pending { pool with pending := [] }

def sweep (pool : Pool) (alive : Nat → Bool) : List ClosureSlot × Pool :=
  let (kept, dead) := pool.registrations.partition (alive ·.callable)
  let slots := dead.map (·.slot)
  (slots, releaseAll { pool with registrations := kept } slots)

def post (pool : Pool) (identity : Nat) : Pool :=
  { pool with pending := pool.pending ++ [identity] }

/-- The next slot to hand out, and whether it was used before: the oldest free slot, or else a new
one of the newest magazine. -/
def take? (pool : Pool) : Option (ClosureSlot × Bool × Pool) :=
  match pool.free with
  | slot :: rest =>
    some (slot, true, { pool with free := rest, recycled := pool.recycled + 1 })
  | [] =>
    match pool.magazines with
    | magazine :: rest =>
      magazine.next?.map fun (slot, after) =>
        (slot, false, { pool with magazines := after :: rest, allocated := pool.allocated + 1 })
    | [] => none

def addMagazine (pool : Pool) (magazine : Magazine) : Pool :=
  { pool with magazines := magazine :: pool.magazines }

/-- Registers a callable at a slot. A registration of the same identity is replaced and gives up
its slot. -/
def register (pool : Pool) (registration : Registration) : Option ClosureSlot × Pool :=
  let bound := pool.bind registration.slot registration.callable
  match pool.registrations.find? (·.identity == registration.identity) with
  | some stale =>
    let registrations := pool.registrations.map fun other =>
      if other.identity = registration.identity then registration else other
    (some stale.slot, { bound with registrations }.release stale.slot)
  | none => (none, { bound with registrations := pool.registrations ++ [registration] })

def slotAt? (pool : Pool) (address : Nat) : Option ClosureSlot :=
  pool.magazines.findSome? (·.slotAt? address)

end Pool

end ForeignCall
