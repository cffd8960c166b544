import ForeignCall.Fault
import ForeignCall.Strategy.Basic

/-! What an observer sees of the work: events in order, and counters. -/

namespace ForeignCall

inductive Level
  | trace
  | debug
  | info
  | warn
  | error
  deriving DecidableEq

namespace Level

def name : Level → String
  | trace => "TRACE"
  | debug => "DEBUG"
  | info => "INFO"
  | warn => "WARN"
  | error => "ERROR"

end Level

inductive Event
  | strategySelected (function strategy : String)
  | bindingFailure (function reason : String)
  | stubInstalled (function : String) (address size : Nat)
  | stubCode (function : String) (code : List UInt8)
  | pagesAllocated (address pages : Nat)
  | pagesReleased (address pages : Nat)
  | magazineAllocated (slots pages : Nat)
  | slotAssigned (address : Nat) (recycled : Bool)
  | slotReturned (address : Nat)
  | callbackFailed (address : Nat) (reason : String)
  | nativeCall (function : String) (arguments : Nat)
  | bufferGrown (before after : Nat)
  | finished (operation : String)
  | stubsAttached (stubs pages : Nat)
  | initialized (pointerBytes longBytes : Nat) (stubs fastPaths : Bool) (pageSize : Nat)
  | environmentIgnored (reason : String)
  deriving DecidableEq

inductive Field
  | text (value : String)
  | number (value : Nat)
  | flag (value : Bool)
  deriving DecidableEq

namespace Event

def level : Event → Level
  | stubCode .. | slotAssigned .. | slotReturned _ | nativeCall .. | bufferGrown .. => .trace
  | strategySelected .. | stubInstalled .. | pagesAllocated .. | pagesReleased ..
  | magazineAllocated .. | finished _ | stubsAttached .. => .debug
  | initialized .. => .info
  | bindingFailure .. | environmentIgnored _ => .warn
  | callbackFailed .. => .error

def message : Event → String
  | strategySelected .. => "Invocation strategy selected"
  | bindingFailure .. => "Function bound to failing entry point"
  | stubInstalled .. => "Call stub installed"
  | stubCode .. => "Call stub code"
  | pagesAllocated .. => "Executable pages allocated"
  | pagesReleased .. => "Executable pages released"
  | magazineAllocated .. => "Closure magazine allocated"
  | slotAssigned .. => "Closure slot assigned"
  | slotReturned _ => "Closure slot returned to free list"
  | callbackFailed .. => "Closure callback failed; returning zero"
  | nativeCall .. => "Native function called"
  | bufferGrown .. => "Encode buffer expanded"
  | finished _ => "Operation finished"
  | stubsAttached .. => "Stub block attached"
  | initialized .. => "Runtime initialized"
  | environmentIgnored _ => "Ignoring invalid environment configuration"

def fields : Event → List (String × Field)
  | strategySelected function strategy =>
    [("event", .text "strategy_selected"), ("function", .text function),
     ("strategy", .text strategy)]
  | bindingFailure function reason =>
    [("event", .text "binding_failure"), ("function", .text function), ("error", .text reason)]
  | stubInstalled function address size =>
    [("event", .text "stub_compiled"), ("function", .text function),
     ("address", .text (hexAddress address)), ("size_bytes", .number size)]
  | stubCode function code =>
    [("event", .text "stub_bytes"), ("function", .text function), ("code", .text (hexDump code))]
  | pagesAllocated address pages =>
    [("event", .text "page_alloc"), ("address", .text (hexAddress address)),
     ("pages", .number pages)]
  | pagesReleased address pages =>
    [("event", .text "page_free"), ("address", .text (hexAddress address)),
     ("pages", .number pages)]
  | magazineAllocated slots pages =>
    [("event", .text "magazine_alloc"), ("slots", .number slots), ("pages", .number pages)]
  | slotAssigned address recycled =>
    [("event", .text "closure_alloc"), ("address", .text (hexAddress address)),
     ("recycled", .flag recycled)]
  | slotReturned address =>
    [("event", .text "closure_reclaimed"), ("address", .text (hexAddress address))]
  | callbackFailed address reason =>
    [("event", .text "closure_error"), ("address", .text (hexAddress address)),
     ("error", .text reason)]
  | nativeCall function arguments =>
    [("event", .text "native_call"), ("function", .text function), ("args", .number arguments)]
  | bufferGrown before after =>
    [("event", .text "buffer_grow"), ("from", .number before), ("to", .number after)]
  | finished operation => [("event", .text "timing"), ("operation", .text operation)]
  | stubsAttached stubs pages => [("stubs", .number stubs), ("pages", .number pages)]
  | initialized pointerBytes longBytes stubs fastPaths pageSize =>
    [("address_size", .number pointerBytes), ("long_size", .number longBytes),
     ("stubs", .flag stubs), ("fast_paths", .flag fastPaths), ("page_size", .number pageSize)]
  | environmentIgnored reason => [("error", .text reason)]

end Event

structure Counters where
  stubsInstalled : Nat := 0
  blocksAllocated : Nat := 0
  blocksFreed : Nat := 0
  magazinesAllocated : Nat := 0
  slotsAllocated : Nat := 0
  slotsRecycled : Nat := 0
  /-- Entry points built, for each strategy. -/
  built : Strategy → Nat := fun _ => 0
  failed : Nat := 0

namespace Counters

def liveBlocks (counters : Counters) : Nat := counters.blocksAllocated - counters.blocksFreed

def countBuilt (counters : Counters) (strategy : Strategy) : Counters :=
  { counters with
    built := fun query =>
      if query = strategy then counters.built query + 1 else counters.built query }

def countSlot (counters : Counters) (recycled : Bool) : Counters :=
  if recycled then { counters with slotsRecycled := counters.slotsRecycled + 1 }
  else { counters with slotsAllocated := counters.slotsAllocated + 1 }

end Counters

structure Journal where
  events : List Event := []
  counters : Counters := {}

namespace Journal

def record (journal : Journal) (event : Event) : Journal :=
  { journal with events := event :: journal.events }

def count (journal : Journal) (change : Counters → Counters) : Journal :=
  { journal with counters := change journal.counters }

end Journal

end ForeignCall
