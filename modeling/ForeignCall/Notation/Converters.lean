import ForeignCall.Callable.Rule
import ForeignCall.Converter.Rule
import ForeignCall.Notation.Values

/-! How converters, mappers and callables are written. -/

namespace ForeignCall

namespace Session

def onMappers {α : Type} (action : StateM MapperState α) : Reading α :=
  run (World.onMappers action)

end Session

namespace Reading

def converterRules : List (String × ConverterRule) :=
  [("scale", .scale), ("offset", .offset), ("context", .context), ("same", .same), ("null", .null),
   ("fail", .fail)]

def converterBody : Reading (Way → ConverterBody) := do
  match ← field "conv" with
  | "plain" => return RuleSpec.body { rule := .same }
  | "text" => return .text (← encoding)
  | "enum" => return .enum (← field "type")
  | "enum_set" => return .enumSet (← field "type")
  | _ =>
    let spec : RuleSpec := {
      rule := ← within (← field "conv") (word converterRules)
      amount := ← fieldOr "by" 1
      carrier := ← fieldOr "carrier" HostType.int
      annotations := ← annotations
      contextFree := ← fieldOr "no_context" false
      cacheable := ← fieldOr "cacheable" false }
    return spec.body

def converter (way : Way) : Reading Converter := do
  Session.onMappers (MapperState.instantiate ((← converterBody) way))

def converterTable (way : Way) (name : String) : Reading (List (HostType × Converter)) :=
  let _ : Readable Converter := ⟨converter way⟩
  fields name

def mapper (depth : Nat) : Reading Mapper := do
  match depth, ← read with
  | depth + 1, .record [("composite", .list inner)] =>
    return .chain (← inner.mapM (within · (mapper depth)))
  | depth + 1, .record [("caching", inner)] =>
    return .caching (← Session.onMappers MapperState.newCache) (← within inner (mapper depth))
  | _, .record [("refusing", type)] => return .refusing (← within type Readable.read)
  | _, .record [("counting", spec)] =>
    within spec do
      return .building (← field "type") (← within (← field "conv") converterBody)
  | _, .record [("simple", tables)] =>
    within tables do
      return .table (← converterTable .toNative "to") (← converterTable .fromNative "from")
  | _, _ => word [("builtin", .builtin), ("silent", .silent)]

instance : Readable Mapper := ⟨do mapper (← read).depth⟩

def callableRules : List (String × CallableRule) :=
  [("add", .add), ("sub", .sub), ("mul", .mul), ("first", .first), ("last", .last), ("sum", .sum),
   ("fsum", .floatSum), ("len", .textLength), ("void", .constant .void), ("fail", .fail),
   ("panic", .panic)]

def callableRule : Reading CallableRule := do
  match ← child? "value" with
  | none => within (← field "fn") (word callableRules)
  | some answer =>
    let value ← within answer value
    if let .callback serial := value then Session.run (World.retainCallable serial)
    return .constant value

end Reading

namespace Session

def newCallable (name : String) : Reading Unit := do
  let rule ← Reading.callableRule
  nameCallable name (← run (World.newCallable fun arguments => return rule.respond arguments))

def nameAll : Reading Unit := do
  let _ ← Reading.entries "callables" newCallable
  let _ ← Reading.entries "vars" fun name => do nameValue name (← Reading.value)

def watch {α : Type} (action : Reading α) : Reading (α × List Tree) := do
  let before := (← current).invocations.length
  let result ← action
  let calls ← ((← current).invocations.drop before).mapM fun (serial, values) => do
    let name := (← getThe Session).nameOf? serial
    return .list [write name, .list (← values.mapM display)]
  return (result, calls)

end Session

end ForeignCall
