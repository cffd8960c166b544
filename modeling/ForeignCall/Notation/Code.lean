import ForeignCall.Notation.Values
import ForeignCall.Stub.Attachment

/-! How machine code, stubs and pages are written. -/

namespace ForeignCall

namespace Reading

def extend (code : X86.Code) : Reading X86.Code := do
  let displacement : Reading UInt8 := return .ofNat (← item 2)
  match ← item 0 with
  | "push" =>
    let count ← if (← items).length = 1 then pure 1 else item 1
    return code.appendAll (List.replicate count .pushRbx)
  | "call" => return code.appendCall (← item 1)
  | "widen" => return code.appendAll (Stub.widening (← item 1) (← item 2))
  | "pop" => return code.append .popRbx
  | "mov" => return code.append .moveRbxRdi
  | "ret" => return code.append .ret
  | "int" =>
    let register := X86.Register.integerArguments[← item (α := Nat) 1]?.getD .rdi
    return code.append (.loadInteger register (← displacement))
  | kind =>
    return code.append (.loadFloat (.ofNumber (← item 1)) (← displacement) (kind == "double"))

def program : Reading X86.Code := do
  (← fields "program").foldlM (fun code instruction => within instruction (extend code)) {}

def pendingStub : Reading PendingStub := do
  let name ← field "name"
  let code ← if (← child? "program").isSome then program else do
    let target := ((← field? "function").bind NativeFunction.address?).getD 0
    let result ← fieldOr "result" .void
    Session.found "stub" (Stub.assemble? (.ofNat target) (← fields "args") result .host)
  return ⟨name, name.toUpper, code⟩

instance : Readable PendingStub := ⟨pendingStub⟩

/-- How pages are granted; there is no limit if the number of blocks is negative. -/
def pagePolicy : Reading PagePolicy := do
  let blocks : Int64 ← fieldOr "allow" (-1)
  return .limited (← fieldOr "page_size" PagePolicy.systemPageSize)
    (if blocks < 0 then none else some blocks.toUInt64.toNat) (← fieldOr "protect" true)

instance : Readable PagePolicy := ⟨pagePolicy⟩

end Reading

namespace X86

def Code.fields (code : X86.Code) : Fields :=
  [("code", .hex code.bytes), ("len", code.bytes.length), ("empty", code.bytes.isEmpty),
   ("relocations", write (code.relocations.map fun entry => (entry.offset, entry.target)))]

def Code.placed (code : X86.Code) (padding : Nat) : Tree :=
  .hex (code.relocated ++ List.replicate padding 0xcc)

end X86

instance : Written X86.Code := ⟨fun code => .record code.fields⟩

instance : Written PageEvent where
  write
    | .allocated block pages => .list ["allocate", block, pages, "rw"]
    | .refused pages => .list ["refuse", pages, "rw"]
    | .sealed block pages => .list ["protect", block, pages, "rx"]
    | .freed block pages => .list ["free", block, pages]

def PageStore.locate (pages : PageStore) (address : Nat) : Tree := write (pages.locate? address)

def InstalledStub.write (pages : PageStore) (stub : InstalledStub) : Tree :=
  .list [stub.name, stub.signature, pages.locate stub.address, stub.size]

end ForeignCall
