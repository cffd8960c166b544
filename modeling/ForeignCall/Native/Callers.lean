import ForeignCall.Native.Buffers

/-! Native functions that call a function through a pointer they are given. -/

namespace ForeignCall

namespace NativeFunction

/-- A function that hands its arguments to the function that its first argument points to. A null
pointer is not called. -/
def applying (name : String) (types : List CType) (result : CType) (missing : UInt64) :
    NativeFunction :=
  ⟨name, .pointer :: types, result, .script fun arguments _ =>
    match arguments with
    | [] => .done missing
    | pointer :: rest =>
      if pointer = 0 then .done missing
      else .call pointer (types.zip rest) result .done⟩

def applyTwice (pointer argument : UInt64) : Script :=
  .call pointer [(.int, argument)] .int fun first => .call pointer [(.int, first)] .int .done

def foldElements (pointer : UInt64) : List UInt64 → UInt64 → Script
  | [], total => .done total
  | element :: rest, total =>
    .call pointer [(.int, total), (.int, element)] .int (foldElements pointer rest)

def callers : List NativeFunction :=
  let none : UInt64 := 0xffffffffffffffff
  let noDouble : UInt64 := 0xbff0000000000000
  let noSingle : UInt64 := 0xbf800000
  [applying "apply_ii" [.int, .int] .int none,
   applying "apply_df" [.double, .float] .double noDouble,
   applying "apply_ff" [.float] .float noSingle, applying "apply_l" [.longLong] .longLong none,
   applying "apply_bsc" [.signedChar, .short, .unsignedShort] .signedChar none,
   applying "apply_v" [.int] .void 0,
   ⟨"apply_twice", [.pointer, .int], .int, .script fun arguments _ =>
     match arguments with
     | [pointer, argument] => if pointer = 0 then .done none else applyTwice pointer argument
     | _ => .done none⟩,
   ⟨"apply_text", [.pointer, .int], .int, .script fun arguments _ =>
     match arguments with
     | [pointer, number] =>
       if pointer = 0 then .done none
       else
         let address := UInt64.ofNat (greetingAddress (intOfImage number))
         .call pointer [(.pointer, address)] .int .done
     | _ => .done none⟩,
   ⟨"fold_i32", [.pointer, .int, .pointer, .int], .int, .script fun arguments memory =>
     match arguments with
     | [address, count, pointer, start] =>
       if pointer = 0 then .done none
       else foldElements pointer (elementsAt memory address .int (countOfImage count)) start
     | _ => .done none⟩]

end NativeFunction

end ForeignCall
