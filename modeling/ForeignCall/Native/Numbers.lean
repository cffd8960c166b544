import ForeignCall.Ieee
import ForeignCall.Native.Function

/-! Native functions on numbers. Integer arithmetic wraps at the width of the result. -/

namespace ForeignCall

namespace NativeFunction

def unary (name : String) (type result : CType) (run : UInt64 → UInt64) : NativeFunction :=
  plain name [type] result fun
    | [argument] => run argument
    | _ => 0

def binary (name : String) (type result : CType) (run : UInt64 → UInt64 → UInt64) :
    NativeFunction :=
  plain name [type, type] result fun
    | [left, right] => run left right
    | _ => 0

def identity (name : String) (type : CType) : NativeFunction := unary name type type id

def negate (name : String) (type : CType) : NativeFunction := unary name type type (0 - ·)

def pack (name : String) (type : CType) (count : Nat) : NativeFunction :=
  plain name (List.replicate count type) type (·.foldl (· * 31 + ·) 0)

def packDoubles (arguments : List Double) : Double :=
  arguments.foldl (fun total argument => Double.add (Double.mul total 0x4000000000000000) argument) 0

def asDoubles (types : List CType) (images : List UInt64) : List Double :=
  (types.zip images).map fun (type, image) =>
    if type.isFloating then image else Double.ofInt64 image.toInt64

def narrowMix : List UInt64 → UInt64
  | [first, second, third, fourth] =>
    let whole := Double.toInt64 (Single.widen third.toUInt32)
    first * 1000000 + second * 1000 + whole.toUInt64 * 10 + fourth
  | _ => 0

def mix : List UInt64 → UInt64
  | [first, second, third] =>
    Double.add (Double.ofInt64 first.toInt64) (Double.mul second (Single.widen third.toUInt32))
  | _ => 0

def twelve : List CType :=
  (List.replicate 3 [CType.int, .double, .longLong, .double]).flatten

def numbers : List NativeFunction :=
  [identity "id_i8" .signedChar, identity "id_u8" .unsignedChar, identity "id_i16" .short,
   identity "id_u16" .unsignedShort, identity "id_i32" .int, identity "id_u32" .unsignedInt,
   identity "id_i64" .longLong, identity "id_u64" .unsignedLongLong, identity "id_f32" .float,
   identity "id_f64" .double, identity "id_ptr" .pointer,
   negate "neg_i8" .signedChar, negate "neg_i16" .short, negate "neg_i32" .int,
   negate "neg_i64" .longLong,
   plain "nop" [] .void fun _ => 0, plain "seven" [] .int fun _ => 7,
   binary "add_i32" .int .int (· + ·), binary "sub_i32" .int .int (· - ·),
   binary "mul_i32" .int .int (· * ·), binary "add_i64" .longLong .longLong (· + ·),
   binary "max_u8" .unsignedChar .unsignedChar max,
   binary "sub_u16" .unsignedShort .unsignedShort (· - ·),
   unary "trunc_i64" .longLong .int id, unary "widen_i32" .int .longLong (· * 0x100000001),
   unary "next3" .int .int fun image => ((intOfImage image + 1) % 3).toInt64.toUInt64,
   plain "mix" [.int, .double, .float] .double mix,
   binary "add_f32" .float .float fun left right =>
     (Single.add left.toUInt32 right.toUInt32).toUInt64,
   binary "div_f64" .double .double Double.div,
   plain "narrow_mix" [.signedChar, .unsignedShort, .float, .unsignedChar] .longLong narrowMix,
   pack "pack3" .int 3, pack "pack4" .int 4, pack "pack5" .int 5, pack "pack6" .int 6,
   pack "pack7" .int 7, pack "pack3l" .longLong 3, pack "pack4l" .longLong 4,
   pack "pack5l" .longLong 5, pack "pack6l" .longLong 6, pack "pack8l" .longLong 8,
   plain "pack8d" (List.replicate 8 .double) .double packDoubles,
   plain "pack9d" (List.replicate 9 .double) .double packDoubles,
   plain "pack12" twelve .double fun images => packDoubles (asDoubles twelve images),
   ⟨"set_errno", [.int], .int, .leaf fun arguments => do
     modify fun store => { store with errorCode := intOfImage (arguments.headD 0) }
     return 0xffffffffffffffff⟩]

end NativeFunction

end ForeignCall
