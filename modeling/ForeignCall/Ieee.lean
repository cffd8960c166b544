/-! Floating-point numbers as bit patterns: 32 bits for `float`, 64 bits for `double`. -/

namespace ForeignCall

abbrev Single := UInt32

abbrev Double := UInt64

def Single.widen (value : Single) : Double := (Float32.ofBits value).toFloat.toBits

def Double.narrow (value : Double) : Single := (Float.ofBits value).toFloat32.toBits

def Double.ofInt64 (value : Int64) : Double := value.toFloat.toBits

/-- Rounds toward zero and stays at the ends of the range. -/
def Double.toInt64 (value : Double) : Int64 := (Float.ofBits value).toInt64

def Double.add (left right : Double) : Double := (Float.ofBits left + Float.ofBits right).toBits

def Double.mul (left right : Double) : Double := (Float.ofBits left * Float.ofBits right).toBits

def Double.div (left right : Double) : Double := (Float.ofBits left / Float.ofBits right).toBits

def Double.neg (value : Double) : Double := value ^^^ 0x8000000000000000

def Single.add (left right : Single) : Single :=
  (Float32.ofBits left + Float32.ofBits right).toBits

end ForeignCall
