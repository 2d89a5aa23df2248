import TensorRuntime.Numeric.BinaryFormat

/-! Single-precision numbers, kept as their bit patterns, and the arithmetic that kernels share. -/

namespace TensorRuntime

/-- A single as it is stored. Many patterns are no number, and moving one keeps which it is. -/
structure Single where
  bits : UInt32
  deriving DecidableEq, Repr, Inhabited

namespace Single

/-- The number that a pattern stands for, for arithmetic, which knows one NaN only. -/
def toFloat32 (value : Single) : Float32 := Float32.ofBits value.bits

def ofFloat32 (value : Float32) : Single := ⟨value.toBits⟩

instance {count : Nat} : OfNat Single count := ⟨ofFloat32 (Float32.ofNat count)⟩

instance : Add Single := ⟨fun first second => ofFloat32 (first.toFloat32 + second.toFloat32)⟩

instance : Sub Single := ⟨fun first second => ofFloat32 (first.toFloat32 - second.toFloat32)⟩

instance : Mul Single := ⟨fun first second => ofFloat32 (first.toFloat32 * second.toFloat32)⟩

instance : Div Single := ⟨fun first second => ofFloat32 (first.toFloat32 / second.toFloat32)⟩

instance : Neg Single := ⟨fun value => ⟨value.bits ^^^ 0x80000000⟩⟩

instance : LT Single := ⟨fun first second => first.toFloat32 < second.toFloat32⟩

instance (first second : Single) : Decidable (first < second) :=
  inferInstanceAs (Decidable (first.toFloat32 < second.toFloat32))

instance : BEq Single := ⟨fun first second => first.toFloat32 == second.toFloat32⟩

def ofNat (number : Nat) : Single := ofFloat32 (Float32.ofNat number)

def ofInt (number : Int) : Single := ofFloat32 (Float32.ofInt number)

def sqrt (value : Single) : Single := ofFloat32 value.toFloat32.sqrt

def toFloat (value : Single) : Float := value.toFloat32.toFloat

def negativeInfinity : Single := ⟨0xFF800000⟩

def positiveInfinity : Single := ⟨0x7F800000⟩

def isNaN (value : Single) : Bool :=
  0x7F800000 < value.bits &&& 0x7FFFFFFF

def decode (value : Single) : BinaryFormat.Value :=
  BinaryFormat.single.decode value.bits.toNat

def isPositiveFinite (value : Single) : Bool :=
  0 < value.bits.toNat && value.bits.toNat < BinaryFormat.single.infinityBits

def maximum (first second : Single) : Single :=
  if first.isNaN then second
  else if second.isNaN then first
  else if first < second then second else first

def minimum (first second : Single) : Single :=
  if first.isNaN then second
  else if second.isNaN then first
  else if second < first then second else first

def clamp (value low high : Single) : Single :=
  if value < low then low else if high < value then high else value

/-- The exponential, evaluated in double precision and rounded once more. -/
def exp (value : Single) : Single := ofFloat32 (Float.exp value.toFloat).toFloat32

def tanh (value : Single) : Single := ofFloat32 (Float.tanh value.toFloat).toFloat32

def sigmoid (value : Single) : Single := 1 / (1 + exp (-value))

def ofRat (value : Rat) : Single :=
  let magnitude := BinaryFormat.single.magnitudeBits (if value < 0 then -value else value)
  ⟨UInt32.ofNat (if value < 0 then BinaryFormat.single.signBit + magnitude else magnitude)⟩

/-- The product added to a number with one rounding. Where the product is zero or one of the three
is no finite number, the product is exact and nothing is gained. -/
def multiplyAdd (first second addend : Single) : Single :=
  match first.decode.toRat?, second.decode.toRat?, addend.decode.toRat? with
  | some left, some right, some start =>
      if left * right = 0 then addend + first * second else ofRat (left * right + start)
  | some _, some _, none => addend + first
  | _, _, _ => addend + first * second

end Single

end TensorRuntime
