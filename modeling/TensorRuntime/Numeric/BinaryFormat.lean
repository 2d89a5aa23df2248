/-! Binary floating-point formats: the value of a bit pattern, and the pattern nearest to an exact
value. The pattern of a magnitude is the number of its quantum's binade times the size of a binade,
plus the rounded significand, so a carry out of the significand lands in the next binade by itself
and larger magnitudes never have smaller patterns. -/

namespace TensorRuntime

def roundHalfEven (value : Rat) : Int :=
  let below := value.floor
  let fraction := value - below
  if fraction < 1 / 2 then below
  else if 1 / 2 < fraction then below + 1
  else if below % 2 = 0 then below else below + 1

def roundHalfAway (value : Rat) : Int :=
  if value < 0 then -((-value + 1 / 2).floor) else (value + 1 / 2).floor

def floorLog2 (value : Rat) : Int :=
  let estimate : Int := (value.num.toNat.log2 : Int) - (value.den.log2 : Int)
  if (2 : Rat) ^ estimate ≤ value then estimate else estimate - 1

/-- A format by the widths of its significand, leading bit included, and of its exponent field. -/
structure BinaryFormat where
  precision : Nat
  exponentBits : Nat
  deriving DecidableEq, Repr

namespace BinaryFormat

def half : BinaryFormat := ⟨11, 5⟩

def single : BinaryFormat := ⟨24, 8⟩

def double : BinaryFormat := ⟨53, 11⟩

def binade (format : BinaryFormat) : Nat := 1 <<< (format.precision - 1)

def minExponent (format : BinaryFormat) : Int :=
  3 - (1 <<< (format.exponentBits - 1) : Nat) - format.precision

def infinityBits (format : BinaryFormat) : Nat :=
  (1 <<< format.exponentBits - 1) * format.binade

def signBit (format : BinaryFormat) : Nat := (1 <<< format.exponentBits) * format.binade

inductive Value where
  | notANumber
  | infinite (negative : Bool)
  | finite (negative : Bool) (significand : Nat) (exponent : Int)
  deriving Repr

def Value.toRat? : Value → Option Rat
  | finite negative significand exponent =>
      let magnitude : Rat := (significand : Rat) * 2 ^ exponent
      some (if negative then -magnitude else magnitude)
  | _ => none

def decode (format : BinaryFormat) (bits : Nat) : Value :=
  let fraction := bits % format.binade
  let biased := bits / format.binade % (1 <<< format.exponentBits)
  let negative := bits / format.signBit % 2 == 1
  if biased = 1 <<< format.exponentBits - 1 then
    if fraction = 0 then .infinite negative else .notANumber
  else if biased = 0 then .finite negative fraction format.minExponent
  else .finite negative (fraction + format.binade) (format.minExponent + biased - 1)

def quantumExponent (format : BinaryFormat) (value : Rat) : Int :=
  max format.minExponent (floorLog2 value - (format.precision - 1 : Nat))

def nearest (format : BinaryFormat) (value : Rat) : Rat :=
  if value = 0 then 0
  else
    let quantum : Rat := 2 ^ format.quantumExponent (if value < 0 then -value else value)
    roundHalfEven (value / quantum) * quantum

/-- The pattern nearest to a magnitude, ties to even; infinity from the overflow threshold on. -/
def magnitudeBits (format : BinaryFormat) (value : Rat) : Nat :=
  if value ≤ 0 then 0
  else
    let exponent := format.quantumExponent value
    let significand := (roundHalfEven (value / 2 ^ exponent)).toNat
    min ((exponent - format.minExponent).toNat * format.binade + significand) format.infinityBits

end BinaryFormat

end TensorRuntime
