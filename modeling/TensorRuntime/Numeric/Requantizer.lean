import TensorRuntime.Numeric.BinaryFormat

/-! Fixed-point scaling of wide accumulators: a ratio is kept as a 31-bit multiplier and a power of
two, and applied with one rounding, halves away from zero. -/

namespace TensorRuntime

/-- Stands for the ratio `multiplier * 2 ^ (shift - 31)`. -/
structure Requantizer where
  multiplier : Int
  shift : Int
  deriving DecidableEq, Repr, Inhabited

namespace Requantizer

def wrap64 (value : Int) : Int := value.bmod (1 <<< 64)

def zero : Requantizer := ⟨0, 0⟩

/-- Whether a ratio is so close below `2 ^ power` that its binary logarithm, held as a double, is
`power`. Next to 1024 doubles are `2 ^ (-43)` apart below it and `2 ^ (-42)` above it, so the
ratio misses the power by a part of at most `2 ^ (-44) * ln 2`, and twice that where `power` is
negative; 354 and 709 are these parts in units of `2 ^ (-53)`. -/
def reachesPower (significand : Nat) (power : Int) : Bool :=
  let above := 1 <<< (significand.log2 + 1)
  (above - significand) <<< 53 ≤ (if 0 < power then 354 else 709) * above

/-- The requantizer of the positive ratio `significand * 2 ^ exponent`. The ratio is divided by the
power of two above it, held as a double: a power past the format's range is infinite, and so is
the reciprocal of one that is too small, which leaves no multiplier or a saturated one. -/
def ofDyadic (significand : Nat) (exponent : Int) : Requantizer :=
  let power : Int := significand.log2 + exponent + 1
  let divisor := if reachesPower significand power then power + 1 else power
  if 1024 ≤ divisor then ⟨0, divisor - 1⟩
  else if divisor ≤ -1024 then ⟨-1, divisor + 1⟩
  else
    let multiplier := roundHalfAway ((significand : Rat) * 2 ^ (exponent - power + 31))
    if multiplier = (1 <<< 31 : Nat) then ⟨(1 <<< 30 : Nat), power + 1⟩ else ⟨multiplier, power⟩

def ofRatio (ratio : Float) : Requantizer :=
  match BinaryFormat.double.decode ratio.toBits.toNat with
  | .finite false significand exponent =>
      if significand = 0 then zero else ofDyadic significand exponent
  | _ => zero

/-- Scales an accumulator. A ratio of at least one is a left shift by at most 63 places. -/
def apply (requantizer : Requantizer) (accumulator : Int) : Int :=
  let product := accumulator * requantizer.multiplier
  let right := 31 - requantizer.shift
  if right ≤ 0 then wrap64 (product * (1 <<< (min (-right) 63).toNat : Nat))
  else if 127 ≤ right then 0
  else
    let half : Int := (1 <<< (right - 1).toNat : Nat)
    let unit : Int := (1 <<< right.toNat : Nat)
    wrap64 (if 0 ≤ product then (product + half) / unit else -((-product + half) / unit))

def text (requantizer : Requantizer) : String :=
  "Requantizer \x7b multiplier: " ++ requantizer.multiplier.repr ++ ", shift: " ++
    requantizer.shift.repr ++ " \x7d"

end Requantizer

end TensorRuntime
