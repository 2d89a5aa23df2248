import TensorRuntime.Numeric.Single

/-! The shortest decimal that reads back as a given single, written without an exponent. -/

namespace TensorRuntime

namespace ShortestDecimal

/-- The numbers that read as `significand * 2 ^ exponent`. Ties go to even, so the ends belong to
the interval when the significand is even. Below a binade's first significand the gap is halved. -/
structure Interval where
  value : Rat
  low : Rat
  high : Rat
  closed : Bool

def interval (format : BinaryFormat) (significand : Nat) (exponent : Int) : Interval :=
  let quantum : Rat := 2 ^ exponent
  let value : Rat := significand * quantum
  let gapBelow : Rat :=
    if significand = format.binade ∧ exponent ≠ format.minExponent then quantum / 2 else quantum
  ⟨value, value - gapBelow / 2, value + quantum / 2, significand % 2 == 0⟩

def Interval.contains (interval : Interval) (number : Rat) : Bool :=
  if interval.closed then interval.low ≤ number && number ≤ interval.high
  else interval.low < number && number < interval.high

/-- The point of the grid of multiples of `10 ^ power` inside the interval that is nearest to the
value, as its multiple; of two equally near points the greater. On the coarsest grid with a point
inside, only the value's two neighbours can be inside. -/
def gridPoint? (interval : Interval) (power : Int) : Option Nat :=
  let step : Rat := 10 ^ power
  let below := (interval.value / step).floor.toNat
  let inside (multiple : Nat) : Bool := multiple ≠ 0 && interval.contains (multiple * step)
  match inside below, inside (below + 1) with
  | true, true =>
      if (below + 1 : Nat) * step - interval.value ≤ interval.value - below * step
      then some (below + 1) else some below
  | true, false => some below
  | false, true => some (below + 1)
  | false, false => none

/-- The coarsest grid with a point inside the interval: a multiple and its power of ten. Every
single is below `10 ^ 39`, and the grid of step `10 ^ (-46)` is finer than the least single. -/
def digits? (interval : Interval) : Option (Nat × Int) :=
  (List.range 86).findSome? fun (offset : Nat) =>
    let power : Int := 39 - (offset : Int)
    (gridPoint? interval power).map fun multiple => (multiple, power)

def positional (multiple : Nat) (power : Int) : String :=
  if 0 ≤ power then multiple.repr ++ String.ofList (List.replicate power.toNat '0')
  else
    let places := (-power).toNat
    let digits := multiple.repr.toList
    let padded := List.replicate (places + 1 - digits.length) '0' ++ digits
    let point := padded.length - places
    String.ofList (padded.take point ++ '.' :: padded.drop point)

end ShortestDecimal

/-- How messages show a single: the fewest digits that read back, never with an exponent. -/
def singleText (value : Single) : String :=
  match Single.decode value with
  | .notANumber => "NaN"
  | .infinite negative => if negative then "-inf" else "inf"
  | .finite negative significand exponent =>
      let magnitude :=
        if significand = 0 then "0"
        else
          match ShortestDecimal.digits? (ShortestDecimal.interval .single significand exponent) with
          | some (multiple, power) => ShortestDecimal.positional multiple power
          | none => "0"
      if negative then "-" ++ magnitude else magnitude

end TensorRuntime
