import TensorRuntime.Buffer
import TensorRuntime.Extents
import TensorRuntime.Numeric.ShortestDecimal

/-! Affine quantization: a stored integer `q` stands for `(q - zeroPoint) * scale`. A record holds
one such pair for the whole tensor or one for each channel along an axis. -/

namespace TensorRuntime

structure Affine where
  scale : Single
  zeroPoint : Int
  deriving Inhabited

namespace Affine

def dequantize (affine : Affine) (stored : Int) : Single :=
  Single.ofInt (stored - affine.zeroPoint) * affine.scale

def quantize (affine : Affine) (range : Int × Int) (value : Single) : Int :=
  if value.isNaN then max range.1 (min range.2 affine.zeroPoint)
  else
    match Single.decode (value / affine.scale) with
    | .notANumber => 0
    | .infinite negative => if negative then range.1 else range.2
    | .finite negative significand exponent =>
        let magnitude := roundHalfAway ((significand : Rat) * 2 ^ exponent)
        let steps := if negative then -magnitude else magnitude
        max range.1 (min range.2 (steps + affine.zeroPoint))

def check (affine : Affine) (elementType : ElementType) (range : Int × Int) : Except Error Unit :=
  if !Single.isPositiveFinite affine.scale then
    .error (.invalidDescriptor
      ("quantization scale must be finite and positive, got " ++ singleText affine.scale))
  else if affine.zeroPoint < range.1 ∨ range.2 < affine.zeroPoint then
    .error (.invalidDescriptor ("zero point " ++ affine.zeroPoint.repr ++ " outside " ++
      elementType.name ++ " range [" ++ range.1.repr ++ ", " ++ range.2.repr ++ "]"))
  else .ok ()

end Affine

inductive Quantization where
  | perTensor (affine : Affine)
  | perChannel (scales : Array Single) (zeroPoints : Array Int) (axis : Nat)
  deriving Inhabited

namespace Quantization

def symmetricPerChannel (scales : Array Single) (axis : Nat) : Quantization :=
  .perChannel scales (Array.replicate scales.size 0) axis

def isPerChannel : Quantization → Bool
  | perTensor _ => false
  | perChannel .. => true

def axis? : Quantization → Option Nat
  | perTensor _ => none
  | perChannel _ _ axis => some axis

def same : Quantization → Quantization → Bool
  | perTensor first, perTensor second =>
      first.scale == second.scale && first.zeroPoint == second.zeroPoint
  | perChannel scales zeroPoints axis, perChannel scales' zeroPoints' axis' =>
      scales.isEqv scales' (· == ·) && zeroPoints == zeroPoints' && axis == axis'
  | _, _ => false

def sameOption : Option Quantization → Option Quantization → Bool
  | none, none => true
  | some first, some second => first.same second
  | _, _ => false

/-- The pair of a channel. A record for the whole tensor has the same pair for every channel. -/
def affineOf (record : Quantization) (channel : Nat) : Attempt Affine :=
  match record with
  | perTensor affine => pure affine
  | perChannel scales zeroPoints _ => do
      let scale ← readAt scales channel
      let zeroPoint ← readAt zeroPoints channel
      return ⟨scale, zeroPoint⟩

def maxScale : Quantization → Single
  | perTensor affine => affine.scale
  | perChannel scales _ _ => scales.foldl Single.maximum 0

def validate (record : Quantization) (elementType : ElementType) (dims : List Nat) :
    Except Error Unit :=
  match elementType.intRange? with
  | none =>
      .error (.unsupportedElementType elementType "quantization record on non-integer tensor")
  | some range =>
      match record with
      | perTensor affine => affine.check elementType range
      | perChannel scales zeroPoints axis =>
          match dims[axis]? with
          | none =>
              .error (.invalidDescriptor ("per-channel axis " ++ axis.repr ++
                " out of range for rank " ++ dims.length.repr))
          | some extent =>
              if scales.size ≠ extent ∨ zeroPoints.size ≠ extent then
                .error (.shapeMismatch "per-channel quantization record" [extent]
                  [scales.size, zeroPoints.size])
              else
                (scales.toList.zip zeroPoints.toList).forM fun pair =>
                  Affine.check ⟨pair.1, pair.2⟩ elementType range

def channelOf (record : Quantization) (dims : List Nat) (index : Nat) : Nat :=
  match record.axis? with
  | none => 0
  | some axis =>
      index / max 1 (volume (dims.drop (axis + 1))) % max 1 (dims[axis]?.getD 1)

def checkLengths (inputLength outputLength : Nat) (dims : List Nat) : Except Error Unit :=
  if inputLength ≠ volume dims ∨ outputLength ≠ volume dims then
    .error (.shapeMismatch "quantization buffers" [volume dims, volume dims]
      [inputLength, outputLength])
  else .ok ()

def dequantize (record : Quantization) (elementType : ElementType) (dims : List Nat)
    (stored : Array Int) (outputLength : Nat) : Attempt (Array Single) := do
  checkLengths stored.size outputLength dims
  record.validate elementType dims
  stored.mapIdxM fun index value => do
    return (← record.affineOf (record.channelOf dims index)).dequantize value

def quantize (record : Quantization) (elementType : ElementType) (dims : List Nat)
    (values : Array Single) (outputLength : Nat) : Attempt (Array Int) := do
  checkLengths values.size outputLength dims
  record.validate elementType dims
  let range := elementType.intRange?.getD (-2147483648, 2147483647)
  values.mapIdxM fun index value => do
    return (← record.affineOf (record.channelOf dims index)).quantize range value

/-- A record for the whole tensor that covers a range of values, widened to hold zero so that zero
has an exact stored form. Extents are single precision, the quotients double precision. -/
def fromRange (low high : Single) (elementType : ElementType) : Except Error Quantization :=
  match elementType.intRange? with
  | none =>
      .error (.unsupportedElementType elementType "quantization range needs an integer dtype")
  | some (least, greatest) =>
      match (Single.decode low).toRat?, (Single.decode high).toRat? with
      | some lowValue, some highValue =>
          if highValue < lowValue then .error (invalidRange low high)
          else
            let lowValue := if lowValue < 0 then lowValue else 0
            let extent := (if 0 < highValue then highValue else 0) - lowValue
            if BinaryFormat.single.magnitudeBits extent = BinaryFormat.single.infinityBits then
              .ok (perTensor ⟨Single.positiveInfinity, least⟩)
            else
              let extent := BinaryFormat.single.nearest extent
              let levels : Rat := greatest - least
              let scale : Rat :=
                if extent ≤ 1 / (1 <<< 23 : Nat) then 1
                else BinaryFormat.single.nearest (BinaryFormat.double.nearest (extent / levels))
              let steps := BinaryFormat.double.nearest (lowValue / scale)
              let zeroPoint := roundHalfAway (BinaryFormat.double.nearest ((least : Rat) - steps))
              .ok (perTensor
                ⟨⟨UInt32.ofNat (BinaryFormat.single.magnitudeBits scale)⟩,
                  max least (min greatest zeroPoint)⟩)
      | _, _ => .error (invalidRange low high)
where
  invalidRange (low high : Single) : Error :=
    .invalidDescriptor
      ("invalid calibration range [" ++ singleText low ++ ", " ++ singleText high ++ "]")

end Quantization

end TensorRuntime
