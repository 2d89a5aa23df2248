import TensorRuntime.Numeric.Single

/-! Half-precision numbers, kept as their bit patterns. -/

namespace TensorRuntime

structure Half where
  bits : UInt16
  deriving DecidableEq, Repr, Inhabited

namespace Half

def isNaN (half : Half) : Bool :=
  0x7C00 < half.bits &&& 0x7FFF

def equal (first second : Half) : Bool :=
  !first.isNaN && !second.isNaN &&
    (first.bits == second.bits || (first.bits ||| second.bits) &&& 0x7FFF == 0)

/-- Every half is a single exactly. A NaN becomes quiet and keeps its sign and payload. -/
def toSingle (half : Half) : Single :=
  let sign : UInt32 := (half.bits &&& 0x8000).toUInt32 <<< 16
  let payload : UInt32 := (half.bits &&& 0x03FF).toUInt32 <<< 13
  match BinaryFormat.half.decode half.bits.toNat with
  | .notANumber => ⟨sign ||| 0x7FC00000 ||| payload⟩
  | .infinite _ => ⟨sign ||| 0x7F800000⟩
  | .finite _ significand exponent =>
      ⟨sign ||| UInt32.ofNat
        (BinaryFormat.single.magnitudeBits ((significand : Rat) * 2 ^ exponent))⟩

/-- The nearest half, ties to even. A NaN becomes quiet and keeps its sign and the leading bits of
its payload. -/
def ofSingle (value : Single) : Half :=
  let sign : UInt16 := (value.bits >>> 16).toUInt16 &&& 0x8000
  let payload : UInt16 := (value.bits >>> 13).toUInt16 &&& 0x03FF
  match value.decode with
  | .notANumber => ⟨sign ||| 0x7E00 ||| payload⟩
  | .infinite _ => ⟨sign ||| 0x7C00⟩
  | .finite _ significand exponent =>
      ⟨sign ||| UInt16.ofNat
        (BinaryFormat.half.magnitudeBits ((significand : Rat) * 2 ^ exponent))⟩

end Half

end TensorRuntime
