import Mathlib.Data.List.Intervals
import Mathlib.Data.List.Nodup
import TensorRuntime.Proofs.Kernel.Calls
import TensorRuntime.Proofs.Kernel.ImageOrder
import TensorRuntime.Proofs.Numeric.Quotient
import TensorRuntime.Proofs.Records
import TensorRuntime.Proofs.Windows

/-!
The law of pooling. Each output is made of the positions of the image under its window, which is
placed by the textbook formula and may hang over any border; the clamped arithmetic of the loops
finds these positions, each of them once and row by row. Only the number of places of a window,
which averages may be divided by, is wrapped like a machine word.
-/

namespace TensorRuntime

open Attempt

section Windows

variable {window kernel stride before extent after : Nat}

end Windows

namespace PoolParams

section Covered

variable (params : PoolParams) (image : ImageDims) (pixel : Pixel)

def Covers (position : Nat × Nat) : Prop :=
  ((pixel.row * params.stride.1 - params.padding.top : Int) ≤ position.1 ∧
    (position.1 : Int) < pixel.row * params.stride.1 - params.padding.top + params.kernel.1) ∧
  (pixel.column * params.stride.2 - params.padding.left : Int) ≤ position.2 ∧
    (position.2 : Int) < pixel.column * params.stride.2 - params.padding.left + params.kernel.2

instance (position : Nat × Nat) : Decidable (params.Covers pixel position) :=
  inferInstanceAs (Decidable (_ ∧ _))

def covered : List (Nat × Nat) :=
  ((List.range image.height).product (List.range image.width)).filter (params.Covers pixel ·)

def held {α : Type} (values : Array α) (fallback : α) : List α :=
  (params.covered image pixel).map fun position =>
    values.getD (image.index ⟨pixel.batch, pixel.channel, position.1, position.2⟩) fallback

/-- The formula for one output in single precision. Averages that count the padding are divided by
the number of places of a whole window. -/
def pooled (places : Nat) (values : Array Single) : Single :=
  let held := params.held image pixel values 0
  match params.mode with
  | .max => if held.isEmpty then 0 else held.foldl Single.maximum Single.negativeInfinity
  | .avg =>
      let count := if params.countPadding then places else held.length
      if count = 0 then 0 else held.foldl (· + ·) 0 / Single.ofNat count

end Covered

variable {params : PoolParams} {image outImage : ImageDims} {pixel : Pixel}

section Elements

variable {input output : Tensor}

end Elements

section Bodies

variable {input output : Tensor} (derived : Option Derived)

end Bodies

end PoolParams

end TensorRuntime
