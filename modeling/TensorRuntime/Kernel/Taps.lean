import TensorRuntime.Image
import TensorRuntime.Params
import TensorRuntime.Window

/-! The taps of a convolution that fall inside the image, in the order in which they are summed. -/

namespace TensorRuntime

structure Tap where
  kernelRow : Nat
  kernelColumn : Nat
  row : Nat
  column : Nat
  deriving DecidableEq, Repr

def convTaps (params : ConvParams) (kernelHeight kernelWidth : Nat) (image : ImageDims)
    (outRow outColumn : Nat) : List Tap :=
  (List.range kernelHeight).flatMap fun kernelRow =>
    match tapCoordinate? outRow kernelRow params.stride.1 params.dilation.1 params.padding.top
        image.height with
    | none => []
    | some row =>
        (List.range kernelWidth).filterMap fun kernelColumn =>
          (tapCoordinate? outColumn kernelColumn params.stride.2 params.dilation.2
            params.padding.left image.width).map fun column =>
              ⟨kernelRow, kernelColumn, row, column⟩

def windowPositions (rows columns : WindowSpan) : List (Nat × Nat) :=
  rows.coordinates.flatMap fun row => columns.coordinates.map fun column => (row, column)

end TensorRuntime
