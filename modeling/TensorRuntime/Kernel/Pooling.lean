import TensorRuntime.Kernel.Arguments
import TensorRuntime.Kernel.Taps

/-! Pooling of single-precision images by maximum or average. -/

namespace TensorRuntime

def PoolParams.spans (params : PoolParams) (image : ImageDims) (outRow outColumn : Nat) :
    WindowSpan × WindowSpan :=
  (windowSpan outRow params.kernel.1 params.stride.1 params.padding.top image.height
      params.padding.bottom,
    windowSpan outColumn params.kernel.2 params.stride.2 params.padding.left image.width
      params.padding.right)

def poolElement (params : PoolParams) (values : Array Single) (image : ImageDims)
    (pixel : Pixel) : Attempt Single := do
  let (rows, columns) := params.spans image pixel.row pixel.column
  let covered ← (windowPositions rows columns).mapM fun position =>
    readAt values (image.index ⟨pixel.batch, pixel.channel, position.1, position.2⟩)
  let inside := rows.length * columns.length
  match params.mode with
  | .max => return if inside = 0 then 0 else covered.foldl Single.maximum Single.negativeInfinity
  | .avg =>
      let count := if params.countPadding then word (rows.padded * columns.padded) else inside
      return if count = 0 then 0 else covered.foldl (· + ·) 0 / Single.ofNat count

def poolRoutine : String := "ref_pool2d_f32"

def poolBody (call : Call) : Attempt Tensor :=
  match call.params with
  | .pool2d params => do
      let input ← call.input 0 poolRoutine
      let image ← ImageDims.ofTensor input
      let outImage ← ImageDims.ofDims (← call.output poolRoutine).dims image.layout
      let values ← input.singlesFor poolRoutine
      let (output, old) ← call.singleOutput poolRoutine
      output.withSingles <$> tabulate old.size fun index => do
        poolElement params values image (← outImage.pixelAt index)
  | params => Attempt.refuse (params.mismatch poolRoutine)

def maxPoolKernel : Kernel :=
  .ofBody "ref_max_pool2d_f32" [.nchw, .nhwc] poolRoutine none poolBody

def avgPoolKernel : Kernel :=
  .ofBody "ref_avg_pool2d_f32" [.nchw, .nhwc] poolRoutine none poolBody

end TensorRuntime
