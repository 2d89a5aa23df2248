import TensorRuntime.Tensor

/-! Four-dimensional images: batch, channels, height and width under either order of axes. -/

namespace TensorRuntime

/-- The extents of a batch of images, and whether channels are the innermost axis. -/
structure ImageDims where
  batch : Nat
  channels : Nat
  height : Nat
  width : Nat
  channelsLast : Bool
  deriving DecidableEq, Repr, Inhabited

structure Pixel where
  batch : Nat
  channel : Nat
  row : Nat
  column : Nat
  deriving DecidableEq, Repr, Inhabited

namespace ImageDims

def ofDims (dims : List Nat) (layout : Layout) : Except Error ImageDims :=
  match dims with
  | [first, second, third, fourth] =>
      match layout with
      | .nhwc => .ok ⟨first, fourth, second, third, true⟩
      | .nchw | .any => .ok ⟨first, second, third, fourth, false⟩
      | other => .error (.unsupportedLayout other "not an image layout")
  | _ => .error (.shapeMismatch "image tensor must be rank 4" [0, 0, 0, 0] dims)

def ofTensor (tensor : Tensor) : Except Error ImageDims :=
  match ofDims tensor.dims tensor.layout with
  | .error (.unsupportedLayout layout _) =>
      .error (.unsupportedLayout layout ("'" ++ tensor.name ++ "' is not an image layout"))
  | result => result

def layout (image : ImageDims) : Layout := if image.channelsLast then .nhwc else .nchw

def count (image : ImageDims) : Nat := image.batch * image.channels * image.height * image.width

def index (image : ImageDims) (pixel : Pixel) : Nat :=
  if image.channelsLast then
    ((pixel.batch * image.height + pixel.row) * image.width + pixel.column) * image.channels +
      pixel.channel
  else
    ((pixel.batch * image.channels + pixel.channel) * image.height + pixel.row) * image.width +
      pixel.column

/-- The element at a stored position. No position can be split over an extent of zero. -/
def pixelAt (image : ImageDims) (position : Nat) : Attempt Pixel :=
  if image.channels = 0 ∨ image.height = 0 ∨ image.width = 0 then Attempt.abort
  else if image.channelsLast then
    let column := position / image.channels
    let row := column / image.width
    pure ⟨row / image.height, position % image.channels, row % image.height, column % image.width⟩
  else
    let row := position / image.width
    let channel := row / image.height
    pure ⟨channel / image.channels, channel % image.channels, row % image.height,
      position % image.width⟩

def shapeWith (image : ImageDims) (channels height width : Nat) : Shape :=
  if image.channelsLast then ⟨[image.batch, height, width, channels]⟩
  else ⟨[image.batch, channels, height, width]⟩

end ImageDims

end TensorRuntime
