import TensorRuntime.Extents

/-! Sliding windows along one axis: how many fit, which part of the input each covers, and which
input coordinate a tap reads. Sums and products are those of machine words. -/

namespace TensorRuntime

/-- The number of windows along a padded axis; none when not even one fits. -/
def windowCount? (input kernel stride dilation padBefore padAfter : Nat) : Option Nat :=
  if stride = 0 ∨ dilation = 0 ∨ kernel = 0 then none
  else
    let covered := word (dilation * (kernel - 1) + 1)
    let padded := word (input + padBefore + padAfter)
    if padded < covered then none else some (word ((padded - covered) / stride + 1))

/-- The input coordinate under tap `tap` of window `window`, if it is inside the input. -/
def tapCoordinate? (window tap stride dilation padBefore extent : Nat) : Option Nat :=
  let shifted := word (window * stride + tap * dilation)
  if padBefore ≤ shifted ∧ shifted - padBefore < extent then some (shifted - padBefore) else none

/-- The part of one axis that a pooling window covers. -/
structure WindowSpan where
  start : Nat
  stop : Nat
  padded : Nat
  deriving DecidableEq, Repr

def windowSpan (window kernel stride padBefore extent padAfter : Nat) : WindowSpan :=
  let begin := word (window * stride)
  let finish := word (begin + kernel)
  let stop := min (finish - padBefore) extent
  let paddedFinish := min finish (word (extent + padBefore + padAfter))
  ⟨begin - padBefore, max stop (begin - padBefore), word (paddedFinish + (wordLimit - begin))⟩

namespace WindowSpan

def length (span : WindowSpan) : Nat := span.stop - span.start

def coordinates (span : WindowSpan) : List Nat := List.range' span.start span.length

end WindowSpan

end TensorRuntime
