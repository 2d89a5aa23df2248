import TensorRuntime.Buffer

/-! Row-major matrices: multiplication in tiles, and transposition. -/

namespace TensorRuntime

def tileSide : Nat := 64

def tiles (extent : Nat) : List (Nat × Nat) :=
  (List.range ((extent + tileSide - 1) / tileSide)).map fun tile =>
    (tile * tileSide, min (tile * tileSide + tileSide) extent)

def tilePositions (tile : Nat × Nat) : List Nat := List.range' tile.1 (tile.2 - tile.1)

/-- The products of a tiled multiplication in the order of their addition: row and column of the
result, and the inner index. -/
def productSteps (rows columns inner : Nat) : List (Nat × Nat × Nat) :=
  (tiles rows).flatMap fun rowTile =>
    (tiles columns).flatMap fun columnTile =>
      (tiles inner).flatMap fun innerTile =>
        (tilePositions rowTile).flatMap fun row =>
          (tilePositions innerTile).flatMap fun index =>
            (tilePositions columnTile).map fun column => (row, column, index)

/-- Adds `first * second` to `total`, with `first` of `rows * inner` and `second` of
`inner * columns` elements. Each product is added to the sum of its column by `add`. -/
def accumulateProductBy (add : Nat → Single → Single → Single → Single)
    (first second total : Array Single) (rows columns inner : Nat) : Attempt (Array Single) :=
  (productSteps rows columns inner).foldlM (fun total (row, column, index) => do
    let left ← readAt first (row * inner + index)
    let right ← readAt second (index * columns + column)
    let place := row * columns + column
    let sum ← readAt total place
    writeAt total place (add column sum left right)) total

def addUnfused (_column : Nat) (sum left right : Single) : Single := sum + left * right

def fusedLanes : Nat := 8

/-- Whole groups of lanes are fused, and only the last tile has columns that are left over. -/
def addFused (columns column : Nat) (sum left right : Single) : Single :=
  if column < columns / fusedLanes * fusedLanes then Single.multiplyAdd left right sum
  else sum + left * right

def accumulateProduct : Array Single → Array Single → Array Single → Nat → Nat → Nat →
    Attempt (Array Single) :=
  accumulateProductBy addUnfused

/-- The product as the lane backends compute it. A host that fuses products checks the sizes of all
buffers before. -/
def accumulateProductChecked [Host] (first second total : Array Single)
    (rows columns inner : Nat) : Attempt (Array Single) :=
  if Host.fusesProducts then
    if first.size < rows * inner ∨ second.size < inner * columns ∨ total.size < rows * columns then
      Attempt.abort
    else accumulateProductBy (addFused columns) first second total rows columns inner
  else accumulateProduct first second total rows columns inner

def transposeMatrix (values : Array Single) (rows columns : Nat) : Attempt (Array Single) :=
  if values.size < rows * columns then Attempt.abort
  else
    tabulate (rows * columns) fun index =>
      readAt values (index % rows * columns + index / rows)

end TensorRuntime
