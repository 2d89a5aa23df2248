/-! How messages show lists of extents and pairs of them. -/

namespace TensorRuntime

def bracketed (items : List String) : String :=
  "[" ++ ", ".intercalate items ++ "]"

def sizesText (sizes : List Nat) : String :=
  bracketed (sizes.map Nat.repr)

def pairText (pair : Nat × Nat) : String :=
  "(" ++ pair.1.repr ++ ", " ++ pair.2.repr ++ ")"

end TensorRuntime
