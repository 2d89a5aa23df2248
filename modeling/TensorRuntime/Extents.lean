/-! Extents: how long a tensor is along each of its axes, and the machine words they are counted
in. -/

namespace TensorRuntime

def wordLimit : Nat := 1 <<< 64

/-- What a machine word keeps of a number. -/
def word (number : Nat) : Nat := number % wordLimit

theorem word_of_lt {number : Nat} (fits : number < wordLimit) : word number = number :=
  Nat.mod_eq_of_lt fits

theorem word_lt (number : Nat) : word number < wordLimit :=
  Nat.mod_lt number (by decide)

/-- The exact number of elements. The machine's own product is the word of it, and so the same number
for every tensor whose elements are in memory. -/
def volume (extents : List Nat) : Nat := extents.foldr (· * ·) 1

@[simp] theorem volume_nil : volume [] = 1 := rfl

@[simp] theorem volume_cons (extent : Nat) (inner : List Nat) :
    volume (extent :: inner) = extent * volume inner := rfl

theorem foldl_word_mul (extents : List Nat) (start : Nat) :
    extents.foldl (fun product extent => word (product * extent)) (word start) =
      word (start * volume extents) := by
  induction extents generalizing start with
  | nil => rw [List.foldl_nil, volume_nil, Nat.mul_one]
  | cons extent inner ih =>
      have step : word (word start * extent) = word (start * extent) := Nat.mod_mul_mod ..
      rw [List.foldl_cons, step, ih, volume_cons, Nat.mul_assoc]

end TensorRuntime
