/-! Element types of tensors: what a buffer stores and how many bytes it needs. -/

namespace TensorRuntime

inductive ElementType where
  | f32 | f16 | i8 | u8 | i16 | i32 | bool
  deriving DecidableEq, Repr, Inhabited

namespace ElementType

def all : List ElementType := [f32, f16, i8, u8, i16, i32, bool]

def name : ElementType → String
  | f32 => "f32"
  | f16 => "f16"
  | i8 => "i8"
  | u8 => "u8"
  | i16 => "i16"
  | i32 => "i32"
  | bool => "bool"

def position : ElementType → Nat
  | f32 => 0
  | f16 => 1
  | i8 => 2
  | u8 => 3
  | i16 => 4
  | i32 => 5
  | bool => 6

def ofName? (text : String) : Option ElementType :=
  all.find? (·.name == text)

/-- Bytes of one element; truth values are packed and have no size of their own. -/
def elementSize? : ElementType → Option Nat
  | f32 | i32 => some 4
  | f16 | i16 => some 2
  | i8 | u8 => some 1
  | bool => none

def storageBytes (elementType : ElementType) (count : Nat) : Nat :=
  match elementType.elementSize? with
  | some size => size * count
  | none => (count + 7) / 8

def isFloat : ElementType → Bool
  | f32 | f16 => true
  | _ => false

def isInteger : ElementType → Bool
  | i8 | u8 | i16 | i32 => true
  | _ => false

/-- The integer types that may run through a float kernel when no integer kernel exists. -/
def isLowPrecision : ElementType → Bool
  | i8 | u8 | i16 => true
  | _ => false

def intRange? : ElementType → Option (Int × Int)
  | i8 => some (-128, 127)
  | u8 => some (0, 255)
  | i16 => some (-32768, 32767)
  | i32 => some (-2147483648, 2147483647)
  | _ => none

theorem intRange?_isSome (elementType : ElementType) :
    elementType.intRange?.isSome = elementType.isInteger := by
  cases elementType <;> rfl

section Range

variable {elementType : ElementType} {range : Int × Int}

theorem isInteger_of_intRange? (ranged : elementType.intRange? = some range) :
    elementType.isInteger = true := by
  rw [← intRange?_isSome, ranged]
  rfl

end Range

end ElementType

end TensorRuntime
