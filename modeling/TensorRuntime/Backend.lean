import TensorRuntime.Error
import TensorRuntime.Text.Blank

/-! Execution backends and their names. -/

namespace TensorRuntime

inductive Backend where
  | reference | neon | avx2 | avx512 | npu
  deriving DecidableEq, Repr, Inhabited

namespace Backend

def all : List Backend := [reference, neon, avx2, avx512, npu]

def name : Backend → String
  | reference => "reference"
  | neon => "neon"
  | avx2 => "avx2"
  | avx512 => "avx512"
  | npu => "npu"

def position : Backend → Nat
  | reference => 0
  | neon => 1
  | avx2 => 2
  | avx512 => 3
  | npu => 4

def isCpu : Backend → Bool
  | npu => false
  | _ => true

def isVector : Backend → Bool
  | neon | avx2 | avx512 => true
  | _ => false

/-- How many f32 values one register of the backend holds. -/
def lanes : Backend → Nat
  | neon => 4
  | avx2 => 8
  | avx512 => 16
  | reference | npu => 1

def ofName? (text : String) : Option Backend :=
  all.find? (·.name == text)

def parse (text : String) : Except Error Backend :=
  match all.find? fun backend => sameIgnoringCase backend.name.toList (trimBlanks text.toList) with
  | some backend => .ok backend
  | none => .error (.invalidConfig ("unknown backend '" ++ text ++ "'"))

theorem mem_all (backend : Backend) : backend ∈ all := by
  cases backend <;> simp [all]

end Backend

end TensorRuntime
