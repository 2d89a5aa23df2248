import TensorRuntime.Error
import TensorRuntime.Host
import TensorRuntime.Numeric.Half
import TensorRuntime.Numeric.Single

/-! Typed storage of tensor elements. -/

namespace TensorRuntime

/-- One constructor for each element type. Truth values are packed, the first in the lowest bit. -/
inductive Buffer where
  | f32 (values : Array Single)
  | f16 (values : Array Half)
  | i8 (values : Array Int8)
  | u8 (values : Array UInt8)
  | i16 (values : Array Int16)
  | i32 (values : Array Int32)
  | bool (packed : Array UInt8)
  deriving Inhabited

def readAt {α : Type} (values : Array α) (index : Nat) : Attempt α :=
  match values[index]? with
  | some value => pure value
  | none => Attempt.abort

def readRun {α : Type} (values : Array α) (start count : Nat) : Attempt (List α) :=
  if start + count ≤ values.size then pure (values.extract start (start + count)).toList
  else Attempt.abort

def tabulate {α : Type} (count : Nat) (element : Nat → Attempt α) : Attempt (Array α) :=
  List.toArray <$> (List.range count).mapM element

def writeAt {α : Type} (values : Array α) (index : Nat) (value : α) : Attempt (Array α) :=
  if index < values.size then pure (values.setIfInBounds index value) else Attempt.abort

theorem readAt_of_lt {α : Type} {values : Array α} {index : Nat} (bound : index < values.size) :
    readAt values index = pure values[index] := by
  simp [readAt, bound]

namespace Buffer

def elementType : Buffer → ElementType
  | f32 _ => .f32
  | f16 _ => .f16
  | i8 _ => .i8
  | u8 _ => .u8
  | i16 _ => .i16
  | i32 _ => .i32
  | bool _ => .bool

def byteCount : Buffer → Nat
  | f32 values => 4 * values.size
  | f16 values => 2 * values.size
  | i8 values => values.size
  | u8 values => values.size
  | i16 values => 2 * values.size
  | i32 values => 4 * values.size
  | bool packed => packed.size

def littleEndian (count number : Nat) : List Nat :=
  (List.range count).map fun place => number >>> (8 * place) % 256

def bytes : Buffer → List Nat
  | f32 values => values.toList.flatMap fun value => littleEndian 4 value.bits.toNat
  | f16 values => values.toList.flatMap fun value => littleEndian 2 value.bits.toNat
  | i8 values => values.toList.map fun value => value.toUInt8.toNat
  | u8 values => values.toList.map UInt8.toNat
  | i16 values => values.toList.flatMap fun value => littleEndian 2 value.toUInt16.toNat
  | i32 values => values.toList.flatMap fun value => littleEndian 4 value.toUInt32.toNat
  | bool packed => packed.toList.map UInt8.toNat

/-- Equal as numbers, element by element, so a NaN makes a buffer differ from itself. -/
def sameNumbers : Buffer → Buffer → Bool
  | f32 first, f32 second => first.isEqv second (· == ·)
  | f16 first, f16 second => first.isEqv second Half.equal
  | i8 first, i8 second => first == second
  | u8 first, u8 second => first == second
  | i16 first, i16 second => first == second
  | i32 first, i32 second => first == second
  | bool first, bool second => first == second
  | _, _ => false

def itemSize (elementType : ElementType) : Nat :=
  elementType.elementSize?.getD 1

/-- Asks the host for room for so many items; the bytes asked for saturate as a word. -/
def allocate [Host] (items itemSize : Nat) (context : String) : Except Error Unit :=
  if items * itemSize ≤ Host.allocationLimit then .ok ()
  else .error (.allocationFailure (min (items * itemSize) (1 <<< 64 - 1)) context)

def zeros [Host] (elementType : ElementType) (count : Nat) : Except Error Buffer := do
  let items := if elementType = .bool then elementType.storageBytes count else count
  allocate items (itemSize elementType) "tensor buffer"
  return match elementType with
    | .f32 => f32 (Array.replicate items 0)
    | .f16 => f16 (Array.replicate items ⟨0⟩)
    | .i8 => i8 (Array.replicate items 0)
    | .u8 => u8 (Array.replicate items 0)
    | .i16 => i16 (Array.replicate items 0)
    | .i32 => i32 (Array.replicate items 0)
    | .bool => bool (Array.replicate items 0)

def integers? : Buffer → Option (Array Int)
  | i8 values => some (values.map Int8.toInt)
  | u8 values => some (values.map fun value => (value.toNat : Int))
  | i16 values => some (values.map Int16.toInt)
  | i32 values => some (values.map Int32.toInt)
  | _ => none

def ofIntegers? (elementType : ElementType) (values : Array Int) : Option Buffer :=
  match elementType with
  | .i8 => some (i8 (values.map Int8.ofInt))
  | .u8 => some (u8 (values.map fun value => UInt8.ofNat (value % 256).toNat))
  | .i16 => some (i16 (values.map Int16.ofInt))
  | .i32 => some (i32 (values.map Int32.ofInt))
  | _ => none

def readBit (packed : Array UInt8) (index : Nat) : Attempt Bool := do
  let byte ← readAt packed (index / 8)
  return byte.toNat.testBit (index % 8)

def setBit (packed : Array UInt8) (index : Nat) : Attempt (Array UInt8) :=
  if index / 8 < packed.size then
    pure (packed.modify (index / 8) fun byte => byte ||| UInt8.ofNat (1 <<< (index % 8)))
  else Attempt.abort

/-- Overwrites packed truth values, the first in the lowest bit of the first byte. All bits are
cleared before, so those past the last value stay clear. -/
def writeBits (packed : Array UInt8) (values : List Bool) : Attempt (Array UInt8) :=
  values.zipIdx.foldlM
    (fun packed entry => if entry.1 then setBit packed entry.2 else pure packed)
    (packed.map fun _ => 0)

end Buffer

end TensorRuntime
