import TensorRuntime.Proofs.Signature

/-!
The stored bytes of a buffer determine it once its element type is known, so
tensors with one signature and the same bytes differ only in name and owner.
-/

namespace TensorRuntime

namespace Buffer

theorem littleEndian_succ (count number : Nat) :
    littleEndian (count + 1) number = number % 256 :: littleEndian count (number / 256) := by
  simp only [littleEndian, List.range_succ_eq_map, List.map_cons, List.map_map, List.cons.injEq]
  refine ⟨by simp, List.map_congr_left ?_⟩
  intro place _
  have byte : number >>> (8 * 1) = number / 256 := Nat.shiftRight_eq_div_pow number 8
  have shift : number >>> (8 * (place + 1)) = (number / 256) >>> (8 * place) := by
    rw [Nat.mul_add, Nat.add_comm, Nat.shiftRight_add, byte]
  simp [Function.comp, shift]

theorem littleEndian_injective {count first second : Nat} (firstBound : first < 256 ^ count)
    (secondBound : second < 256 ^ count)
    (same : littleEndian count first = littleEndian count second) : first = second := by
  induction count generalizing first second with
  | zero => simp_all
  | succ count ih =>
      rw [littleEndian_succ, littleEndian_succ, List.cons.injEq] at same
      rw [Nat.pow_succ] at firstBound secondBound
      have higher := ih (Nat.div_lt_of_lt_mul (by omega)) (Nat.div_lt_of_lt_mul (by omega)) same.2
      omega

theorem flatMap_injective {α β : Type} {block : α → List β} {width : Nat} (wide : 0 < width)
    (lengths : ∀ item, (block item).length = width)
    (injective : ∀ first second, block first = block second → first = second)
    {first second : List α} (same : first.flatMap block = second.flatMap block) :
    first = second := by
  induction first generalizing second with
  | nil =>
      cases second with
      | nil => rfl
      | cons item rest =>
          have sizes := congrArg List.length same
          simp [lengths] at sizes
          omega
  | cons item rest ih =>
      cases second with
      | nil =>
          have sizes := congrArg List.length same
          simp [lengths] at sizes
          omega
      | cons item' rest' =>
          rw [List.flatMap_cons, List.flatMap_cons] at same
          have parts := List.append_inj same (by rw [lengths, lengths])
          rw [injective _ _ parts.1, ih parts.2]

theorem littleEndian_blocks {α : Type} {number : α → Nat} {width : Nat} (wide : 0 < width)
    (below : ∀ item, number item < 256 ^ width)
    (injective : ∀ first second, number first = number second → first = second)
    {first second : Array α}
    (same : (first.toList.flatMap fun item => littleEndian width (number item)) =
      second.toList.flatMap fun item => littleEndian width (number item)) :
    first = second := by
  refine Array.toList_inj.1 (flatMap_injective wide (by simp [littleEndian]) ?_ same)
  intro left right blocks
  exact injective _ _ (littleEndian_injective (below left) (below right) blocks)

theorem map_blocks {α : Type} {number : α → Nat}
    (injective : ∀ first second, number first = number second → first = second)
    {first second : Array α} (same : first.toList.map number = second.toList.map number) :
    first = second :=
  Array.toList_inj.1 (List.map_inj_right (fun left right => injective left right) |>.1 same)

theorem eq_of_bytes {first second : Buffer} (sameType : first.elementType = second.elementType)
    (sameBytes : first.bytes = second.bytes) : first = second := by
  cases first <;> cases second <;> simp only [elementType, reduceCtorEq] at sameType
  case f32.f32 left right =>
      refine congrArg f32 (littleEndian_blocks (by decide)
        (fun value => value.bits.toNat_lt) ?_ sameBytes)
      intro one other same
      cases one
      cases other
      exact congrArg Single.mk (UInt32.toNat_inj.1 same)
  case f16.f16 left right =>
      refine congrArg f16 (littleEndian_blocks (by decide)
        (fun value => value.bits.toNat_lt) ?_ sameBytes)
      intro one other same
      cases one
      cases other
      exact congrArg Half.mk (UInt16.toNat_inj.1 same)
  case i8.i8 left right =>
      refine congrArg i8 (map_blocks ?_ sameBytes)
      intro one other same
      exact congrArg UInt8.toInt8 (UInt8.toNat_inj.1 same)
  case u8.u8 left right =>
      exact congrArg u8 (map_blocks (fun _ _ same => UInt8.toNat_inj.1 same) sameBytes)
  case i16.i16 left right =>
      refine congrArg i16 (littleEndian_blocks (by decide)
        (fun value => value.toUInt16.toNat_lt) ?_ sameBytes)
      intro one other same
      exact congrArg UInt16.toInt16 (UInt16.toNat_inj.1 same)
  case i32.i32 left right =>
      refine congrArg i32 (littleEndian_blocks (by decide)
        (fun value => value.toUInt32.toNat_lt) ?_ sameBytes)
      intro one other same
      exact congrArg UInt32.toInt32 (UInt32.toNat_inj.1 same)
  case bool.bool left right =>
      exact congrArg bool (map_blocks (fun _ _ same => UInt8.toNat_inj.1 same) sameBytes)

end Buffer

/-- Two tensors that may differ in their names and owners only. -/
def Tensor.SameContents (first second : Tensor) : Prop :=
  first.signature = second.signature ∧ first.buffer = second.buffer

namespace Tensor

theorem sameContents_of_bytes {first second : Tensor}
    (signatures : first.signature = second.signature)
    (bytes : first.buffer.bytes = second.buffer.bytes) : first.SameContents second :=
  ⟨signatures, Buffer.eq_of_bytes (congrArg Signature.elementType signatures) bytes⟩

theorem sameContents_iff {first second : Tensor} :
    first.SameContents second ↔
      second = { first with name := second.name, kind := second.kind } := by
  cases first
  cases second
  simp only [SameContents, signature, elementType, Signature.mk.injEq, mk.injEq, true_and]
  constructor
  · rintro ⟨⟨rfl, _, rfl, rfl⟩, rfl⟩
    simp
  · rintro ⟨rfl, rfl, rfl, rfl⟩
    simp

end Tensor

/-- The same tensors in the same order, up to their names and owners. -/
def SameContents (first second : List Tensor) : Prop :=
  first.map Tensor.signature = second.map Tensor.signature ∧
    first.map Tensor.buffer = second.map Tensor.buffer

namespace SameContents

theorem refl (tensors : List Tensor) : SameContents tensors tensors := ⟨rfl, rfl⟩

theorem cons_iff {first second : Tensor} {others others' : List Tensor} :
    SameContents (first :: others) (second :: others') ↔
      first.SameContents second ∧ SameContents others others' := by
  simp only [SameContents, Tensor.SameContents, List.map_cons, List.cons.injEq]
  constructor
  · rintro ⟨⟨signature, signatures⟩, buffer, buffers⟩
    exact ⟨⟨signature, buffer⟩, signatures, buffers⟩
  · rintro ⟨⟨signature, buffer⟩, signatures, buffers⟩
    exact ⟨⟨signature, signatures⟩, buffer, buffers⟩

theorem of_bytes {first second : List Tensor}
    (signatures : first.map Tensor.signature = second.map Tensor.signature)
    (bytes : (first.map fun input => input.buffer.bytes) =
      second.map fun input => input.buffer.bytes) : SameContents first second := by
  induction first generalizing second with
  | nil =>
      cases second with
      | nil => exact refl []
      | cons => cases signatures
  | cons tensor rest ih =>
      cases second with
      | nil => cases signatures
      | cons tensor' rest' =>
          simp only [List.map_cons, List.cons.injEq] at signatures bytes
          exact cons_iff.2 ⟨Tensor.sameContents_of_bytes signatures.1 bytes.1,
            ih signatures.2 bytes.2⟩

theorem getElem? {first second : List Tensor} (same : SameContents first second) (place : Nat) :
    (first[place]? = none ∧ second[place]? = none) ∨
      ∃ tensor name kind, first[place]? = some tensor ∧
        second[place]? = some { tensor with name, kind } := by
  induction first generalizing second place with
  | nil =>
      cases second with
      | nil => simp
      | cons => cases same.1
  | cons tensor rest ih =>
      cases second with
      | nil => cases same.1
      | cons tensor' rest' =>
          rw [cons_iff] at same
          cases place with
          | zero =>
              refine .inr ⟨tensor, tensor'.name, tensor'.kind, rfl, ?_⟩
              exact congrArg some (Tensor.sameContents_iff.1 same.1)
          | succ place => simpa using ih same.2 place

end SameContents

end TensorRuntime
