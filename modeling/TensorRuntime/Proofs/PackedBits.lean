import TensorRuntime.Proofs.Refusals

/-!
Packed truth values. Bits are cleared and then set one by one, so that an array holds the values
that were written and nothing past the last of them, and two arrays of the same values are equal
byte by byte.
-/

namespace TensorRuntime

open Attempt

namespace Buffer

def bitAt? (packed : Array UInt8) (position : Nat) : Option Bool :=
  packed[position / 8]?.map fun byte => byte.toNat.testBit (position % 8)

/-- An array of just enough bytes for some values, which are its bits. Those past the last value
are clear. -/
structure Packs (packed : Array UInt8) (values : List Bool) : Prop where
  size : packed.size = (values.length + 7) / 8
  bits : ∀ position < 8 * packed.size, bitAt? packed position = some (values[position]?.getD false)

variable {packed written : Array UInt8}

theorem testBit_or_one (byte : UInt8) (place : Nat) {position : Nat} (inside : position < 8) :
    (byte ||| UInt8.ofNat (1 <<< place)).toNat.testBit position =
      (byte.toNat.testBit position || decide (place = position)) := by
  rw [UInt8.toNat_or, Nat.testBit_or, UInt8.toNat_ofNat', Nat.one_shiftLeft,
    Nat.testBit_mod_two_pow, Nat.testBit_two_pow, decide_eq_true inside, Bool.true_and]

theorem bitAt?_setBit {index : Nat} (done : setBit packed index = .ok written) (position : Nat) :
    bitAt? written position = (bitAt? packed position).map (· || decide (index = position)) := by
  unfold setBit at done
  split at done
  · cases done
    unfold bitAt?
    rw [Array.getElem?_modify, Option.map_map]
    by_cases here : index / 8 = position / 8
    · have same : index % 8 = position % 8 ↔ index = position := by omega
      rw [if_pos here, Option.map_map]
      refine congrArg (Option.map · packed[position / 8]?) (funext fun byte => ?_)
      rw [Function.comp_apply, Function.comp_apply,
        testBit_or_one byte _ (Nat.mod_lt position (by decide)), decide_eq_decide.2 same]
    · have other : index ≠ position := fun same => here (by rw [same])
      simp [here, other, Function.comp_def]
  · cases done

theorem bitAt?_setBits {entries : List (Bool × Nat)}
    (done : entries.foldlM (fun packed entry =>
      if entry.1 then setBit packed entry.2 else pure packed) packed = .ok written)
    (position : Nat) :
    bitAt? written position =
      (bitAt? packed position).map (· || decide ((true, position) ∈ entries)) := by
  induction entries generalizing packed with
  | nil =>
      cases done
      simp
  | cons entry rest ih =>
      rw [List.foldlM_cons, bind_eq_ok] at done
      obtain ⟨between, step, done⟩ := done
      rw [ih done]
      obtain ⟨value, index⟩ := entry
      cases value with
      | false =>
          cases step
          simp
      | true =>
          rw [bitAt?_setBit step, Option.map_map]
          simp [Function.comp_def, Bool.or_assoc, eq_comm]

theorem bitAt?_of_lt {position : Nat} (inside : position / 8 < packed.size) :
    bitAt? packed position = some (packed[position / 8].toNat.testBit (position % 8)) :=
  congrArg (Option.map _) (Array.getElem?_eq_getElem inside)

/-- Written truth values are read back, and clear bits past the last of them. -/
theorem bitAt?_writeBits {values : List Bool} (done : writeBits packed values = .ok written)
    {position : Nat} (inside : position / 8 < packed.size) :
    bitAt? written position = some (values[position]?.getD false) := by
  have cleared : bitAt? (packed.map fun _ => 0) position = some false := by
    unfold bitAt?
    simp [inside]
  rw [bitAt?_setBits done, cleared, Option.map_some, Bool.false_or]
  refine congrArg some ?_
  simp only [List.mem_zipIdx_iff_getElem?]
  cases found : values[position]? with
  | none => rfl
  | some value => cases value <;> rfl

theorem packs_of_writeBits {values : List Bool} (size : packed.size = (values.length + 7) / 8)
    (done : writeBits packed values = .ok written) : Packs written values where
  size := (size_of_writeBits done).trans size
  bits position bound := by
    rw [size_of_writeBits done] at bound
    exact bitAt?_writeBits done (by omega)

theorem readBit_of_bitAt? {position : Nat} {value : Bool}
    (found : bitAt? packed position = some value) : readBit packed position = .ok value := by
  obtain ⟨byte, present, rfl⟩ := Option.map_eq_some_iff.1 found
  exact bind_eq_ok.2 ⟨byte, readAt_eq_ok.2 present, rfl⟩

theorem bitAt?_of_readBit {position : Nat} {value : Bool}
    (read : readBit packed position = .ok value) : bitAt? packed position = some value := by
  obtain ⟨byte, present, same⟩ := bind_eq_ok.1 read
  cases same
  exact Option.map_eq_some_iff.2 ⟨byte, readAt_eq_ok.1 present, rfl⟩

theorem Packs.readBit {values : List Bool} (packs : Packs packed values) {position : Nat}
    (bound : position < values.length) : readBit packed position = .ok values[position] := by
  have size := packs.size
  have found := packs.bits position (by omega)
  rw [List.getElem?_eq_getElem bound, Option.getD_some] at found
  exact readBit_of_bitAt? found

theorem Packs.unique {first second : Array UInt8} {values : List Bool}
    (packs : Packs first values) (packs' : Packs second values) : first = second := by
  apply Array.ext (packs.size.trans packs'.size.symm)
  intro place bound bound'
  apply UInt8.toNat_inj.1
  apply Nat.eq_of_testBit_eq
  intro position
  by_cases inside : position < 8
  · have one := packs.bits (8 * place + position) (by omega)
    have other := packs'.bits (8 * place + position) (by omega)
    have byte : (8 * place + position) / 8 = place := by omega
    have bit : (8 * place + position) % 8 = position := by omega
    rw [bitAt?_of_lt (by omega)] at one other
    simp only [byte, bit] at one other
    exact Option.some.inj (one.trans other.symm)
  · have clear (byte : UInt8) : byte.toNat.testBit position = false := by
      apply Nat.testBit_lt_two_pow
      have high : 2 ^ 8 ≤ 2 ^ position := Nat.pow_le_pow_right (by decide) (by omega)
      have small := byte.toNat_lt
      omega
    rw [clear, clear]

end Buffer

namespace Tensor

/-- A tensor of truth values, eight to a byte: what is read of it, and what its spare bits are. -/
structure HoldsTruths [Host] (tensor : Tensor) (values : List Bool) : Prop where
  elementType : tensor.elementType = .bool
  bytes : tensor.buffer.byteCount = (values.length + 7) / 8
  reads : ∀ index, tensor.boolAt? index = .ok values[index]?
  singles : tensor.toSingles = (do
    Buffer.allocate values.length 4 "dequantized buffer"
    return (values.map fun value => if value then 1 else 0).toArray)
  spare : ∀ packed, tensor.buffer = .bool packed → ∀ position, values.length ≤ position →
    position < 8 * packed.size → Buffer.bitAt? packed position = some false

variable {tensor : Tensor} {packed : Array UInt8} {values : List Bool}

theorem exists_packed (truths : tensor.elementType = .bool) :
    ∃ packed, tensor.buffer = .bool packed := by
  unfold elementType at truths
  cases held : tensor.buffer with
  | bool packed => exact ⟨packed, rfl⟩
  | f32 | f16 | i8 | u8 | i16 | i32 =>
      rw [held] at truths
      cases truths

theorem holdsTruths_of_packs [Host] (held : tensor.buffer = .bool packed)
    (count : tensor.count = values.length) (packs : Buffer.Packs packed values) :
    tensor.HoldsTruths values where
  elementType := by
    unfold elementType
    rw [held]
    rfl
  bytes := by
    rw [held]
    exact packs.size
  reads index := by
    unfold boolAt?
    rw [held, count]
    by_cases inside : index < values.length
    · dsimp only
      rw [if_pos inside, packs.readBit inside, List.getElem?_eq_getElem inside]
      rfl
    · dsimp only
      rw [if_neg inside, List.getElem?_eq_none (Nat.le_of_not_lt inside)]
      rfl
  singles := by
    have read : tabulate values.length (fun index => do
        return if ← Buffer.readBit packed index then (1 : Single) else 0) =
        .ok (values.map fun value => if value then 1 else 0).toArray := by
      refine tabulate_eq_ok.2 ⟨by simp, fun index bound => ?_⟩
      have inside : index < values.length := by simpa using bound
      rw [packs.readBit inside]
      simp [pure, Except.pure, bind, Except.bind]
    unfold toSingles
    rw [held, count]
    exact bind_congr fun _ => read
  spare other same position past bound := by
    cases held.symm.trans same
    rw [packs.bits position bound, List.getElem?_eq_none past]
    rfl

theorem HoldsTruths.packs [Host] (holds : tensor.HoldsTruths values)
    (held : tensor.buffer = .bool packed) : Buffer.Packs packed values := by
  have bytes := holds.bytes
  rw [held] at bytes
  refine ⟨bytes, fun position bound => ?_⟩
  by_cases inside : position < values.length
  · have read := holds.reads position
    unfold boolAt? at read
    rw [held, List.getElem?_eq_getElem inside] at read
    dsimp only at read
    split at read
    · obtain ⟨value, found, same⟩ := map_eq_ok.1 read
      rw [Buffer.bitAt?_of_readBit found, List.getElem?_eq_getElem inside]
      exact same
    · cases read
  · have past := Nat.le_of_not_lt inside
    rw [holds.spare packed held position past bound, List.getElem?_eq_none past]
    rfl

theorem HoldsTruths.eq_buffer [Host] {other : Tensor} {values' : List Bool}
    (holds : tensor.HoldsTruths values) (holds' : other.HoldsTruths values')
    (same : ∀ index, tensor.boolAt? index = other.boolAt? index) :
    tensor.buffer = other.buffer := by
  have equal : values = values' := by
    apply List.ext_getElem?
    intro index
    have both := (holds.reads index).symm.trans ((same index).trans (holds'.reads index))
    exact Except.ok.inj both
  subst equal
  obtain ⟨packed, held⟩ := exists_packed holds.elementType
  obtain ⟨packed', held'⟩ := exists_packed holds'.elementType
  rw [held, held', (holds.packs held).unique (holds'.packs held')]

theorem exists_ofBools [Host] {dims : List Nat} (ranked : dims.length ≤ maxRank)
    (count : volume dims = values.length) :
    ∃ tensor, ofBools values dims = .ok tensor ∧ tensor.shape = ⟨dims⟩ ∧ tensor.Valid ∧
      tensor.HoldsTruths values := by
  let cleared : Array UInt8 := Array.replicate (ElementType.bool.storageBytes values.length) 0
  have size : cleared.size = (values.length + 7) / 8 := Array.size_replicate
  have safe : (Buffer.writeBits cleared values).Safe := Buffer.safe_writeBits (by omega)
  obtain ⟨packed, wrote⟩ := safe.exists_ok (Buffer.unrefused_writeBits cleared values)
  have packs := Buffer.packs_of_writeBits size wrote
  let tensor : Tensor := ⟨"", ⟨dims⟩, .any, none, .external, .bool packed⟩
  have shaped : Shape.ofDims dims = .ok ⟨dims⟩ := if_neg (Nat.not_lt.2 ranked)
  have sized : tensor.Sized := by
    change packed.size = (volume dims + 7) / 8
    rw [count]
    exact packs.size
  have valid : tensor.Valid := valid_iff.2 ⟨ranked, rfl, sized, trivial⟩
  refine ⟨tensor, ?_, rfl, valid, holdsTruths_of_packs rfl count packs⟩
  have created : create dims .any (.bool packed) none = .ok tensor :=
    bind_eq_ok.2 ⟨⟨dims⟩, shaped, bind_eq_ok.2 ⟨(), valid, rfl⟩⟩
  unfold ofBools
  refine bind_eq_ok.2 ⟨⟨dims⟩, lift_eq_ok.2 shaped, guard_eq_ok.2 ⟨not_not.2 count.symm, ?_⟩⟩
  exact bind_eq_ok.2 ⟨packed, wrote, lift_eq_ok.2 created⟩

theorem ofBools_refused (values : List Bool) {dims : List Nat} (deep : maxRank < dims.length) :
    ∃ reason, ofBools values dims = .error (.refused (.invalidDescriptor reason)) := by
  have refused : Shape.ofDims dims = .error (.invalidDescriptor
      ("rank " ++ dims.length.repr ++ " exceeds maximum " ++ maxRank.repr)) := if_pos deep
  unfold ofBools
  rw [refused]
  exact ⟨_, rfl⟩

theorem Valid.exists_writeTruths [Host] (valid : tensor.Valid) (truths : tensor.elementType = .bool)
    {reals : Array Single} (size : reals.size = tensor.count) :
    ∃ written, tensor.writeSingles reals = .ok written ∧
      written = { tensor with buffer := written.buffer } ∧
      written.HoldsTruths (reals.toList.map fun value => value != 0) := by
  obtain ⟨written, stored⟩ := valid.exists_writeSingles size
  obtain ⟨packed, held⟩ := exists_packed truths
  have done := stored
  unfold writeSingles bufferOfSingles at done
  rw [guard_eq_ok] at done
  obtain ⟨_, done⟩ := done
  rw [held, bind_eq_ok] at done
  obtain ⟨buffer, wrote, same⟩ := done
  cases same
  obtain ⟨packed', put, rfl⟩ := map_eq_ok.1 wrote
  refine ⟨_, stored, rfl, holdsTruths_of_packs rfl ?_ (Buffer.packs_of_writeBits ?_ put)⟩
  · rw [List.length_map, Array.length_toList, size]
    rfl
  · rw [List.length_map, Array.length_toList, size]
    exact valid.sized.bits held

/-- Truth values are packed into any shape that a tensor may have, and no other. Real values are
stored as whether they are zero. Both are read back in order, and nothing else is left in the bytes,
so that tensors of the same truth values have the same bytes. -/
theorem truths_read_back [Host] :
    (∀ (values : List Bool) (dims : List Nat), volume dims = values.length →
      dims.length ≤ maxRank →
      ∃ tensor, ofBools values dims = .ok tensor ∧ tensor.shape = ⟨dims⟩ ∧ tensor.Valid ∧
        tensor.HoldsTruths values) ∧
    (∀ (values : List Bool) (dims : List Nat), maxRank < dims.length →
      ∃ reason, ofBools values dims = .error (.refused (.invalidDescriptor reason))) ∧
    (∀ (tensor : Tensor) (reals : Array Single), tensor.Valid → tensor.elementType = .bool →
      reals.size = tensor.count →
      ∃ written, tensor.writeSingles reals = .ok written ∧
        written = { tensor with buffer := written.buffer } ∧
        written.HoldsTruths (reals.toList.map fun value => value != 0)) ∧
    ∀ (first second : Tensor) (values values' : List Bool), first.HoldsTruths values →
      second.HoldsTruths values' → (∀ index, first.boolAt? index = second.boolAt? index) →
      first.buffer.bytes = second.buffer.bytes := by
  refine ⟨?_, ?_, ?_, ?_⟩
  · intro values dims count ranked
    exact exists_ofBools ranked count
  · intro values dims deep
    exact ofBools_refused values deep
  · intro tensor reals valid truths size
    exact valid.exists_writeTruths truths size
  · intro first second values values' holds holds' same
    rw [holds.eq_buffer holds' same]

def markedRow : Tensor := ⟨"", ⟨[3]⟩, .any, none, .scratch, .bool #[0xFF]⟩

/-- Two, a NaN and a negative zero overwrite the row as what it would be built of. -/
theorem markedRow_reads_back :
    markedRow.Valid ∧ ∃ built written,
      ofBools [true, true, false] [3] = .ok built ∧
      markedRow.writeSingles #[⟨0x40000000⟩, ⟨0x7FC00000⟩, ⟨0x80000000⟩] = .ok written ∧
      built.boolAt? 1 = .ok (some true) ∧ written.boolAt? 2 = .ok (some false) ∧
      written.boolAt? 3 = .ok none ∧ built.buffer.bytes = written.buffer.bytes := by
  obtain ⟨packs, _, writes, bytes⟩ := truths_read_back
  obtain ⟨built, done, _, _, holds⟩ := packs [true, true, false] [3] (by decide) (by decide)
  have valid : markedRow.Valid := by rfl
  obtain ⟨written, done', _, holds'⟩ :=
    writes markedRow #[⟨0x40000000⟩, ⟨0x7FC00000⟩, ⟨0x80000000⟩] valid rfl rfl
  have truths : (#[⟨0x40000000⟩, ⟨0x7FC00000⟩, ⟨0x80000000⟩] : Array Single).toList.map
      (fun value => value != 0) = [true, true, false] := by decide
  rw [truths] at holds'
  refine ⟨valid, built, written, done, done', holds.reads 1, holds'.reads 2, holds'.reads 3,
    bytes built written _ _ holds holds' fun index => ?_⟩
  rw [holds.reads, holds'.reads]

theorem deepTruth_is_refused :
    volume [1, 1, 1, 1, 1, 1, 1] = [true].length ∧
      ofBools [true] [1, 1, 1, 1, 1, 1, 1] =
        .error (.refused (.invalidDescriptor "rank 7 exceeds maximum 6")) :=
  ⟨rfl, rfl⟩

end Tensor

end TensorRuntime
