import TensorRuntime.Proofs.Kernel.ConvolutionReads
import TensorRuntime.Proofs.Kernel.Safety.Accelerator
import TensorRuntime.Proofs.Refusals

/-!
What the accelerator stages. Every weight is centred on the zero point of its output channel and
stays where the packed order has it; signed bytes and their zero points are so small that the 16
bits of a centred weight hold the difference.
-/

namespace TensorRuntime

open Attempt

theorem Tensor.Valid.validated {weights : Tensor} (valid : weights.Valid)
    (bytes : weights.elementType = .i8) {routine : String} {record : Quantization}
    (recorded : weights.weightRecord routine = .ok record) :
    record.validate .i8 weights.dims = .ok () := by
  obtain ⟨own, present, checked⟩ := valid.record (by rw [bytes]; rfl)
  cases (Tensor.weightRecord_eq_ok recorded).1.symm.trans present
  rwa [bytes] at checked

theorem Tensor.weightRecord_of_outermost {weights : Tensor} {record : Quantization}
    (recorded : weights.quantization = some record)
    (outermost : ∀ axis, record.axis? = some axis → axis = 0) (routine : String) :
    weights.weightRecord routine = .ok record := by
  unfold weightRecord
  rw [recorded]
  dsimp only
  split
  · rename_i axis inner
    cases outermost _ inner
  · rfl

theorem Tensor.Valid.exists_bytes {tensor : Tensor} (valid : tensor.Valid)
    (bytes : tensor.elementType = .i8) :
    ∃ stored, tensor.buffer.integers? = some stored ∧ stored.size = tensor.count := by
  have integer : tensor.buffer.elementType.isInteger = true := by
    rw [show tensor.buffer.elementType = .i8 from bytes]
    rfl
  obtain ⟨stored, held⟩ := Buffer.exists_integers integer
  exact ⟨stored, held, valid.sized.stored held⟩

theorem Tensor.bytes_bounds {tensor : Tensor} {stored : Array Int}
    (bytes : tensor.elementType = .i8) (held : tensor.buffer.integers? = some stored)
    (index : Nat) : -128 ≤ stored.getD index 0 ∧ stored.getD index 0 ≤ 127 := by
  have ranged : tensor.buffer.elementType.intRange? = some (-128, 127) := by
    rw [show tensor.buffer.elementType = .i8 from bytes]
    rfl
  by_cases bound : index < stored.size
  · rw [Array.getD, dif_pos bound]
    exact Buffer.inRange_of_integers? held ranged _ (Array.getElem_mem bound)
  · rw [Array.getD, dif_neg bound]
    decide

namespace StagedWeights

/-- Staged weights are the weights at hand, centred and packed, with the scales of their record and
the real values of their bias. -/
structure Centres (staged : StagedWeights) (kernel : Array Int) (record : Quantization)
    (starts : Option (Array Single)) (outs ins height width : Nat) : Prop
    extends staged.HasExtents outs ins height width where
  starts_eq : staged.bias = starts
  paired : ∀ outChannel < outs, ∃ affine, record.affineOf outChannel = .ok affine ∧
    staged.scales[outChannel]? = some affine.scale ∧
    ∀ row < height, ∀ column < width, ∀ channel < ins,
      let weight := kernel.getD (((outChannel * ins + channel) * height + row) * width + column) 0 -
        affine.zeroPoint
      staged.centered[((outChannel * height + row) * width + column) * ins + channel]? =
          some weight ∧ -255 ≤ weight ∧ weight ≤ 255

variable {outs ins height width : Nat}

theorem stage_gathers {kernel : Array Int} (size : kernel.size = outs * ins * height * width) :
    (repack kernel 0 (outs * (ins * height * width)) fun index =>
      ((index / (ins * height * width) * ins + index % ins) * height +
        index / ins / width % height) * width + index / ins % width) =
      .ok (arrayOf kernel.size fun index =>
        kernel.getD (unpackedPlace ins height width index) 0) := by
  have whole : outs * (ins * height * width) = kernel.size := by
    rw [size]
    ac_rfl
  have source (index : Nat) :
      ((index / (ins * height * width) * ins + index % ins) * height +
        index / ins / width % height) * width + index / ins % width =
        unpackedPlace ins height width index := by
    have split : index / (ins * height * width) = index / ins / width / height := by
      rw [Nat.div_div_eq_div_mul, Nat.div_div_eq_div_mul]
      congr 1
      ac_rfl
    rw [split]
    rfl
  rw [whole]
  simp only [source]
  apply repack_getD
  intro index bound
  rw [size] at bound ⊢
  exact unpackedPlace_lt bound

theorem packed_channel {outChannel row column channel : Nat} (rowBound : row < height)
    (columnBound : column < width) (bound : channel < ins) :
    (((outChannel * height + row) * width + column) * ins + channel) / (ins * height * width) =
      outChannel := by
  have split : ins * height * width = ins * (width * height) := by ac_rfl
  rw [split, ← Nat.div_div_eq_div_mul, place_div bound, ← Nat.div_div_eq_div_mul,
    place_div columnBound, place_div rowBound]

theorem packed_lt {outChannel row column channel : Nat} (outBound : outChannel < outs)
    (rowBound : row < height) (columnBound : column < width) (bound : channel < ins) :
    ((outChannel * height + row) * width + column) * ins + channel < outs * ins * height * width :=
  Nat.lt_of_lt_of_le (Nat.add_lt_add_left bound _) (packed_run_le outBound rowBound columnBound)

theorem outer_of_extents {op : AcceleratorOp} {dims : List Nat}
    (found : extents op dims = .ok (outs, ins, height, width)) : ∃ inner, dims = outs :: inner := by
  unfold extents at found
  split at found
  · cases found
    exact ⟨_, rfl⟩
  · cases found
    exact ⟨_, rfl⟩
  · cases found

theorem centres_of_stage [Host] {op : AcceleratorOp} {weights : Tensor} {bias : Option Tensor}
    {routine : String} {staged : StagedWeights} (valid : weights.Valid)
    (found : extents op weights.dims = .ok (outs, ins, height, width))
    (count : weights.count = outs * ins * height * width)
    (biasDims : ∀ start, bias = some start → start.dims = [outs])
    (done : stage op weights bias routine = .ok staged) :
    ∃ kernel record starts, weights.elementType = .i8 ∧
      weights.buffer.integers? = some kernel ∧ weights.weightRecord routine = .ok record ∧
      realBias bias = .ok starts ∧ staged.Centres kernel record starts outs ins height width := by
  have has := hasExtents_of_stage valid.sized found count biasDims done
  unfold stage at done
  rw [found] at done
  simp only [bind_eq_ok, lift_eq_ok, pure_eq_ok] at done
  obtain ⟨_, _, record, recorded, kernel, read, _, same, affines, listed, unpacked, repacked,
    starts, biasRead, rfl⟩ := done
  cases same
  obtain ⟨bytes, held⟩ := Tensor.storedFor_eq_ok.1 read
  have size : kernel.size = outs * ins * height * width :=
    (valid.sized.stored held).trans count
  refine ⟨kernel, record, starts, bytes, held, recorded, biasRead, has, rfl, ?_⟩
  intro outChannel outBound
  obtain ⟨inner, dims⟩ := outer_of_extents found
  obtain ⟨affine, paired⟩ :=
    valid.affineOf_weight (by rw [bytes]; rfl) recorded dims outBound
  have present : affines[outChannel]? = some affine := by
    have here := congrArg (fun items => items[outChannel]?) (mapM_eq_ok.1 listed)
    simp only [List.getElem?_map, List.getElem?_range outBound, Option.map_some, paired] at here
    obtain ⟨own, found, same⟩ := Option.map_eq_some_iff.1 here.symm
    cases same
    exact found
  refine ⟨affine, paired, by simp [present], ?_⟩
  intro row rowBound column columnBound channel bound weight
  have inside := packed_lt outBound rowBound columnBound bound
  have inRange : ((outChannel * height + row) * width + column) * ins + channel <
      outs * (ins * height * width) := by
    rw [show outs * (ins * height * width) = outs * ins * height * width by ac_rfl]
    exact inside
  have zero : (affines.map Affine.zeroPoint).toArray.getD outChannel 0 = affine.zeroPoint := by
    simp [present]
  obtain ⟨_, zeroLow, zeroHigh⟩ := Affine.check_eq_ok (Quantization.check_of_affineOf rfl
    (valid.validated bytes recorded) paired)
  obtain ⟨low, high⟩ := Tensor.bytes_bounds bytes held
    (((outChannel * ins + channel) * height + row) * width + column)
  have narrow : weight.bmod (1 <<< 16) = weight :=
    Int.bmod_eq_of_le_mul_two (by omega) (by omega)
  cases (stage_gathers size).symm.trans repacked
  refine ⟨?_, by omega, by omega⟩
  rw [Array.getElem?_mapIdx, arrayOf_getElem? _ (size ▸ inside), Option.map_some,
    if_pos inRange, packed_channel rowBound columnBound bound, zero,
    unpackedPlace_run bound rowBound columnBound]
  exact congrArg some narrow

theorem exists_stage [Host] {op : AcceleratorOp} {weights : Tensor} {bias : Option Tensor}
    {routine : String} {record : Quantization} {starts : Option (Array Single)}
    (valid : weights.Valid) (bytes : weights.elementType = .i8)
    (recorded : weights.weightRecord routine = .ok record)
    (found : extents op weights.dims = .ok (outs, ins, height, width))
    (count : weights.count = outs * ins * height * width)
    (biasRead : realBias bias = .ok starts) :
    ∃ staged, stage op weights bias routine = .ok staged := by
  obtain ⟨kernel, held, size⟩ := valid.exists_bytes bytes
  obtain ⟨inner, dims⟩ := outer_of_extents found
  obtain ⟨affines, listed⟩ := exists_mapM fun outChannel member =>
    valid.affineOf_weight (by rw [bytes]; rfl) recorded dims (List.mem_range.1 member)
  unfold stage
  simp only [bind_eq_ok, lift_eq_ok]
  exact ⟨_, (), if_pos bytes, record, recorded, kernel, Tensor.storedFor_eq_ok.2 ⟨bytes, held⟩, _,
    found, affines, listed, _, stage_gathers (size.trans count), starts, biasRead, rfl⟩

end StagedWeights

end TensorRuntime
