import TensorRuntime.Proofs.Kernel.Movement
import TensorRuntime.Proofs.Operator.Admission
import TensorRuntime.Proofs.Records

/-!
Moving quantized elements under one record. A reshape or a transpose whose tensors have
equal records moves stored integers. An element keeps its scale and zero point, and so
its real value, where the move keeps the channels of the record in place.
-/

namespace TensorRuntime

open Attempt

namespace Params

def Moves : Params → Prop
  | reshape _ | transpose _ => True
  | _ => False

/-- The stored position that an operator which moves elements reads for a position of its output. -/
def sourceOf (params : Params) (dims : List Nat) (position : Nat) : Nat :=
  match params with
  | transpose permutation => transposeSource dims permutation position
  | _ => position

/-- The channels of a record lie on the same elements before and after a move: the record is for the
whole tensor, or its axis stays where it is. -/
def KeepsChannels (params : Params) (record : Quantization) (dims outDims : List Nat) : Prop :=
  match record.axis?, params with
  | none, _ => True
  | some axis, transpose permutation => permutation[axis]? = some axis
  | some axis, _ => volume (outDims.drop (axis + 1)) = volume (dims.drop (axis + 1))

theorem count_of_moves {params : Params} {input : Tensor} {shape : Shape} (moves : params.Moves)
    (inferred : params.outputShape [input] = .ok shape) : shape.count = input.count := by
  cases params with
  | reshape => exact Shape.count_of_reshape? (reshape?_of_reshape [] inferred)
  | transpose =>
      obtain ⟨order, dims⟩ := order_of_transpose [] inferred
      change volume shape.dims = _
      rw [dims]
      exact volume_permuted order
  | _ => cases moves

theorem KeepsChannels.channelOf {params : Params} {record : Quantization} {input output : Tensor}
    (moves : params.Moves) (keeps : params.KeepsChannels record input.dims output.dims)
    (inferred : params.outputShape [input] = .ok output.shape)
    (checked : record.validate input.elementType input.dims = .ok ())
    (outChecked : record.validate output.elementType output.dims = .ok ())
    (positive : 0 ∉ input.dims) (outPositive : 0 ∉ output.dims) (position : Nat) :
    record.channelOf output.dims position =
      record.channelOf input.dims (params.sourceOf input.dims position) := by
  cases record with
  | perTensor => rfl
  | perChannel scales zeroPoints axis =>
      obtain ⟨extent, found, size, _⟩ := Quantization.sizes_of_validate checked
      obtain ⟨outExtent, outFound, outSize, _⟩ := Quantization.sizes_of_validate outChecked
      have along : (Quantization.perChannel scales zeroPoints axis).axis? = some axis := rfl
      cases params with
      | reshape target =>
          have after : volume (output.dims.drop (axis + 1)) = volume (input.dims.drop (axis + 1)) :=
            keeps
          unfold Quantization.channelOf Quantization.axis?
          dsimp only [sourceOf]
          rw [found, outFound, after, ← size, ← outSize]
      | transpose permutation =>
          have kept : permutation[axis]? = some axis := keeps
          obtain ⟨order, dims⟩ := order_of_transpose [] inferred
          have inside := (List.getElem?_eq_some_iff.1 found).1
          have outInside := (List.getElem?_eq_some_iff.1 outFound).1
          have source := (coordinates_transposeSource order positive position).2 axis axis kept
          rw [Quantization.channelOf_eq along positive inside, ← dims] at source
          have target := Quantization.channelOf_eq along outPositive outInside position
          exact Option.some.inj (target.symm.trans source.symm)
      | _ => cases moves

end Params

section

variable [Host]

namespace Registry

theorem kernelFor_reshape (elementType : ElementType) :
    Registry.default.kernelFor ⟨.reshape, elementType, .reference⟩ = some reshapeKernel := by
  apply kernelFor_default <;>
    cases elementType <;> simp [Catalogue.kernelsOf, Catalogue.scalarKernels, ElementType.all]

theorem kernelFor_transpose (elementType : ElementType) :
    Registry.default.kernelFor ⟨.transpose, elementType, .reference⟩ = some transposeKernel := by
  apply kernelFor_default <;>
    cases elementType <;> simp [Catalogue.kernelsOf, Catalogue.scalarKernels, ElementType.all]

end Registry

namespace Operator

variable {operator : Operator} {backend : Backend} {input output : Tensor}

theorem native_of_kernelFor {op : OpKind} {inputs outputs : List Tensor} {requested : Resolution}
    {kernel own : Kernel} (classified : operator.params.classify inputs = .ok op)
    (primary : inputs.head? = some input)
    (listed : Registry.default.kernelFor ⟨op, input.elementType, backend⟩ = some own)
    (planned : operator.plan Registry.default backend inputs outputs =
      .ok (requested, kernel, .capture kernel inputs outputs)) :
    requested.path = .native ∧ kernel = own := by
  obtain ⟨_, resolved, found, _⟩ := plan_eq_ok planned
  obtain ⟨_, _, _, _, _, _, _, classified', rfl, chosen, _, _, rfl⟩ :=
    Registry.resolve_eq_ok.1 resolved
  cases classified.symm.trans classified'
  cases primary
  unfold Registry.kernelFor at listed
  obtain ⟨id, lookup, there⟩ := Option.bind_eq_some_iff.1 listed
  rw [Registry.choose_native lookup] at chosen
  cases chosen
  exact ⟨rfl, Option.some.inj (found.symm.trans there)⟩

theorem run_moves (moves : operator.params.Moves) (integer : input.elementType.isInteger = true)
    (valid : input.Valid) (outputValid : output.Valid)
    (records : Quantization.sameOption input.quantization output.quantization = true)
    {requested : Resolution} {kernel : Kernel} (derived : Option Derived)
    (planned : operator.plan Registry.default .reference [input] [output] =
      .ok (requested, kernel, .capture kernel [input] [output])) :
    requested.path = .native ∧ ∃ written,
      kernel.run ⟨operator.params, [input], [output], derived⟩ = ⟨[written], .ok ()⟩ ∧
        written.frame = output.frame ∧
        written.StoresMoved input (operator.params.sourceOf input.dims) := by
  obtain ⟨inferred, sameType⟩ := accepted_of_checkOutputs (plan_eq_ok planned).1
  have sized : (Call.mk operator.params [input] [output] derived).Sized := by
    intro tensor member
    rcases List.mem_pair.1 member with rfl | rfl
    · exact valid.sized
    · exact outputValid.sized
  cases params : operator.params with
  | reshape target =>
      rw [params] at inferred sized
      obtain ⟨native, rfl⟩ := native_of_kernelFor (by rw [params]; rfl) rfl
        (Registry.kernelFor_reshape input.elementType) planned
      obtain ⟨written, done, stores⟩ := reshapeBody_moves derived integer sameType valid.sized
        (Params.reshape?_of_reshape [] inferred) records
      obtain ⟨_, first, frame⟩ := reshapeBody_fits sized done
      cases first
      exact ⟨native, written, Kernel.run_ofBody_ok done, frame, stores⟩
  | transpose permutation =>
      rw [params] at inferred
      obtain ⟨native, rfl⟩ := native_of_kernelFor (by rw [params]; rfl) rfl
        (Registry.kernelFor_transpose input.elementType) planned
      obtain ⟨order, dims⟩ := Params.order_of_transpose [] inferred
      obtain ⟨written, done, stores⟩ := transposeBody_moves derived integer sameType valid.sized
        outputValid.sized order dims records
      obtain ⟨_, first, frame⟩ := transposeBody_fits done
      cases first
      exact ⟨native, written, Kernel.run_ofBody_ok done, frame, stores⟩
  | _ =>
      rw [params] at moves
      cases moves

/-- A reshape or a transpose of an integer tensor on the scalar backend, into a tensor with an equal
record, succeeds and stores every integer at the position that its element moves to. Where the move
keeps the channels of the record, every element also keeps its scale and zero point. -/
theorem move_keeps_stored_integers (moves : operator.params.Moves)
    (integer : input.elementType.isInteger = true) (valid : input.Valid)
    (outputValid : output.Valid)
    (records : Quantization.sameOption input.quantization output.quantization = true)
    (prepared : (operator.renewed.prepare Registry.default .reference [input] [output]
      .empty).outcome = .ok ()) :
    let result := operator.freshRun Registry.default .reference [input] [input] [output]
    let source := operator.params.sourceOf input.dims
    result.outcome = .ok () ∧ ∃ written record,
      result.outputs = [written] ∧ written.frame = output.frame ∧
      input.quantization = some record ∧ written.quantization = some record ∧
      written.StoresMoved input source ∧
      (∀ permutation, operator.params = .transpose permutation →
        ∀ position < output.count, ∀ place axis : Nat, permutation[place]? = some axis →
          (Shape.coordinates input.dims (source position))[axis]? =
            (Shape.coordinates output.dims position)[place]?) ∧
      (operator.params.KeepsChannels record input.dims output.dims →
        ∀ position < output.count, ∃ affine,
          record.affineOf (record.channelOf output.dims position) = .ok affine ∧
            record.affineOf (record.channelOf input.dims (source position)) = .ok affine) := by
  intro result source
  obtain ⟨requested, kernel, derived, planned, hooked⟩ := planned_of_prepare prepared
  obtain ⟨native, written, ran, frame, stores⟩ :=
    run_moves moves integer valid outputValid records derived planned
  obtain ⟨inferred, sameType⟩ := accepted_of_checkOutputs (plan_eq_ok planned).1
  have tensors : ∀ tensor ∈ [input] ++ [output], tensor.Valid := by
    intro tensor member
    rcases List.mem_pair.1 member with rfl | rfl
    · exact valid
    · exact outputValid
  obtain ⟨outputs, outcome⟩ := freshRun_eq planned hooked rfl
    (fun tensor member => (tensors tensor member).usable)
    fun tensor member => (tensors tensor member).sized
  rw [native] at outputs outcome
  rw [show (operator.runKernel kernel .native derived [input] [output] .empty).2 =
    ⟨[written], .ok ()⟩ from ran] at outputs outcome
  obtain ⟨record, recorded, checked⟩ := valid.record integer
  have outRecorded : output.quantization = some record :=
    (Quantization.eq_of_sameOption valid.usable outputValid.usable records).symm.trans recorded
  obtain ⟨_, outRecorded', outChecked⟩ := outputValid.record (sameType ▸ integer)
  cases outRecorded.symm.trans outRecorded'
  have writtenRecorded : written.quantization = some record :=
    (congrArg Signature.quantization (Tensor.signature_of_frame frame)).trans outRecorded
  have positive : ∀ position < output.count, 0 ∉ input.dims ∧ 0 ∉ output.dims := by
    intro position bound
    have counts : output.count = input.count := Params.count_of_moves moves inferred
    exact ⟨Shape.volume_pos.1 (Nat.zero_lt_of_lt (counts ▸ bound)),
      Shape.volume_pos.1 (Nat.zero_lt_of_lt bound)⟩
  refine ⟨outcome rfl, written, record, outputs, frame, recorded, writtenRecorded, stores, ?_, ?_⟩
  · intro permutation params position bound place axis moved
    rw [params] at inferred
    obtain ⟨order, dims⟩ := Params.order_of_transpose [] inferred
    have coordinates := (coordinates_transposeSource order (positive position bound).1 position).2
      place axis moved
    rw [← dims] at coordinates
    have own : source = transposeSource input.dims permutation := by
      simp only [source, params]
      rfl
    rw [own]
    exact coordinates
  · intro keeps position bound
    obtain ⟨affine, found⟩ :=
      Quantization.affineOf_channelOf outChecked (positive position bound).2 position
    refine ⟨affine, found, ?_⟩
    rw [← keeps.channelOf moves inferred checked outChecked (positive position bound).1
      (positive position bound).2 position]
    exact found

end Operator

end

namespace Operator

def twoScales : Quantization := .perChannel #[⟨0x3F800000⟩, ⟨0x40000000⟩] #[0, 0] 0

def twoChannels (name : String) (dims : List Nat) (values : Array Int8) : Tensor :=
  ⟨name, ⟨dims⟩, .any, some twoScales, .external, .i8 values⟩

def innerTurn : Operator := create "turn" (.transpose [0, 2, 1]) .untilRelease true

theorem innerTurn_keeps_stored_integers :
    innerTurn.params.KeepsChannels twoScales [2, 1, 2] [2, 2, 1] ∧
      (innerTurn.freshRun Registry.default .reference [twoChannels "x" [2, 1, 2] #[1, 2, 3, 4]]
        [twoChannels "x" [2, 1, 2] #[1, 2, 3, 4]]
        [twoChannels "y" [2, 2, 1] #[0, 0, 0, 0]]).outcome = .ok () := by
  have moves : innerTurn.params.Moves := trivial
  exact ⟨rfl, (move_keeps_stored_integers moves rfl (by rfl) (by rfl) (by decide +kernel)
    (eq_ok_of_toBool (by decide +kernel))).1⟩

def outerTurn : Operator := create "turn" (.transpose [1, 0]) .untilRelease true

/-- Under a record along the outermost axis, a transpose of a matrix gives elements another scale:
the integers are moved as they are, and half of the real values change. -/
theorem outerTurn_changes_scales :
    ¬ ∀ (operator : Operator) (input output : Tensor), operator.params.Moves →
      input.elementType.isInteger = true → input.Valid → output.Valid →
      Quantization.sameOption input.quantization output.quantization = true →
      (operator.renewed.prepare Registry.default .reference [input] [output]
        .empty).outcome = .ok () →
      ∃ written record,
        (operator.freshRun Registry.default .reference [input] [input] [output]).outputs =
          [written] ∧
        input.quantization = some record ∧ written.quantization = some record ∧
        written.StoresMoved input (operator.params.sourceOf input.dims) ∧
        ∀ position < output.count,
          record.affineOf (record.channelOf output.dims position) =
            record.affineOf
              (record.channelOf input.dims (operator.params.sourceOf input.dims position)) := by
  intro always
  obtain ⟨_, record, _, recorded, _, _, kept⟩ := always outerTurn
    (twoChannels "x" [2, 2] #[4, 4, 4, 4]) (twoChannels "y" [2, 2] #[0, 0, 0, 0]) trivial rfl
    (by rfl) (by rfl) (by decide +kernel) (eq_ok_of_toBool (by decide +kernel))
  cases recorded
  have scales := congrArg (fun pair : Attempt Affine => pair.toOption.map fun affine =>
    affine.scale.bits) (kept 1 (by decide))
  revert scales
  decide +kernel

end Operator

end TensorRuntime
