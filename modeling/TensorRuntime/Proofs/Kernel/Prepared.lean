import TensorRuntime.Kernel.FullyConnected
import TensorRuntime.Kernel.Normalization
import TensorRuntime.Proofs.Kernel.Calls
import TensorRuntime.Proofs.Kernel.Frames
import TensorRuntime.Proofs.Sizes

/-!
Calls that a prepared operator makes. Shape inference accepted them, every buffer has
the size that its shape needs, and derived state comes from inputs with the
signatures of the inputs at hand, whatever these held.
-/

namespace TensorRuntime

open Attempt

/-- What holds of a call when a prepared operator hands it to a kernel with a hook. -/
structure PreparedCall (hook : Precompute) (params : Params) (inputs : List Tensor)
    (output : Tensor) (derived : Option Derived) : Prop where
  inferred : params.outputShape inputs = .ok output.shape
  elementType : ∀ input others, inputs = input :: others → output.elementType = input.elementType
  sized : ∀ tensor ∈ output :: inputs, tensor.Sized
  primed : ∃ earlier, earlier.map Tensor.signature = inputs.map Tensor.signature ∧
    (∀ tensor ∈ earlier, tensor.Sized) ∧ hook params earlier = .ok derived

namespace PreparedCall

variable {hook : Precompute} {params : Params} {inputs : List Tensor} {output : Tensor}
  {derived : Option Derived}

theorem head (call : PreparedCall hook params inputs output derived) :
    ∃ input others, inputs = input :: others ∧ input.Sized ∧ output.Sized ∧
      output.elementType = input.elementType ∧
      params.outputShapeOf input others = .ok output.shape := by
  obtain ⟨input, others, rfl, _, _, inferred⟩ := Params.outputShape_eq_ok.1 call.inferred
  have inputSized : input.Sized := call.sized input (by simp)
  have outputSized : output.Sized := call.sized output (by simp)
  exact ⟨input, others, rfl, inputSized, outputSized, call.elementType input others rfl, inferred⟩

theorem seen (call : PreparedCall hook params inputs output derived) :
    ∃ earlier, hook params earlier = .ok derived ∧ earlier.length = inputs.length ∧
      ∀ (place : Nat) (tensor : Tensor), earlier[place]? = some tensor →
        ∃ operand, inputs[place]? = some operand ∧ tensor.signature = operand.signature ∧
          tensor.Sized := by
  obtain ⟨earlier, signatures, sized, hooked⟩ := call.primed
  refine ⟨earlier, hooked, by simpa using congrArg List.length signatures, ?_⟩
  intro place tensor found
  have same := congrArg (fun signatures => signatures[place]?) signatures
  simp only [List.getElem?_map, found, Option.map_some] at same
  obtain ⟨operand, present, signature⟩ := Option.map_eq_some_iff.1 same.symm
  exact ⟨operand, present, signature.symm, sized tensor (List.mem_of_getElem? found)⟩

end PreparedCall

theorem Tensor.dims_of_signature {first second : Tensor}
    (same : first.signature = second.signature) : first.dims = second.dims :=
  congrArg (fun signature => signature.shape.dims) same

theorem Tensor.singlesFor_eq_ok {tensor : Tensor} {routine : String} {values : Array Single} :
    tensor.singlesFor routine = .ok values ↔ tensor.buffer = .f32 values := by
  unfold singlesFor
  cases tensor.buffer <;> simp

theorem Tensor.storedFor_eq_ok {tensor : Tensor} {elementType : ElementType} {routine : String}
    {stored : Array Int} :
    tensor.storedFor elementType routine = .ok stored ↔
      tensor.elementType = elementType ∧ tensor.buffer.integers? = some stored := by
  unfold storedFor
  by_cases own : tensor.elementType = elementType
  · cases held : tensor.buffer.integers? <;> simp [own]
  · simp [own]

theorem Tensor.affineFor_eq {tensor : Tensor} {affine : Affine}
    (recorded : tensor.quantization = some (.perTensor affine)) (routine : String) :
    tensor.affineFor routine = .ok affine := by
  rw [affineFor, recorded]

theorem Tensor.quantization_of_affineFor {tensor : Tensor} {routine : String} {affine : Affine}
    (found : tensor.affineFor routine = .ok affine) :
    tensor.quantization = some (.perTensor affine) := by
  unfold affineFor at found
  split at found
  · cases found
    assumption
  · cases found
  · cases found

section FullyConnected

theorem TransposedWeights.ofTensor_eq_ok {weights : Tensor} {routine : String}
    {columns inner : Nat} {rest : List Nat} {transposed : TransposedWeights}
    (dims : weights.dims = columns :: inner :: rest)
    (done : ofTensor weights routine = .ok transposed) :
    transposed.columns = columns ∧ transposed.inner = inner ∧
      transposed.values.size = columns * inner := by
  unfold ofTensor at done
  rw [dims] at done
  simp only [bind_eq_ok, pure_eq_ok] at done
  obtain ⟨_, _, values, turned, rfl⟩ := done
  refine ⟨rfl, rfl, ?_⟩
  unfold transposeMatrix at turned
  split at turned
  · cases turned
  · exact size_of_tabulate turned

theorem transposeWeights_eq_ok {params : Params} {inputs : List Tensor} {derived : Option Derived}
    (hooked : transposeWeights params inputs = .ok derived) :
    ∃ weights transposed, inputs[1]? = some weights ∧
      TransposedWeights.ofTensor weights fullyConnectedRoutine = .ok transposed ∧
      derived = some (.transposedWeights transposed) := by
  unfold transposeWeights at hooked
  split at hooked
  · simp only [bind_eq_ok, lift_eq_ok, pure_eq_ok] at hooked
    obtain ⟨weights, found, transposed, turned, rfl⟩ := hooked
    exact ⟨weights, transposed, Call.input_eq_ok.1 found, turned, rfl⟩
  · cases hooked

theorem PreparedCall.layer {hook : Precompute} {activation : FusedActivation}
    {inputs : List Tensor} {output : Tensor} {derived : Option Derived}
    (call : PreparedCall hook (.fullyConnected activation) inputs output derived) :
    ∃ input weights rest rows inner columns,
      inputs = input :: weights :: rest ∧ input.dims = [rows, inner] ∧
      weights.dims = [columns, inner] ∧ output.dims = [rows, columns] ∧
      ∀ start, rest[0]? = some start → start.dims = [columns] := by
  obtain ⟨input, others, rfl, _, _, _, inferred⟩ := call.head
  obtain ⟨weights, rest, rfl, fits⟩ := Params.weights_of_fullyConnected inferred
  obtain ⟨rows, inner, columns, inputDims, weightDims, outputDims, biasDims⟩ :=
    fullyConnectedOutputShape_eq_ok fits
  exact ⟨input, weights, rest, rows, inner, columns, rfl, inputDims, weightDims, outputDims,
    biasDims⟩

theorem PreparedCall.transposed {activation : FusedActivation} {inputs : List Tensor}
    {output : Tensor} {derived : Option Derived}
    (call : PreparedCall transposeWeights (.fullyConnected activation) inputs output derived) :
    ∃ input weights rest rows inner columns transposed,
      inputs = input :: weights :: rest ∧ input.dims = [rows, inner] ∧
      weights.dims = [columns, inner] ∧ output.dims = [rows, columns] ∧
      (∀ start, rest[0]? = some start → start.dims = [columns]) ∧
      derived = some (.transposedWeights transposed) ∧ transposed.columns = columns ∧
      transposed.inner = inner ∧ transposed.values.size = columns * inner := by
  obtain ⟨input, weights, rest, rows, inner, columns, rfl, inputDims, weightDims, outputDims,
    biasDims⟩ := call.layer
  obtain ⟨earlier, hooked, _, seen⟩ := call.seen
  obtain ⟨earlierWeights, transposed, found, turned, rfl⟩ := transposeWeights_eq_ok hooked
  obtain ⟨operand, present, signature, _⟩ := seen 1 earlierWeights found
  cases present
  have dims : earlierWeights.dims = [columns, inner] :=
    (Tensor.dims_of_signature signature).trans weightDims
  obtain ⟨sameColumns, sameInner, size⟩ := TransposedWeights.ofTensor_eq_ok dims turned
  exact ⟨input, weights, rest, rows, inner, columns, transposed, rfl, inputDims, weightDims,
    outputDims, biasDims, rfl, sameColumns, sameInner, size⟩

end FullyConnected

section BatchNorm

theorem foldBatchNorm_params {params : Params} {inputs : List Tensor} {derived : Option Derived}
    (hooked : foldBatchNorm params inputs = .ok derived) :
    ∃ epsilon, params = .batchNorm epsilon := by
  unfold foldBatchNorm foldInputs at hooked
  cases params with
  | batchNorm epsilon => exact ⟨epsilon, rfl⟩
  | _ => cases hooked

end BatchNorm

end TensorRuntime
