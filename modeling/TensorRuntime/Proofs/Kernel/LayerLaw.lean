import TensorRuntime.Proofs.Kernel.Agreement
import TensorRuntime.Proofs.Kernel.ProductOrder

/-!
The law of fully connected layers. A tiled product gives every cell the sum of the plain loop, so
that a layer gives the sums over its weights as the caller holds them, each with its terms in the
order of the inner index.
-/

namespace TensorRuntime

open Attempt

/-- What the tensors of a fully connected layer hold, with inputs `[rows, inner]` and weights
`[columns, inner]`. -/
structure LayerOperands (rows inner columns : Nat) (input weights : Tensor) (rest : List Tensor)
    (values kernel : Array Single) (bias : Option (Array Single)) : Prop where
  inputDims : input.dims = [rows, inner]
  weightDims : weights.dims = [columns, inner]
  valuesHeld : input.buffer = .f32 values
  kernelHeld : weights.buffer = .f32 kernel
  biasHeld : rest[0]?.map Tensor.buffer = bias.map .f32
  valuesSize : values.size = rows * inner
  kernelSize : kernel.size = columns * inner
  biasSize : ∀ start, bias = some start → start.size = columns

def layerCell (activation : FusedActivation) (inner : Nat) (values kernel : Array Single)
    (bias : Option (Array Single)) (row column : Nat) : Single :=
  activation.apply ((List.range inner).foldl
    (fun sum index => sum + elementAt values (row * inner + index) *
      elementAt kernel (column * inner + index))
    (bias.elim 0 fun start => elementAt start column))

section Parts

variable {rows inner columns : Nat} {values kernel : Array Single} {bias : Option (Array Single)}

def turnedWeights (columns inner : Nat) (kernel : Array Single) : TransposedWeights :=
  ⟨inner, columns, arrayOf (columns * inner) fun index =>
    elementAt kernel (index % columns * inner + index / columns)⟩

theorem transposeMatrix_eq (wide : 0 < columns) (size : kernel.size = columns * inner) :
    transposeMatrix kernel columns inner = .ok (turnedWeights columns inner kernel).values := by
  unfold transposeMatrix
  rw [if_neg (by omega)]
  refine tabulate_of_ok fun index bound => readAt_elementAt ?_
  rw [size]
  have row : index / columns < inner :=
    (Nat.div_lt_iff_lt_mul wide).2 (Nat.mul_comm columns inner ▸ bound)
  exact place_lt (Nat.mod_lt _ wide) row

theorem elementAt_turnedWeights {index column : Nat} (indexBound : index < inner)
    (columnBound : column < columns) :
    elementAt (turnedWeights columns inner kernel).values (index * columns + column) =
      elementAt kernel (column * inner + index) := by
  have inside : index * columns + column < columns * inner :=
    Nat.mul_comm inner columns ▸ place_lt indexBound columnBound
  rw [turnedWeights, elementAt_arrayOf _ inside, place_mod columnBound, place_div columnBound]

theorem startRows_eq {old : Array Single} (wide : 0 < columns)
    (biasSize : ∀ start, bias = some start → start.size = columns)
    (size : old.size = rows * columns) :
    startRows bias columns old =
      .ok (arrayOf (rows * columns) fun index =>
        bias.elim 0 fun start => elementAt start (index % columns)) := by
  unfold startRows
  rw [size, Nat.mul_div_cancel _ wide]
  refine bind_eq_ok.2 ⟨(), nonzero_of_pos wide, tabulate_of_ok fun index bound => ?_⟩
  rw [if_pos bound]
  cases bias with
  | none => rfl
  | some start =>
      have own := biasSize start rfl
      dsimp only
      rw [if_pos own]
      refine readAt_elementAt ?_
      rw [own]
      exact Nat.mod_lt _ wide

theorem productCell_turnedWeights {row column : Nat} (columnBound : column < columns)
    (start : Single) :
    productCell (fun sum left right => sum + left * right) columns inner values
        (turnedWeights columns inner kernel).values row column start =
      (List.range inner).foldl (fun sum index => sum + elementAt values (row * inner + index) *
        elementAt kernel (column * inner + index)) start := by
  unfold productCell
  refine List.foldl_ext _ _ _ fun sum index member => ?_
  rw [elementAt_turnedWeights (List.mem_range.1 member) columnBound]

theorem fullyConnectedInto_cells {old : Array Single} (activation : FusedActivation)
    (wide : 0 < columns) (valuesSize : values.size = rows * inner)
    (biasSize : ∀ start, bias = some start → start.size = columns)
    (size : old.size = rows * columns) :
    ∃ written, fullyConnectedInto accumulateProduct values (turnedWeights columns inner kernel) bias
        activation old rows = .ok written ∧ written.size = rows * columns ∧
      ∀ row < rows, ∀ column < columns, written[row * columns + column]? =
        some (layerCell activation inner values kernel bias row column) := by
  have turnedSize : (turnedWeights columns inner kernel).values.size = inner * columns :=
    (size_of_arrayOf _ _).trans (Nat.mul_comm columns inner)
  obtain ⟨sums, done, sumsSize, cells⟩ := accumulateTerms_cells
    (fun sum left right => sum + left * right) valuesSize turnedSize
    (size_of_arrayOf (rows * columns) fun index =>
      bias.elim 0 fun start => elementAt start (index % columns))
    (fun _ => bounds_of_productSteps) fun _ rowBound _ columnBound =>
      filter_productSteps rowBound columnBound
  refine ⟨sums.map activation.apply, ?_, by simpa using sumsSize,
    fun row rowBound column bound => ?_⟩
  · exact bind_eq_ok.2 ⟨_, startRows_eq wide biasSize size, bind_eq_ok.2 ⟨sums, done, rfl⟩⟩
  · rw [Array.getElem?_map, cells row rowBound column bound, productCell_turnedWeights bound,
      elementAt_arrayOf _ (place_lt rowBound bound), place_mod bound]
    rfl

end Parts

namespace LayerOperands

variable {rows inner columns : Nat} {input weights output : Tensor} {rest : List Tensor}
  {values kernel : Array Single} {bias : Option (Array Single)} {derived : Option Derived}

theorem exists_operands {activation : FusedActivation} {inputs : List Tensor}
    (inferred : (Params.fullyConnected activation).outputShape inputs = .ok output.shape)
    (valid : ∀ tensor ∈ inputs, tensor.Valid)
    (singles : ∀ tensor ∈ inputs, tensor.elementType = .f32) :
    ∃ rows inner columns input weights rest values kernel bias,
      inputs = input :: weights :: rest ∧ output.dims = [rows, columns] ∧
      LayerOperands rows inner columns input weights rest values kernel bias := by
  obtain ⟨input, others, rfl, _, _, accepted⟩ := Params.outputShape_eq_ok.1 inferred
  obtain ⟨weights, rest, rfl, fits⟩ := Params.weights_of_fullyConnected accepted
  obtain ⟨rows, inner, columns, inputDims, weightDims, outputDims, biasDims⟩ :=
    fullyConnectedOutputShape_eq_ok fits
  have held tensor (member : tensor ∈ input :: weights :: rest) :=
    (valid tensor member).singles (singles tensor member)
  obtain ⟨values, valuesHeld, valuesSize⟩ := held input (by simp)
  obtain ⟨kernel, kernelHeld, kernelSize⟩ := held weights (by simp)
  obtain ⟨bias, biasHeld, biasSize⟩ := exists_biasHeld
    (fun start found => valid start (by simp [List.mem_of_getElem? found]))
    (fun start found => singles start (by simp [List.mem_of_getElem? found])) biasDims
  exact ⟨rows, inner, columns, input, weights, rest, values, kernel, bias, rfl, outputDims,
    inputDims, weightDims, valuesHeld, kernelHeld, biasHeld,
    valuesSize.trans (Tensor.count_of_matrix inputDims),
    kernelSize.trans (Tensor.count_of_matrix weightDims), biasSize⟩

theorem ofTensor_eq
    (operands : LayerOperands rows inner columns input weights rest values kernel bias)
    (wide : 0 < columns) (routine : String) :
    TransposedWeights.ofTensor weights routine = .ok (turnedWeights columns inner kernel) := by
  unfold TransposedWeights.ofTensor
  rw [operands.weightDims]
  dsimp only
  rw [Tensor.singlesFor_eq operands.kernelHeld]
  exact bind_eq_ok.2 ⟨kernel, rfl,
    bind_eq_ok.2 ⟨_, transposeMatrix_eq wide operands.kernelSize, rfl⟩⟩

theorem hook_eq (operands : LayerOperands rows inner columns input weights rest values kernel bias)
    (wide : 0 < columns) (activation : FusedActivation) :
    fullyConnectedKernel.precompute (.fullyConnected activation) (input :: weights :: rest) =
      .ok (some (.transposedWeights (turnedWeights columns inner kernel))) :=
  bind_eq_ok.2 ⟨weights, rfl, bind_eq_ok.2 ⟨_, operands.ofTensor_eq wide _, rfl⟩⟩

theorem fullyConnectedBody_cells
    (operands : LayerOperands rows inner columns input weights rest values kernel bias)
    (wide : 0 < columns) (activation : FusedActivation) (valid : output.Valid)
    (single : output.elementType = .f32) (dims : output.dims = [rows, columns])
    (primed : derived = none ∨
      derived = some (.transposedWeights (turnedWeights columns inner kernel))) :
    ∃ written, fullyConnectedBody fullyConnectedRoutine accumulateProduct
        ⟨.fullyConnected activation, input :: weights :: rest, [output], derived⟩ =
          .ok (output.withSingles written) ∧ written.size = rows * columns ∧
      ∀ row < rows, ∀ column < columns, written[row * columns + column]? =
        some (layerCell activation inner values kernel bias row column) := by
  obtain ⟨old, held, oldSize⟩ := valid.singles single
  obtain ⟨written, done, size, cells⟩ := fullyConnectedInto_cells activation wide
    operands.valuesSize operands.biasSize (oldSize.trans (Tensor.count_of_matrix dims))
  refine ⟨written, ?_, size, cells⟩
  unfold fullyConnectedBody
  simp only [bind_eq_ok, lift_eq_ok]
  refine ⟨input, rfl, weights, rfl, bias, biasFor_of_held operands.biasHeld _,
    turnedWeights columns inner kernel,
    derivedOr_eq rfl (operands.ofTensor_eq wide _) primed, ?_⟩
  rw [operands.inputDims]
  simp only [bind_eq_ok, lift_eq_ok, map_eq_ok]
  exact ⟨values, Tensor.singlesFor_eq operands.valuesHeld _, ⟨output, old⟩,
    Call.singleOutput_eq held _, written, done, rfl⟩

end LayerOperands

/-- The law of matrix products and of the layers made of them. For all sizes the terms of a cell
come in the order of the inner index, so that the tiled loop writes what the plain loop writes,
whatever the arithmetic of singles; multiplied and added, this is the product that the kernel takes.
Every accepted layer with outputs, with its weights transposed before or not, then writes for each
input and each output the sum over the weights as they were, with the bias before the first term and
the activation after the last. -/
theorem products_add_in_order :
    (∀ {rows columns inner : Nat} {first second total : Array Single},
      first.size = rows * inner → second.size = inner * columns → total.size = rows * columns →
      (∀ row < rows, ∀ column < columns,
        (productSteps rows columns inner).filter (fun step => step.1 = row ∧ step.2.1 = column) =
          (List.range inner).map fun index => (row, column, index)) ∧
      (∀ combine : Single → Single → Single → Single, ∃ written,
        accumulateTerms combine columns inner (productSteps rows columns inner) first second
          total = .ok written ∧
        accumulateTerms combine columns inner (plainSteps rows columns inner) first second
          total = .ok written ∧
        written.size = rows * columns ∧ ∀ row < rows, ∀ column < columns,
          written[row * columns + column]? = some (productCell combine columns inner first second
            row column (elementAt total (row * columns + column)))) ∧
      accumulateProduct first second total rows columns inner =
        accumulateTerms (fun sum left right => sum + left * right) columns inner
          (productSteps rows columns inner) first second total) ∧
    ∀ {activation : FusedActivation} {inputs : List Tensor} {output : Tensor},
      (Params.fullyConnected activation).outputShape inputs = .ok output.shape →
      (∀ tensor ∈ output :: inputs, tensor.Valid) →
      (∀ tensor ∈ output :: inputs, tensor.elementType = .f32) →
      ∃ rows inner columns input weights rest values kernel bias,
        inputs = input :: weights :: rest ∧ output.dims = [rows, columns] ∧
        LayerOperands rows inner columns input weights rest values kernel bias ∧
        (0 < columns →
          fullyConnectedKernel.precompute (.fullyConnected activation) inputs =
            .ok (some (.transposedWeights (turnedWeights columns inner kernel))) ∧
          ∀ derived, fullyConnectedKernel.Primed (.fullyConnected activation) inputs derived →
            ∃ written,
              fullyConnectedKernel.run ⟨.fullyConnected activation, inputs, [output], derived⟩ =
                ⟨[output.withSingles written], .ok ()⟩ ∧
              written.size = rows * columns ∧ ∀ row < rows, ∀ column < columns,
                written[row * columns + column]? =
                  some (layerCell activation inner values kernel bias row column)) := by
  refine ⟨fun firstSize secondSize totalSize => ⟨?order, ?loops, accumulateProduct_eq ..⟩, ?layer⟩
  case order =>
    intro row rowBound column columnBound
    exact filter_productSteps rowBound columnBound
  case loops => exact fun combine => tiled_eq_plain combine firstSize secondSize totalSize
  case layer =>
    intro activation inputs output inferred valid singles
    obtain ⟨rows, inner, columns, input, weights, rest, values, kernel, bias, rfl, dims,
      operands⟩ := LayerOperands.exists_operands inferred
        (fun tensor member => valid tensor (List.mem_cons_of_mem _ member))
        fun tensor member => singles tensor (List.mem_cons_of_mem _ member)
    refine ⟨rows, inner, columns, input, weights, rest, values, kernel, bias, rfl, dims, operands,
      fun wide => ⟨operands.hook_eq wide activation, fun derived primed => ?_⟩⟩
    have own := primed.of_hook (operands.hook_eq wide activation)
    obtain ⟨written, done, size, cells⟩ := operands.fullyConnectedBody_cells wide activation
      (valid output (by simp)) (singles output (by simp)) dims own
    exact ⟨written, Kernel.run_ofBody_ok done, size, cells⟩

def longRow : Array Single := Array.replicate 65 ⟨0x3F800000⟩

def pairInputs : List Tensor :=
  let single (dims : List Nat) (values : Array Single) : Tensor :=
    ⟨"", ⟨dims⟩, .any, none, .external, .f32 values⟩
  [single [1, 2] #[⟨0x3F800000⟩, ⟨0x40000000⟩],
    single [2, 2] #[⟨0x40400000⟩, ⟨0x40800000⟩, ⟨0x40A00000⟩, ⟨0x40C00000⟩],
    single [2] #[⟨0x3F800000⟩, ⟨0xC2200000⟩]]

def pairOutput : Tensor := ⟨"", ⟨[1, 2]⟩, .any, none, .external, .f32 #[⟨0x40E00000⟩, 0]⟩

/-- The ones are added up over two tiles, from 1 to 66, and the layer gives 12, and 0 for -23. -/
theorem longRow_adds_in_order :
    (∃ written, accumulateProduct longRow longRow #[⟨0x3F800000⟩] 1 1 65 = .ok written ∧
      written[0]? = some ⟨0x42840000⟩) ∧
    ∃ derived written,
      fullyConnectedKernel.precompute (.fullyConnected .relu) pairInputs = .ok derived ∧
      fullyConnectedKernel.run ⟨.fullyConnected .relu, pairInputs, [pairOutput], derived⟩ =
        ⟨[pairOutput.withSingles written], .ok ()⟩ ∧
      written[0]? = some ⟨0x41400000⟩ ∧ written[1]? = some 0 := by
  obtain ⟨products, layers⟩ := products_add_in_order
  refine ⟨?product, ?layer⟩
  case product =>
    have rowSize : longRow.size = 1 * 65 := by decide
    have columnSize : longRow.size = 65 * 1 := by decide
    have cellSize : (#[⟨0x3F800000⟩] : Array Single).size = 1 * 1 := rfl
    obtain ⟨_, loops, same⟩ := products rowSize columnSize cellSize
    obtain ⟨written, done, _, _, cells⟩ := loops fun sum left right => sum + left * right
    have sum : productCell (fun sum left right => sum + left * right) 1 65 longRow longRow 0 0
        ⟨0x3F800000⟩ = ⟨0x42840000⟩ := by decide +kernel
    exact ⟨written, same.trans done, (cells 0 Nat.one_pos 0 Nat.one_pos).trans (congrArg some sum)⟩
  case layer =>
    have inferred : (Params.fullyConnected .relu).outputShape pairInputs = .ok pairOutput.shape :=
      rfl
    have valid : ∀ tensor ∈ pairOutput :: pairInputs, tensor.Valid := by
      simp only [pairInputs, List.forall_mem_cons, List.not_mem_nil, false_implies, implies_true,
        and_true]
      exact ⟨rfl, rfl, rfl, rfl⟩
    have singles : ∀ tensor ∈ pairOutput :: pairInputs, tensor.elementType = .f32 := by
      simp only [pairInputs, List.forall_mem_cons, List.not_mem_nil, false_implies, implies_true,
        and_true]
      exact ⟨rfl, rfl, rfl, rfl⟩
    obtain ⟨rows, inner, columns, input, weights, rest, values, kernel, bias, same, dims, operands,
      runs⟩ := layers inferred valid singles
    cases same
    cases dims
    cases operands.inputDims
    cases operands.valuesHeld
    cases operands.kernelHeld
    obtain ⟨start, rfl⟩ : ∃ start, bias = some start := by
      cases bias with
      | none => cases operands.biasHeld
      | some start => exact ⟨start, rfl⟩
    cases operands.biasHeld
    obtain ⟨hooked, runs⟩ := runs Nat.two_pos
    obtain ⟨written, ran, _, cells⟩ := runs _ (.inr hooked)
    have twelve : layerCell .relu 2 #[⟨0x3F800000⟩, ⟨0x40000000⟩]
        #[⟨0x40400000⟩, ⟨0x40800000⟩, ⟨0x40A00000⟩, ⟨0x40C00000⟩]
        (some #[⟨0x3F800000⟩, ⟨0xC2200000⟩]) 0 0 = ⟨0x41400000⟩ := by decide +kernel
    have none : layerCell .relu 2 #[⟨0x3F800000⟩, ⟨0x40000000⟩]
        #[⟨0x40400000⟩, ⟨0x40800000⟩, ⟨0x40A00000⟩, ⟨0x40C00000⟩]
        (some #[⟨0x3F800000⟩, ⟨0xC2200000⟩]) 0 1 = 0 := by decide +kernel
    exact ⟨_, written, hooked, ran,
      (cells 0 Nat.one_pos 0 Nat.two_pos).trans (congrArg some twelve),
      (cells 0 Nat.one_pos 1 (by decide)).trans (congrArg some none)⟩

end TensorRuntime
