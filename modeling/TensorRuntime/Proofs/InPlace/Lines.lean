import TensorRuntime.Proofs.InPlace.Images

/-!
Normalisations, reductions and matrix products in place. These go over their output more than once.
-/

namespace TensorRuntime

open Attempt

namespace InPlace

def batchNorm (call : Call) : InPlace Unit := do
  let input ← call.input 0 batchNormRoutine
  let folded ← derivedOr (call.derived.bind Derived.foldedNorm?)
    (foldInputs call.params call.inputs)
  let axis ← batchNormAxis input
  let channels := input.dims.getD axis 0
  let inner := volume (input.dims.drop (axis + 1))
  if folded.scale.size ≠ channels ∨ folded.shift.size ≠ channels then
    refuse (.kernelFailure batchNormRoutine
      (folded.scale.size.repr ++ " folded channels for " ++ channels.repr ++ " input channels"))
  let values ← input.singlesFor batchNormRoutine
  let (_, old) ← call.singleOutput batchNormRoutine
  fill .f32 old.size fun index =>
    match values[index]? with
    | none => readAt old index
    | some value => do
        nonzero inner
        nonzero channels
        let channel := index / inner % channels
        return value * (← readAt folded.scale channel) + (← readAt folded.shift channel)

def softmaxOver (values : Array Single) (dims : List Nat) (axis : Nat) : InPlace Unit :=
  match dims[axis]? with
  | none => abort
  | some length =>
      let inner := volume (dims.drop (axis + 1))
      let outer := volume (dims.take axis)
      let lines := (List.range outer).flatMap fun outerIndex =>
        (List.range inner).map fun innerIndex => softmaxLine length inner outerIndex innerIndex
      sweep .f32 lines fun written places => do
        let line ← places.mapM (readAt values)
        (places.zip (softmaxOfLine line)).foldlM
          (fun written entry => writeAt written entry.1 entry.2) written

def softmax (call : Call) : InPlace Unit :=
  match call.params with
  | .softmax axis => do
      let input ← call.input 0 softmaxRoutine
      if input.dims.length ≤ axis then
        refuse (.kernelFailure softmaxRoutine ("axis " ++ axis.repr ++ " out of range"))
      let _ ← call.singleOutput softmaxRoutine
      let values ← input.singlesFor softmaxRoutine
      softmaxOver values input.dims axis
  | params => refuse (params.mismatch softmaxRoutine)

def reduceOver (params : ReduceParams) (values : Array Single) (dims : List Nat)
    (outputSize : Nat) : InPlace Unit := do
  let axes := params.resolvedAxes dims.length
  if axes.any fun axis => dims.length ≤ axis then abort
  let strides := keptStrides axes 0 dims
  fill .f32 outputSize fun _ => pure params.mode.start
  sweep .f32 values.toList.zipIdx fun totals (value, index) => do
    let place ← Shape.offsetOf dims strides index
    let total ← readAt totals place
    writeAt totals place (params.mode.step total value)
  let count := volume (axes.map fun axis => dims.getD axis 0)
  if params.mode = .mean ∧ 0 < count then
    mapEach .f32 outputSize (· * (1 / Single.ofNat count))

def reduce (call : Call) : InPlace Unit :=
  match call.params with
  | .reduce params => do
      let input ← call.input 0 reduceRoutine
      let (_, old) ← call.singleOutput reduceRoutine
      let values ← input.singlesFor reduceRoutine
      reduceOver params values input.dims old.size
  | params => refuse (params.mismatch reduceRoutine)

abbrev AddProduct :=
  Array Single → Array Single → Nat → Nat → Nat → Nat → InPlace Unit

def addProductBy (add : Nat → Single → Single → Single → Single) : AddProduct :=
  fun first second _ rows columns inner =>
  sweep .f32 (productSteps rows columns inner) fun total (row, column, index) => do
    let left ← readAt first (row * inner + index)
    let right ← readAt second (index * columns + column)
    let place := row * columns + column
    let sum ← readAt total place
    writeAt total place (add column sum left right)

def addProduct : AddProduct := addProductBy addUnfused

def addProductChecked [Host] : AddProduct := fun first second size rows columns inner =>
  if Host.fusesProducts then
    if first.size < rows * inner ∨ second.size < inner * columns ∨ size < rows * columns then abort
    else addProductBy (addFused columns) first second size rows columns inner
  else addProduct first second size rows columns inner

def fullyConnectedOver (add : AddProduct) (values : Array Single) (weights : TransposedWeights)
    (bias : Option (Array Single)) (activation : FusedActivation) (old : Array Single)
    (rows : Nat) : InPlace Unit := do
  nonzero weights.columns
  fill .f32 old.size fun index =>
    if index < old.size / weights.columns * weights.columns then
      match bias with
      | some bias =>
          if bias.size = weights.columns then readAt bias (index % weights.columns) else abort
      | none => pure 0
    else readAt old index
  add values weights.values old.size rows weights.columns weights.inner
  mapEach .f32 old.size activation.apply

def fullyConnected (routine : String) (add : AddProduct) (call : Call) : InPlace Unit :=
  match call.params with
  | .fullyConnected activation => do
      let input ← call.input 0 routine
      let weights ← call.input 1 routine
      let bias ← biasFor call.inputs[2]? routine
      let transposed ← derivedOr (call.derived.bind Derived.transposedWeights?)
        (TransposedWeights.ofTensor weights routine)
      match input.dims with
      | [] => abort
      | rows :: _ => do
          let values ← input.singlesFor routine
          let (_, old) ← call.singleOutput routine
          fullyConnectedOver add values transposed bias activation old rows
  | params => refuse (params.mismatch routine)

section Loops

theorem fills_softmaxOver (values old : Array Single) (dims : List Nat) (axis : Nat) :
    (softmaxOver values dims axis).Fills (Buffer.Form.f32.wrap old)
      (Buffer.Form.f32.wrap <$> softmaxInto values dims axis old) := by
  unfold softmaxOver softmaxInto
  cases dims[axis]? with
  | none => exact fills_abort _
  | some length =>
      refine fills_sweep (fun places _ written => ?_) old
      exact FailsOnly.bind (failsOnly_mapM fun _ _ => unrefused_readAt _ _) fun _ _ =>
        failsOnly_foldlM fun _ _ _ => unrefused_writeAt _ _ _

theorem fills_reduceOver (params : ReduceParams) (values old : Array Single) (dims : List Nat) :
    (reduceOver params values dims old.size).Fills (Buffer.Form.f32.wrap old)
      (Buffer.Form.f32.wrap <$> reduceInto params values dims old.size) := by
  unfold reduceOver reduceInto
  refine wrap_assert fun _ => ?_
  dsimp only
  refine wrap_filled
    (Fills.wrap_seq (fills_sweep (fun entry _ totals => ?_) _) fun totals added => ?_)
  · exact (Shape.unrefused_offsetOf _ _ _).bind fun _ _ => (unrefused_readAt _ _).bind fun _ _ =>
      unrefused_writeAt _ _ _
  · have size : totals.size = old.size := by
      refine foldlM_keeps (fun current : Array Single => current.size = old.size) (by simp) ?_ added
      intro before entry after size step
      simp only [bind_eq_ok] at step
      obtain ⟨_, _, _, _, step⟩ := step
      rw [size_of_writeAt step, size]
    split
    · rw [← size]
      exact fills_mapEach _ _
    · exact fills_nothing _

structure AddProduct.Accumulates (add : AddProduct) (accumulate : Accumulate) : Prop where
  fills : ∀ first second total rows columns inner,
    (add first second total.size rows columns inner).Fills (Buffer.Form.f32.wrap total)
      (Buffer.Form.f32.wrap <$> accumulate first second total rows columns inner)
  size : ∀ first second total rows columns inner sums,
    accumulate first second total rows columns inner = .ok sums → sums.size = total.size

theorem fills_addProductBy (add : Nat → Single → Single → Single → Single)
    (first second total : Array Single) (rows columns inner : Nat) :
    (addProductBy add first second total.size rows columns inner).Fills
      (Buffer.Form.f32.wrap total)
      (Buffer.Form.f32.wrap <$> accumulateProductBy add first second total rows columns inner) := by
  refine fills_sweep (fun step _ total => ?_) total
  exact (unrefused_readAt _ _).bind fun _ _ => (unrefused_readAt _ _).bind fun _ _ =>
    (unrefused_readAt _ _).bind fun _ _ => unrefused_writeAt _ _ _

theorem addProduct_accumulates : AddProduct.Accumulates addProduct accumulateProduct where
  fills := fills_addProductBy _
  size _ _ _ _ _ _ _ done := size_of_accumulateProductBy done

theorem addProductChecked_accumulates [Host] :
    AddProduct.Accumulates addProductChecked accumulateProductChecked where
  fills first second total rows columns inner := by
    unfold addProductChecked accumulateProductChecked
    split
    · split
      · exact fills_abort _
      · exact fills_addProductBy _ _ _ _ _ _ _
    · exact addProduct_accumulates.fills _ _ _ _ _ _
  size _ _ _ _ _ _ _ done := size_of_accumulateProductChecked done

theorem fills_fullyConnectedOver {add : AddProduct} {accumulate : Accumulate}
    (adds : add.Accumulates accumulate) (values : Array Single) (weights : TransposedWeights)
    (bias : Option (Array Single)) (activation : FusedActivation) (old : Array Single)
    (rows : Nat) :
    (fullyConnectedOver add values weights bias activation old rows).Fills
      (Buffer.Form.f32.wrap old) (Buffer.Form.f32.wrap <$>
        fullyConnectedInto accumulate values weights bias activation old rows) := by
  unfold fullyConnectedOver fullyConnectedInto startRows
  rw [bind_assoc]
  refine wrap_check (unrefused_nonzero _) fun _ _ => ?_
  refine (fills_fill fun index => ?_).wrap_seq fun start started => ?_
  · split
    · split
      · split
        · exact unrefused_readAt _ _
        · exact unrefused_abort
      · exact failsOnly_pure _
    · exact unrefused_readAt _ _
  · rw [← size_of_tabulate started]
    refine (adds.fills _ _ _ _ _ _).wrap_seq fun sums added => ?_
    rw [← adds.size _ _ _ _ _ _ _ added]
    exact fills_mapEach _ _

end Loops

section Performing

variable {params : Params} {inputs : List Tensor} {output : Tensor} {derived : Option Derived}

theorem performs_batchNorm : (batchNorm ⟨params, inputs, [output], derived⟩).Performs output
    (batchNormBody ⟨params, inputs, [output], derived⟩) := by
  refine performs_checked fun input _ => performs_check fun folded _ =>
    performs_checked fun axis _ => performs_guard fun _ => performs_checked fun values _ =>
    performs_checked ?_
  rintro ⟨written, old⟩ found
  obtain ⟨rfl, held⟩ := output_of_singleOutput found
  refine Fills.performs_singles (fills_fill fun index => ?_) held
  split
  · exact unrefused_readAt _ _
  · exact (unrefused_nonzero _).bind fun _ _ => (unrefused_nonzero _).bind fun _ _ =>
      (unrefused_readAt _ _).bind fun _ _ => (unrefused_readAt _ _).bind fun _ _ => failsOnly_pure _

theorem performs_softmax : (softmax ⟨params, inputs, [output], derived⟩).Performs output
    (softmaxBody ⟨params, inputs, [output], derived⟩) := by
  cases params with
  | softmax axis =>
      refine performs_checked fun input _ => performs_guard fun _ => performs_checked ?_
      rintro ⟨written, old⟩ found
      obtain ⟨rfl, held⟩ := output_of_singleOutput found
      exact performs_checked fun values _ => (fills_softmaxOver _ _ _ _).performs_singles held
  | _ => exact performs_error _

theorem performs_reduce : (reduce ⟨params, inputs, [output], derived⟩).Performs output
    (reduceBody ⟨params, inputs, [output], derived⟩) := by
  cases params with
  | reduce settings =>
      refine performs_checked fun input _ => performs_checked ?_
      rintro ⟨written, old⟩ found
      obtain ⟨rfl, held⟩ := output_of_singleOutput found
      exact performs_checked fun values _ => (fills_reduceOver _ _ _ _).performs_singles held
  | _ => exact performs_error _

theorem performs_fullyConnected {routine : String} {add : AddProduct} {accumulate : Accumulate}
    (adds : add.Accumulates accumulate) :
    (fullyConnected routine add ⟨params, inputs, [output], derived⟩).Performs output
      (fullyConnectedBody routine accumulate ⟨params, inputs, [output], derived⟩) := by
  cases params with
  | fullyConnected activation =>
      refine performs_checked fun input _ => performs_checked fun weights _ =>
        performs_checked fun bias _ => performs_check fun transposed _ => ?_
      dsimp only
      cases input.dims with
      | nil => exact performs_error _
      | cons rows =>
          refine performs_checked fun values _ => performs_checked ?_
          rintro ⟨written, old⟩ found
          obtain ⟨rfl, held⟩ := output_of_singleOutput found
          exact (fills_fullyConnectedOver adds _ _ _ _ _ _).performs_singles held
  | _ => exact performs_error _

end Performing

end InPlace

end TensorRuntime
