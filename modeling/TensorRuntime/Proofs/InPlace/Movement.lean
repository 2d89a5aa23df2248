import TensorRuntime.Proofs.InPlace.Images

/-!
Operators that move elements, in place: a buffer is taken over whole, or its elements are stored one
by one where they belong.
-/

namespace TensorRuntime

open Attempt

theorem mapM_zipIdx {α β : Type} (items : List α) (start : Nat) (step : α → Attempt β) :
    (items.zipIdx start).mapM (fun entry => step entry.1) = items.mapM step := by
  induction items generalizing start with
  | nil => rfl
  | cons item rest ih => rw [List.zipIdx_cons, List.mapM_cons, List.mapM_cons, ih]

namespace InPlace

def reshape [Host] (call : Call) : InPlace Unit :=
  match call.params with
  | .reshape _ => do
      let input ← call.input 0 reshapeRoutine
      let output ← call.output reshapeRoutine
      sameElementType input output reshapeRoutine
      if output.count ≠ input.count then
        refuse (.shapeMismatch "reshape element count" [input.count] [output.count])
      if Quantization.sameOption input.quantization output.quantization then
        rewrite fun _ => pure input.buffer
      else output.store (← input.toSingles)
  | params => refuse (params.mismatch reshapeRoutine)

def gather {α : Type} (form : Buffer.Form α) (values : Array α) (size : Nat)
    (sources : List Nat) : InPlace Unit :=
  sweep form (sources.take size).zipIdx fun written entry => do
    writeAt written entry.2 (← readAt values entry.1)

def moveElements (values old : Buffer) (sources : List Nat) : InPlace Unit :=
  match values, old with
  | .f32 values, .f32 old => gather .f32 values old.size sources
  | .f16 values, .f16 old => gather .f16 values old.size sources
  | .i8 values, .i8 old => gather .i8 values old.size sources
  | .u8 values, .u8 old => gather .u8 values old.size sources
  | .i16 values, .i16 old => gather .i16 values old.size sources
  | .i32 values, .i32 old => gather .i32 values old.size sources
  | .bool values, .bool old => do
      let bits ← (sources.mapM (Buffer.readBit values) : Attempt (List Bool))
      fillBits old.size bits
  | _, _ => refuse (.kernelFailure "ref_transpose" "input and output buffers differ in dtype")

def transpose [Host] (call : Call) : InPlace Unit :=
  match call.params with
  | .transpose permutation => do
      let input ← call.input 0 transposeRoutine
      let output ← call.output transposeRoutine
      sameElementType input output transposeRoutine
      let sources ← transposeSources input.dims permutation
      if Quantization.sameOption input.quantization output.quantization then
        moveElements input.buffer output.buffer sources
      else
        let values ← input.toSingles
        let moved ← (sources.mapM (readAt values) : Attempt (List Single))
        output.store moved.toArray
  | params => refuse (params.mismatch transposeRoutine)

def padOver (values : Array Single) (dims : List Nat) (pads : List (Nat × Nat))
    (value : Single) (outputSize : Nat) (outDims : List Nat) : InPlace Unit := do
  let rank := dims.length
  if 2 ≤ rank ∧ outDims.length < rank then abort
  let strides := match rank with
    | 0 => []
    | 1 => [1]
    | _ => Shape.strides (outDims.take rank)
  let shift := Shape.offset (pads.map Prod.fst) strides
  fill .f32 outputSize fun _ => pure value
  sweep .f32 values.toList.zipIdx fun padded (element, index) => do
    if pads.length < rank then abort
    writeAt padded (word ((← Shape.offsetOf dims strides index) + shift)) element

def pad (call : Call) : InPlace Unit :=
  match call.params with
  | .pad pads value => do
      let input ← call.input 0 padRoutine
      let outDims := (← call.output padRoutine).dims
      let values ← input.singlesFor padRoutine
      let (_, old) ← call.singleOutput padRoutine
      padOver values input.dims pads value old.size outDims
  | params => refuse (params.mismatch padRoutine)

section Loops

theorem fills_gather {α : Type} (form : Buffer.Form α) (values old : Array α)
    (sources : List Nat) :
    (gather form values old.size sources).Fills (form.wrap old)
      (form.wrap <$> gatherInto values old sources) := by
  have fills := @fills_sweep _ _ form (sources.take old.size).zipIdx
    (fun written entry => do writeAt written entry.2 (← readAt values entry.1))
    (fun entry _ written => (unrefused_readAt _ _).bind fun _ _ => unrefused_writeAt _ _ _) old
  have room : (sources.take old.size).zipIdx.length ≤ old.size := by
    rw [List.length_zipIdx, List.length_take]
    exact Nat.min_le_left ..
  rw [@foldlM_writeAt _ _ _ Prod.snd (fun entry => readAt values entry.1) old 0 (by simp)
    (by omega), mapM_zipIdx] at fills
  unfold gatherInto
  cases moved : (sources.take old.size).mapM (readAt values) with
  | error fault => rwa [moved] at fills
  | ok results =>
      have length : results.length = (sources.take old.size).zipIdx.length := by
        simpa using (congrArg List.length (mapM_eq_ok.1 moved)).symm
      rw [moved, ← length] at fills
      unfold gather
      simpa using fills

theorem performs_moveElements (output : Tensor) (values : Buffer) (sources : List Nat) :
    (moveElements values output.buffer sources).Performs output (do
      return { output with buffer := ← values.gather output.buffer sources }) := by
  obtain ⟨name, shape, layout, quantization, kind, old⟩ := output
  cases values <;> cases old
  case f32.f32 values old => exact (fills_gather .f32 values old sources).performs_buffer rfl
  case f16.f16 values old => exact (fills_gather .f16 values old sources).performs_buffer rfl
  case i8.i8 values old => exact (fills_gather .i8 values old sources).performs_buffer rfl
  case u8.u8 values old => exact (fills_gather .u8 values old sources).performs_buffer rfl
  case i16.i16 values old => exact (fills_gather .i16 values old sources).performs_buffer rfl
  case i32.i32 values old => exact (fills_gather .i32 values old sources).performs_buffer rfl
  case bool.bool values old =>
    refine Fills.performs_buffer (wrap_check ?_ fun bits _ => fills_fillBits old bits) rfl
    exact failsOnly_mapM fun _ _ => Buffer.unrefused_readBit _ _
  all_goals exact performs_error _

theorem fills_padOver (values old : Array Single) (dims : List Nat) (pads : List (Nat × Nat))
    (value : Single) (outDims : List Nat) :
    (padOver values dims pads value old.size outDims).Fills (Buffer.Form.f32.wrap old)
      (Buffer.Form.f32.wrap <$> padInto values dims pads value old.size outDims) := by
  unfold padOver padInto
  refine wrap_assert fun _ => ?_
  dsimp only
  refine wrap_filled (fills_sweep (fun entry _ padded => ?_) _)
  refine failsOnly_check (fun _ => rfl) fun _ => ?_
  exact (Shape.unrefused_offsetOf _ _ _).bind fun _ _ => unrefused_writeAt _ _ _

end Loops

section Performing

variable {params : Params} {inputs : List Tensor} {output : Tensor} {derived : Option Derived}

theorem performs_reshape [Host] : (reshape ⟨params, inputs, [output], derived⟩).Performs output
    (reshapeBody ⟨params, inputs, [output], derived⟩) := by
  cases params with
  | reshape target =>
      refine performs_checked fun input _ => performs_checked fun written found =>
        performs_checked fun _ _ => performs_guard fun _ => ?_
      obtain rfl := output_of_output found
      dsimp only
      split
      · exact (@fills_rewrite _ (fun _ => pure input.buffer) (failsOnly_pure _)).performs_buffer rfl
      · exact performs_check fun values _ => written.performs_store values
  | _ => exact performs_error _

theorem performs_transpose [Host] : (transpose ⟨params, inputs, [output], derived⟩).Performs output
    (transposeBody ⟨params, inputs, [output], derived⟩) := by
  cases params with
  | transpose permutation =>
      refine performs_checked fun input _ => performs_checked fun written found =>
        performs_checked fun _ _ => performs_check fun sources _ => ?_
      obtain rfl := output_of_output found
      split
      · exact performs_moveElements written input.buffer sources
      · exact performs_check fun values _ => performs_check fun moved _ => written.performs_store _
  | _ => exact performs_error _

theorem performs_pad : (pad ⟨params, inputs, [output], derived⟩).Performs output
    (padBody ⟨params, inputs, [output], derived⟩) := by
  cases params with
  | pad pads value =>
      refine performs_checked fun input _ => performs_checked fun target _ =>
        performs_checked fun values _ => performs_checked ?_
      rintro ⟨written, old⟩ found
      obtain ⟨rfl, held⟩ := output_of_singleOutput found
      exact (fills_padOver _ _ _ _ _ _).performs_singles held
  | _ => exact performs_error _

end Performing

end InPlace

end TensorRuntime
