import TensorRuntime.Proofs.InPlace.Images

/-!
Binary operators and activations in place. A kernel on halves computes beside its output and
stores the result in the end.
-/

namespace TensorRuntime

open Attempt

namespace InPlace

def combine (op : BinaryOp) (activation : FusedActivation) (first : Array Single)
    (firstDims : List Nat) (second : Array Single) (secondDims : List Nat)
    (old : Array Single) (outDims : List Nat) : InPlace Unit :=
  if firstDims = outDims ∧ secondDims = outDims then
    fill .f32 old.size fun index => do
      let value ← readAt old index
      return match first[index]?, second[index]? with
        | some first, some second => TensorRuntime.combine op activation first second
        | _, _ => value
  else do
    let firstStrides ← broadcastStrides firstDims outDims
    let secondStrides ← broadcastStrides secondDims outDims
    fill .f32 old.size fun index => do
      let first ← readAt first (← Shape.offsetOf outDims firstStrides index)
      let second ← readAt second (← Shape.offsetOf outDims secondStrides index)
      return TensorRuntime.combine op activation first second

theorem fills_combine (op : BinaryOp) (activation : FusedActivation)
    (first second old : Array Single) (firstDims secondDims outDims : List Nat) :
    (combine op activation first firstDims second secondDims old outDims).Fills
      (Buffer.Form.f32.wrap old) (Buffer.Form.f32.wrap <$>
        combineInto op activation first firstDims second secondDims old outDims) := by
  unfold combine combineInto
  split
  · change (fill .f32 old.size _).Fills _ (Buffer.Form.f32.wrap <$> .ok (combineAligned _ _ _ _ _))
    unfold combineAligned
    rw [← mapIdx_eq_tabulate]
    exact fills_fill fun index => (unrefused_readAt _ _).bind fun _ _ => failsOnly_pure _
  · unfold combineBroadcast
    refine wrap_check (unrefused_broadcastStrides _ _) fun _ _ =>
      wrap_check (unrefused_broadcastStrides _ _) fun _ _ => fills_fill fun index => ?_
    exact (Shape.unrefused_offsetOf _ _ _).bind fun _ _ => (unrefused_readAt _ _).bind fun _ _ =>
      (Shape.unrefused_offsetOf _ _ _).bind fun _ _ => (unrefused_readAt _ _).bind fun _ _ =>
        failsOnly_pure _

def binary (call : Call) : InPlace Unit :=
  match call.params with
  | .binary op activation => do
      let first ← call.input 0 binaryRoutine
      let second ← call.input 1 binaryRoutine
      let (output, old) ← call.singleOutput binaryRoutine
      let firstValues ← first.singlesFor binaryRoutine
      let secondValues ← second.singlesFor binaryRoutine
      combine op activation firstValues first.dims secondValues second.dims old output.dims
  | params => refuse (params.mismatch binaryRoutine)

def halfBinary [Host] (call : Call) : InPlace Unit :=
  match call.params with
  | .binary op activation => do
      let first ← call.input 0 halfBinaryRoutine
      let second ← call.input 1 halfBinaryRoutine
      first.expect .f16 halfBinaryRoutine
      second.expect .f16 halfBinaryRoutine
      let output ← call.output halfBinaryRoutine
      output.expect .f16 halfBinaryRoutine
      let wide := Array.replicate output.count 0
      output.store (← combineInto op activation (← first.toSingles) first.dims
        (← second.toSingles) second.dims wide output.dims)
  | params => refuse (params.mismatch halfBinaryRoutine)

def activation (call : Call) : InPlace Unit :=
  match call.params with
  | .activation kind => do
      let values ← (← call.input 0 activationRoutine).singlesFor activationRoutine
      let (_, old) ← call.singleOutput activationRoutine
      fill .f32 old.size fun index => do
        return (values[index]?.map kind.apply).getD (← readAt old index)
  | params => refuse (params.mismatch activationRoutine)

def halfActivation [Host] (call : Call) : InPlace Unit :=
  match call.params with
  | .activation kind => do
      let input ← call.input 0 halfActivationRoutine
      input.expect .f16 halfActivationRoutine
      let output ← call.output halfActivationRoutine
      output.expect .f16 halfActivationRoutine
      output.store ((← input.toSingles).map kind.apply)
  | params => refuse (params.mismatch halfActivationRoutine)

def laneBinary (lanes : Nat) (call : Call) : InPlace Unit :=
  match call.params with
  | .binary op activation => do
      let first ← call.input 0 laneBinaryRoutine
      let second ← call.input 1 laneBinaryRoutine
      let outDims := (← call.output laneBinaryRoutine).dims
      let firstValues ← first.singlesFor laneBinaryRoutine
      let secondValues ← second.singlesFor laneBinaryRoutine
      let (_, old) ← call.singleOutput laneBinaryRoutine
      if first.dims = outDims ∧ second.dims = outDims then
        fill .f32 old.size fun index =>
          match blockPartners? lanes old.size [firstValues.size, secondValues.size] index with
          | some [left, right] => do
              return TensorRuntime.combine op activation (← readAt firstValues left)
                (← readAt secondValues right)
          | _ => readAt old index
      else combine op activation firstValues first.dims secondValues second.dims old outDims
  | params => refuse (params.mismatch laneBinaryRoutine)

def laneActivation (lanes : Nat) (call : Call) : InPlace Unit :=
  match call.params with
  | .activation kind => do
      let values ← (← call.input 0 laneActivationRoutine).singlesFor laneActivationRoutine
      let (_, old) ← call.singleOutput laneActivationRoutine
      fill .f32 old.size fun index =>
        match blockPartners? lanes old.size [values.size] index with
        | some [place] => kind.apply <$> readAt values place
        | _ => readAt old index
  | params => refuse (params.mismatch laneActivationRoutine)

section Performing

variable {params : Params} {inputs : List Tensor} {output : Tensor} {derived : Option Derived}
  {lanes : Nat}

theorem performs_binary : (binary ⟨params, inputs, [output], derived⟩).Performs output
    (binaryBody ⟨params, inputs, [output], derived⟩) := by
  cases params with
  | binary op activation =>
      refine performs_checked fun first _ => performs_checked fun second _ => performs_checked ?_
      rintro ⟨written, old⟩ found
      obtain ⟨rfl, held⟩ := output_of_singleOutput found
      exact performs_checked fun _ _ => performs_checked fun _ _ =>
        (fills_combine _ _ _ _ _ _ _ _).performs_singles held
  | _ => exact performs_error _

theorem performs_halfBinary [Host] :
    (halfBinary ⟨params, inputs, [output], derived⟩).Performs output
    (halfBinaryBody ⟨params, inputs, [output], derived⟩) := by
  cases params with
  | binary op activation =>
      refine performs_checked fun first _ => performs_checked fun second _ =>
        performs_checked fun _ _ => performs_checked fun _ _ =>
        performs_checked fun written found => performs_checked fun _ _ =>
        performs_check fun _ _ => performs_check fun _ _ => performs_check fun wide _ => ?_
      obtain rfl := output_of_output found
      exact written.performs_store wide
  | _ => exact performs_error _

theorem performs_activation : (activation ⟨params, inputs, [output], derived⟩).Performs output
    (activationBody ⟨params, inputs, [output], derived⟩) := by
  cases params with
  | activation kind =>
      refine performs_checked fun input _ => performs_checked fun values _ => performs_checked ?_
      rintro ⟨written, old⟩ found
      obtain ⟨rfl, held⟩ := output_of_singleOutput found
      have fills := @fills_fill _ .f32 old
        (fun index => do return (values[index]?.map kind.apply).getD (← readAt old index))
        fun index => (unrefused_readAt _ _).bind fun _ _ => failsOnly_pure _
      rw [mapIdx_eq_tabulate] at fills
      exact fills.performs_singles held
  | _ => exact performs_error _

theorem performs_halfActivation [Host] :
    (halfActivation ⟨params, inputs, [output], derived⟩).Performs output
      (halfActivationBody ⟨params, inputs, [output], derived⟩) := by
  cases params with
  | activation kind =>
      refine performs_checked fun input _ => performs_checked fun _ _ =>
        performs_checked fun written found => performs_checked fun _ _ =>
        performs_check fun values _ => ?_
      obtain rfl := output_of_output found
      exact written.performs_store _
  | _ => exact performs_error _

theorem performs_laneBinary : (laneBinary lanes ⟨params, inputs, [output], derived⟩).Performs output
    (laneBinaryBody lanes ⟨params, inputs, [output], derived⟩) := by
  cases params with
  | binary op activation =>
      refine performs_checked fun first _ => performs_checked fun second _ =>
        performs_checked fun target _ => performs_checked fun _ _ => performs_checked fun _ _ =>
        performs_checked ?_
      rintro ⟨written, old⟩ found
      obtain ⟨rfl, held⟩ := output_of_singleOutput found
      dsimp only
      split
      · refine Fills.performs_singles (fills_fill fun index => ?_) held
        split
        · exact (unrefused_readAt _ _).bind fun _ _ => (unrefused_readAt _ _).bind fun _ _ =>
            failsOnly_pure _
        · exact unrefused_readAt _ _
      · exact (fills_combine _ _ _ _ _ _ _ _).performs_singles held
  | _ => exact performs_error _

theorem performs_laneActivation :
    (laneActivation lanes ⟨params, inputs, [output], derived⟩).Performs output
      (laneActivationBody lanes ⟨params, inputs, [output], derived⟩) := by
  cases params with
  | activation kind =>
      refine performs_checked fun input _ => performs_checked fun values _ => performs_checked ?_
      rintro ⟨written, old⟩ found
      obtain ⟨rfl, held⟩ := output_of_singleOutput found
      refine Fills.performs_singles (fills_fill fun index => ?_) held
      split
      · exact (unrefused_readAt _ _).map _
      · exact unrefused_readAt _ _
  | _ => exact performs_error _

end Performing

end InPlace

end TensorRuntime
