import TensorRuntime.Kernel.Reduction
import TensorRuntime.Proofs.Kernel.Movement
import TensorRuntime.Proofs.Kernel.Safety.Calls
import TensorRuntime.Proofs.Positions

/-!
Reductions never abort. Shape inference has refused axes that are not there, and every
element of the input has a place in the output, which does not move along reduced axes.
-/

namespace TensorRuntime

open Attempt

def reducedDims (axes : List Nat) (keepDims : Bool) (axis : Nat) (dims : List Nat) : List Nat :=
  (dims.zipIdx axis).filterMap fun entry =>
    if entry.2 ∈ axes then (if keepDims then some 1 else none) else some entry.1

theorem Shape.reduce?_eq_ok {shape shape' : Shape} {axes : List Nat} {keepDims : Bool}
    (found : shape.reduce? axes keepDims = .ok (some shape')) :
    (∀ axis ∈ axes, axis < shape.rank) ∧ shape'.dims = reducedDims axes keepDims 0 shape.dims := by
  unfold reduce? at found
  rw [bind_eq_ok] at found
  obtain ⟨distinct, checked, found⟩ := found
  split at found
  · rename_i all
    subst all
    rw [assert_eq_ok] at found
    cases found.2
    exact ⟨fun axis member => ((distinctAxes_eq_ok checked).2 axis member).1, rfl⟩
  · cases found

section Strides

variable {axes : List Nat} {keepDims : Bool}

theorem reducedDims_cons (axis extent : Nat) (inner : List Nat) :
    volume (reducedDims axes keepDims axis (extent :: inner)) =
      (if axis ∈ axes then 1 else extent) *
        volume (reducedDims axes keepDims (axis + 1) inner) := by
  unfold reducedDims
  rw [List.zipIdx_cons]
  by_cases reduced : axis ∈ axes
  · cases keepDims <;> simp [reduced]
  · simp [reduced]

theorem keptVolume_eq (axes : List Nat) (keepDims : Bool) (axis : Nat) (dims : List Nat)
    (start : Nat) :
    (dims.zipIdx axis).foldl
      (fun product entry => if entry.2 ∈ axes then product else product * entry.1) start =
        start * volume (reducedDims axes keepDims axis dims) := by
  induction dims generalizing axis start with
  | nil => exact (Nat.mul_one start).symm
  | cons extent inner ih =>
      rw [List.zipIdx_cons, List.foldl_cons, ih, reducedDims_cons]
      by_cases reduced : axis ∈ axes
      · simp [reduced]
      · simp [reduced, Nat.mul_assoc]

theorem offset_kept_lt (axes : List Nat) (keepDims : Bool) {coordinates dims : List Nat}
    (inside : Shape.Within coordinates dims) (axis : Nat) :
    Shape.offset coordinates (keptStrides axes axis dims) <
      volume (reducedDims axes keepDims axis dims) := by
  induction inside generalizing axis with
  | nil => exact Nat.one_pos
  | @cons coordinate extent coordinates inner bound _ ih =>
      have below := ih (axis + 1)
      rw [keptStrides, Shape.offset_cons, keptVolume_eq axes keepDims, Nat.one_mul,
        reducedDims_cons]
      by_cases reduced : axis ∈ axes
      · simpa [reduced] using below
      · rw [if_neg reduced, if_neg reduced]
        exact place_lt bound below

end Strides

theorem safe_reduceInto {params : ReduceParams} {values : Array Single} {dims : List Nat}
    {outputSize : Nat} (size : values.size = volume dims)
    (axes : ∀ axis ∈ params.resolvedAxes dims.length, axis < dims.length)
    (room : outputSize =
      volume (reducedDims (params.resolvedAxes dims.length) params.keepDims 0 dims)) :
    (reduceInto params values dims outputSize).Safe := by
  have present : ¬ ((params.resolvedAxes dims.length).any fun axis =>
      dims.length ≤ axis) = true := by
    simpa using axes
  unfold reduceInto
  dsimp only
  refine safe_assert present (Safe.bind ?_ fun totals _ => ?_)
  · refine safe_foldlM (fun totals : Array Single => totals.size = outputSize) (by simp) ?_ ?_
    · rintro ⟨value, index⟩ member totals totalsSize
      have bound : index < volume dims := by
        rw [← size, ← Array.length_toList]
        exact List.snd_lt_of_mem_zipIdx member
      have positive : 0 ∉ dims := Shape.volume_pos.1 (by omega)
      refine .bind_ok (Shape.offsetOf_of_pos positive _ _) ?_
      have inside := offset_kept_lt (params.resolvedAxes dims.length) params.keepDims
        (Shape.within_coordinates positive index) 0
      rw [← room, ← totalsSize] at inside
      exact (safe_readAt inside).bind fun _ _ => safe_writeAt inside
    · rintro ⟨value, index⟩ _ totals after totalsSize step
      simp only [bind_eq_ok] at step
      obtain ⟨place, _, total, _, step⟩ := step
      rw [size_of_writeAt step, totalsSize]
  · split <;> exact safe_pure _

theorem reduceBody_safe {hook : Precompute} {op : OpKind} {params : Params} {inputs : List Tensor}
    {output : Tensor} {derived : Option Derived}
    (call : AdmittedCall hook op params inputs output derived) :
    (reduceBody ⟨params, inputs, [output], derived⟩).Safe := by
  obtain ⟨input, others, rfl, inputSized, outputSized, _, inferred⟩ := call.head
  cases params with
  | reduce settings =>
      obtain ⟨axes, dims⟩ : (∀ axis ∈ settings.resolvedAxes input.dims.length,
          axis < input.dims.length) ∧ output.dims =
            reducedDims (settings.resolvedAxes input.dims.length) settings.keepDims 0
              input.dims := by
        dsimp only [Params.outputShapeOf] at inferred
        rw [bind_eq_ok] at inferred
        obtain ⟨reduced, found, inferred⟩ := inferred
        split at inferred
        · cases inferred
          exact Shape.reduce?_eq_ok found
        · cases inferred
      unfold reduceBody
      refine .bind_lift fun _ found => ?_
      cases found
      refine Call.safe_bind_output outputSized fun old oldSize => ?_
      refine Tensor.safe_bind_singles inputSized fun values size => ?_
      exact (safe_reduceInto size axes (oldSize.trans (congrArg volume dims))).map _
  | _ => exact safe_refuse _

end TensorRuntime
