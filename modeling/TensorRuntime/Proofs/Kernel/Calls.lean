import TensorRuntime.Proofs.Frame
import TensorRuntime.Proofs.OutputShape

/-!
Calls whose shapes and element types the caller has checked, and what a kernel finds
when it takes the arguments of such a call apart.
-/

namespace TensorRuntime

open Attempt

structure ValidCall (params : Params) (inputs : List Tensor) (output : Tensor) : Prop where
  inferred : params.outputShape inputs = .ok output.shape
  valid : ∀ tensor ∈ output :: inputs, tensor.Valid
  singles : ∀ tensor ∈ output :: inputs, tensor.elementType = .f32
  extents : ∀ tensor ∈ output :: inputs, 0 ∉ tensor.dims

theorem ValidCall.inferredOf {params : Params} {inputs : List Tensor} {output : Tensor}
    (valid : ValidCall params inputs output) :
    ∃ input others, inputs = input :: others ∧
      params.outputShapeOf input others = .ok output.shape := by
  obtain ⟨input, others, same, _, _, inferred⟩ := Params.outputShape_eq_ok.1 valid.inferred
  exact ⟨input, others, same, inferred⟩

theorem Tensor.Valid.singles {tensor : Tensor} (valid : tensor.Valid)
    (single : tensor.elementType = .f32) :
    ∃ values, tensor.buffer = .f32 values ∧ values.size = tensor.count := by
  have sized := valid.sized
  unfold Tensor.Sized at sized
  rw [single] at sized
  unfold Tensor.elementType at single
  cases held : tensor.buffer with
  | f32 values =>
      rw [held] at sized
      refine ⟨values, rfl, ?_⟩
      simp only [Buffer.byteCount, ElementType.storageBytes, ElementType.elementSize?] at sized
      omega
  | f16 | i8 | u8 | i16 | i32 | bool =>
      rw [held] at single
      cases single

theorem ValidCall.held {params : Params} {inputs : List Tensor} {output tensor : Tensor}
    (valid : ValidCall params inputs output) (member : tensor ∈ output :: inputs) :
    ∃ values, tensor.buffer = .f32 values ∧ values.size = tensor.count :=
  (valid.valid tensor member).singles (valid.singles tensor member)

theorem Tensor.singlesFor_eq {tensor : Tensor} {values : Array Single}
    (held : tensor.buffer = .f32 values) (routine : String) :
    tensor.singlesFor routine = .ok values := by
  rw [singlesFor, held]

section Bias

variable {bias : Option Tensor} {values : Option (Array Single)}

theorem exists_biasHeld {channels : Nat} (valid : ∀ start ∈ bias, start.Valid)
    (singles : ∀ start ∈ bias, start.elementType = .f32)
    (dims : ∀ start, bias = some start → start.dims = [channels]) :
    ∃ values : Option (Array Single), bias.map Tensor.buffer = values.map .f32 ∧
      ∀ start, values = some start → start.size = channels := by
  cases bias with
  | none => exact ⟨none, rfl, fun _ impossible => by cases impossible⟩
  | some start =>
      obtain ⟨values, held, size⟩ := (valid start rfl).singles (singles start rfl)
      refine ⟨some values, congrArg some held, fun _ same => ?_⟩
      cases same
      rw [size]
      change volume start.dims = _
      rw [dims start rfl]
      simp

theorem biasFor_of_held (held : bias.map Tensor.buffer = values.map .f32) (routine : String) :
    biasFor bias routine = .ok values := by
  cases bias with
  | none =>
      cases values with
      | none => rfl
      | some _ => cases held
  | some start =>
      cases values with
      | none => cases held
      | some own =>
          change some <$> start.singlesFor routine = _
          rw [Tensor.singlesFor_eq (Option.some.inj held)]
          rfl

end Bias

theorem Call.singleOutput_eq {params : Params} {inputs : List Tensor} {derived : Option Derived}
    {output : Tensor} {values : Array Single} (held : output.buffer = .f32 values)
    (routine : String) :
    Call.singleOutput ⟨params, inputs, [output], derived⟩ routine = .ok (output, values) := by
  refine bind_eq_ok.2 ⟨output, rfl, ?_⟩
  rw [held]
  rfl

theorem derivedOr_eq {α : Type} {view : Derived → Option α} {state : α} {stored : Derived}
    {derived : Option Derived} {derive : Attempt α} (viewed : view stored = some state)
    (derives : derive = .ok state) (primed : derived = none ∨ derived = some stored) :
    derivedOr (derived.bind view) derive = .ok state := by
  rcases primed with rfl | rfl
  · exact derives
  · change derivedOr (view stored) derive = _
    rw [viewed]
    rfl

end TensorRuntime
