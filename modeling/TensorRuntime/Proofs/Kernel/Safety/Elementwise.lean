import TensorRuntime.Proofs.Kernel.Elementwise
import TensorRuntime.Proofs.Kernel.Safety.Rows

/-!
Operators that work element by element never abort. Operands that stretch have strides,
and where the output has an element at all these lead to an element of either operand.
-/

namespace TensorRuntime

open Attempt

section Broadcast

variable {dims outDims : List Nat}

def StretchesInside (dims outDims : List Nat) : Prop :=
  ∃ strides, broadcastStrides dims outDims = .ok strides ∧ ∀ index < volume outDims,
    ∃ offset, Shape.offsetOf outDims strides index = .ok offset ∧ offset < volume dims

theorem Broadcasts.stretchesInside (broadcasts : Broadcasts dims outDims) :
    StretchesInside dims outDims := by
  obtain ⟨strides, built, inside⟩ := broadcasts.exists_strides
  refine ⟨strides, built, fun position bound => ?_⟩
  obtain ⟨place, found, below, _⟩ := inside position bound
  exact ⟨place, found, below⟩

theorem PreparedCall.operands {hook : Precompute} {op : BinaryOp} {activation : FusedActivation}
    {inputs : List Tensor} {output : Tensor} {derived : Option Derived}
    (call : PreparedCall hook (.binary op activation) inputs output derived) :
    ∃ first second rest, inputs = first :: second :: rest ∧
      StretchesInside first.dims output.dims ∧ StretchesInside second.dims output.dims := by
  obtain ⟨first, others, rfl, _, _, _, inferred⟩ := call.head
  obtain ⟨second, rest, rfl, stretched⟩ := Params.broadcast?_of_binary inferred
  obtain ⟨left, right⟩ := broadcasts_of_broadcast? stretched
  exact ⟨first, second, rest, rfl, left.stretchesInside, right.stretchesInside⟩

end Broadcast

section Combining

variable {lanes : Nat} {op : BinaryOp} {activation : FusedActivation}
  {first second old : Array Single} {firstDims secondDims outDims : List Nat}

theorem safe_combineInto (firstSize : first.size = volume firstDims)
    (secondSize : second.size = volume secondDims) (size : old.size = volume outDims)
    (firstInside : StretchesInside firstDims outDims)
    (secondInside : StretchesInside secondDims outDims) :
    (combineInto op activation first firstDims second secondDims old outDims).Safe := by
  unfold combineInto
  split
  · exact safe_pure _
  · obtain ⟨firstStrides, firstBuilt, firstReads⟩ := firstInside
    obtain ⟨secondStrides, secondBuilt, secondReads⟩ := secondInside
    unfold combineBroadcast
    refine .bind_ok firstBuilt (.bind_ok secondBuilt (safe_tabulate fun index bound => ?_))
    rw [size] at bound
    obtain ⟨left, leftAt, leftBound⟩ := firstReads index bound
    obtain ⟨right, rightAt, rightBound⟩ := secondReads index bound
    refine .bind_ok leftAt ((safe_readAt (firstSize ▸ leftBound)).bind fun _ _ => ?_)
    exact .bind_ok rightAt ((safe_readAt (secondSize ▸ rightBound)).bind fun _ _ => safe_pure _)

theorem safe_combineLanes : (combineLanes lanes op activation first second old).Safe := by
  refine safe_tabulate fun index bound => ?_
  split
  · rename_i left right paired
    obtain ⟨leftBound, others⟩ := List.forall₂_cons.1 (blockPartners?_inside paired)
    obtain ⟨rightBound, _⟩ := List.forall₂_cons.1 others
    exact (safe_readAt leftBound).bind fun _ _ => (safe_readAt rightBound).bind fun _ _ =>
      safe_pure _
  · exact safe_readAt bound

end Combining

section Binary

variable {hook : Precompute} {op : OpKind} {params : Params} {inputs : List Tensor}
  {output : Tensor} {derived : Option Derived}

theorem binaryBody_safe (call : AdmittedCall hook op params inputs output derived) :
    (binaryBody ⟨params, inputs, [output], derived⟩).Safe := by
  cases params with
  | binary operation activation =>
      obtain ⟨first, second, rest, rfl, firstInside, secondInside⟩ := call.operands
      have sized := call.sized
      unfold binaryBody
      refine .bind_lift fun _ found => ?_
      cases found
      refine .bind_lift fun _ found => ?_
      cases found
      refine Call.safe_bind_output (sized output (by simp)) fun old size => ?_
      refine Tensor.safe_bind_singles (sized first (by simp)) fun left leftSize => ?_
      refine Tensor.safe_bind_singles (sized second (by simp)) fun right rightSize => ?_
      exact (safe_combineInto leftSize rightSize size firstInside secondInside).map _
  | _ => exact safe_refuse _

theorem halfBinaryBody_safe [Host] (call : AdmittedCall hook op params inputs output derived) :
    (halfBinaryBody ⟨params, inputs, [output], derived⟩).Safe := by
  cases params with
  | binary operation activation =>
      obtain ⟨first, second, rest, rfl, firstInside, secondInside⟩ := call.operands
      have sized := call.sized
      unfold halfBinaryBody
      refine .bind_lift fun _ found => ?_
      cases found
      refine .bind_lift fun _ found => ?_
      cases found
      refine .bind_lift fun _ _ => .bind_lift fun _ _ => .bind_lift fun _ found => ?_
      cases found
      refine .bind_lift fun _ _ => ?_
      refine (Tensor.safe_toSingles (sized first (by simp))).bind fun left leftRead => ?_
      refine (Tensor.safe_toSingles (sized second (by simp))).bind fun right rightRead => ?_
      refine Safe.bind ?_ fun _ _ => Tensor.safe_writeSingles (sized output (by simp)) _
      exact safe_combineInto (Tensor.size_of_toSingles leftRead)
        (Tensor.size_of_toSingles rightRead) Array.size_replicate firstInside secondInside
  | _ => exact safe_refuse _

theorem storedBinaryBody_safe {elementType : ElementType}
    (call : AdmittedCall hook op params inputs output derived) :
    (storedBinaryBody elementType ⟨params, inputs, [output], derived⟩).Safe := by
  cases params with
  | binary operation activation =>
      obtain ⟨first, second, rest, rfl, firstInside, secondInside⟩ := call.operands
      obtain ⟨firstStrides, firstBuilt, firstReads⟩ := firstInside
      obtain ⟨secondStrides, secondBuilt, secondReads⟩ := secondInside
      have sized := call.sized
      unfold storedBinaryBody
      refine .bind_lift fun _ found => ?_
      cases found
      refine .bind_lift fun _ found => ?_
      cases found
      refine .bind_lift fun _ _ => .bind_lift fun _ _ => .bind_lift fun _ found => ?_
      cases found
      refine .bind_lift fun _ _ => ?_
      refine Tensor.safe_bind_stored (sized first (by simp)) fun left leftSize => ?_
      refine Tensor.safe_bind_stored (sized second (by simp)) fun right rightSize => ?_
      refine .bind_ok firstBuilt (.bind_ok secondBuilt ?_)
      refine Tensor.safe_bind_slots (sized output (by simp)) fun integer => ?_
      refine Safe.bind (safe_tabulate fun index bound => ?_)
        fun _ _ => Tensor.safe_withStored integer _
      obtain ⟨place, placed, inside⟩ := firstReads index bound
      obtain ⟨other, otherPlaced, otherInside⟩ := secondReads index bound
      refine .bind_ok placed ((safe_readAt (leftSize ▸ inside)).bind fun _ _ => ?_)
      exact .bind_ok otherPlaced ((safe_readAt (rightSize ▸ otherInside)).bind fun _ _ =>
        safe_pure _)
  | _ => exact safe_refuse _

theorem laneBinaryBody_safe {lanes : Nat}
    (call : AdmittedCall hook op params inputs output derived) :
    (laneBinaryBody lanes ⟨params, inputs, [output], derived⟩).Safe := by
  cases params with
  | binary operation activation =>
      obtain ⟨first, second, rest, rfl, firstInside, secondInside⟩ := call.operands
      have sized := call.sized
      unfold laneBinaryBody
      refine .bind_lift fun _ found => ?_
      cases found
      refine .bind_lift fun _ found => ?_
      cases found
      refine .bind_lift fun _ found => ?_
      cases found
      refine Tensor.safe_bind_singles (sized first (by simp)) fun left leftSize => ?_
      refine Tensor.safe_bind_singles (sized second (by simp)) fun right rightSize => ?_
      refine Call.safe_bind_output (sized output (by simp)) fun old size => Safe.map _ ?_
      split
      · exact safe_combineLanes
      · exact safe_combineInto leftSize rightSize size firstInside secondInside
  | _ => exact safe_refuse _

end Binary

section Activations

variable {hook : Precompute} {op : OpKind} {params : Params} {inputs : List Tensor}
  {output : Tensor} {derived : Option Derived}

theorem activationBody_safe {call : Call} : (activationBody call).Safe := by
  unfold activationBody
  split
  · exact .bind_lift fun _ _ => .bind_lift fun _ _ => .bind_lift fun _ _ => safe_pure _
  · exact safe_refuse _

theorem halfActivationBody_safe [Host] (call : AdmittedCall hook op params inputs output derived) :
    (halfActivationBody ⟨params, inputs, [output], derived⟩).Safe := by
  obtain ⟨input, others, rfl, inputSized, outputSized, _, _⟩ := call.head
  cases params with
  | activation kind =>
      unfold halfActivationBody
      refine .bind_lift fun _ found => ?_
      cases found
      refine .bind_lift fun _ _ => .bind_lift fun _ found => ?_
      cases found
      refine .bind_lift fun _ _ => ?_
      exact (Tensor.safe_toSingles inputSized).bind fun _ _ =>
        Tensor.safe_writeSingles outputSized _
  | _ => exact safe_refuse _

theorem storedActivationBody_safe {elementType : ElementType}
    (call : AdmittedCall hook op params inputs output derived) :
    (storedActivationBody elementType ⟨params, inputs, [output], derived⟩).Safe := by
  obtain ⟨input, others, rfl, _, outputSized, _, _⟩ := call.head
  cases params with
  | activation kind =>
      unfold storedActivationBody
      refine .bind_lift fun _ found => ?_
      cases found
      refine .bind_lift fun _ _ => .bind_lift fun _ found => ?_
      cases found
      refine .bind_lift fun _ _ => .bind_lift fun _ _ => ?_
      refine Safe.bind ((safe_lift _).map _) fun _ counted => ?_
      obtain ⟨slots, counted, _⟩ := map_eq_ok.1 counted
      obtain ⟨old, held, _⟩ := storedSlots_eq_ok (lift_eq_ok.1 counted)
      exact Tensor.safe_withStored (Buffer.isInteger_of_integers? held) _
  | _ => exact safe_refuse _

theorem laneActivationBody_safe {lanes : Nat} {call : Call} :
    (laneActivationBody lanes call).Safe := by
  unfold laneActivationBody
  split
  · refine .bind_lift fun _ _ => .bind_lift fun values _ => .bind_lift fun written _ => ?_
    refine (safe_tabulate fun index bound => ?_).map _
    split
    · rename_i place paired
      obtain ⟨inside, _⟩ := List.forall₂_cons.1 (blockPartners?_inside paired)
      exact (safe_readAt inside).map _
    · exact safe_readAt bound
  · exact safe_refuse _

end Activations

end TensorRuntime
