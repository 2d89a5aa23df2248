import TensorRuntime.Kernel.Accelerator
import TensorRuntime.Proofs.Kernel.Prepared
import TensorRuntime.Proofs.RealValues

/-!
Calls that must not abort, and what a kernel knows when it has taken the arguments of
such a call apart: every array has as many elements as the shape of its tensor says.
-/

namespace TensorRuntime

open Attempt

/-- A prepared call on valid tensors, for one kind of operator; what it pads to is counted in
words. -/
structure AdmittedCall (hook : Precompute) (op : OpKind) (params : Params) (inputs : List Tensor)
    (output : Tensor) (derived : Option Derived) : Prop
    extends PreparedCall hook params inputs output derived where
  classified : params.classify inputs = .ok op
  padsFit : params.PadsFit inputs
  valid : ∀ tensor ∈ output :: inputs, tensor.Valid

/-- Admitted calls for an operator never abort, as long as no empty row is asked of a kernel that
cuts its output into rows of the last extent. -/
def Kernel.SafeFor (kernel : Kernel) (op : OpKind) (cutsRows : Bool) : Prop :=
  ∀ params inputs output derived, AdmittedCall kernel.precompute op params inputs output derived →
    (cutsRows = true → output.dims.getLast? ≠ some 0) →
    (kernel.run ⟨params, inputs, [output], derived⟩).outcome.Safe

theorem Kernel.safeFor_ofBody {name : String} {layouts : List Layout} {entry : String}
    {hook : Precompute} {precompute? : Option Precompute} {body : Call → Attempt Tensor}
    {op : OpKind} {cutsRows : Bool}
    (own : (ofBody name layouts entry precompute? body).precompute = hook)
    (safe : ∀ params inputs output derived,
      AdmittedCall hook op params inputs output derived →
      (cutsRows = true → output.dims.getLast? ≠ some 0) →
      (body ⟨params, inputs, [output], derived⟩).Safe) :
    (ofBody name layouts entry precompute? body).SafeFor op cutsRows := by
  intro params inputs output derived call rows
  rw [own] at call
  have bodySafe := safe params inputs output derived call rows
  cases ran : body ⟨params, inputs, [output], derived⟩ with
  | error fault =>
      rw [ran] at bodySafe
      rw [run_ofBody_error ran]
      exact safe_error.2 (safe_error.1 bodySafe)
  | ok written =>
      rw [run_ofBody_ok ran]
      exact safe_ok ()

/-- Admitted calls for an operator only succeed where the rows of the output hold something. -/
def Kernel.NeedsRows (kernel : Kernel) (op : OpKind) : Prop :=
  ∀ params inputs output derived, AdmittedCall kernel.precompute op params inputs output derived →
    (kernel.run ⟨params, inputs, [output], derived⟩).outcome = .ok () →
      output.dims.getLast? ≠ some 0

theorem Kernel.needsRows_ofBody {name : String} {layouts : List Layout} {entry : String}
    {hook : Precompute} {precompute? : Option Precompute} {body : Call → Attempt Tensor}
    {op : OpKind} (own : (ofBody name layouts entry precompute? body).precompute = hook)
    (needs : ∀ {op params inputs output result derived},
      AdmittedCall hook op params inputs output derived →
      body ⟨params, inputs, [output], derived⟩ = .ok result → output.dims.getLast? ≠ some 0) :
    (ofBody name layouts entry precompute? body).NeedsRows op := by
  intro params inputs output derived call done
  rw [own] at call
  obtain ⟨_, ran⟩ := body_of_run done
  exact needs call ran

section Extents

theorem pos_iff_lastFilled {dims : List Nat} {extent : Nat} (last : dims.getLast? = some extent) :
    0 < extent ↔ dims.getLast? ≠ some 0 := by
  rw [last, Nat.pos_iff_ne_zero, ne_eq, ne_eq, Option.some.injEq]

theorem Tensor.count_of_matrix {tensor : Tensor} {rows columns : Nat}
    (dims : tensor.dims = [rows, columns]) : tensor.count = rows * columns := by
  change volume tensor.dims = _
  rw [dims, volume_cons, volume_cons, volume_nil, Nat.mul_one]

end Extents

section Arguments

variable {α : Type} {tensor output : Tensor} {routine : String}

theorem Tensor.safe_bind_singles {next : Array Single → Attempt α} (sized : tensor.Sized)
    (rest : ∀ values, values.size = tensor.count → (next values).Safe) :
    (liftM (tensor.singlesFor routine) >>= next : Attempt α).Safe :=
  .bind_lift fun values read => rest values (sized.singles (singlesFor_eq_ok.1 read))

theorem Tensor.safe_bind_stored {elementType : ElementType} {next : Array Int → Attempt α}
    (sized : tensor.Sized) (rest : ∀ stored, stored.size = tensor.count → (next stored).Safe) :
    (liftM (tensor.storedFor elementType routine) >>= next : Attempt α).Safe :=
  .bind_lift fun stored read => rest stored (sized.stored (storedFor_eq_ok.1 read).2)

theorem Tensor.safe_bind_slots {elementType : ElementType} {next : Nat → Attempt α}
    (sized : tensor.Sized)
    (rest : tensor.elementType.isInteger = true → (next tensor.count).Safe) :
    (liftM (tensor.storedSlots elementType routine) >>= next : Attempt α).Safe := by
  refine .bind_lift fun slots counted => ?_
  obtain ⟨old, held, rfl⟩ := storedSlots_eq_ok counted
  rw [sized.stored held]
  exact rest (Buffer.isInteger_of_integers? held)

theorem Tensor.safe_bind_bytes {refusal : Error} {next : Array Int → Attempt α}
    (sized : tensor.Sized)
    (rest : ∀ stored, stored.size = tensor.count → tensor.elementType = .i8 →
      (next stored).Safe) :
    (liftM (tensor.signedBytes refusal) >>= next : Attempt α).Safe := by
  refine .bind_lift fun stored read => ?_
  exact rest stored (sized.stored (signedBytes_eq_ok read)) (elementType_of_signedBytes read)

theorem Call.safe_bind_output {params : Params} {inputs : List Tensor} {derived : Option Derived}
    {next : Tensor × Array Single → Attempt α} (sized : output.Sized)
    (rest : ∀ old, old.size = output.count → (next (output, old)).Safe) :
    (liftM (Call.singleOutput ⟨params, inputs, [output], derived⟩ routine) >>= next :
      Attempt α).Safe := by
  refine .bind_lift fun written read => ?_
  obtain ⟨found, held⟩ := singleOutput_eq_ok.1 read
  cases found
  exact rest _ (sized.singles held)

theorem PreparedCall.size_of_bias {hook : Precompute} {params : Params}
    {input weights output : Tensor} {rest : List Tensor} {derived : Option Derived}
    (call : PreparedCall hook params (input :: weights :: rest) output derived) {columns : Nat}
    (dims : ∀ start, rest[0]? = some start → start.dims = [columns])
    {values : Option (Array Single)}
    (read : biasFor (input :: weights :: rest)[2]? routine = .ok values) :
    ∀ start, values = some start → start.size = columns := by
  intro start same
  change biasFor rest[0]? routine = _ at read
  cases present : rest[0]? with
  | none =>
      rw [present] at read
      cases read
      cases same
  | some bias =>
      rw [present] at read
      obtain ⟨own, held, rfl⟩ := map_eq_ok.1 read
      cases same
      have sized : bias.Sized := call.sized bias (by simp [List.mem_of_getElem? present])
      rw [sized.singles (Tensor.singlesFor_eq_ok.1 held)]
      change volume bias.dims = columns
      rw [dims bias present]
      exact Nat.mul_one columns

theorem size_of_realBias [Host] {bias : Option Tensor} {columns : Nat}
    {values : Option (Array Single)} (dims : ∀ start, bias = some start → start.dims = [columns])
    (read : realBias bias = .ok values) :
    ∀ start, values = some start → start.size = columns := by
  intro start same
  cases bias with
  | none =>
      cases read
      cases same
  | some tensor =>
      obtain ⟨own, held, rfl⟩ := map_eq_ok.1 read
      cases same
      rw [Tensor.size_of_toSingles held]
      change volume tensor.dims = columns
      rw [dims tensor rfl]
      exact Nat.mul_one columns

theorem safe_realBias [Host] {bias : Option Tensor}
    (sized : ∀ start, bias = some start → start.Sized) : (realBias bias).Safe := by
  cases bias with
  | none => exact safe_pure none
  | some tensor => exact (Tensor.safe_toSingles (sized tensor rfl)).map _

end Arguments

end TensorRuntime
