import TensorRuntime.Proofs.Operator.Fresh

/-!
What a call has passed when a prepare accepts it: one output of the inferred shape and
the element type of the first input, and a kernel that the registry holds under the
operator's key, for that element type or for singles.
-/

namespace TensorRuntime

open Attempt

namespace Registry

variable {registry : Registry} {op : OpKind} {backend : Backend} {allowFallback : Bool}

theorem choose_cases {given elementType : ElementType} {id : KernelId} {path : DispatchPath}
    (chosen : registry.choose op given backend allowFallback = .ok (id, path, elementType)) :
    registry.lookup ⟨op, elementType, backend⟩ = some id ∧
      (path = .native ∧ elementType = given ∨
        path = .quantFallback ∧ elementType = .f32 ∧ given.isLowPrecision = true) := by
  unfold choose at chosen
  split at chosen
  · rename_i found
    cases chosen
    exact ⟨found, .inl ⟨rfl, rfl⟩⟩
  · split at chosen
    · rename_i allowed
      split at chosen
      · rename_i found
        cases chosen
        exact ⟨found, .inr ⟨rfl, rfl, (Bool.and_eq_true_iff.1 allowed).1⟩⟩
      · cases chosen
    · cases chosen

theorem choose_native {elementType : ElementType} {id : KernelId}
    (found : registry.lookup ⟨op, elementType, backend⟩ = some id) :
    registry.choose op elementType backend allowFallback = .ok (id, .native, elementType) := by
  unfold choose
  rw [found]

theorem listed_of_lookup [Host] {elementType : ElementType} {id : KernelId} {kernel : Kernel}
    (found : Registry.default.lookup ⟨op, elementType, backend⟩ = some id)
    (own : Registry.default.kernel? id = some kernel) :
    (op, elementType, kernel) ∈ Catalogue.kernelsOf backend := by
  obtain ⟨entry, member, key, same⟩ := key_of_lookup found
  have listed := mem_default member
  rw [own] at same
  rw [key, ← Option.some.inj same] at listed
  exact listed

end Registry

namespace Operator

variable {operator : Operator} {registry : Registry} {backend : Backend}
  {inputs outputs : List Tensor} {ledger : ShadowLedger}

theorem accepted_of_checkOutputs {input output : Tensor} {others : List Tensor}
    (checked : operator.checkOutputs (input :: others) [output] = .ok ()) :
    operator.params.outputShape (input :: others) = .ok output.shape ∧
      output.elementType = input.elementType := by
  obtain ⟨_, _, _, sameOutput, sameInputs, inferred, sameType⟩ := checkOutputs_eq_ok.1 checked
  cases sameOutput
  cases sameInputs
  exact ⟨inferred, sameType⟩

theorem planned_of_prepare [Host]
    (done : (operator.renewed.prepare registry backend inputs outputs ledger).outcome = .ok ()) :
    ∃ requested kernel derived,
      operator.plan registry backend inputs outputs =
        .ok (requested, kernel, .capture kernel inputs outputs) ∧
      (operator.derive kernel requested.path inputs ledger).2 = .ok derived := by
  have fresh : ∀ bound, operator.renewed.binding.holds bound = false := fun _ => rfl
  cases reached : operator.renewed.reachesHook registry backend inputs outputs with
  | false =>
      obtain ⟨_, kept⟩ := prepare_of_not_reached ledger reached
      obtain ⟨_, kernel, _, _, held⟩ := kept done
      rw [fresh] at held
      cases held
  | true =>
      obtain ⟨requested, kernel, planned, _, refreshed⟩ := prepare_of_reached ledger reached
      rw [refreshed] at done
      obtain ⟨derived, hooked, _⟩ := refresh_done done
      exact ⟨requested, kernel, derived, planned, hooked⟩

end Operator

end TensorRuntime
