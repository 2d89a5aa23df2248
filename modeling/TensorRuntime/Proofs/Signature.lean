import TensorRuntime.Proofs.Attempt
import TensorRuntime.Proofs.Numeric.PositiveSingle

/-!
What makes a tensor valid, and when signatures agree. Records are compared as numbers, which
for the positive finite scales of a checked record is equality.
-/

namespace TensorRuntime

namespace Quantization

/-- Every scale of a record is positive and finite. -/
def Usable : Quantization → Prop
  | perTensor affine => affine.scale.isPositiveFinite = true
  | perChannel scales _ _ => ∀ scale ∈ scales.toList, scale.isPositiveFinite = true

theorem scale_of_check {affine : Affine} {elementType : ElementType} {range : Int × Int}
    (checked : affine.check elementType range = .ok ()) :
    affine.scale.isPositiveFinite = true := by
  unfold Affine.check at checked
  by_cases usable : affine.scale.isPositiveFinite = true
  · exact usable
  · simp [usable] at checked

theorem usable_of_validate {record : Quantization} {elementType : ElementType} {dims : List Nat}
    (checked : record.validate elementType dims = .ok ()) : record.Usable := by
  unfold validate at checked
  cases range : elementType.intRange? with
  | none => simp [range] at checked
  | some bounds =>
      rw [range] at checked
      cases record with
      | perTensor affine => exact scale_of_check checked
      | perChannel scales zeroPoints axis =>
          dsimp only at checked
          split at checked
          · cases checked
          · rename_i extent _
            split at checked
            · cases checked
            · rename_i sizes
              have entries := Attempt.forM_eq_ok.1 checked
              intro scale member
              obtain ⟨place, bound, found⟩ := List.getElem_of_mem member
              have scaleBound : place < scales.size := by simpa using bound
              have zeroBound : place < zeroPoints.size := by omega
              have entry := entries (scales[place], zeroPoints[place]) (by
                rw [List.mem_iff_getElem]
                exact ⟨place, by simp; omega, by simp⟩)
              rw [← found]
              simpa using scale_of_check entry

theorem eq_of_same {first second : Quantization} (firstUsable : first.Usable)
    (secondUsable : second.Usable) (same : first.same second = true) : first = second := by
  cases first with
  | perTensor firstAffine =>
      cases second with
      | perTensor secondAffine =>
          simp only [Quantization.same, Bool.and_eq_true, beq_iff_eq] at same
          have scales := Single.eq_of_beq firstUsable secondUsable same.1
          cases firstAffine
          cases secondAffine
          simp_all
      | perChannel => cases same
  | perChannel firstScales firstZeros firstAxis =>
      cases second with
      | perTensor => cases same
      | perChannel secondScales secondZeros secondAxis =>
          simp only [Quantization.same, Bool.and_eq_true, beq_iff_eq] at same
          obtain ⟨⟨scales, rfl⟩, rfl⟩ := same
          rw [Array.isEqv_eq_decide] at scales
          split at scales
          · rename_i sizes
            simp only [decide_eq_true_eq] at scales
            have equal : firstScales = secondScales := by
              apply Array.ext sizes
              intro place firstBound secondBound
              exact Single.eq_of_beq (firstUsable _ (by simp))
                (secondUsable _ (by simp)) (scales place firstBound)
            rw [equal]
          · cases scales

theorem same_self {record : Quantization} (usable : record.Usable) :
    record.same record = true := by
  cases record with
  | perTensor affine => simp [Quantization.same, Single.beq_self usable]
  | perChannel scales zeroPoints axis =>
      simp only [Quantization.same, beq_self_eq_true, Bool.and_true]
      rw [Array.isEqv_eq_decide]
      simp only [dite_true, decide_eq_true_eq]
      intro place bound
      exact Single.beq_self (usable _ (by simp))

def UsableOption (record : Option Quantization) : Prop :=
  ∀ present, record = some present → present.Usable

theorem eq_of_sameOption {first second : Option Quantization}
    (firstUsable : UsableOption first) (secondUsable : UsableOption second)
    (same : sameOption first second = true) : first = second := by
  cases first with
  | none =>
      cases second with
      | none => rfl
      | some => cases same
  | some firstRecord =>
      cases second with
      | none => cases same
      | some secondRecord =>
          rw [eq_of_same (firstUsable _ rfl) (secondUsable _ rfl) same]

theorem sameOption_self {record : Option Quantization} (usable : UsableOption record) :
    sameOption record record = true := by
  cases record with
  | none => rfl
  | some present => exact same_self (usable _ rfl)

end Quantization

namespace Tensor

def Usable (tensor : Tensor) : Prop := Quantization.UsableOption tensor.quantization

theorem usable_of_none {tensor : Tensor} (bare : tensor.quantization = none) :
    tensor.Usable := by
  intro record present
  rw [bare] at present
  cases present

/-- The buffer holds as many bytes as the shape needs. -/
def Sized (tensor : Tensor) : Prop :=
  tensor.buffer.byteCount = tensor.elementType.storageBytes tensor.count

def RecordFits (tensor : Tensor) : Prop :=
  match tensor.quantization, tensor.elementType.isInteger with
  | some record, true => record.validate tensor.elementType tensor.dims = .ok ()
  | none, false => True
  | _, _ => False

theorem valid_iff {tensor : Tensor} : tensor.Valid ↔ tensor.shape.rank ≤ maxRank ∧
    tensor.layout.acceptsRank tensor.shape.rank = true ∧ tensor.Sized ∧ tensor.RecordFits := by
  unfold Valid validate Sized RecordFits
  dsimp only
  by_cases deep : maxRank < tensor.shape.rank
  · simp [deep, Nat.not_le.2 deep]
  by_cases accepts : tensor.layout.acceptsRank tensor.shape.rank = true
  · by_cases bytes : tensor.buffer.byteCount = tensor.elementType.storageBytes tensor.count
    · simp only [deep, if_false, accepts, Bool.not_true, Bool.false_eq_true, bytes, ne_eq,
        not_true_eq_false, true_and, Nat.le_of_not_lt deep]
      cases tensor.quantization <;> cases tensor.elementType.isInteger <;> simp
    · simp [deep, accepts, bytes]
  · simp [deep, accepts]

theorem Valid.sized {tensor : Tensor} (valid : tensor.Valid) : tensor.Sized :=
  (valid_iff.1 valid).2.2.1

theorem Valid.usable {tensor : Tensor} (valid : tensor.Valid) : tensor.Usable := by
  intro record present
  obtain ⟨_, _, _, fits⟩ := valid_iff.1 valid
  unfold RecordFits at fits
  rw [present] at fits
  split at fits
  · rename_i same _
    cases same
    exact Quantization.usable_of_validate fits
  · rename_i absent _
    cases absent
  · cases fits

end Tensor

namespace Signature

theorem eq_of_same {first second : Signature}
    (firstUsable : Quantization.UsableOption first.quantization)
    (secondUsable : Quantization.UsableOption second.quantization)
    (same : first.same second = true) : first = second := by
  simp only [Signature.same, Bool.and_eq_true, beq_iff_eq] at same
  obtain ⟨⟨⟨shape, elementType⟩, layout⟩, record⟩ := same
  have records := Quantization.eq_of_sameOption firstUsable secondUsable record
  cases first
  cases second
  simp_all

theorem accepts_iff {tensor : Tensor} {signature : Signature} (usable : tensor.Usable)
    (signatureUsable : Quantization.UsableOption signature.quantization) :
    signature.accepts tensor = true ↔ tensor.signature = signature ∧ tensor.Sized := by
  cases signature with
  | mk shape elementType layout quantization =>
      simp only [accepts, Tensor.signature, Tensor.Sized, Tensor.count, Bool.and_eq_true,
        beq_iff_eq, Signature.mk.injEq]
      constructor
      · rintro ⟨⟨⟨⟨rfl, rfl⟩, rfl⟩, record⟩, size⟩
        exact ⟨⟨rfl, rfl, rfl, Quantization.eq_of_sameOption usable signatureUsable record⟩, size⟩
      · rintro ⟨⟨rfl, rfl, rfl, rfl⟩, size⟩
        exact ⟨⟨⟨⟨rfl, rfl⟩, rfl⟩, Quantization.sameOption_self usable⟩, size⟩

end Signature

end TensorRuntime
