import TensorRuntime.Proofs.Kernel.Hooks
import TensorRuntime.Proofs.OutputShape
import TensorRuntime.Proofs.Refusals

/-!
Single-precision shadows. A shadow has the name, shape and layout of its tensor, so the
signatures of the views of some inputs follow from the signatures of the inputs.
-/

namespace TensorRuntime

open Attempt

variable [Host]

namespace Tensor

variable {tensor shadow : Tensor} {values : Array Single}

def asSingles (tensor : Tensor) (values : Array Single) : Tensor :=
  ⟨tensor.name, tensor.shape, tensor.layout, none, .external, .f32 values⟩

omit [Host] in
theorem valid_rename {name : String} : { tensor with name }.Valid ↔ tensor.Valid := by
  rw [valid_iff, valid_iff]
  rfl

omit [Host] in
theorem shadowOf_eq_ok : tensor.shadowOf values = .ok shadow ↔
    shadow = tensor.asSingles values ∧ shadow.Valid := by
  unfold shadowOf create
  simp only [bind_eq_ok, pure_eq_ok]
  constructor
  · rintro ⟨_, ⟨shape, found, _, checked, rfl⟩, rfl⟩
    have own : tensor.shape = shape := by
      unfold Shape.ofDims at found
      split at found
      · cases found
      · exact Except.ok.inj found
    subst own
    exact ⟨rfl, valid_rename.2 checked⟩
  · rintro ⟨rfl, valid⟩
    refine ⟨{ tensor.asSingles values with name := "" }, ⟨tensor.shape, ?_, (),
      valid_rename.2 valid, rfl⟩, rfl⟩
    exact if_neg (Nat.not_lt.2 (valid_iff.1 valid).1)

theorem floatView_eq_ok {view : Tensor} (viewed : tensor.floatView = .ok view) :
    (tensor.needsShadow = false ∧ view = tensor) ∨
      tensor.needsShadow = true ∧ ∃ values, tensor.toSingles = .ok values ∧
        view = tensor.asSingles values ∧ view.Valid := by
  unfold floatView at viewed
  by_cases shadowed : tensor.needsShadow = true
  · rw [if_pos shadowed] at viewed
    unfold dequantized at viewed
    simp only [bind_eq_ok, lift_eq_ok] at viewed
    obtain ⟨values, read, made⟩ := viewed
    obtain ⟨same, valid⟩ := shadowOf_eq_ok.1 made
    exact .inr ⟨shadowed, values, read, same, valid⟩
  · rw [if_neg shadowed] at viewed
    cases viewed
    exact .inl ⟨by simpa using shadowed, rfl⟩

theorem floatView_sized {view : Tensor} (viewed : tensor.floatView = .ok view)
    (sized : tensor.Sized) : view.Sized := by
  obtain ⟨_, rfl⟩ | ⟨_, values, _, _, valid⟩ := floatView_eq_ok viewed
  · exact sized
  · exact valid.sized

theorem floatView_signature {tensor' view view' : Tensor}
    (same : tensor'.signature = tensor.signature) (viewed : tensor.floatView = .ok view)
    (viewed' : tensor'.floatView = .ok view') : view'.signature = view.signature := by
  have parts := same
  simp only [Tensor.signature, Signature.mk.injEq] at parts
  obtain ⟨shape, elementType, layout, records⟩ := parts
  have shadowed : tensor'.needsShadow = tensor.needsShadow := by
    unfold needsShadow
    rw [elementType, records]
  obtain ⟨bare, rfl⟩ | ⟨needed, values, _, rfl, _⟩ := floatView_eq_ok viewed
  · obtain ⟨_, rfl⟩ | ⟨needed, _⟩ := floatView_eq_ok viewed'
    · exact same
    · rw [shadowed, bare] at needed
      cases needed
  · obtain ⟨bare, _⟩ | ⟨_, values', _, rfl, _⟩ := floatView_eq_ok viewed'
    · rw [shadowed, needed] at bare
      cases bare
    · simp only [Tensor.signature, asSingles, Tensor.elementType, Buffer.elementType, shape, layout]

theorem zeroShadow_eq_ok : tensor.zeroShadow = .ok shadow ↔
    Buffer.allocate tensor.count 4 "fallback output shadow" = .ok () ∧
      shadow = tensor.asSingles (Array.replicate tensor.count 0) ∧ shadow.Valid := by
  unfold zeroShadow
  simp only [bind_eq_ok, lift_eq_ok, shadowOf_eq_ok]
  constructor
  · rintro ⟨_, allocated, made⟩
    exact ⟨allocated, made⟩
  · rintro ⟨allocated, made⟩
    exact ⟨(), allocated, made⟩

theorem floatView_frame {tensor' view view' : Tensor} (sized : tensor.Sized)
    (sized' : tensor'.Sized) (same : tensor'.frame = tensor.frame)
    (viewed : tensor.floatView = .ok view) (viewed' : tensor'.floatView = .ok view') :
    view'.frame = view.frame := by
  obtain ⟨name, kind, signatures, _⟩ := frame_eq_iff.1 same
  have signature := floatView_signature signatures viewed viewed'
  have sizes : view'.buffer.byteCount = view.buffer.byteCount := by
    have parts := signature
    simp only [Tensor.signature, Signature.mk.injEq] at parts
    rw [floatView_sized viewed sized, floatView_sized viewed' sized', parts.2.1, count, count,
      parts.1]
  have shadowed : tensor'.needsShadow = tensor.needsShadow := by
    simp only [Tensor.signature, Signature.mk.injEq] at signatures
    unfold needsShadow
    rw [signatures.2.1, signatures.2.2.2]
  refine frame_eq_iff.2 ⟨?_, ?_, signature, sizes⟩
  all_goals
    obtain ⟨bare, rfl⟩ | ⟨needed, _, _, rfl, _⟩ := floatView_eq_ok viewed
    · obtain ⟨_, rfl⟩ | ⟨needed, _⟩ := floatView_eq_ok viewed'
      · assumption
      · rw [shadowed, bare] at needed
        cases needed
    · obtain ⟨bare, _⟩ | ⟨_, _, _, rfl, _⟩ := floatView_eq_ok viewed'
      · rw [shadowed, needed] at bare
        cases bare
      · first
        | exact name
        | rfl

/-- What no change of a buffer takes from a tensor: its layout fits its shape. -/
def Shaped (tensor : Tensor) : Prop :=
  tensor.shape.rank ≤ maxRank ∧ tensor.layout.acceptsRank tensor.shape.rank = true

omit [Host] in
theorem Valid.shaped (valid : tensor.Valid) : tensor.Shaped := by
  obtain ⟨rank, accepts, _⟩ := valid_iff.1 valid
  exact ⟨rank, accepts⟩

omit [Host] in
theorem Shaped.asSingles (shaped : tensor.Shaped) (size : values.size = tensor.count) :
    (tensor.asSingles values).Valid := by
  refine valid_iff.2 ⟨shaped.1, shaped.2, ?_, trivial⟩
  change (Buffer.f32 values).byteCount = ElementType.storageBytes .f32 tensor.count
  rw [← size]
  rfl

theorem Valid.exists_floatView (valid : tensor.Valid)
    (room : tensor.needsShadow = true → tensor.HasRoom) :
    ∃ view, tensor.floatView = .ok view := by
  unfold floatView
  by_cases shadowed : tensor.needsShadow = true
  · obtain ⟨values, read⟩ := valid.exists_toSingles (room shadowed)
    rw [if_pos shadowed]
    refine ⟨tensor.asSingles values, ?_⟩
    unfold dequantized
    simp only [bind_eq_ok, lift_eq_ok, shadowOf_eq_ok]
    exact ⟨values, read, rfl, valid.shaped.asSingles (size_of_toSingles read)⟩
  · rw [if_neg shadowed]
    exact ⟨tensor, rfl⟩

theorem Valid.exists_zeroShadow (valid : tensor.Valid) (room : tensor.HasRoom) :
    ∃ shadow, tensor.zeroShadow = .ok shadow :=
  ⟨_, zeroShadow_eq_ok.2 ⟨room.allocate _, rfl, valid.shaped.asSingles (by simp)⟩⟩

theorem hasRoom_of_floatView {view : Tensor} (shadowed : tensor.needsShadow = true)
    (viewed : tensor.floatView = .ok view) : tensor.HasRoom := by
  obtain ⟨bare, _⟩ | ⟨_, values, read, _⟩ := floatView_eq_ok viewed
  · rw [shadowed] at bare
    cases bare
  · unfold toSingles at read
    simp only [bind_eq_ok, lift_eq_ok] at read
    obtain ⟨_, allocated, _⟩ := read
    exact hasRoom_of_allocate allocated

end Tensor

theorem exists_of_floatViews {inputs views : List Tensor}
    (viewed : inputs.mapM Tensor.floatView = .ok views) {view : Tensor} (member : view ∈ views) :
    ∃ tensor ∈ inputs, tensor.floatView = .ok view := by
  rw [mapM_eq_ok] at viewed
  have listed : (Except.ok view : Attempt Tensor) ∈ inputs.map Tensor.floatView := by
    rw [viewed]
    exact List.mem_map_of_mem member
  exact List.mem_map.1 listed

theorem floatViews_sized {inputs views : List Tensor} (sized : ∀ tensor ∈ inputs, tensor.Sized)
    (viewed : inputs.mapM Tensor.floatView = .ok views) : ∀ view ∈ views, view.Sized := by
  intro view member
  obtain ⟨tensor, inside, own⟩ := exists_of_floatViews viewed member
  exact Tensor.floatView_sized own (sized tensor inside)

theorem floatViews_valid {inputs views : List Tensor} (valid : ∀ tensor ∈ inputs, tensor.Valid)
    (viewed : inputs.mapM Tensor.floatView = .ok views) : ∀ view ∈ views, view.Valid := by
  intro view member
  obtain ⟨tensor, inside, own⟩ := exists_of_floatViews viewed member
  obtain ⟨_, rfl⟩ | ⟨_, _, _, _, made⟩ := Tensor.floatView_eq_ok own
  · exact valid view inside
  · exact made

theorem floatViews_outlines {inputs views : List Tensor}
    (viewed : inputs.mapM Tensor.floatView = .ok views) :
    views.map Tensor.outline = inputs.map Tensor.outline := by
  rw [mapM_eq_ok] at viewed
  apply List.ext_getElem?
  intro place
  have here := congrArg (fun items => items[place]?) viewed
  simp only [List.getElem?_map] at here ⊢
  cases view : views[place]? with
  | none =>
      rw [view] at here
      rw [Option.map_eq_none_iff.1 here]
  | some own =>
      rw [view] at here
      obtain ⟨input, found, made⟩ := Option.map_eq_some_iff.1 here
      rw [found]
      obtain ⟨_, rfl⟩ | ⟨_, values, _, rfl, _⟩ := Tensor.floatView_eq_ok made <;> rfl

theorem floatViews_signatures {inputs inputs' views views' : List Tensor}
    (same : inputs'.map Tensor.signature = inputs.map Tensor.signature)
    (viewed : inputs.mapM Tensor.floatView = .ok views)
    (viewed' : inputs'.mapM Tensor.floatView = .ok views') :
    views'.map Tensor.signature = views.map Tensor.signature :=
  reads_of_mapM (fun _ _ _ _ _ _ => Tensor.floatView_signature) same viewed viewed'

theorem floatViews_frames {inputs inputs' views views' : List Tensor}
    (sized : ∀ tensor ∈ inputs, tensor.Sized) (sized' : ∀ tensor ∈ inputs', tensor.Sized)
    (same : inputs'.map Tensor.frame = inputs.map Tensor.frame)
    (viewed : inputs.mapM Tensor.floatView = .ok views)
    (viewed' : inputs'.mapM Tensor.floatView = .ok views') :
    views'.map Tensor.frame = views.map Tensor.frame :=
  reads_of_mapM (fun input member input' member' _ _ =>
    Tensor.floatView_frame (sized input member) (sized' input' member')) same viewed viewed'

theorem exists_floatViews {inputs : List Tensor} (valid : ∀ tensor ∈ inputs, tensor.Valid)
    (room : ∀ tensor ∈ inputs, tensor.needsShadow = true → tensor.HasRoom) :
    ∃ views, inputs.mapM Tensor.floatView = .ok views :=
  exists_mapM fun tensor member => (valid tensor member).exists_floatView (room tensor member)

end TensorRuntime
