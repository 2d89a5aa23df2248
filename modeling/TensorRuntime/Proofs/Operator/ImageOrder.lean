import TensorRuntime.Proofs.Kernel.ImageOrder
import TensorRuntime.Proofs.Kernel.Progress.Catalogue
import TensorRuntime.Proofs.Kernel.Refilling
import TensorRuntime.Proofs.Operator.Safety

/-!
Where operators on images put what they compute. The output is laid out in the order of
axes of the input, on every backend and on either path; its own tag is not looked at.
-/

namespace TensorRuntime

open Attempt

def OpKind.onImages : OpKind → Bool
  | conv2d | depthwiseConv2d | groupedConv2d | maxPool2d | avgPool2d => true
  | _ => false

def Params.onImages : Params → Bool
  | conv2d _ | pool2d _ => true
  | _ => false

theorem Params.onImages_of_classify {params : Params} {inputs : List Tensor} {op : OpKind}
    (classified : params.classify inputs = .ok op) (images : params.onImages = true) :
    op.onImages = true := by
  have family := family_of_classify classified
  cases params with
  | conv2d | pool2d => cases op <;> first | rfl | simp [Params.family, OpKind.family] at family
  | _ => cases images

/-- A kernel lays out what it writes in the order of its first input, by a rule. -/
def Kernel.FollowsRule (kernel : Kernel) (rule : ElementRule) : Prop :=
  ∀ params inputs output derived, PreparedCall kernel.precompute params inputs output derived →
    (kernel.run ⟨params, inputs, [output], derived⟩).outcome = .ok () →
      ∃ written, (kernel.run ⟨params, inputs, [output], derived⟩).outputs = [written] ∧
        written.Follows inputs output (rule params inputs output.quantization derived)

theorem Kernel.followsRule_ofBody {name : String} {layouts : List Layout} {entry : String}
    {hook : Precompute} {precompute? : Option Precompute} {body : Call → Attempt Tensor}
    {rule : ElementRule} (own : (ofBody name layouts entry precompute? body).precompute = hook)
    (follows : ∀ {params inputs output written derived},
      PreparedCall hook params inputs output derived →
      body ⟨params, inputs, [output], derived⟩ = .ok written →
      written.Follows inputs output (rule params inputs output.quantization derived)) :
    (ofBody name layouts entry precompute? body).FollowsRule rule := by
  intro params inputs output derived call done
  rw [own] at call
  obtain ⟨written, ran⟩ := body_of_run done
  rw [run_ofBody_ok ran]
  exact ⟨written, rfl, follows call ran⟩

section

variable [Host]

namespace Catalogue

open Kernel (followsRule_ofBody)

/-- The rule of the kernel that a backend lists for an operator on images. -/
def imageRule (backend : Backend) (op : OpKind) (elementType : ElementType) : ElementRule :=
  match backend with
  | .reference =>
      match op, elementType with
      | .maxPool2d, .f32 | .avgPool2d, _ => poolRule
      | .maxPool2d, _ => storedPoolRule elementType
      | _, .f32 => convRule
      | _, _ => storedConvRule
  | .npu => acceleratorConvRule
  | .neon | .avx2 | .avx512 =>
      match op with
      | .maxPool2d | .avgPool2d => lanePoolRule backend.lanes
      | .depthwiseConv2d => laneDepthwiseRule backend.lanes
      | _ => laneConvRule backend.lanes

theorem scalarKernels_follow : ∀ item ∈ scalarKernels, item.1.onImages = true →
    item.2.2.FollowsRule (imageRule .reference item.1 item.2.1) := by
  have conv : convKernel.FollowsRule convRule := followsRule_ofBody rfl convBody_follows
  have convBytes : convBytesKernel.FollowsRule storedConvRule :=
    followsRule_ofBody rfl storedConvBody_follows
  have maxPool : maxPoolKernel.FollowsRule poolRule := followsRule_ofBody rfl poolBody_follows
  have avgPool : avgPoolKernel.FollowsRule poolRule := followsRule_ofBody rfl poolBody_follows
  have maxPoolBytes : maxPoolBytesKernel.FollowsRule (storedPoolRule .i8) :=
    followsRule_ofBody rfl storedPoolBody_follows
  have maxPoolUnsigned : maxPoolUnsignedBytesKernel.FollowsRule (storedPoolRule .u8) :=
    followsRule_ofBody rfl storedPoolBody_follows
  simp only [scalarKernels, List.forall_mem_append, List.forall_mem_cons, List.forall_mem_flatMap,
    List.forall_mem_map]
  simp [OpKind.onImages, imageRule, ElementType.all, conv, convBytes, maxPool, avgPool,
    maxPoolBytes, maxPoolUnsigned]

theorem laneKernels_follow (backend : Backend) (vector : backend.isVector = true) :
    ∀ item ∈ laneKernels backend, item.1.onImages = true →
      item.2.2.FollowsRule (imageRule backend item.1 item.2.1) := by
  have conv : (laneConvKernel backend).FollowsRule (laneConvRule backend.lanes) :=
    followsRule_ofBody rfl laneConvBody_follows
  have depthwise : (laneDepthwiseKernel backend).FollowsRule (laneDepthwiseRule backend.lanes) :=
    followsRule_ofBody rfl laneDepthwiseBody_follows
  have pool : (lanePoolKernel backend).FollowsRule (lanePoolRule backend.lanes) :=
    followsRule_ofBody rfl lanePoolBody_follows
  cases backend with
  | reference | npu => cases vector
  | neon | avx2 | avx512 =>
      simp [laneKernels, OpKind.onImages, imageRule, conv, depthwise, pool]

theorem acceleratorKernels_follow : ∀ item ∈ acceleratorKernels, item.1.onImages = true →
    item.2.2.FollowsRule (imageRule .npu item.1 item.2.1) := by
  have conv : acceleratorConvKernel.FollowsRule acceleratorConvRule := by
    refine followsRule_ofBody rfl fun call done => ?_
    obtain ⟨staged, rfl, ran⟩ := withStaged_eq_ok done
    exact acceleratorConvBody_follows call ran
  simp [acceleratorKernels, OpKind.onImages, imageRule, conv]

theorem kernelsOf_follow (backend : Backend) : ∀ item ∈ kernelsOf backend,
    item.1.onImages = true → item.2.2.FollowsRule (imageRule backend item.1 item.2.1) := by
  cases backend with
  | reference => exact scalarKernels_follow
  | npu => exact acceleratorKernels_follow
  | neon | avx2 | avx512 => exact laneKernels_follow _ rfl

end Catalogue

section Storing

variable {output stored : Tensor} {values : Array Single}

/-- How an integer tensor keeps a real value at a stored position, by its record. -/
def Tensor.storing (output : Tensor) (position : Nat) (value : Single) : Attempt Element :=
  match output.quantization with
  | some record => do
      let affine ← record.affineOf (record.channelOf output.dims position)
      return .stored (output.elementType.keep
        (affine.quantize (storedRange output.elementType) value))
  | none => abort

omit [Host] in
theorem Tensor.elementAt?_writeSingles (integer : output.elementType.isInteger = true)
    (made : output.writeSingles values = .ok stored) {position : Nat} {value : Single}
    (present : values[position]? = some value) :
    ∃ element, output.storing position value = .ok element ∧
      stored.elementAt? position = some element := by
  obtain ⟨old, held⟩ : ∃ old, output.buffer.integers? = some old := by
    unfold elementType at integer
    cases buffer : output.buffer with
    | f32 | f16 | bool =>
        rw [buffer] at integer
        cases integer
    | i8 | u8 | i16 | i32 => exact ⟨_, rfl⟩
  unfold writeSingles at made
  rw [guard_eq_ok] at made
  obtain ⟨_, made⟩ := made
  simp only [bind_eq_ok, pure_eq_ok, bufferOfSingles_integers held] at made
  obtain ⟨buffer, filled, rfl⟩ := made
  unfold storing
  cases recorded : output.quantization with
  | none =>
      rw [recorded] at filled
      cases filled
  | some record =>
      rw [recorded] at filled
      obtain ⟨integers, quantized, built⟩ := bind_eq_ok.1 filled
      split at built
      · rename_i buffer' converted
        cases built
        unfold Quantization.quantize at quantized
        simp only [bind_eq_ok, lift_eq_ok] at quantized
        obtain ⟨_, _, _, _, quantized⟩ := quantized
        obtain ⟨kept, own, found⟩ := at_mapIdxM quantized present
        simp only [bind_eq_ok, pure_eq_ok] at own
        obtain ⟨affine, paired, rfl⟩ := own
        refine ⟨_, bind_eq_ok.2 ⟨affine, paired, rfl⟩, ?_⟩
        rw [elementAt?_stored (ElementType.integers_of_ofIntegers? converted), Array.getElem?_map,
          found]
        rfl
      · cases built

end Storing

/-- What a resolved call computes for one element of its output, laid out as an image: the rule of
the kernel on the inputs, or, through shadows, the rule on their single-precision views, kept by the
record of the output. -/
def Resolution.elementOf (requested : Resolution) (params : Params) (inputs : List Tensor)
    (output : Tensor) (derived : Option Derived) (outImage : ImageDims) (pixel : Pixel) :
    Attempt Element :=
  let rule := Catalogue.imageRule requested.backend requested.op requested.elementType
  match requested.path with
  | .native => rule params inputs output.quantization derived pixel
  | .quantFallback => do
      let views ← inputs.mapM Tensor.floatView
      match ← rule params views none derived pixel with
      | .single value => output.storing (outImage.index pixel) value
      | .stored _ => abort

namespace Operator

variable {operator : Operator} {backend : Backend} {inputs : List Tensor} {output : Tensor}
  {requested : Resolution} {kernel : Kernel} {bound : BoundTensors}

theorem followsRule_of_plan
    (planned : operator.plan Registry.default backend inputs [output] =
      .ok (requested, kernel, bound)) (images : operator.params.onImages = true) :
    kernel.FollowsRule
      (Catalogue.imageRule requested.backend requested.op requested.elementType) := by
  obtain ⟨_, resolved, found, _⟩ := plan_eq_ok planned
  obtain ⟨op, _, _, _, _, elementType, _, classified, rfl, chosen, _, _, rfl⟩ :=
    Registry.resolve_eq_ok.1 resolved
  exact Catalogue.kernelsOf_follow backend _
    (Registry.listed_of_lookup (Registry.choose_cases chosen).1 found)
    (Params.onImages_of_classify classified images)

end Operator

namespace OperatorRun.Runs

variable {run : OperatorRun} {backend : Backend} {inputs : List Tensor} {output : Tensor}
  {requested : Resolution} {kernel : Kernel}

theorem laidOut_onShadows
    (runs : run.Runs Registry.default backend inputs output requested kernel)
    (valid : ∀ tensor ∈ output :: inputs, tensor.Valid)
    (images : run.operator.params.onImages = true) (path : requested.path = .quantFallback)
    {stored : Tensor} (stores : kernel.onShadows run.operator.params inputs
      output run.operator.binding.derived? = .ok stored) :
    ∃ input others image outImage, inputs = input :: others ∧
      ImageDims.ofTensor input = .ok image ∧
      ImageDims.ofDims output.dims image.layout = .ok outImage ∧
      stored.LaidOut outImage (requested.elementOf run.operator.params inputs output
        run.operator.binding.derived? outImage) := by
  have follows := Operator.followsRule_of_plan runs.planned images
  obtain ⟨views, shadow, written, values, viewed, shadowed, ran, left, read, kept⟩ :=
    Kernel.onShadows_eq_ok.1 stores
  obtain ⟨native, planned, call, viewsValid⟩ := runs.onViews valid path viewed shadowed
  obtain ⟨own, left', view, otherViews, image, outImage, rfl, viewRead, outRead, laid⟩ :=
    follows _ _ _ _ call ran
  cases left.symm.trans left'
  obtain ⟨input, others, rfl, outline, _⟩ :=
    List.map_eq_cons_iff.1 (floatViews_outlines viewed).symm
  have imageRead : ImageDims.ofTensor input = .ok image := by
    have same : (ImageDims.ofTensor input).toOption = (ImageDims.ofTensor view).toOption := by
      rw [ImageDims.toOption_ofTensor, outline, ← ImageDims.toOption_ofTensor]
    rw [viewRead] at same
    exact toOption_eq_some.1 same
  obtain ⟨_, left', frame⟩ := @Kernel.KeepsFrames.single kernel run.operator.params
    (view :: otherViews) shadow run.operator.binding.derived? runs.keepsFrames
    (fun tensor member => (viewsValid tensor (List.mem_cons_of_mem _ member)).sized)
    (viewsValid shadow (by simp)).sized
  cases left.symm.trans left'
  obtain ⟨_, held, read'⟩ := Tensor.toSingles_of_shadow shadowed frame
  cases read.symm.trans read'
  have integer := Operator.output_isInteger runs.planned path
  obtain ⟨_, rfl, _⟩ := Tensor.zeroShadow_eq_ok.1 shadowed
  refine ⟨input, others, image, outImage, rfl, imageRead, outRead, fun pixel inside => ?_⟩
  obtain ⟨element, computed, present⟩ := laid pixel inside
  unfold Tensor.elementAt? at present
  rw [held] at present
  obtain ⟨value, place, rfl⟩ := Option.map_eq_some_iff.1 present
  obtain ⟨keptElement, storing, found⟩ := Tensor.elementAt?_writeSingles integer kept place
  refine ⟨keptElement, ?_, found⟩
  unfold Resolution.elementOf
  rw [path]
  exact bind_eq_ok.2 ⟨_, viewed, bind_eq_ok.2 ⟨_, computed, storing⟩⟩

theorem laidOut (runs : run.Runs Registry.default backend inputs output requested kernel)
    (valid : ∀ tensor ∈ output :: inputs, tensor.Valid)
    (images : run.operator.params.onImages = true) {ledger : ShadowLedger}
    (done : (run.operator.runKernel kernel requested.path run.operator.binding.derived? inputs
      [output] ledger).2.outcome = .ok ()) :
    ∃ written, (run.operator.runKernel kernel requested.path run.operator.binding.derived? inputs
        [output] ledger).2.outputs = [written] ∧
      ∃ input others image outImage, inputs = input :: others ∧
        ImageDims.ofTensor input = .ok image ∧
        ImageDims.ofDims output.dims image.layout = .ok outImage ∧
        written.LaidOut outImage (requested.elementOf run.operator.params inputs output
          run.operator.binding.derived? outImage) := by
  cases path : requested.path with
  | native =>
      rw [path] at done
      obtain ⟨written, left, input, others, image, outImage, rfl, read, outRead, laid⟩ :=
        Operator.followsRule_of_plan runs.planned images _ _ _ _ (runs.native path) done
      refine ⟨written, left, input, others, image, outImage, rfl, read, outRead, ?_⟩
      unfold Resolution.elementOf
      rw [path]
      exact laid
  | quantFallback =>
      rw [path, runs.outcome_onShadows valid] at done
      rw [runs.outcome_onShadows valid]
      obtain ⟨stored, stores⟩ := RunResult.ok_of_ofAttempt done
      rw [stores]
      exact ⟨stored, rfl, runs.laidOut_onShadows valid images path stores⟩

end OperatorRun.Runs

omit [Host] in
theorem ImageDims.eq_of_orders {dims : List Nat} {layout layout' : Layout}
    {image image' : ImageDims} (found : ofDims dims layout = .ok image)
    (found' : ofDims dims layout' = .ok image') (order : image'.channelsLast = image.channelsLast) :
    image' = image := by
  have read : ∀ {layout : Layout} {image : ImageDims}, ofDims dims layout = .ok image →
      ofDims dims image.layout = .ok image := by
    intro layout image found
    unfold ofDims at found
    split at found
    · split at found <;> cases found <;> rfl
    · cases found
  have layouts : image'.layout = image.layout := by
    unfold ImageDims.layout
    rw [order]
  cases (read found).symm.trans (layouts ▸ read found')
  rfl

theorem OperatorRun.Sound.runs_of_done {run : OperatorRun} {backend : Backend}
    {inputs₀ outputs₀ inputs outputs : List Tensor} (sound : run.Sound Registry.default)
    (last : OperatorEvent.lastPrepared? run.history = some (backend, inputs₀, outputs₀))
    (valid₀ : ∀ tensor ∈ inputs₀, tensor.Valid) (valid : ∀ tensor ∈ inputs ++ outputs, tensor.Valid)
    {ledger : ShadowLedger}
    (done : (run.operator.execute Registry.default inputs outputs ledger).outcome = .ok ()) :
    ∃ output requested kernel, outputs = [output] ∧
      run.Runs Registry.default backend inputs output requested kernel := by
  have given : ∀ tensor ∈ inputs ++ outputs, tensor.Usable :=
    fun tensor member => (valid tensor member).usable
  obtain ⟨sameInputs, sameOutputs⟩ := sound.signatures_of_done last given done
  exact sound.runs (Operator.execute_done done).1 last
    (fun tensor member => (valid₀ tensor member).sized) sameInputs sameOutputs given
    fun tensor member => (valid tensor member).sized

namespace Operator

/-- Whatever was called on an operator on images before, once it is prepared a run that succeeds
lays its output out in the order of axes of its first input, whatever the output is tagged with.
Read through its own tag, the output shows at a pixel what was computed for the pixel that has this
position in the order of the input, which is the same pixel where the two orders agree. -/
theorem images_keep_order_of_input (name : String) (params : Params) (lifetime : StateLifetime)
    (allowFallback : Bool) {before later : List OperatorCall}
    (usable : ∀ call ∈ before, call.Usable) (noPrepare : ∀ call ∈ later, call.isPrepare = false)
    (images : params.onImages = true) (backend : Backend)
    {inputs₀ outputs₀ inputs outputs : List Tensor}
    (valid₀ : ∀ tensor ∈ inputs₀ ++ outputs₀, tensor.Valid)
    (valid : ∀ tensor ∈ inputs ++ outputs, tensor.Valid) (ledger ledger' : ShadowLedger) :
    let run := (OperatorRun.start (create name params lifetime allowFallback)).performAll
      Registry.default before
    let prepared := run.perform Registry.default (.prepare backend inputs₀ outputs₀ ledger)
    let current := prepared.performAll Registry.default later
    let executed := current.operator.execute Registry.default inputs outputs ledger'
    (run.operator.prepare Registry.default backend inputs₀ outputs₀ ledger).outcome = .ok () →
    executed.outcome = .ok () →
    ∃ input others output written requested image outImage,
      inputs = input :: others ∧ outputs = [output] ∧ executed.outputs = [written] ∧
      Registry.default.resolve params inputs backend allowFallback = .ok requested ∧
      ImageDims.ofTensor input = .ok image ∧
      ImageDims.ofDims output.dims image.layout = .ok outImage ∧
      let computed :=
        requested.elementOf params inputs output current.operator.binding.derived? outImage
      written.LaidOut outImage computed ∧
        ∀ own, ImageDims.ofTensor written = .ok own → ∀ pixel, own.Holds pixel →
          ∃ place element, outImage.pixelAt (own.index pixel) = .ok place ∧
            computed place = .ok element ∧
            written.elementAt? (own.index pixel) = some element ∧
            (own.channelsLast = image.channelsLast → place = pixel) := by
  intro run prepared current executed ready done
  obtain ⟨sound, renewed, last⟩ := since_prepare name params lifetime allowFallback usable noPrepare
    backend (fun tensor member => (valid₀ tensor member).usable) ledger ready
  have settings : current.operator.params = params := congrArg Operator.params renewed
  have fallback : current.operator.allowFallback = allowFallback :=
    congrArg Operator.allowFallback renewed
  obtain ⟨output, requested, kernel, rfl, runs⟩ := sound.runs_of_done last
    (fun tensor member => valid₀ tensor (List.mem_append_left _ member)) valid done
  have served : ∀ tensor ∈ output :: inputs, tensor.Valid :=
    fun tensor member => valid tensor (by simpa [or_comm] using member)
  have ran := runs.executed ledger'
  rw [show executed.outcome = _ from ran.1] at done
  obtain ⟨written, left, input, others, image, outImage, rfl, read, outRead, laid⟩ :=
    runs.laidOut served (by rw [settings]; exact images) (mapError_eq_ok.1 done)
  have resolved := (plan_eq_ok runs.planned).2.1
  rw [settings, fallback] at resolved
  rw [settings] at laid
  have same : executed.outputs = [written] := ran.2.trans left
  have frames := current.operator.execute_frames Registry.default_keepsFrames
    (fun tensor member => (valid tensor member).sized) ledger'
  have frame : written.frame = output.frame := by
    rw [show (current.operator.execute _ _ _ _).outputs = [written] from same] at frames
    simpa using frames
  have dims : written.dims = output.dims :=
    Tensor.dims_of_signature (Tensor.signature_of_frame frame)
  refine ⟨input, others, output, written, requested, image, outImage, rfl, rfl, same, resolved,
    read, outRead, laid, fun own ownRead pixel inside => ?_⟩
  rw [ImageDims.ofTensor_eq_ok, dims] at ownRead
  have count : own.count = outImage.count :=
    (ImageDims.volume_of_ofDims ownRead).symm.trans (ImageDims.volume_of_ofDims outRead)
  obtain ⟨place, element, found, computed, present, aligned⟩ := laid.read_as count inside
  refine ⟨place, element, found, computed, present, fun order => aligned ?_⟩
  exact ImageDims.eq_of_orders outRead ownRead
    (order.trans (ImageDims.channelsLast_of_layout outRead).symm)

end Operator

end

namespace Operator

def unitPool : Params :=
  .pool2d ⟨.max, (1, 1), (1, 1), .uniform 0, false⟩

def byteImage (name : String) (dims : List Nat) (layout : Layout) (values : Array Int8) : Tensor :=
  ⟨name, ⟨dims⟩, layout, some (.perTensor ⟨⟨0x3F800000⟩, 0⟩), .external, .i8 values⟩

theorem retaggedBytes_keep_order :
    let inputs := [byteImage "x" [1, 1, 2, 2] .nhwc #[1, 2, 3, 4]]
    let output := byteImage "y" [1, 1, 2, 2] .any #[0, 0, 0, 0]
    let run := (OperatorRun.start (create "pool" unitPool .untilRelease true)).performAll
      Registry.default [.release]
    let prepared := run.perform Registry.default (.prepare .avx2 inputs [output] .empty)
    let current := prepared.performAll Registry.default [.execute inputs [output] .empty]
    let executed := current.operator.execute Registry.default inputs [output] .empty
    executed.outcome = .ok () ∧ ∃ written requested, executed.outputs = [written] ∧
      Registry.default.resolve unitPool inputs .avx2 true = .ok requested ∧
      written.LaidOut ⟨1, 2, 1, 2, true⟩ (requested.elementOf unitPool inputs output
        current.operator.binding.derived? ⟨1, 2, 1, 2, true⟩) := by
  intro inputs output run prepared current executed
  have ready : (run.operator.prepare Registry.default .avx2 inputs [output] .empty).outcome =
      .ok () := by
    simp only [run, Registry.default_eq]
    exact eq_ok_of_toBool (by decide +kernel)
  have done : executed.outcome = .ok () := by
    simp only [executed, current, prepared, run, Registry.default_eq]
    exact eq_ok_of_toBool (by decide +kernel)
  have valid : ∀ tensor ∈ inputs ++ [output], tensor.Valid := by
    simp only [inputs, output, List.cons_append, List.nil_append, List.forall_mem_cons]
    exact ⟨by rfl, by rfl, fun _ impossible => by cases impossible⟩
  have usable : ∀ call ∈ [OperatorCall.release], call.Usable := by
    simp [OperatorCall.Usable]
  have noPrepare : ∀ call ∈ [OperatorCall.execute inputs [output] .empty],
      call.isPrepare = false := by
    simp [OperatorCall.isPrepare]
  obtain ⟨input, _, _, written, requested, image, outImage, same, own, left, resolved, read,
      outRead, laid, _⟩ :=
    images_keep_order_of_input "pool" unitPool .untilRelease true usable noPrepare rfl .avx2 valid
      valid .empty .empty ready done
  obtain rfl := (List.cons.inj same).1
  obtain rfl := (List.cons.inj own).1
  obtain rfl : _ = image := Except.ok.inj read
  obtain rfl : _ = outImage := Except.ok.inj outRead
  refine ⟨done, written, requested, left, resolved, ?_⟩
  simp only [current, prepared, run]
  exact laid

def singleImage (name : String) (layout : Layout) (values : Array Single) : Tensor :=
  ⟨name, ⟨[1, 2, 2, 2]⟩, layout, none, .external, .f32 values⟩

/-- An output with channels first is accepted for an input with channels last, and read through
its own tag it shows another pixel's value. -/
theorem retaggedOutput_shows_other_pixel :
    let values : Array Single := #[⟨0⟩, ⟨0x3F800000⟩, ⟨0x40000000⟩, ⟨0x40400000⟩, ⟨0x40800000⟩,
      ⟨0x40A00000⟩, ⟨0x40C00000⟩, ⟨0x40E00000⟩]
    let inputs := [singleImage "x" .nhwc values]
    let outputs := [singleImage "y" .nchw (.replicate 8 ⟨0⟩)]
    let fresh := create "pool" unitPool .untilRelease true
    let prepared := fresh.prepare Registry.default .reference inputs outputs .empty
    let executed := prepared.operator.execute Registry.default inputs outputs .empty
    let pixel : Pixel := ⟨0, 1, 0, 0⟩
    (∀ tensor ∈ inputs ++ outputs, tensor.Valid) ∧ prepared.outcome = .ok () ∧
      executed.outcome = .ok () ∧
      poolRule unitPool inputs none none pixel = .ok (.single ⟨0x3F800000⟩) ∧
      (executed.outputs.map fun written => (ImageDims.ofTensor written).toOption.bind fun own =>
        written.elementAt? (own.index pixel)) = [some (.single ⟨0x40800000⟩)] := by
  intro values inputs outputs fresh prepared executed pixel
  have valid : ∀ tensor ∈ inputs ++ outputs, tensor.Valid := by
    simp only [inputs, outputs, List.cons_append, List.nil_append, List.forall_mem_cons]
    exact ⟨by rfl, by rfl, fun _ impossible => by cases impossible⟩
  have computed : (poolRule unitPool inputs none none pixel).toOption =
      some (.single ⟨0x3F800000⟩) := by decide +kernel
  refine ⟨valid, ?_, ?_, toOption_eq_some.1 computed, ?_⟩ <;>
    simp only [executed, prepared, Registry.default_eq]
  · exact eq_ok_of_toBool (by decide +kernel)
  · exact eq_ok_of_toBool (by decide +kernel)
  · decide +kernel

end Operator

end TensorRuntime
