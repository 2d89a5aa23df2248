import TensorRuntime.Proofs.Kernel.Prepared
import TensorRuntime.Proofs.Shadows

/-!
Whether a hook succeeds depends on frames alone, so that a hook which succeeded once
succeeds on whatever is written into the same tensors later, natively and on shadows.
-/

namespace TensorRuntime

open Attempt

/-- A hook that succeeds on some tensors succeeds on valid tensors with their frames. -/
def Kernel.HookNeedsFrames (kernel : Kernel) : Prop :=
  ∀ params inputs inputs' derived, (∀ tensor ∈ inputs', tensor.Valid) →
    inputs'.map Tensor.frame = inputs.map Tensor.frame →
    kernel.precompute params inputs = .ok derived →
    ∃ derived', kernel.precompute params inputs' = .ok derived'

section Arrays

variable {α : Type} {values values' : Array α}

theorem exists_tabulate {count : Nat} {element element' : Nat → Attempt α} {built : Array α}
    (done : tabulate count element = .ok built)
    (each : ∀ index < count, ∀ value, element index = .ok value →
      ∃ value', element' index = .ok value') :
    ∃ built', tabulate count element' = .ok built' := by
  obtain ⟨size, elements⟩ := tabulate_eq_ok.1 done
  exact exists_tabulate_of_each fun index bound =>
    each index bound _ (elements index (size ▸ bound))

theorem exists_readAt {index : Nat} {value : α} (size : values'.size = values.size)
    (read : readAt values index = .ok value) : ∃ value', readAt values' index = .ok value' := by
  have bound := (Array.getElem?_eq_some_iff.1 (readAt_eq_ok.1 read)).1
  exact ⟨_, readAt_of_lt (size ▸ bound)⟩

theorem exists_repack {fill : α} {count : Nat} {source : Nat → Nat} {packed : Array α}
    (size : values'.size = values.size) (done : repack values fill count source = .ok packed) :
    ∃ packed', repack values' fill count source = .ok packed' := by
  unfold repack at done ⊢
  rw [size]
  split at done
  · cases done
  · rename_i enough
    rw [if_neg enough]
    refine exists_tabulate done fun index _ value given => ?_
    by_cases early : index < count
    · rw [if_pos early] at given ⊢
      exact exists_readAt size given
    · rw [if_neg early]
      exact ⟨fill, rfl⟩

theorem exists_repacked {β : Type} {fill : α} {count : Nat} {source : Nat → Nat}
    {make : Array α → β} {result : β} (size : values'.size = values.size)
    (made : (do return make (← repack values fill count source) : Attempt β) = .ok result) :
    ∃ result', (do return make (← repack values' fill count source) : Attempt β) =
      .ok result' := by
  simp only [bind_eq_ok] at made ⊢
  obtain ⟨packed, repacked, _⟩ := made
  obtain ⟨packed', repacked'⟩ := exists_repack size repacked
  exact ⟨_, packed', repacked', rfl⟩

theorem exists_transposeMatrix {values values' built : Array Single} {rows columns : Nat}
    (size : values'.size = values.size) (done : transposeMatrix values rows columns = .ok built) :
    ∃ built', transposeMatrix values' rows columns = .ok built' := by
  unfold transposeMatrix at done ⊢
  rw [size]
  split at done
  · cases done
  · rename_i enough
    rw [if_neg enough]
    exact exists_tabulate done fun index _ value given => exists_readAt size given

end Arrays

section Tensors

variable {tensor tensor' : Tensor} {routine : String}

theorem exists_of_same_frames {inputs inputs' : List Tensor} {place : Nat}
    (same : inputs'.map Tensor.frame = inputs.map Tensor.frame)
    (found : inputs[place]? = some tensor) :
    ∃ tensor', inputs'[place]? = some tensor' ∧ tensor'.frame = tensor.frame := by
  have here := congrArg (fun frames => frames[place]?) same
  simp only [List.getElem?_map, found, Option.map_some] at here
  exact Option.map_eq_some_iff.1 here

theorem exists_singlesFor {values : Array Single} (same : tensor'.frame = tensor.frame)
    (read : tensor.singlesFor routine = .ok values) :
    ∃ values', tensor'.singlesFor routine = .ok values' ∧ values'.size = values.size := by
  have held := Tensor.singlesFor_eq_ok.1 read
  have elementType := Tensor.elementType_of_frame same
  have bytes := (Tensor.frame_eq_iff.1 same).2.2.2
  unfold Tensor.elementType at elementType
  rw [held] at elementType bytes
  cases held' : tensor'.buffer with
  | f32 values' =>
      refine ⟨values', Tensor.singlesFor_eq_ok.2 held', ?_⟩
      rw [held'] at bytes
      simp only [Buffer.byteCount] at bytes
      omega
  | f16 | i8 | u8 | i16 | i32 | bool =>
      rw [held'] at elementType
      cases elementType

theorem exists_storedFor {elementType : ElementType} {stored : Array Int}
    (same : tensor'.frame = tensor.frame)
    (read : tensor.storedFor elementType routine = .ok stored) :
    ∃ stored', tensor'.storedFor elementType routine = .ok stored' ∧
      stored'.size = stored.size := by
  obtain ⟨own, held⟩ := Tensor.storedFor_eq_ok.1 read
  have types := Tensor.elementType_of_frame same
  have integer := Buffer.isInteger_of_integers? held
  have integer' : tensor'.buffer.elementType.isInteger = true := by
    change tensor'.elementType.isInteger = true
    rw [types]
    exact integer
  obtain ⟨stored', held'⟩ := Buffer.exists_integers integer'
  refine ⟨stored', Tensor.storedFor_eq_ok.2 ⟨types.trans own, held'⟩, ?_⟩
  have bytes := (Tensor.frame_eq_iff.1 same).2.2.2
  rw [Buffer.size_of_integers? held, Buffer.size_of_integers? held'] at bytes
  rw [show tensor'.buffer.elementType = tensor.buffer.elementType from types] at bytes
  exact ElementType.storageBytes_injective integer bytes

theorem exists_toSingles [Host] {values : Array Single} (valid' : tensor'.Valid)
    (same : tensor'.frame = tensor.frame) (read : tensor.toSingles = .ok values) :
    ∃ values', tensor'.toSingles = .ok values' := by
  apply valid'.exists_toSingles
  unfold Tensor.toSingles at read
  simp only [bind_eq_ok, lift_eq_ok] at read
  obtain ⟨_, allocated, _⟩ := read
  have room := Tensor.hasRoom_of_allocate allocated
  have shape : tensor'.shape = tensor.shape := congrArg (fun frame => frame.signature.shape) same
  unfold Tensor.HasRoom Tensor.count at room ⊢
  rw [shape]
  exact room

theorem exists_transposed {transposed : TransposedWeights} (same : tensor'.frame = tensor.frame)
    (made : TransposedWeights.ofTensor tensor routine = .ok transposed) :
    ∃ transposed', TransposedWeights.ofTensor tensor' routine = .ok transposed' := by
  unfold TransposedWeights.ofTensor at made ⊢
  rw [Tensor.dims_of_frame same]
  split at made
  · simp only [bind_eq_ok, lift_eq_ok] at made ⊢
    obtain ⟨values, read, matrix, turned, _⟩ := made
    obtain ⟨values', read', size⟩ := exists_singlesFor same read
    obtain ⟨matrix', turned'⟩ := exists_transposeMatrix size turned
    exact ⟨_, values', read', matrix', turned', rfl⟩
  · cases made

end Tensors

section Hooks

variable {params : Params} {inputs inputs' : List Tensor} {derived : Option Derived}
  (same : inputs'.map Tensor.frame = inputs.map Tensor.frame)

include same

theorem exists_packedWeights {α : Type} {pack : Array Single → List Nat → Attempt α}
    {packed : α → Derived} {routine : String}
    (bySize : ∀ {values values' dims result}, values'.size = values.size →
      pack values dims = .ok result → ∃ result', pack values' dims = .ok result')
    (done : (do
      let weights ← liftM (Call.input ⟨params, inputs, [], none⟩ 1 routine)
      let values ← pack (← liftM (weights.singlesFor routine)) weights.dims
      return some (packed values) : Attempt (Option Derived)) = .ok derived) :
    ∃ derived', (do
      let weights ← liftM (Call.input ⟨params, inputs', [], none⟩ 1 routine)
      let values ← pack (← liftM (weights.singlesFor routine)) weights.dims
      return some (packed values) : Attempt (Option Derived)) = .ok derived' := by
  simp only [bind_eq_ok, lift_eq_ok, Call.input_eq_ok] at done ⊢
  obtain ⟨weights, given, values, read, result, made, _⟩ := done
  obtain ⟨weights', given', frame⟩ := exists_of_same_frames same given
  obtain ⟨values', read', size⟩ := exists_singlesFor frame read
  rw [← Tensor.dims_of_frame frame] at made
  obtain ⟨result', made'⟩ := bySize size made
  exact ⟨some (packed result'), weights', given', values', read', result', made', rfl⟩

theorem packConvWeights_frames (done : packConvWeights params inputs = .ok derived) :
    ∃ derived', packConvWeights params inputs' = .ok derived' := by
  cases params with
  | conv2d =>
      refine exists_packedWeights same (fun size made => ?_) done
      unfold ConvWeights.pack at made ⊢
      split at made
      · exact exists_repacked size made
      · cases made
  | _ => cases done

theorem packLaneConvWeights_frames (done : packLaneConvWeights params inputs = .ok derived) :
    ∃ derived', packLaneConvWeights params inputs' = .ok derived' := by
  cases params with
  | conv2d =>
      refine exists_packedWeights same (fun size made => ?_) done
      unfold LaneConvWeights.pack at made ⊢
      split at made
      · exact exists_repacked size made
      · cases made
  | _ => cases done

theorem packLaneDepthwiseWeights_frames
    (done : packLaneDepthwiseWeights params inputs = .ok derived) :
    ∃ derived', packLaneDepthwiseWeights params inputs' = .ok derived' := by
  cases params with
  | conv2d =>
      refine exists_packedWeights same (fun size made => ?_) done
      unfold LaneDepthwiseWeights.pack at made ⊢
      split at made
      · exact exists_repacked size made
      · cases made
  | _ => cases done

theorem transposeWeights_frames (done : transposeWeights params inputs = .ok derived) :
    ∃ derived', transposeWeights params inputs' = .ok derived' := by
  cases params with
  | fullyConnected =>
      unfold transposeWeights at done ⊢
      simp only [bind_eq_ok, lift_eq_ok, Call.input_eq_ok] at done ⊢
      obtain ⟨weights, given, transposed, made, _⟩ := done
      obtain ⟨weights', given', frame⟩ := exists_of_same_frames same given
      obtain ⟨transposed', made'⟩ := exists_transposed frame made
      exact ⟨_, weights', given', transposed', made', rfl⟩
  | _ => cases done

theorem foldBatchNorm_frames (done : foldBatchNorm params inputs = .ok derived) :
    ∃ derived', foldBatchNorm params inputs' = .ok derived' := by
  have singles : ∀ {place : Nat} {tensor : Tensor} {values : Array Single},
      inputs[place]? = some tensor → tensor.singlesFor batchNormRoutine = .ok values →
      ∃ tensor', inputs'[place]? = some tensor' ∧
        ∃ values', tensor'.singlesFor batchNormRoutine = .ok values' := by
    intro place tensor values given read
    obtain ⟨tensor', given', frame⟩ := exists_of_same_frames same given
    obtain ⟨values', read', _⟩ := exists_singlesFor frame read
    exact ⟨tensor', given', values', read'⟩
  cases params with
  | batchNorm =>
      unfold foldBatchNorm foldInputs at done ⊢
      simp only [bind_eq_ok, lift_eq_ok, Call.input_eq_ok] at done ⊢
      obtain ⟨_, ⟨_, given₁, _, read₁, _, given₂, _, read₂, _, given₃, _, read₃, _, given₄, _,
        read₄, _⟩, _⟩ := done
      obtain ⟨gamma, gammaGiven, _, gammaRead⟩ := singles given₁ read₁
      obtain ⟨beta, betaGiven, _, betaRead⟩ := singles given₂ read₂
      obtain ⟨mean, meanGiven, _, meanRead⟩ := singles given₃ read₃
      obtain ⟨variance, varianceGiven, _, varianceRead⟩ := singles given₄ read₄
      exact ⟨_, _, ⟨gamma, gammaGiven, _, gammaRead, beta, betaGiven, _, betaRead, mean, meanGiven,
        _, meanRead, variance, varianceGiven, _, varianceRead, rfl⟩, rfl⟩
  | _ => cases done

theorem exists_realBias [Host] {place : Nat} {values : Option (Array Single)}
    (valid' : ∀ tensor ∈ inputs', tensor.Valid) (read : realBias inputs[place]? = .ok values) :
    ∃ values', realBias inputs'[place]? = .ok values' := by
  cases given : inputs[place]? with
  | none =>
      have outside := List.getElem?_eq_none_iff.1 given
      have lengths : inputs'.length = inputs.length := by simpa using congrArg List.length same
      rw [List.getElem?_eq_none (by omega)]
      exact ⟨none, rfl⟩
  | some bias =>
      rw [given] at read
      obtain ⟨bias', given', frame⟩ := exists_of_same_frames same given
      obtain ⟨own, stored, _⟩ := map_eq_ok.1 read
      obtain ⟨own', stored'⟩ :=
        exists_toSingles (valid' bias' (List.mem_of_getElem? given')) frame stored
      rw [given']
      exact ⟨some own', map_eq_ok.2 ⟨own', stored', rfl⟩⟩

theorem exists_stage [Host] {op : AcceleratorOp} {weights weights' : Tensor} {routine : String}
    {staged : StagedWeights} (valid' : ∀ tensor ∈ inputs', tensor.Valid)
    (frame : weights'.frame = weights.frame)
    (done : StagedWeights.stage op weights inputs[2]? routine = .ok staged) :
    ∃ staged', StagedWeights.stage op weights' inputs'[2]? routine = .ok staged' := by
  have types := Tensor.elementType_of_frame frame
  have records := Tensor.quantization_of_frame frame
  unfold StagedWeights.stage Tensor.expect Tensor.weightRecord at done ⊢
  rw [types, records, Tensor.dims_of_frame frame]
  simp only [bind_eq_ok, lift_eq_ok] at done ⊢
  obtain ⟨_, expected, record, recorded, stored, read, extents, measured, affines, known, unpacked,
    repacked, bias, biased, _⟩ := done
  obtain ⟨stored', read', size⟩ := exists_storedFor frame read
  obtain ⟨unpacked', repacked'⟩ := exists_repack size repacked
  obtain ⟨bias', biased'⟩ := exists_realBias same valid' biased
  refine ⟨_, (), ?_, record, recorded, stored', read', extents, measured, affines, known, unpacked',
    repacked', bias', biased', rfl⟩
  split at expected
  · rename_i own
    rw [if_pos own]
  · cases expected

theorem stageWeights_frames [Host] {op : AcceleratorOp} {routine : String}
    (valid' : ∀ tensor ∈ inputs', tensor.Valid)
    (done : stageWeights op routine params inputs = .ok derived) :
    ∃ derived', stageWeights op routine params inputs' = .ok derived' := by
  unfold stageWeights at done ⊢
  cases op <;> cases params <;> try cases done
  all_goals
    simp only [bind_eq_ok, lift_eq_ok, Call.input_eq_ok] at done ⊢
    obtain ⟨weights, given, staged, made, _⟩ := done
    obtain ⟨weights', given', frame⟩ := exists_of_same_frames same given
    obtain ⟨staged', made'⟩ := exists_stage same valid' frame made
    exact ⟨_, weights', given', staged', made', rfl⟩

end Hooks

theorem Kernel.hookNeedsFrames_of_none {kernel : Kernel} (hookless : kernel.precompute? = none) :
    kernel.HookNeedsFrames := by
  intro params inputs inputs' derived _ _ done
  simp only [precompute, hookless] at done ⊢
  exact ⟨derived, done⟩

open Kernel in
theorem Registry.default_hooksNeedFrames [Host] :
    ∀ entry ∈ Registry.default.entries, entry.kernel.HookNeedsFrames := by
  apply default_kernels
  constructor
  case conv => exact fun _ _ _ _ _ same done => packConvWeights_frames same done
  case batchNorm => exact fun _ _ _ _ _ same done => foldBatchNorm_frames same done
  case fullyConnected => exact fun _ _ _ _ _ same done => transposeWeights_frames same done
  case laneConv => exact fun _ _ _ _ _ _ same done => packLaneConvWeights_frames same done
  case laneDepthwise =>
      exact fun _ _ _ _ _ _ same done => packLaneDepthwiseWeights_frames same done
  case laneFullyConnected => exact fun _ _ _ _ _ _ same done => transposeWeights_frames same done
  case acceleratorConv | acceleratorFullyConnected =>
      exact fun _ _ _ _ valid same done => stageWeights_frames same valid done
  case lanePool | laneBinary | laneActivation => exact fun _ => hookNeedsFrames_of_none rfl
  all_goals exact hookNeedsFrames_of_none rfl

theorem Operator.exists_derive [Host] (operator : Operator) {kernel : Kernel}
    (needs : kernel.HookNeedsFrames) {path : DispatchPath} {inputs inputs' : List Tensor}
    (sized : ∀ tensor ∈ inputs, tensor.Sized) (valid' : ∀ tensor ∈ inputs', tensor.Valid)
    (same : inputs'.map Tensor.frame = inputs.map Tensor.frame) {ledger : ShadowLedger}
    {derived : Option Derived}
    (done : (operator.derive kernel path inputs ledger).2 = .ok derived) (ledger' : ShadowLedger) :
    ∃ derived', (operator.derive kernel path inputs' ledger').2 = .ok derived' := by
  cases hooks : kernel.hasPrecompute with
  | false => exact ⟨none, operator.derive_hookless hooks path inputs' ledger'⟩
  | true =>
    cases path with
    | native =>
        rw [derive_native] at done ⊢
        exact needs _ _ _ _ valid' same done
    | quantFallback =>
        rw [derive_fallback operator hooks] at done ⊢
        obtain ⟨views, viewed, hooked⟩ := bind_eq_ok.1 done
        have room : ∀ tensor ∈ inputs', tensor.needsShadow = true → tensor.HasRoom := by
          intro tensor member shadowed
          obtain ⟨place, found⟩ := List.mem_iff_getElem?.1 member
          obtain ⟨original, given, frame⟩ := exists_of_same_frames same.symm found
          have signature := Tensor.signature_of_frame frame
          simp only [Tensor.signature, Signature.mk.injEq] at signature
          obtain ⟨view, _, own⟩ : ∃ view ∈ views, original.floatView = .ok view := by
            rw [mapM_eq_ok] at viewed
            have listed := congrArg (fun items => items[place]?) viewed
            simp only [List.getElem?_map, given, Option.map_some] at listed
            obtain ⟨view, there, own⟩ := Option.map_eq_some_iff.1 listed.symm
            exact ⟨view, List.mem_of_getElem? there, own.symm⟩
          have needed : original.needsShadow = true := by
            unfold Tensor.needsShadow at shadowed ⊢
            rw [signature.2.1, signature.2.2.2]
            exact shadowed
          have roomy := Tensor.hasRoom_of_floatView needed own
          unfold Tensor.HasRoom Tensor.count at roomy ⊢
          rw [← signature.1]
          exact roomy
        obtain ⟨views', viewed'⟩ := exists_floatViews valid' room
        have frames := floatViews_frames sized (fun tensor member => (valid' tensor member).sized)
          same viewed viewed'
        obtain ⟨derived', hooked'⟩ :=
          needs _ _ _ _ (floatViews_valid valid' viewed') frames hooked
        exact ⟨derived', bind_eq_ok.2 ⟨views', viewed', hooked'⟩⟩

end TensorRuntime
