import TensorRuntime.Proofs.Kernel.ChannelOrder
import TensorRuntime.Proofs.Kernel.Refilling
import TensorRuntime.Proofs.Kernel.Safety.Normalization

/-!
What the scalar kernels for images compute does not depend on the order of axes. Each element reads
the pixels it read before in the order it read them; only their places differ.
-/

namespace TensorRuntime

open Attempt

section Elements

variable {extents : ConvExtents} {pixel : Pixel}

theorem convElement_reorder {values : Array Single} (size : values.size = extents.image.count)
    {packed : ConvWeights} (perGroup : packed.inPerGroup = extents.perGroup)
    (bias : Option (Array Single)) (inside : extents.outImage.Holds pixel) :
    convElement extents.settings (reorder extents.image.source values)
        extents.image.withChannelsLast packed bias extents.outPerGroup pixel =
      convElement extents.settings values extents.image packed bias extents.outPerGroup pixel := by
  obtain ⟨batch, channel, _⟩ := inside
  unfold convElement
  refine bind_congr fun _ => bind_congr fun start => congrArg (· >>= _) ?_
  refine foldlM_congr (fun tap member sum => ?_) start
  refine bind_congr_ok fun run read => foldlM_congr (fun entry listed sum => ?_) sum
  have innerBound : entry.2 < extents.perGroup := by
    rw [← perGroup, ← length_of_readRun read]
    exact List.snd_lt_of_mem_zipIdx listed
  rw [perGroup]
  exact congrArg (· >>= _) (ImageDims.readAt_reorder size
    (holds_of_tap member batch (ConvExtents.inGroup channel innerBound)))

theorem storedConvSum_reorder {stored : Array Int} (size : stored.size = extents.image.count)
    (zeroPoint weightZero : Int) {source : StoredWeights}
    (perGroup : source.inPerGroup = extents.perGroup) (inside : extents.outImage.Holds pixel) :
    storedConvSum extents.settings (reorder extents.image.source stored)
        extents.image.withChannelsLast zeroPoint source weightZero
        (pixel.channel / extents.outPerGroup) pixel =
      storedConvSum extents.settings stored extents.image zeroPoint source weightZero
        (pixel.channel / extents.outPerGroup) pixel := by
  obtain ⟨batch, channel, _⟩ := inside
  unfold storedConvSum
  refine foldlM_congr (fun tap member sum => foldlM_congr (fun inner listed sum => ?_) sum) 0
  rw [perGroup] at listed ⊢
  exact congrArg (· >>= _) (ImageDims.readAt_reorder size
    (holds_of_tap member batch (ConvExtents.inGroup channel (List.mem_range.1 listed))))

variable {image outImage : ImageDims} {input output : Tensor} {settings : PoolParams}

theorem poolElement_reorder (images : PoolImages image outImage input output)
    {values : Array Single} (size : values.size = image.count) (inside : outImage.Holds pixel) :
    poolElement settings (reorder image.source values) image.withChannelsLast pixel =
      poolElement settings values image pixel := by
  unfold poolElement
  refine congrArg (· >>= _) (mapM_congr fun position member => ?_)
  exact ImageDims.readAt_reorder size (images.holds inside (inside_of_spans member))

theorem storedPoolElement_reorder (images : PoolImages image outImage input output)
    {stored : Array Int} (size : stored.size = image.count) {affine outAffine : Affine}
    {range : Int × Int} (inside : outImage.Holds pixel) :
    storedPoolElement settings (reorder image.source stored) image.withChannelsLast affine outAffine
        range pixel =
      storedPoolElement settings stored image affine outAffine range pixel := by
  unfold storedPoolElement
  refine congrArg (· >>= _) (mapM_congr fun position member => ?_)
  exact ImageDims.readAt_reorder size (images.holds inside (inside_of_spans member))

def normElement (folded : FoldedNorm) (values : Array Single) (image : ImageDims) (pixel : Pixel) :
    Attempt Single := do
  let value ← readAt values (image.index pixel)
  return value * (← readAt folded.scale pixel.channel) + (← readAt folded.shift pixel.channel)

theorem normElement_reorder (folded : FoldedNorm) {values : Array Single}
    (size : values.size = image.count) (inside : image.Holds pixel) :
    normElement folded (reorder image.source values) image.withChannelsLast pixel =
      normElement folded values image pixel :=
  congrArg (· >>= _) (ImageDims.readAt_reorder size inside)

theorem unrefused_normElement (folded : FoldedNorm) (values : Array Single) (image : ImageDims)
    (pixel : Pixel) : (normElement folded values image pixel).Unrefused :=
  (unrefused_readAt _ _).bind fun _ _ => (unrefused_readAt _ _).bind fun _ _ =>
    (unrefused_readAt _ _).bind fun _ _ => failsOnly_pure _

theorem ImageDims.channel_of_first (first : image.channelsLast = false) {place : Nat}
    (found : image.pixelAt place = .ok pixel) :
    place / (image.height * image.width) % image.channels = pixel.channel := by
  unfold pixelAt at found
  split at found
  · cases found
  · rw [first, if_neg Bool.false_ne_true] at found
    cases found
    rw [Nat.mul_comm, ← Nat.div_div_eq_div_mul]

theorem ImageDims.channel_of_last (last : image.channelsLast = true) {place : Nat}
    (found : image.pixelAt place = .ok pixel) : place % image.channels = pixel.channel := by
  unfold pixelAt at found
  split at found
  · cases found
  · cases found
    rfl

theorem normElement_of_place (folded : FoldedNorm) {values old : Array Single}
    (size : values.size = image.count) {place inner : Nat} (bound : place < image.count)
    (deep : inner ≠ 0) (channel : ∀ pixel, image.pixelAt place = .ok pixel →
      place / inner % image.channels = pixel.channel) :
    (match values[place]? with
      | none => readAt old place
      | some value => do
          nonzero inner
          nonzero image.channels
          let channel := place / inner % image.channels
          return value * (← readAt folded.scale channel) + (← readAt folded.shift channel)) =
      (do normElement folded values image (← image.pixelAt place)) := by
  obtain ⟨pixel, found, inside⟩ := ImageDims.pixelAt_inside bound
  have wide : image.channels ≠ 0 := Nat.ne_of_gt (ImageDims.positive_of_count bound).1
  have held : values[place]? = some values[place] := Array.getElem?_eq_getElem (size ▸ bound)
  have read : readAt values (image.index pixel) = .ok values[place] := by
    rw [ImageDims.index_of_pixelAt found]
    exact readAt_eq_ok.2 held
  rw [held, found]
  dsimp only
  rw [channel pixel found, nonzero, if_neg deep, nonzero, if_neg wide]
  change _ = normElement folded values image pixel
  rw [normElement, read]
  rfl

end Elements

section Arguments

variable {params : Params} {inputs inputs' : List Tensor} {tensor output : Tensor}
  {image : ImageDims} {derived : Option Derived} {buffer : Buffer} {routine : String}

theorem Call.singleOutput_refused (other : output.elementType ≠ .f32) :
    Call.singleOutput ⟨params, inputs, [output], derived⟩ routine =
      .error (.unsupportedElementType output.elementType (routine ++ " writes f32 output 0")) := by
  obtain ⟨name, shape, layout, quantization, kind, held⟩ := output
  cases held with
  | f32 old => exact absurd rfl other
  | f16 | i8 | u8 | i16 | i32 | bool => rfl

namespace Tensor.ChannelsFirst

theorem bind_image (images : tensor.ChannelsFirst image)
    (read : ImageDims.ofTensor tensor = .ok image) {next next' : ImageDims → Attempt Tensor}
    (rest : next' image.withChannelsLast = withChannelsLast <$> next image) :
    (liftM (ImageDims.ofTensor tensor.withChannelsLast) >>= next' : Attempt Tensor) =
      withChannelsLast <$> (liftM (ImageDims.ofTensor tensor) >>= next) := by
  rw [images.ofTensor_withChannelsLast, read]
  exact rest

theorem bind_outImage (images : output.ChannelsFirst image) {order : ImageDims}
    (read : ImageDims.ofDims output.dims order.layout = .ok image)
    {next next' : ImageDims → Attempt Tensor}
    (rest : next' image.withChannelsLast = withChannelsLast <$> next image) :
    (liftM (ImageDims.ofDims ({ output.withChannelsLast with buffer } : Tensor).dims
        order.withChannelsLast.layout) >>= next' : Attempt Tensor) =
      withChannelsLast <$> (liftM (ImageDims.ofDims output.dims order.layout) >>= next) := by
  have read' : ImageDims.ofDims ({ output.withChannelsLast with buffer } : Tensor).dims
      order.withChannelsLast.layout = .ok image.withChannelsLast := images.ofDims_withChannelsLast
  rw [read', read]
  exact rest

theorem bind_singles (images : tensor.ChannelsFirst image) (sized : tensor.Sized)
    {next next' : Array Single → Attempt Tensor}
    (rest : ∀ values, values.size = image.count →
      next' (reorder image.source values) = withChannelsLast <$> next values) :
    (liftM (tensor.withChannelsLast.singlesFor routine) >>= next' : Attempt Tensor) =
      withChannelsLast <$> (liftM (tensor.singlesFor routine) >>= next) := by
  rw [images.singlesFor_withChannelsLast]
  refine bind_moved (reorder image.source) _ (lift_map _ _) fun values read => rest values ?_
  exact (sized.singles (singlesFor_eq_ok.1 (lift_eq_ok.1 read))).trans images.count

theorem bind_stored (images : tensor.ChannelsFirst image) (sized : tensor.Sized)
    {elementType : ElementType} {next next' : Array Int → Attempt Tensor}
    (rest : ∀ stored, stored.size = image.count →
      next' (reorder image.source stored) = withChannelsLast <$> next stored) :
    (liftM (tensor.withChannelsLast.storedFor elementType routine) >>= next' : Attempt Tensor) =
      withChannelsLast <$> (liftM (tensor.storedFor elementType routine) >>= next) := by
  rw [images.storedFor_withChannelsLast]
  refine bind_moved (reorder image.source) _ (lift_map _ _) fun stored read => rest stored ?_
  exact (sized.stored (storedFor_eq_ok.1 (lift_eq_ok.1 read)).2).trans images.count

theorem bind_outAffine (images : output.ChannelsFirst image) {next next' : Affine → Attempt Tensor}
    (rest : ∀ affine, next' affine = withChannelsLast <$> next affine) :
    (liftM (({ output.withChannelsLast with buffer } : Tensor).affineFor routine) >>= next' :
      Attempt Tensor) =
      withChannelsLast <$> (liftM (output.affineFor routine) >>= next) := by
  have same : ({ output.withChannelsLast with buffer } : Tensor).affineFor routine =
      output.affineFor routine := images.affineFor_withChannelsLast routine
  rw [same]
  exact bind_alike _ fun affine _ => rest affine

theorem bind_slots (images : output.ChannelsFirst image) (sized : output.Sized)
    (fits : buffer.Fits output.withChannelsLast.buffer) {elementType : ElementType}
    {next next' : Nat → Attempt Tensor}
    (rest : next' image.count = withChannelsLast <$> next image.count) :
    (liftM (({ output.withChannelsLast with buffer } : Tensor).storedSlots elementType routine) >>=
        next' : Attempt Tensor) =
      withChannelsLast <$> (liftM (output.storedSlots elementType routine) >>= next) := by
  rw [storedSlots_refill fits, images.storedSlots_withChannelsLast]
  refine bind_alike _ fun slots counted => ?_
  obtain ⟨old, held, rfl⟩ := storedSlots_eq_ok (lift_eq_ok.1 counted)
  rw [(sized.stored held).trans images.count]
  exact rest

theorem bind_output (images : output.ChannelsFirst image) (sized : output.Sized)
    (fits : buffer.Fits output.withChannelsLast.buffer)
    {next next' : Tensor × Array Single → Attempt Tensor}
    (rest : ∀ old old' : Array Single, old.size = image.count → old'.size = image.count →
      next' ({ output.withChannelsLast with buffer := .f32 old' }, old') =
        withChannelsLast <$> next (output, old)) :
    (liftM (Call.singleOutput
        ⟨params, inputs', [{ output.withChannelsLast with buffer }], derived⟩ routine) >>= next' :
      Attempt Tensor) =
      withChannelsLast <$>
        (liftM (Call.singleOutput ⟨params, inputs, [output], derived⟩ routine) >>= next) := by
  have own : output.withChannelsLast.buffer = output.buffer.reorder image.source := by
    rw [images.withChannelsLast_eq]
  rw [own] at fits
  have same : ({ output.withChannelsLast with buffer } : Tensor).elementType =
      output.elementType := fits.elementType.trans (Buffer.elementType_reorder _ _)
  by_cases single : output.elementType = .f32
  · cases held : output.buffer with
    | f32 old =>
        rw [held] at fits
        obtain ⟨old', rfl, size⟩ := fits.singles
        have count : old.size = image.count := (sized.singles held).trans images.count
        rw [Call.singleOutput_eq rfl, Call.singleOutput_eq held]
        exact rest old old' count (size.trans ((size_reorder image.source old).trans count))
    | f16 | i8 | u8 | i16 | i32 | bool =>
        rw [elementType, held] at single
        cases single
  · rw [Call.singleOutput_refused single, Call.singleOutput_refused (same ▸ single), same]
    rfl

theorem tabulate_singles (images : output.ChannelsFirst image)
    {element element' : Pixel → Attempt Single} (old' : Array Single)
    (same : ∀ pixel, image.Holds pixel → element' pixel = element pixel)
    (aborts : ∀ pixel, (element pixel).Unrefused) :
    ({ output.withChannelsLast with buffer := .f32 old' } : Tensor).withSingles <$>
        tabulate image.count (fun place => do element' (← image.withChannelsLast.pixelAt place)) =
      withChannelsLast <$> output.withSingles <$>
        tabulate image.count (fun place => do element (← image.pixelAt place)) := by
  rw [ImageDims.tabulate_reorder same aborts]
  cases tabulate image.count fun place => do element (← image.pixelAt place) with
  | error fault => rfl
  | ok values => exact congrArg Except.ok (images.withSingles_reorder values)

theorem tabulate_stored (images : output.ChannelsFirst image)
    (fits : buffer.Fits output.withChannelsLast.buffer) {element element' : Pixel → Attempt Int}
    (same : ∀ pixel, image.Holds pixel → element' pixel = element pixel)
    (aborts : ∀ pixel, (element pixel).Unrefused) :
    (tabulate image.count (fun place => do element' (← image.withChannelsLast.pixelAt place)) >>=
        ({ output.withChannelsLast with buffer } : Tensor).withStored) =
      withChannelsLast <$>
        (tabulate image.count (fun place => do element (← image.pixelAt place)) >>=
          output.withStored) :=
  bind_moved (reorder image.source) _ (ImageDims.tabulate_reorder same aborts) fun stored _ =>
    (withStored_refill fits _).trans (images.withStored_reorder stored)

end Tensor.ChannelsFirst

end Arguments

/-- A run on images with channels first whose output has the shape that is inferred for it. -/
structure ImageCall (hook : Precompute) (params : Params) (image : ImageDims) (input : Tensor)
    (others : List Tensor) (output : Tensor) (derived : Option Derived) : Prop where
  read : ImageDims.ofTensor input = .ok image
  first : image.channelsLast = false
  inputSized : input.Sized
  outputSized : output.Sized
  inferred : params.outputShapeOf input others = .ok output.shape
  primed : derived = none ∨ hook params (input :: others) = .ok derived

namespace Tensor.ChannelsFirst

variable {tensor : Tensor} {image : ImageDims}

theorem batchNormAxis_withChannelsLast (images : tensor.ChannelsFirst image) :
    batchNormAxis tensor.withChannelsLast = .ok 3 := by
  rw [images.withChannelsLast_eq]
  rfl

theorem batchNormExtents (images : tensor.ChannelsFirst image) :
    tensor.dims.getD 1 0 = image.channels ∧
      volume (tensor.dims.drop (1 + 1)) = image.height * image.width := by
  rw [images.dims]
  exact ⟨rfl, congrArg (image.height * ·) (Nat.mul_one _)⟩

theorem batchNormExtents_withChannelsLast (images : tensor.ChannelsFirst image) :
    tensor.withChannelsLast.dims.getD 3 0 = image.channels ∧
      volume (tensor.withChannelsLast.dims.drop (3 + 1)) = 1 := by
  rw [images.withChannelsLast_eq]
  exact ⟨rfl, rfl⟩

end Tensor.ChannelsFirst

namespace ImageCall

variable {hook : Precompute} {params : Params} {image : ImageDims} {input output : Tensor}
  {others : List Tensor} {derived : Option Derived}

theorem images (call : ImageCall hook params image input others output derived) :
    input.ChannelsFirst image :=
  (Tensor.channelsFirst_of_ofDims (ImageDims.ofTensor_eq_ok.1 call.read) call.first).1

theorem batchNormAxis (call : ImageCall hook params image input others output derived) :
    batchNormAxis input = .ok 1 := by
  have rank : input.shape.rank = 4 := congrArg List.length call.images.dims
  unfold TensorRuntime.batchNormAxis
  rw [rank]
  rcases (Tensor.channelsFirst_of_ofDims (ImageDims.ofTensor_eq_ok.1 call.read) call.first).2 with
    layout | layout
  · rw [layout]
    rfl
  · rw [layout]
    rfl

theorem outImages (call : ImageCall hook params image input others output derived)
    {outImage : ImageDims} (read : ImageDims.ofDims output.dims image.layout = .ok outImage) :
    output.ChannelsFirst outImage :=
  (Tensor.channelsFirst_of_ofDims read
    ((ImageDims.channelsLast_of_layout read).trans call.first)).1

theorem conv {settings : ConvParams}
    (call : ImageCall hook (.conv2d settings) image input others output derived) :
    ∃ weights rest, ∃ extents : ConvExtents, others = weights :: rest ∧
      extents.settings = settings ∧ extents.image = image ∧
      extents.Describes input weights rest output ∧ output.ChannelsFirst extents.outImage := by
  obtain ⟨weights, rest, extents, rfl, rfl, describes⟩ :=
    ConvExtents.exists_describes call.inferred
  cases describes.image.symm.trans call.read
  exact ⟨weights, rest, extents, rfl, rfl, rfl, describes, call.outImages describes.outDims⟩

theorem pool {settings : PoolParams}
    (call : ImageCall hook (.pool2d settings) image input others output derived) :
    ∃ outImage, PoolImages image outImage input output ∧ output.ChannelsFirst outImage := by
  obtain ⟨_, outImage, geometry⟩ := PoolGeometry.exists_geometry call.inferred
  cases geometry.read.symm.trans call.read
  exact ⟨outImage, geometry.toPoolImages, call.outImages geometry.written⟩

theorem batchNorm {epsilon : Single}
    (call : ImageCall hook (.batchNorm epsilon) image input others output derived) :
    output.ChannelsFirst image := by
  have inferred : (liftM (batchNormOutputShape input others) : Attempt Shape) =
      .ok output.shape := call.inferred
  obtain ⟨_, _, _, shape⟩ := batchNormOutputShape_eq_ok.1 (lift_eq_ok.1 inferred)
  refine ⟨?_, call.first⟩
  rw [Tensor.dims, shape]
  exact call.images.dims

end ImageCall

/-- Moving the images of a call moves what is written, whatever the output held. -/
def Precompute.Moves (hook : Precompute) (body : Call → Attempt Tensor) : Prop :=
  ∀ params image input others output buffer derived,
    ImageCall hook params image input others output derived →
    Buffer.Fits buffer output.withChannelsLast.buffer →
    body ⟨params, input.withChannelsLast :: others, [{ output.withChannelsLast with buffer }],
        derived⟩ =
      Tensor.withChannelsLast <$> body ⟨params, input :: others, [output], derived⟩

section Bodies

theorem inPerGroup_of_derived {settings : ConvParams} {input weights : Tensor} {rest : List Tensor}
    {derived : Option Derived} {packed : ConvWeights}
    (primed : derived = none ∨
      packConvWeights (.conv2d settings) (input :: weights :: rest) = .ok derived)
    {outChannels perGroup kernelHeight kernelWidth : Nat}
    (dims : weights.dims = [outChannels, perGroup, kernelHeight, kernelWidth])
    (read : derivedOr (derived.bind Derived.convWeights?) (do
      ConvWeights.pack (← weights.singlesFor convRoutine) weights.dims) = .ok packed) :
    packed.inPerGroup = perGroup := by
  have made : (do ConvWeights.pack (← weights.singlesFor convRoutine) weights.dims :
      Attempt ConvWeights) = .ok packed := by
    rcases primed with rfl | hooked
    · exact read
    · simp only [packConvWeights, bind_eq_ok, lift_eq_ok, pure_eq_ok] at hooked
      obtain ⟨_, found, values, held, own, done, rfl⟩ := hooked
      cases found
      cases read
      exact bind_eq_ok.2 ⟨values, lift_eq_ok.2 held, done⟩
  obtain ⟨values, _, done⟩ := bind_eq_ok.1 made
  rw [dims] at done
  obtain ⟨_, _, built⟩ := bind_eq_ok.1 done
  cases built
  rfl

theorem convBody_moves : packConvWeights.Moves convBody := by
  intro params image input others output buffer derived call fits
  cases params with
  | conv2d settings =>
      obtain ⟨weights, rest, extents, rfl, rfl, rfl, describes, outImages⟩ := call.conv
      unfold convBody
      refine bind_moved Tensor.withChannelsLast _ rfl fun _ found => ?_
      cases found
      refine bind_alike _ fun _ found => ?_
      cases found
      refine bind_alike _ fun bias _ => call.images.bind_image call.read ?_
      refine bind_alike _ fun packed packedRead => ?_
      have perGroup := inPerGroup_of_derived call.primed describes.kernel packedRead
      refine call.images.bind_singles call.inputSized fun values size => ?_
      rw [Call.output_bind, Call.output_bind]
      refine outImages.bind_outImage describes.outDims ?_
      refine outImages.bind_output call.outputSized fits fun old old' oldSize oldSize' => ?_
      refine bind_alike _ fun _ _ => ?_
      dsimp only
      rw [oldSize, oldSize']
      refine outImages.tabulate_singles old' (fun pixel inside => ?_) fun pixel =>
        unrefused_convElement _ _ _ _ _ _ _
      have own : extents.outImage.channels / extents.settings.groups = extents.outPerGroup :=
        extents.outPerGroup_eq
      dsimp only [ImageDims.withChannelsLast]
      rw [own]
      exact convElement_reorder size perGroup bias inside
  | _ => rfl

variable (hook : Precompute)

theorem poolBody_moves : hook.Moves poolBody := by
  intro params image input others output buffer derived call fits
  cases params with
  | pool2d settings =>
      obtain ⟨outImage, pooled, outImages⟩ := call.pool
      unfold poolBody
      refine bind_moved Tensor.withChannelsLast _ rfl fun _ found => ?_
      cases found
      refine call.images.bind_image call.read ?_
      rw [Call.output_bind, Call.output_bind]
      refine outImages.bind_outImage pooled.written ?_
      refine call.images.bind_singles call.inputSized fun values size => ?_
      refine outImages.bind_output call.outputSized fits fun old old' oldSize oldSize' => ?_
      dsimp only
      rw [oldSize, oldSize']
      exact outImages.tabulate_singles old'
        (fun pixel inside => poolElement_reorder pooled size inside)
        fun pixel => unrefused_poolElement _ _ _ _
  | _ => rfl

theorem storedPoolBody_moves (elementType : ElementType) :
    hook.Moves (storedPoolBody elementType) := by
  intro params image input others output buffer derived call fits
  cases params with
  | pool2d settings =>
      obtain ⟨outImage, pooled, outImages⟩ := call.pool
      unfold storedPoolBody
      dsimp only
      split
      · rfl
      · refine bind_moved Tensor.withChannelsLast _ rfl fun _ found => ?_
        cases found
        rw [call.images.affineFor_withChannelsLast]
        refine bind_alike _ fun affine _ => call.images.bind_image call.read ?_
        rw [Call.output_bind, Call.output_bind]
        refine outImages.bind_outAffine fun outAffine => ?_
        refine outImages.bind_outImage pooled.written ?_
        refine call.images.bind_stored call.inputSized fun stored size => ?_
        refine outImages.bind_slots call.outputSized fits ?_
        exact outImages.tabulate_stored fits
          (fun pixel inside => storedPoolElement_reorder pooled size inside)
          fun pixel => unrefused_storedPoolElement _ _ _ _ _ _ _
  | _ => rfl

theorem storedConvBody_moves [Host] : hook.Moves storedConvBody := by
  intro params image input others output buffer derived call fits
  cases params with
  | conv2d settings =>
      obtain ⟨weights, rest, extents, rfl, rfl, rfl, describes, outImages⟩ := call.conv
      unfold storedConvBody
      refine bind_moved Tensor.withChannelsLast _ rfl fun _ found => ?_
      cases found
      refine bind_alike _ fun _ found => ?_
      cases found
      rw [call.images.affineFor_withChannelsLast]
      refine bind_alike _ fun affine _ => bind_alike _ fun record _ => bind_alike _ fun bias _ => ?_
      refine call.images.bind_image call.read ?_
      dsimp only
      rw [describes.kernel]
      dsimp only
      refine call.images.bind_stored call.inputSized fun stored size => ?_
      refine bind_alike _ fun storedWeights _ => ?_
      rw [Call.output_bind, Call.output_bind]
      refine outImages.bind_outAffine fun outAffine => ?_
      refine outImages.bind_outImage describes.outDims ?_
      refine bind_alike _ fun _ _ => ?_
      refine outImages.bind_slots call.outputSized fits ?_
      have own : extents.outImage.channels / extents.settings.groups = extents.outPerGroup :=
        extents.outPerGroup_eq
      dsimp only [ImageDims.withChannelsLast]
      rw [own]
      refine outImages.tabulate_stored fits (fun pixel inside => ?_) fun pixel => ?_
      · refine bind_congr fun _ => bind_congr fun weightAffine => congrArg (· >>= _) ?_
        exact storedConvSum_reorder size _ _ rfl inside
      · refine (unrefused_nonzero _).bind fun _ _ => (record.unrefused_affineOf _).bind
          fun _ _ => (unrefused_storedConvSum _ _ _ _ _ _ _ _).bind fun _ _ => ?_
        cases bias with
        | none => exact failsOnly_pure _
        | some start => exact ((unrefused_readAt _ _).map _).bind fun _ _ => failsOnly_pure _
  | _ => rfl

theorem batchNormBody_moves : foldBatchNorm.Moves batchNormBody := by
  intro params image input others output buffer derived call fits
  cases params with
  | batchNorm epsilon =>
      have outImages := call.batchNorm
      unfold batchNormBody
      refine bind_moved Tensor.withChannelsLast _ rfl fun _ found => ?_
      cases found
      refine bind_alike _ fun folded _ => ?_
      refine bind_moved (fun _ => 3) _ ?_ fun _ found => ?_
      · rw [call.images.batchNormAxis_withChannelsLast, call.batchNormAxis]
        rfl
      cases call.batchNormAxis.symm.trans (lift_eq_ok.1 found)
      obtain ⟨channels, inner⟩ := call.images.batchNormExtents
      obtain ⟨channels', inner'⟩ := call.images.batchNormExtents_withChannelsLast
      rw [channels, inner, channels', inner']
      by_cases other : folded.scale.size ≠ image.channels ∨ folded.shift.size ≠ image.channels
      · rw [if_pos other, if_pos other]
        rfl
      · rw [if_neg other, if_neg other]
        refine call.images.bind_singles call.inputSized fun values size => ?_
        refine outImages.bind_output call.outputSized fits fun old old' oldSize oldSize' => ?_
        dsimp only
        rw [oldSize, oldSize']
        have size' : (reorder image.source values).size = image.withChannelsLast.count :=
          (size_reorder _ _).trans size
        calc
          _ = ({ output.withChannelsLast with buffer := .f32 old' } : Tensor).withSingles <$>
              tabulate image.count (fun place => do
                normElement folded (reorder image.source values) image.withChannelsLast
                  (← image.withChannelsLast.pixelAt place)) := by
            refine congrArg _ (tabulate_congr fun place bound => ?_)
            refine normElement_of_place folded size' bound Nat.one_ne_zero fun pixel found => ?_
            rw [Nat.div_one]
            exact ImageDims.channel_of_last rfl found
          _ = Tensor.withChannelsLast <$> output.withSingles <$>
                tabulate image.count (fun place => do
                  normElement folded values image (← image.pixelAt place)) :=
            outImages.tabulate_singles old'
              (fun pixel inside => normElement_reorder folded size inside)
              fun pixel => unrefused_normElement folded values image pixel
          _ = _ := by
            refine congrArg _ (congrArg _ (tabulate_congr fun place bound => ?_).symm)
            obtain ⟨_, tall, wide⟩ := ImageDims.positive_of_count bound
            exact normElement_of_place folded size bound (Nat.ne_of_gt (Nat.mul_pos tall wide))
              fun pixel found => ImageDims.channel_of_first call.first found
  | _ =>
      rcases call.primed with rfl | impossible
      · rfl
      · cases impossible

end Bodies

end TensorRuntime
