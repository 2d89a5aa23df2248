import TensorRuntime.Proofs.Kernel.ImageOrder
import TensorRuntime.Proofs.Kernel.Progress.Loops

/-!
The same images with their channels moved from the outside of each picture to the inside. A pixel
keeps its value and changes its place, and a loop that computes its elements from pixels writes
the same values in the other order.
-/

namespace TensorRuntime

open Attempt

def reorder {α : Type} (source : Nat → Nat) (values : Array α) : Array α :=
  values.mapIdx fun place own => values.getD (source place) own

section Reorder

variable {α β : Type} (source : Nat → Nat)

@[simp] theorem size_reorder (values : Array α) : (reorder source values).size = values.size := by
  simp [reorder]

theorem reorder_map (values : Array α) (change : α → β) :
    reorder source (values.map change) = (reorder source values).map change := by
  apply Array.ext
  · simp
  · intro place bound bound'
    by_cases inside : source place < values.size
    · simp [reorder, inside]
    · simp [reorder, inside]

theorem reorder_getElem? {values : Array α} {place : Nat} (bound : place < values.size)
    (inside : source place < values.size) :
    (reorder source values)[place]? = values[source place]? := by
  simp [reorder, bound, inside]

end Reorder

namespace ImageDims

variable {image : ImageDims} {pixel : Pixel}

def withChannelsLast (image : ImageDims) : ImageDims := { image with channelsLast := true }

def source (image : ImageDims) (place : Nat) : Nat := image.index (image.pixelOf place)

theorem exists_pixel {place : Nat} (bound : place < image.count) :
    ∃ pixel, image.Holds pixel ∧ image.withChannelsLast.index pixel = place ∧
      image.withChannelsLast.pixelAt place = .ok pixel := by
  have placed : ∃ pixel, image.withChannelsLast.pixelAt place = .ok pixel ∧
      image.withChannelsLast.Holds pixel := pixelAt_inside bound
  obtain ⟨pixel, found, inside⟩ := placed
  exact ⟨pixel, inside, index_of_pixelAt found, found⟩

theorem index_lt_withChannelsLast (inside : image.Holds pixel) :
    image.withChannelsLast.index pixel < image.count := by
  have bound : image.withChannelsLast.index pixel < image.withChannelsLast.count :=
    index_lt_count inside
  exact bound

theorem pixelAt_withChannelsLast (inside : image.Holds pixel) :
    image.withChannelsLast.pixelAt (image.withChannelsLast.index pixel) = .ok pixel := by
  have turned : image.withChannelsLast.Holds pixel := inside
  exact pixelAt_index turned

theorem source_index (inside : image.Holds pixel) :
    image.source (image.withChannelsLast.index pixel) = image.index pixel := by
  have last : image.withChannelsLast.channelsLast = true := rfl
  obtain ⟨_, channel, row, column⟩ := id inside
  have split := pixelAt_eq_ok last (Nat.zero_lt_of_lt channel) (Nat.zero_lt_of_lt row)
    (Nat.zero_lt_of_lt column) (image.withChannelsLast.index pixel)
  have same : image.pixelOf (image.withChannelsLast.index pixel) = pixel :=
    Except.ok.inj (split.symm.trans (pixelAt_withChannelsLast inside))
  rw [source, same]

theorem reorder_index {α : Type} {values : Array α} (size : values.size = image.count)
    (inside : image.Holds pixel) :
    (reorder image.source values)[image.withChannelsLast.index pixel]? =
      values[image.index pixel]? := by
  have there : image.source (image.withChannelsLast.index pixel) < values.size := by
    rw [source_index inside, size]
    exact index_lt_count inside
  rw [reorder_getElem? image.source (size ▸ index_lt_withChannelsLast inside) there,
    source_index inside]

example : reorder (ImageDims.source ⟨1, 2, 1, 3, false⟩) #[0, 1, 2, 3, 4, 5] =
    #[0, 3, 1, 4, 2, 5] := by decide

theorem readAt_reorder {α : Type} {values : Array α} (size : values.size = image.count)
    (inside : image.Holds pixel) :
    readAt (reorder image.source values) (image.withChannelsLast.index pixel) =
      readAt values (image.index pixel) := by
  unfold readAt
  rw [reorder_index size inside]

theorem tabulate_reorder {α : Type} {element element' : Pixel → Attempt α}
    (same : ∀ pixel, image.Holds pixel → element' pixel = element pixel)
    (aborts : ∀ pixel, (element pixel).Unrefused) :
    tabulate image.count (fun place => do element' (← image.withChannelsLast.pixelAt place)) =
      reorder image.source <$>
        tabulate image.count (fun place => do element (← image.pixelAt place)) := by
  have aborts' : (tabulate image.count fun place => do
      element' (← image.withChannelsLast.pixelAt place)).Unrefused := by
    refine unrefused_tabulate fun place bound => ?_
    obtain ⟨pixel, inside, _, found⟩ := exists_pixel bound
    refine .bind_ok found ?_
    rw [same pixel inside]
    exact aborts pixel
  cases done : tabulate image.count fun place => do element (← image.pixelAt place) with
  | ok values =>
      have size := size_of_tabulate done
      refine tabulate_eq_ok.2 ⟨by simp [size], fun place bound => ?_⟩
      obtain ⟨pixel, inside, rfl, found⟩ := exists_pixel (by simpa [size] using bound)
      have present := Array.getElem?_eq_getElem bound
      rw [reorder_index size inside] at present
      rw [found]
      exact (same pixel inside).trans (at_pixel done inside present)
  | error fault =>
      have aborted : fault = .aborted :=
        unrefused_tabulate (fun place _ => (unrefused_pixelAt _ _).bind fun pixel _ =>
          aborts pixel) fault done
      subst aborted
      cases done' : tabulate image.count fun place => do
          element' (← image.withChannelsLast.pixelAt place) with
      | error fault' => rw [aborts' fault' done']; rfl
      | ok values' =>
          have each : ∀ place ∈ List.range image.count, ∃ value,
              (do element (← image.pixelAt place)) = .ok value := by
            intro place member
            obtain ⟨pixel, found, inside⟩ := pixelAt_inside (List.mem_range.1 member)
            have bound : image.withChannelsLast.index pixel < values'.size :=
              (size_of_tabulate done').symm ▸ index_lt_withChannelsLast inside
            have computed : element' pixel = .ok values'[image.withChannelsLast.index pixel] := by
              have own := (tabulate_eq_ok.1 done').2 _ bound
              rwa [pixelAt_withChannelsLast inside] at own
            rw [found]
            exact ⟨_, (same pixel inside).symm.trans computed⟩
          obtain ⟨values, made⟩ := exists_mapM each
          unfold tabulate at done
          rw [made] at done
          cases done

end ImageDims

namespace Buffer

def packedByte (bits : Nat → Bool) : UInt8 :=
  UInt8.ofNat ((List.range 8).foldr (fun bit rest => 2 * rest + (bits bit).toNat) 0)

def reorder (source : Nat → Nat) : Buffer → Buffer
  | f32 values => f32 (TensorRuntime.reorder source values)
  | f16 values => f16 (TensorRuntime.reorder source values)
  | i8 values => i8 (TensorRuntime.reorder source values)
  | u8 values => u8 (TensorRuntime.reorder source values)
  | i16 values => i16 (TensorRuntime.reorder source values)
  | i32 values => i32 (TensorRuntime.reorder source values)
  | bool packed =>
      bool (packed.mapIdx fun byte _ => packedByte fun bit =>
        let place := source (8 * byte + bit)
        (packed.getD (place / 8) 0).toNat.testBit (place % 8))

variable (source : Nat → Nat)

@[simp] theorem elementType_reorder (buffer : Buffer) :
    (buffer.reorder source).elementType = buffer.elementType := by
  cases buffer <;> rfl

@[simp] theorem byteCount_reorder (buffer : Buffer) :
    (buffer.reorder source).byteCount = buffer.byteCount := by
  cases buffer <;> simp [reorder, byteCount]

theorem integers?_reorder (buffer : Buffer) :
    (buffer.reorder source).integers? =
      buffer.integers?.map (TensorRuntime.reorder source) := by
  cases buffer <;> simp [reorder, integers?, reorder_map]

theorem ofIntegers?_reorder (elementType : ElementType) (values : Array Int) :
    ofIntegers? elementType (TensorRuntime.reorder source values) =
      (ofIntegers? elementType values).map (reorder source) := by
  cases elementType <;> simp [reorder, ofIntegers?, reorder_map]

end Buffer

def lastAxis : Nat → Nat
  | 1 => 3
  | 2 => 1
  | 3 => 2
  | axis => axis

namespace Quantization

def withChannelsLast : Quantization → Quantization
  | perTensor affine => perTensor affine
  | perChannel scales zeroPoints axis => perChannel scales zeroPoints (lastAxis axis)

theorem validate_withChannelsLast {record : Quantization} {elementType : ElementType}
    {batch channels height width : Nat}
    (checked : record.validate elementType [batch, channels, height, width] = .ok ()) :
    record.withChannelsLast.validate elementType [batch, height, width, channels] = .ok () := by
  cases record with
  | perTensor affine => exact checked
  | perChannel scales zeroPoints axis =>
      have extent : [batch, height, width, channels][lastAxis axis]? =
          [batch, channels, height, width][axis]? := by
        match axis with
        | 0 | 1 | 2 | 3 => rfl
        | _ + 4 => rfl
      unfold validate at checked ⊢
      cases ranged : elementType.intRange? with
      | none =>
          rw [ranged] at checked
          cases checked
      | some range =>
          rw [ranged] at checked
          dsimp only [withChannelsLast] at checked ⊢
          rw [extent]
          cases found : [batch, channels, height, width][axis]? with
          | none =>
              rw [found] at checked
              cases checked
          | some own =>
              rw [found] at checked
              exact checked

end Quantization

def Shape.withChannelsLast (shape : Shape) : Shape :=
  match shape.dims with
  | [batch, channels, height, width] => ⟨[batch, height, width, channels]⟩
  | _ => shape

theorem ImageDims.shapeWith_withChannelsLast {image : ImageDims}
    (first : image.channelsLast = false) (channels height width : Nat) :
    image.withChannelsLast.shapeWith channels height width =
      (image.shapeWith channels height width).withChannelsLast := by
  unfold shapeWith
  rw [first]
  rfl

namespace Tensor

variable {tensor : Tensor} {image : ImageDims}

/-- A batch of images with channels first, moved to channels last; other tensors stay. -/
def withChannelsLast (tensor : Tensor) : Tensor :=
  match tensor.dims with
  | [batch, channels, height, width] =>
      { tensor with
        shape := ⟨[batch, height, width, channels]⟩
        layout := .nhwc
        quantization := tensor.quantization.map Quantization.withChannelsLast
        buffer := tensor.buffer.reorder (ImageDims.source ⟨batch, channels, height, width, false⟩) }
  | _ => tensor

theorem shape_withChannelsLast (tensor : Tensor) :
    tensor.withChannelsLast.shape = tensor.shape.withChannelsLast := by
  unfold withChannelsLast Shape.withChannelsLast dims
  split <;> rfl

structure ChannelsFirst (tensor : Tensor) (image : ImageDims) : Prop where
  dims : tensor.dims = [image.batch, image.channels, image.height, image.width]
  first : image.channelsLast = false

theorem channelsFirst_of_ofDims {layout : Layout}
    (read : ImageDims.ofDims tensor.dims layout = .ok image) (first : image.channelsLast = false) :
    tensor.ChannelsFirst image ∧ (layout = .nchw ∨ layout = .any) := by
  obtain ⟨_, last, _⟩ | ⟨layouts, first, dims⟩ := ImageDims.ofDims_cases read
  · exact absurd (first.symm.trans last) (by decide)
  · exact ⟨⟨dims, first⟩, layouts⟩

namespace ChannelsFirst

variable (images : tensor.ChannelsFirst image)

include images

theorem withChannelsLast_eq :
    tensor.withChannelsLast =
      { tensor with
        shape := ⟨[image.batch, image.height, image.width, image.channels]⟩
        layout := .nhwc
        quantization := tensor.quantization.map Quantization.withChannelsLast
        buffer := tensor.buffer.reorder image.source } := by
  obtain ⟨dims, first⟩ := images
  obtain ⟨batch, channels, height, width, channelsLast⟩ := image
  cases first
  unfold withChannelsLast
  split
  · rename_i same
    cases same.symm.trans dims
    rfl
  · rename_i other
    exact absurd dims (other _ _ _ _)

theorem frame_withChannelsLast :
    tensor.withChannelsLast.frame =
      ⟨tensor.name, tensor.kind,
        ⟨⟨[image.batch, image.height, image.width, image.channels]⟩, tensor.elementType, .nhwc,
          tensor.quantization.map Quantization.withChannelsLast⟩, tensor.buffer.byteCount⟩ := by
  rw [images.withChannelsLast_eq]
  simp [frame, signature, elementType]

theorem valid_withChannelsLast (valid : tensor.Valid) : tensor.withChannelsLast.Valid := by
  obtain ⟨_, _, sized, record⟩ := valid_iff.1 valid
  rw [images.withChannelsLast_eq]
  have bytes : (tensor.buffer.reorder image.source).byteCount = tensor.buffer.byteCount :=
    Buffer.byteCount_reorder _ _
  have own : (tensor.buffer.reorder image.source).elementType = tensor.buffer.elementType :=
    Buffer.elementType_reorder _ _
  refine valid_iff.2 ⟨by simp [Shape.rank, maxRank], rfl, ?_, ?_⟩
  · have count : volume [image.batch, image.height, image.width, image.channels] =
        volume tensor.dims := by
      rw [images.dims]
      simp only [volume_cons, volume_nil]
      ac_rfl
    unfold Sized at sized ⊢
    unfold Tensor.elementType Tensor.count Shape.count at sized ⊢
    dsimp only
    rw [bytes, own, count]
    exact sized
  · unfold RecordFits Tensor.elementType Tensor.dims at record ⊢
    dsimp only
    have dims : tensor.shape.dims = [image.batch, image.channels, image.height, image.width] :=
      images.dims
    rw [own]
    rw [dims] at record
    cases recorded : tensor.quantization with
    | none =>
        rw [recorded] at record
        cases integer : tensor.buffer.elementType.isInteger <;> rw [integer] at record <;>
          exact record
    | some own =>
        rw [recorded] at record
        cases integer : tensor.buffer.elementType.isInteger with
        | false =>
            rw [integer] at record
            exact record
        | true =>
            rw [integer] at record
            exact Quantization.validate_withChannelsLast record

theorem count : tensor.count = image.count := by
  change volume tensor.dims = image.count
  rw [images.dims]
  simp only [volume_cons, volume_nil, ImageDims.count]
  ac_rfl

theorem elementAt?_withChannelsLast (sized : tensor.Sized) {pixel : Pixel}
    (inside : image.Holds pixel) :
    tensor.withChannelsLast.elementAt? (image.withChannelsLast.index pixel) =
      tensor.elementAt? (image.index pixel) := by
  rw [images.withChannelsLast_eq]
  unfold elementAt?
  cases held : tensor.buffer with
  | f32 values =>
      have size := (sized.singles held).trans images.count
      exact congrArg (Option.map Element.single) (ImageDims.reorder_index size inside)
  | f16 | bool => rfl
  | i8 values | u8 values | i16 values | i32 values =>
      obtain ⟨stored, own⟩ : ∃ stored, tensor.buffer.integers? = some stored := by
        rw [held]
        exact ⟨_, rfl⟩
      have size := (sized.stored own).trans images.count
      have moved := Buffer.integers?_reorder image.source tensor.buffer
      rw [own, held] at moved
      rw [held] at own
      dsimp only [Buffer.reorder] at moved ⊢
      rw [moved, own]
      exact congrArg (Option.map Element.stored) (ImageDims.reorder_index size inside)

theorem ofDims_withChannelsLast :
    ImageDims.ofDims tensor.withChannelsLast.dims .nhwc = .ok image.withChannelsLast := by
  rw [images.withChannelsLast_eq]
  rfl

theorem ofTensor_withChannelsLast :
    ImageDims.ofTensor tensor.withChannelsLast = .ok image.withChannelsLast := by
  rw [ImageDims.ofTensor_eq_ok]
  have layout : tensor.withChannelsLast.layout = .nhwc := by rw [images.withChannelsLast_eq]
  rw [layout]
  exact images.ofDims_withChannelsLast

theorem singlesFor_withChannelsLast (routine : String) :
    tensor.withChannelsLast.singlesFor routine =
      reorder image.source <$> tensor.singlesFor routine := by
  rw [images.withChannelsLast_eq]
  unfold singlesFor elementType
  cases tensor.buffer <;> rfl

theorem storedFor_withChannelsLast (elementType : ElementType) (routine : String) :
    tensor.withChannelsLast.storedFor elementType routine =
      reorder image.source <$> tensor.storedFor elementType routine := by
  rw [images.withChannelsLast_eq]
  unfold storedFor Tensor.elementType
  rw [Buffer.elementType_reorder, Buffer.integers?_reorder]
  cases tensor.buffer.integers? <;> cases tensor.buffer.elementType == elementType <;> rfl

theorem affineFor_withChannelsLast (routine : String) :
    tensor.withChannelsLast.affineFor routine = tensor.affineFor routine := by
  rw [images.withChannelsLast_eq]
  unfold affineFor
  cases tensor.quantization with
  | none => rfl
  | some record => cases record <;> rfl

theorem storedSlots_withChannelsLast (elementType : ElementType) (routine : String) :
    tensor.withChannelsLast.storedSlots elementType routine =
      tensor.storedSlots elementType routine := by
  rw [images.withChannelsLast_eq]
  unfold storedSlots Tensor.elementType
  rw [Buffer.elementType_reorder, Buffer.integers?_reorder]
  cases tensor.buffer.integers? <;> cases tensor.buffer.elementType == elementType <;> simp

theorem withSingles_reorder (values : Array Single) :
    tensor.withChannelsLast.withSingles (reorder image.source values) =
      (tensor.withSingles values).withChannelsLast := by
  have filled : (tensor.withSingles values).ChannelsFirst image := ⟨images.dims, images.first⟩
  rw [filled.withChannelsLast_eq, images.withChannelsLast_eq]
  rfl

theorem withStored_reorder (stored : Array Int) :
    tensor.withChannelsLast.withStored (reorder image.source stored) =
      withChannelsLast <$> tensor.withStored stored := by
  rw [images.withChannelsLast_eq]
  unfold withStored Tensor.elementType
  rw [Buffer.elementType_reorder, Buffer.ofIntegers?_reorder]
  cases Buffer.ofIntegers? tensor.buffer.elementType stored with
  | none => rfl
  | some buffer =>
      have filled : ({ tensor with buffer } : Tensor).ChannelsFirst image :=
        ⟨images.dims, images.first⟩
      exact congrArg Except.ok filled.withChannelsLast_eq.symm

end ChannelsFirst

theorem Valid.withChannelsLast (valid : tensor.Valid) : tensor.withChannelsLast.Valid := by
  by_cases images : ∃ image, tensor.ChannelsFirst image
  · obtain ⟨_, images⟩ := images
    exact images.valid_withChannelsLast valid
  · have stays : tensor.withChannelsLast = tensor := by
      unfold Tensor.withChannelsLast
      split
      · rename_i batch channels height width dims
        exact absurd ⟨⟨batch, channels, height, width, false⟩, dims, rfl⟩ images
      · rfl
    rwa [stays]

end Tensor

end TensorRuntime
