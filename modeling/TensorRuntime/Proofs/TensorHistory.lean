import TensorRuntime.Proofs.InPlace.Storing
import TensorRuntime.Proofs.Takeover

/-!
Tensors over their lives. Few operations check a tensor as a whole, but each keeps what the
constructors checked: size, layout and record stay as the shape and the element type ask for.
-/

namespace TensorRuntime

open Attempt InPlace

inductive TensorSource where
  | parts (dims : List Nat) (layout : Layout) (buffer : Buffer)
      (quantization : Option Quantization)
  | singles (values : Array Single) (dims : List Nat)
  | halves (values : Array Half) (dims : List Nat)
  | stored (buffer : Buffer) (dims : List Nat) (record : Quantization)
  | truths (values : List Bool) (dims : List Nat)
  | zeros (dims : List Nat) (elementType : ElementType) (quantization : Option Quantization)
  | reals (values : Array Single) (dims : List Nat) (elementType : ElementType)
      (quantization : Option Quantization)

def TensorSource.build [Host] : TensorSource → Attempt Tensor
  | parts dims layout buffer quantization => Tensor.create dims layout buffer quantization
  | singles values dims => Tensor.ofSingles values dims
  | halves values dims => Tensor.ofHalves values dims
  | stored buffer dims record => Tensor.quantized buffer dims record
  | truths values dims => Tensor.ofBools values dims
  | zeros dims elementType quantization => Tensor.zeros dims elementType quantization
  | reals values dims elementType quantization =>
      Tensor.quantizeSingles values dims elementType quantization

/-- One element as it is stored. Packed truth values are not given access to. -/
inductive StoredElement where
  | f32 (value : Single)
  | f16 (value : Half)
  | i8 (value : Int8)
  | u8 (value : UInt8)
  | i16 (value : Int16)
  | i32 (value : Int32)

def StoredElement.put (element : StoredElement) (index : Nat) : Buffer → Attempt Buffer :=
  match element with
  | f32 value => Buffer.Form.f32.change (writeAt · index value)
  | f16 value => Buffer.Form.f16.change (writeAt · index value)
  | i8 value => Buffer.Form.i8.change (writeAt · index value)
  | u8 value => Buffer.Form.u8.change (writeAt · index value)
  | i16 value => Buffer.Form.i16.change (writeAt · index value)
  | i32 value => Buffer.Form.i32.change (writeAt · index value)

theorem Buffer.of_zeros [Host] {elementType : ElementType} {count : Nat} {buffer : Buffer}
    (done : Buffer.zeros elementType count = .ok buffer) :
    buffer.elementType = elementType ∧ buffer.byteCount = elementType.storageBytes count := by
  unfold Buffer.zeros at done
  simp only [bind_eq_ok, pure_eq_ok] at done
  obtain ⟨_, _, rfl⟩ := done
  cases elementType <;>
    simp [Buffer.elementType, Buffer.byteCount, ElementType.storageBytes, ElementType.elementSize?]

theorem Buffer.Form.of_change {β : Type} {form : Buffer.Form β}
    {update : Array β → Attempt (Array β)} {before after : Buffer}
    (sized : ∀ values written, update values = .ok written → written.size = values.size)
    (done : form.change update before = .ok after) :
    after.elementType = before.elementType ∧ after.byteCount = before.byteCount := by
  unfold change at done
  split at done
  · rename_i values seen
    obtain ⟨written, updated, rfl⟩ := map_eq_ok.1 done
    rw [← form.wrap_view? before values seen]
    exact form.alike _ _ (sized values written updated)
  · cases done

namespace StoredElement

variable {index : Nat} {before after : Buffer}

theorem of_put (element : StoredElement) (done : element.put index before = .ok after) :
    after.elementType = before.elementType ∧ after.byteCount = before.byteCount := by
  cases element <;> exact Buffer.Form.of_change (fun _ _ wrote => size_of_writeAt wrote) done

end StoredElement

inductive TensorCall where
  | withLayout (layout : Layout)
  | withName (name : String)
  | withKind (kind : BufferKind)
  | store (values : Array Single)
  | zerosLike
  | setElement (index : Nat) (element : StoredElement)
  | replaceBuffer (other : Tensor)

namespace Tensor

def takeOver (tensor other : Tensor) : InPlace Unit := do
  let replaced ← tensor.replaceBuffer other
  rewrite fun _ => pure replaced.buffer

def inPlace (tensor : Tensor) (routine : InPlace Unit) : Tensor × Attempt Unit :=
  let (outcome, buffer) := routine.runOn tensor.buffer
  ({ tensor with buffer }, outcome)

def exchanged (tensor : Tensor) : Attempt Tensor → Tensor × Attempt Unit
  | .ok other => (other, .ok ())
  | .error fault => (tensor, .error fault)

def perform [Host] (tensor : Tensor) : TensorCall → Tensor × Attempt Unit
  | .withLayout layout => tensor.exchanged (tensor.withLayout layout)
  | .withName name => tensor.exchanged (pure (tensor.withName name))
  | .withKind kind => tensor.exchanged (pure (tensor.withKind kind))
  | .store values => tensor.inPlace (tensor.store values)
  | .zerosLike => tensor.exchanged tensor.zerosLike
  | .setElement index element => tensor.inPlace (rewrite (element.put index))
  | .replaceBuffer other => tensor.inPlace (tensor.takeOver other)

/-- The tensors that constructors and calls give, in any order and with any outcome. -/
inductive Obtained [Host] : Tensor → Prop
  | built {source : TensorSource} {tensor : Tensor} (done : source.build = .ok tensor) :
      Obtained tensor
  | changed {tensor : Tensor} {call : TensorCall} (obtained : Obtained tensor)
      (donor : ∀ other, call = .replaceBuffer other → Obtained other) :
      Obtained (tensor.perform call).1

section Building

variable {tensor : Tensor}

theorem valid_of_create {dims : List Nat} {layout : Layout} {buffer : Buffer}
    {quantization : Option Quantization}
    (done : create dims layout buffer quantization = .ok tensor) : tensor.Valid := by
  unfold create at done
  simp only [bind_eq_ok, pure_eq_ok] at done
  obtain ⟨shape, _, _, checked, rfl⟩ := done
  exact checked

theorem valid_of_zeros [Host] {dims : List Nat} {elementType : ElementType}
    {quantization : Option Quantization}
    (done : zeros dims elementType quantization = .ok tensor) : tensor.Valid := by
  unfold zeros at done
  simp only [bind_eq_ok] at done
  obtain ⟨_, _, _, _, done⟩ := done
  exact valid_of_create done

theorem valid_of_build [Host] {source : TensorSource} (done : source.build = .ok tensor) :
    tensor.Valid := by
  cases source with
  | parts | singles | halves | stored => exact valid_of_create (lift_eq_ok.1 done)
  | zeros => exact valid_of_zeros (lift_eq_ok.1 done)
  | truths values dims =>
      simp only [TensorSource.build, ofBools, bind_eq_ok, lift_eq_ok, guard_eq_ok] at done
      obtain ⟨_, _, _, _, _, done⟩ := done
      exact valid_of_create done
  | reals values dims elementType quantization =>
      simp only [TensorSource.build, quantizeSingles, bind_eq_ok, lift_eq_ok] at done
      obtain ⟨_, zeroed, written⟩ := done
      exact (valid_of_zeros zeroed).of_frame (frame_of_writeSingles written)

end Building

section Changing

variable {tensor : Tensor}

theorem Valid.withLayout (valid : tensor.Valid) {layout : Layout} {after : Tensor}
    (done : tensor.withLayout layout = .ok after) : after.Valid := by
  unfold Tensor.withLayout at done
  split at done
  · cases done
    obtain ⟨rank, _, sized, fits⟩ := valid_iff.1 valid
    exact valid_iff.2 ⟨rank, ‹_›, sized, fits⟩
  · cases done

theorem Valid.zerosLike [Host] (valid : tensor.Valid) {after : Tensor}
    (done : tensor.zerosLike = .ok after) : after.Valid := by
  unfold Tensor.zerosLike at done
  simp only [bind_eq_ok, pure_eq_ok] at done
  obtain ⟨buffer, zeroed, rfl⟩ := done
  obtain ⟨elementType, bytes⟩ := Buffer.of_zeros zeroed
  exact valid.of_frame (frame_of_buffer elementType (bytes.trans valid.sized.symm))

theorem Valid.exchanged (valid : tensor.Valid) {result : Attempt Tensor}
    (given : ∀ other, result = .ok other → other.Valid) : (tensor.exchanged result).1.Valid := by
  cases result with
  | ok other => exact given other rfl
  | error fault => exact valid

theorem Valid.replaceBuffer (valid : tensor.Valid) {other after : Tensor}
    (otherValid : other.Valid) (done : tensor.replaceBuffer other = .ok after) : after.Valid :=
  (valid.valid_of_replaceBuffer done).2 otherValid.sized

theorem Valid.inPlace (valid : tensor.Valid) {routine : InPlace Unit} {result : Attempt Tensor}
    (performs : routine.Performs tensor result) (safe : result.Safe)
    (given : ∀ written, result = .ok written → written.Valid) :
    (tensor.inPlace routine).1.Valid := by
  unfold Tensor.inPlace
  cases ended : result with
  | ok written =>
      obtain ⟨ran, same⟩ := performs.done written ended
      rw [ran]
      exact same ▸ given written ended
  | error fault =>
      cases fault with
      | refused error =>
          rw [performs.refused error ended]
          exact valid
      | aborted => exact absurd ended safe

theorem performs_takeOver (tensor other : Tensor) :
    (tensor.takeOver other).Performs tensor (tensor.replaceBuffer other) := by
  unfold takeOver
  cases replaced : tensor.replaceBuffer other with
  | error error =>
      exact @performs_check _ _ _ _ pure fun value impossible => (by cases impossible)
  | ok after =>
      refine (@fills_rewrite _ (fun _ => pure after.buffer) (failsOnly_pure _)).performs ?_
      unfold replaceBuffer at replaced
      split at replaced
      · cases replaced
        rfl
      · cases replaced

theorem inPlace_failed {routine : InPlace Unit} {result : Attempt Tensor}
    (performs : routine.Performs tensor result) (safe : result.Safe) {fault : Fault}
    (failed : (tensor.inPlace routine).2 = .error fault) :
    (tensor.inPlace routine).1 = tensor ∧ fault ≠ .aborted := by
  have outcome : (fun _ => ()) <$> result = .error fault := performs.outcome.symm.trans failed
  cases ended : result with
  | ok written => rw [ended] at outcome; cases outcome
  | error own =>
      rw [ended] at outcome
      cases outcome
      cases fault with
      | refused error =>
          refine ⟨?_, nofun⟩
          unfold inPlace
          rw [performs.refused error ended]
      | aborted => exact absurd ended safe

theorem inPlace_rewrite (tensor : Tensor) (change : Buffer → Attempt Buffer) :
    tensor.inPlace (rewrite change) = tensor.exchanged (do
      return { tensor with buffer := ← change tensor.buffer }) := by
  unfold inPlace
  rw [runOn_rewrite]
  cases change tensor.buffer <;> rfl

theorem exchanged_failed {result : Attempt Tensor} {fault : Fault}
    (failed : (tensor.exchanged result).2 = .error fault) :
    (tensor.exchanged result).1 = tensor ∧ result = .error fault := by
  cases result with
  | ok other => cases failed
  | error own =>
      cases failed
      exact ⟨rfl, rfl⟩

theorem Valid.perform [Host] (valid : tensor.Valid) {call : TensorCall}
    (donor : ∀ other, call = .replaceBuffer other → other.Valid) :
    (tensor.perform call).1.Valid := by
  cases call with
  | withLayout layout =>
      exact valid.exchanged fun other done => valid.withLayout (lift_eq_ok.1 done)
  | withName | withKind =>
      refine valid.exchanged fun other done => ?_
      cases done
      have parts := valid_iff.1 valid
      exact valid_iff.2 parts
  | zerosLike => exact valid.exchanged fun other done => valid.zerosLike (lift_eq_ok.1 done)
  | store values =>
      exact valid.inPlace (tensor.performs_store values) (safe_writeSingles valid.sized values)
        fun written done => valid.of_frame (frame_of_writeSingles done)
  | setElement index element =>
      change (tensor.inPlace (rewrite (element.put index))).1.Valid
      rw [inPlace_rewrite]
      refine valid.exchanged fun other done => ?_
      simp only [bind_eq_ok, pure_eq_ok] at done
      obtain ⟨buffer, written, rfl⟩ := done
      obtain ⟨elementType, bytes⟩ := element.of_put written
      exact valid.of_frame (frame_of_buffer elementType bytes)
  | replaceBuffer other =>
      exact valid.inPlace (performs_takeOver tensor other) (safe_lift _)
        fun written done => valid.replaceBuffer (donor other rfl) (lift_eq_ok.1 done)

theorem Valid.perform_failed [Host] (valid : tensor.Valid) {call : TensorCall} {fault : Fault}
    (failed : (tensor.perform call).2 = .error fault) :
    (tensor.perform call).1 = tensor ∧
      (fault = .aborted → ∃ index element, call = .setElement index element) := by
  cases call with
  | withLayout layout =>
      obtain ⟨same, refused⟩ := exchanged_failed failed
      exact ⟨same, fun aborted => absurd (aborted ▸ refused) (safe_lift _)⟩
  | withName | withKind => cases failed
  | zerosLike =>
      obtain ⟨same, refused⟩ := exchanged_failed failed
      exact ⟨same, fun aborted => absurd (aborted ▸ refused) (safe_lift _)⟩
  | store values =>
      obtain ⟨same, refused⟩ := inPlace_failed (tensor.performs_store values)
        (safe_writeSingles valid.sized values) failed
      exact ⟨same, fun aborted => absurd aborted refused⟩
  | setElement index element =>
      refine ⟨?_, fun _ => ⟨index, element, rfl⟩⟩
      change (tensor.inPlace (rewrite (element.put index))).2 = _ at failed
      change (tensor.inPlace (rewrite (element.put index))).1 = _
      rw [inPlace_rewrite] at failed ⊢
      exact (exchanged_failed failed).1
  | replaceBuffer other =>
      obtain ⟨same, refused⟩ := inPlace_failed (performs_takeOver tensor other) (safe_lift _) failed
      exact ⟨same, fun aborted => absurd aborted refused⟩

theorem Obtained.valid [Host] (obtained : tensor.Obtained) : tensor.Valid := by
  induction obtained with
  | built done => exact valid_of_build done
  | changed _ _ valid donor => exact valid.perform donor

theorem Valid.exists_affine (valid : tensor.Valid) {record : Quantization}
    (held : tensor.quantization = some record) {channel : Nat}
    (inside : ∀ axis, record.axis? = some axis → ∀ extent, tensor.dims[axis]? = some extent →
      channel < extent) :
    ∃ affine, record.affineOf channel = .ok affine := by
  obtain ⟨_, _, _, fits⟩ := valid_iff.1 valid
  unfold RecordFits at fits
  rw [held] at fits
  cases integer : tensor.elementType.isInteger with
  | false =>
      rw [integer] at fits
      exact fits.elim
  | true =>
      rw [integer] at fits
      exact Quantization.affineOf_ok fits inside

/-- Whatever became of a tensor, it passes its own check, its record has a pair for each of its
elements and for each channel along its axis, reading it never aborts, and a call that fails leaves
it as it was. -/
theorem Obtained.stays_whole [Host] (obtained : tensor.Obtained) :
    tensor.validate = .ok () ∧
    (∀ record, tensor.quantization = some record →
      (∀ index < tensor.count,
        ∃ affine, record.affineOf (record.channelOf tensor.dims index) = .ok affine) ∧
      ∀ axis extent, record.axis? = some axis → tensor.dims[axis]? = some extent →
        ∀ channel < extent, ∃ affine, record.affineOf channel = .ok affine) ∧
    tensor.toSingles ≠ .error .aborted ∧
    ∀ call fault, (tensor.perform call).2 = .error fault →
      (tensor.perform call).1 = tensor ∧
        (fault = .aborted → ∃ index element, call = .setElement index element) := by
  have valid := obtained.valid
  refine ⟨valid, fun record held => ⟨fun index bound => ?_, fun axis extent along found => ?_⟩,
    safe_toSingles valid.sized, fun call fault failed => valid.perform_failed failed⟩
  · have positive : 0 ∉ tensor.dims := Shape.volume_pos.1 (Nat.zero_lt_of_lt bound)
    exact valid.exists_affine held fun axis along extent found =>
      Quantization.channelOf_lt along positive found index
  · intro channel bound
    refine valid.exists_affine held fun axis' along' extent' found' => ?_
    cases along.symm.trans along'
    cases found.symm.trans found'
    exact bound

def twoChannels : Tensor :=
  ⟨"", ⟨[2, 2]⟩, .any, some (.perChannel #[⟨0x3F000000⟩, ⟨0x3F800000⟩] #[0, -3] 1), .external,
    .i8 #[1, 2, 3, 4]⟩

theorem twoChannels_stay_whole :
    let written := ((twoChannels.perform (.withLayout .nhwc)).1.perform (.setElement 3 (.i8 7))).1
    let replaced := (written.perform (.replaceBuffer twoChannels)).1
    written.buffer = .i8 #[1, 2, 3, 7] ∧ replaced.buffer = .i8 #[1, 2, 3, 4] ∧
      replaced.validate = .ok () ∧ (replaced.perform (.store #[])).1 = replaced := by
  intro written replaced
  have built : twoChannels.Obtained :=
    @Obtained.built _ (.stored twoChannels.buffer [2, 2]
      (.perChannel #[⟨0x3F000000⟩, ⟨0x3F800000⟩] #[0, -3] 1)) _ (by rfl)
  have refused : (twoChannels.perform (.withLayout .nhwc)).1.Obtained :=
    built.changed fun _ impossible => by cases impossible
  have changed : written.Obtained := refused.changed fun _ impossible => by cases impossible
  have obtained : replaced.Obtained := changed.changed fun other same => by
    cases same
    exact built
  obtain ⟨valid, _, _, failing⟩ := obtained.stays_whole
  exact ⟨rfl, by rfl, valid, (failing (.store #[]) _ rfl).1⟩

end Changing

end Tensor

end TensorRuntime
