import TensorRuntime.Proofs.InPlace.Storing
import TensorRuntime.Proofs.Kernel.ImageOrder

/-!
Conversions by a record. Whatever is made of an element and its pair, the conversion succeeds
exactly where both lengths and the record are right; the pair of an element is that of its
coordinate along the axis of the record, and what is refused leaves the buffer as it was.
-/

namespace TensorRuntime

open Attempt InPlace

namespace Quantization

/-- The pair for the element at an index: one for all elements, or that of its coordinate along the
axis of the record. -/
def pairAt? : Quantization → List Nat → Option Affine
  | perTensor affine, _ => some affine
  | perChannel scales zeroPoints axis, index => do
      let channel ← index[axis]?
      return ⟨← scales[channel]?, ← zeroPoints[channel]?⟩

/-- Lengths that are the number of elements, and a record that is right for them. -/
structure Accepts (record : Quantization) (elementType : ElementType) (dims : List Nat)
    (inputLength outputLength : Nat) : Prop where
  inputLength : inputLength = volume dims
  outputLength : outputLength = volume dims
  checked : record.validate elementType dims = .ok ()

section Elements

variable {α β : Type}

/-- The conversion of every element under the pair of its channel, after all checks. -/
def convert (record : Quantization) (elementType : ElementType) (dims : List Nat)
    (conversion : Affine → α → β) (values : Array α) (outputLength : Nat) :
    Attempt (Array β) := do
  checkLengths values.size outputLength dims
  record.validate elementType dims
  values.mapIdxM fun index value => do
    return conversion (← record.affineOf (record.channelOf dims index)) value

/-- Every element is what the pair at its coordinates makes of the element it comes from. -/
structure Converts (record : Quantization) (dims : List Nat) (conversion : Affine → α → β)
    (values : Array α) (converted : Array β) : Prop where
  size : converted.size = volume dims
  each : ∀ position < volume dims, ∃ affine value,
    record.pairAt? (Shape.coordinates dims position) = some affine ∧
    values[position]? = some value ∧ converted[position]? = some (conversion affine value)

variable {record : Quantization} {elementType : ElementType} {dims : List Nat}
  {conversion : Affine → α → β} {values : Array α} {outputLength : Nat}

theorem quantize_eq_convert (values : Array Single) :
    record.quantize elementType dims values outputLength =
      record.convert elementType dims (fun affine => affine.quantize (storedRange elementType))
        values outputLength := rfl

theorem dequantize_eq_convert (stored : Array Int) :
    record.dequantize elementType dims stored outputLength =
      record.convert elementType dims Affine.dequantize stored outputLength := rfl

theorem exists_pairAt (checked : record.validate elementType dims = .ok ()) (positive : 0 ∉ dims)
    (position : Nat) : ∃ affine, record.affineOf (record.channelOf dims position) = .ok affine ∧
      record.pairAt? (Shape.coordinates dims position) = some affine := by
  obtain ⟨affine, found⟩ := affineOf_channelOf checked positive position
  refine ⟨affine, found, ?_⟩
  cases record with
  | perTensor own =>
      cases found
      rfl
  | perChannel scales zeroPoints axis =>
      obtain ⟨extent, along, _⟩ := sizes_of_validate checked
      obtain ⟨inside, _⟩ := List.getElem?_eq_some_iff.1 along
      have channel := @channelOf_eq (perChannel scales zeroPoints axis) axis rfl dims positive
        inside position
      simp only [affineOf, bind_eq_ok, readAt_eq_ok, pure_eq_ok] at found
      obtain ⟨scale, scaleFound, zeroPoint, zeroFound, rfl⟩ := found
      simp [pairAt?, channel, scaleFound, zeroFound]

theorem exists_convert (accepts : record.Accepts elementType dims values.size outputLength)
    (conversion : Affine → α → β) :
    ∃ converted, record.convert elementType dims conversion values outputLength = .ok converted ∧
      record.Converts dims conversion values converted := by
  have lengths : checkLengths values.size outputLength dims = .ok () := by
    unfold checkLengths
    rw [accepts.inputLength, accepts.outputLength, if_neg (by simp)]
  have each : ∀ position < values.size, ∃ result,
      (do
        let value ← readAt values position
        return conversion (← record.affineOf (record.channelOf dims position)) value) =
        .ok result ∧
      ∃ affine value, record.pairAt? (Shape.coordinates dims position) = some affine ∧
        values[position]? = some value ∧ result = conversion affine value := by
    intro position bound
    have positive : 0 ∉ dims := by
      rw [accepts.inputLength] at bound
      exact Shape.volume_pos.1 (Nat.zero_lt_of_lt bound)
    obtain ⟨affine, found, paired⟩ := exists_pairAt accepts.checked positive position
    refine ⟨_, ?_, affine, _, paired, Array.getElem?_eq_getElem bound, rfl⟩
    rw [readAt_of_lt bound, found]
    rfl
  obtain ⟨converted, computed, size, elements⟩ := exists_tabulate_with each
  refine ⟨converted, ?_, size.trans accepts.inputLength, fun position bound => ?_⟩
  · unfold convert
    rw [lengths, accepts.checked, mapIdxM_eq_tabulate]
    exact computed
  · obtain ⟨_, present, affine, value, paired, found, rfl⟩ :=
      elements position (accepts.inputLength ▸ bound)
    exact ⟨affine, value, paired, found, present⟩

theorem Converts.exists_of_mem {converted : Array β}
    (converts : record.Converts dims conversion values converted) {value : β}
    (member : value ∈ converted) : ∃ affine origin, value = conversion affine origin := by
  obtain ⟨position, inside, rfl⟩ := Array.getElem_of_mem member
  obtain ⟨affine, origin, _, _, found⟩ := converts.each position (converts.size ▸ inside)
  rw [Array.getElem?_eq_getElem inside] at found
  exact ⟨affine, origin, Option.some.inj found⟩

theorem accepts_of_convert {converted : Array β}
    (computed : record.convert elementType dims conversion values outputLength = .ok converted) :
    record.Accepts elementType dims values.size outputLength := by
  simp only [convert, bind_eq_ok, lift_eq_ok] at computed
  obtain ⟨_, lengths, _, checked, _⟩ := computed
  have sizes := lengths_of_check lengths
  exact ⟨sizes.1, sizes.2, checked⟩

theorem converts_of_convert {converted : Array β}
    (computed : record.convert elementType dims conversion values outputLength = .ok converted) :
    record.Converts dims conversion values converted := by
  obtain ⟨own, same, converts⟩ := exists_convert (accepts_of_convert computed) conversion
  cases computed.symm.trans same
  exact converts

theorem convert_refused (refused : ¬ record.Accepts elementType dims values.size outputLength)
    (conversion : Affine → α → β) :
    ∃ error, record.convert elementType dims conversion values outputLength = refuse error := by
  unfold convert
  cases lengths : checkLengths values.size outputLength dims with
  | error error => exact ⟨error, rfl⟩
  | ok _ =>
      cases checked : record.validate elementType dims with
      | error error => exact ⟨error, rfl⟩
      | ok _ =>
          have sizes := lengths_of_check lengths
          exact absurd ⟨sizes.1, sizes.2, checked⟩ refused

/-- A record for channels that all have one pair, which is itself right where there is none. -/
structure Repeats (affine : Affine) (scales : Array Single) (zeroPoints : Array Int) (axis : Nat)
    (elementType : ElementType) (dims : List Nat) : Prop where
  along : dims[axis]? = some scales.size
  sameSize : zeroPoints.size = scales.size
  scaleOf : ∀ scale ∈ scales, scale = affine.scale
  zeroPointOf : ∀ zeroPoint ∈ zeroPoints, zeroPoint = affine.zeroPoint
  usable : 0 < scales.size ∨ (perTensor affine).validate elementType dims = .ok ()

variable {affine : Affine} {scales : Array Single} {zeroPoints : Array Int} {axis : Nat}

theorem Repeats.validate_eq (repeats : Repeats affine scales zeroPoints axis elementType dims) :
    (perChannel scales zeroPoints axis).validate elementType dims =
      (perTensor affine).validate elementType dims := by
  have usable := repeats.usable
  unfold validate at usable ⊢
  cases ranged : elementType.intRange? with
  | none => rfl
  | some range =>
      rw [ranged] at usable
      dsimp only at usable ⊢
      rw [repeats.along]
      dsimp only
      rw [if_neg (by simp [repeats.sameSize])]
      refine forM_alike (fun pair member => ?_) (usable.imp_left fun filled none => ?_)
      · obtain ⟨scaleListed, zeroListed⟩ := List.of_mem_zip member
        rw [repeats.scaleOf pair.1 (Array.mem_toList_iff.1 scaleListed),
          repeats.zeroPointOf pair.2 (Array.mem_toList_iff.1 zeroListed)]
      · have empty := congrArg List.length none
        rw [List.length_zip, Array.length_toList, Array.length_toList, repeats.sameSize,
          Nat.min_self] at empty
        exact Nat.ne_of_gt filled empty

theorem Repeats.affineOf_eq (repeats : Repeats affine scales zeroPoints axis elementType dims)
    {channel : Nat} (bound : channel < scales.size) :
    (perChannel scales zeroPoints axis).affineOf channel = .ok affine := by
  have zeroBound : channel < zeroPoints.size := repeats.sameSize ▸ bound
  simp only [affineOf, readAt_of_lt bound, readAt_of_lt zeroBound]
  change Except.ok (Affine.mk scales[channel] zeroPoints[channel]) = _
  rw [repeats.scaleOf _ (Array.getElem_mem bound),
    repeats.zeroPointOf _ (Array.getElem_mem zeroBound)]

theorem Repeats.convert_eq (repeats : Repeats affine scales zeroPoints axis elementType dims)
    (conversion : Affine → α → β) (values : Array α) (outputLength : Nat) :
    (perChannel scales zeroPoints axis).convert elementType dims conversion values outputLength =
      (perTensor affine).convert elementType dims conversion values outputLength := by
  unfold convert
  rw [repeats.validate_eq]
  refine bind_congr_ok fun _ lengths => ?_
  refine bind_congr fun _ => ?_
  rw [mapIdxM_eq_tabulate, mapIdxM_eq_tabulate]
  refine tabulate_congr fun position bound => ?_
  have sizes := lengths_of_check (lift_eq_ok.1 lengths)
  have positive : 0 ∉ dims := Shape.volume_pos.1 (by omega)
  have channel := @channelOf_lt (perChannel scales zeroPoints axis) axis _ dims rfl positive
    repeats.along position
  rw [repeats.affineOf_eq channel]
  rfl

end Elements

section Buffers

variable {record : Quantization} {elementType : ElementType} {dims : List Nat}
  {values singles : Array Single} {stored old : Array Int} {before : Buffer}

def holder (dims : List Nat) (buffer : Buffer) : Tensor :=
  ⟨"", ⟨dims⟩, .any, none, .external, buffer⟩

theorem exists_quantizedInto (typed : before.elementType = elementType)
    (held : before.integers? = some old)
    (accepts : record.Accepts elementType dims values.size old.size) :
    ∃ after stored, (record.quantizeInto elementType dims values old.size).runOn before =
        (.ok (), after) ∧
      after.elementType = elementType ∧ after.integers? = some stored ∧
      record.Converts dims (fun affine => affine.quantize (storedRange elementType)) values
        stored := by
  subst typed
  obtain ⟨stored, computed, converts⟩ := exists_convert accepts
    fun affine => affine.quantize (storedRange before.elementType)
  obtain ⟨after, built, afterHeld⟩ :=
    Buffer.exists_ofQuantized (Buffer.isInteger_of_integers? held) fun _ member =>
      converts.exists_of_mem member
  have performs := @performs_quantizeInto (holder dims before) old held record values
  have done := performs.done { holder dims before with buffer := after }
    (bind_eq_ok.2 ⟨stored, computed, Tensor.withStored_eq built⟩)
  exact ⟨after, stored, done.1, (Buffer.of_ofIntegers? built).1, afterHeld, converts⟩

theorem quantizeInto_refused (typed : before.elementType = elementType)
    (held : before.integers? = some old)
    (refused : ¬ record.Accepts elementType dims values.size old.size) :
    ∃ error, (record.quantizeInto elementType dims values old.size).runOn before =
      (.error (.refused error), before) := by
  subst typed
  obtain ⟨error, failed⟩ := convert_refused refused
    fun affine => affine.quantize (storedRange before.elementType)
  have performs := @performs_quantizeInto (holder dims before) old held record values
  exact ⟨error, performs.refused error
    (congrArg (fun quantized => quantized >>= (holder dims before).withStored) failed)⟩

theorem exists_dequantizedInto
    (accepts : record.Accepts elementType dims stored.size singles.size) :
    ∃ after, (record.dequantizeInto elementType dims stored singles.size).runOn (.f32 singles) =
        (.ok (), .f32 after) ∧
      record.Converts dims Affine.dequantize stored after := by
  obtain ⟨after, computed, converts⟩ := exists_convert accepts Affine.dequantize
  have performs := @performs_dequantizeInto (holder dims (.f32 singles)) singles rfl record
    elementType dims stored
  exact ⟨after, (performs.done _ (map_eq_ok.2 ⟨after, computed, rfl⟩)).1, converts⟩

theorem dequantizeInto_refused
    (refused : ¬ record.Accepts elementType dims stored.size singles.size) :
    ∃ error, (record.dequantizeInto elementType dims stored singles.size).runOn (.f32 singles) =
      (.error (.refused error), .f32 singles) := by
  obtain ⟨error, failed⟩ := convert_refused refused Affine.dequantize
  have performs := @performs_dequantizeInto (holder dims (.f32 singles)) singles rfl record
    elementType dims stored
  refine ⟨error, performs.refused error ?_⟩
  rw [dequantize_eq_convert, failed]
  rfl

variable {affine : Affine} {scales : Array Single} {zeroPoints : Array Int} {axis : Nat}

theorem Repeats.quantizeInto_eq (repeats : Repeats affine scales zeroPoints axis elementType dims)
    (typed : before.elementType = elementType) (held : before.integers? = some old)
    (values : Array Single) :
    ((perChannel scales zeroPoints axis).quantizeInto elementType dims values old.size).runOn
        before =
      ((perTensor affine).quantizeInto elementType dims values old.size).runOn before := by
  subst typed
  have same : (perChannel scales zeroPoints axis).quantize before.elementType dims values
      old.size = (perTensor affine).quantize before.elementType dims values old.size :=
    repeats.convert_eq _ values old.size
  have byChannel := @performs_quantizeInto (holder dims before) old held
    (perChannel scales zeroPoints axis) values
  have whole := @performs_quantizeInto (holder dims before) old held (perTensor affine) values
  have safe := (safe_quantize (perTensor affine) before.elementType dims values old.size).bind
    fun quantized _ => @Tensor.safe_withStored (holder dims before)
      (Buffer.isInteger_of_integers? held) quantized
  refine Performs.runOn_eq ?_ whole safe
  exact cast (congrArg _ (congrArg (· >>= (holder dims before).withStored) same)) byChannel

theorem Repeats.dequantizeInto_eq
    (repeats : Repeats affine scales zeroPoints axis elementType dims)
    (stored : Array Int) (singles : Array Single) :
    ((perChannel scales zeroPoints axis).dequantizeInto elementType dims stored
        singles.size).runOn (.f32 singles) =
      ((perTensor affine).dequantizeInto elementType dims stored singles.size).runOn
        (.f32 singles) := by
  have same : (perChannel scales zeroPoints axis).dequantize elementType dims stored
      singles.size = (perTensor affine).dequantize elementType dims stored singles.size :=
    repeats.convert_eq _ stored singles.size
  have byChannel := @performs_dequantizeInto (holder dims (.f32 singles)) singles rfl
    (perChannel scales zeroPoints axis) elementType dims stored
  have whole := @performs_dequantizeInto (holder dims (.f32 singles)) singles rfl
    (perTensor affine) elementType dims stored
  rw [same] at byChannel
  exact byChannel.runOn_eq whole ((safe_dequantize (perTensor affine) elementType dims stored
    singles.size).map _)

/-- Two records convert alike, whatever is made of an element and its pair, and in place too. -/
structure ConvertAlike (record record' : Quantization) (elementType : ElementType)
    (dims : List Nat) : Prop where
  converts : ∀ {α β : Type} (conversion : Affine → α → β) (values : Array α)
    (outputLength : Nat), record.convert elementType dims conversion values outputLength =
      record'.convert elementType dims conversion values outputLength
  quantizes : ∀ (values : Array Single) (before : Buffer) (old : Array Int),
    before.elementType = elementType → before.integers? = some old →
    (record.quantizeInto elementType dims values old.size).runOn before =
      (record'.quantizeInto elementType dims values old.size).runOn before
  dequantizes : ∀ (stored : Array Int) (singles : Array Single),
    (record.dequantizeInto elementType dims stored singles.size).runOn (.f32 singles) =
      (record'.dequantizeInto elementType dims stored singles.size).runOn (.f32 singles)

theorem Repeats.convertAlike (repeats : Repeats affine scales zeroPoints axis elementType dims) :
    ConvertAlike (perChannel scales zeroPoints axis) (perTensor affine) elementType dims where
  converts := repeats.convert_eq
  quantizes values _ _ typed held := repeats.quantizeInto_eq typed held values
  dequantizes := repeats.dequantizeInto_eq

/-- How a conversion in place ends: well exactly where it is accepted, leaving what it is to leave,
and refused with nothing written otherwise. -/
structure Ends (accepted : Prop) (run : Attempt Unit × Buffer) (before : Buffer)
    (leaves : Buffer → Prop) : Prop where
  done : run.1 = .ok () ↔ accepted
  left : run.1 = .ok () → leaves run.2
  refused : ∀ fault, run.1 = .error fault → (∃ error, fault = .refused error) ∧ run.2 = before

theorem ends_of_cases {accepted : Prop} {run : Attempt Unit × Buffer} {leaves : Buffer → Prop}
    (done : accepted → ∃ after, run = (.ok (), after) ∧ leaves after)
    (refused : ¬ accepted → ∃ error, run = (.error (.refused error), before)) :
    Ends accepted run before leaves := by
  by_cases holds : accepted
  · obtain ⟨after, rfl, left⟩ := done holds
    exact ⟨⟨fun _ => holds, fun _ => rfl⟩, fun _ => left, fun fault failed => by cases failed⟩
  · obtain ⟨error, rfl⟩ := refused holds
    refine ⟨⟨fun impossible => (by cases impossible), fun accepted => absurd accepted holds⟩,
      fun impossible => (by cases impossible), fun fault failed => ?_⟩
    cases failed
    exact ⟨⟨error, rfl⟩, rfl⟩

end Buffers

end Quantization

open Quantization

/-- A conversion by a record succeeds exactly where both lengths are the number of elements and the
record is right for them, and then converts every element with the pair of its coordinate along the
axis; otherwise nothing is written. One pair repeated for all channels converts as that pair. -/
theorem records_convert_by_channel (record : Quantization) (elementType : ElementType)
    (dims : List Nat) :
    (∀ (values : Array Single) (stored : Array Int) (outputLength : Nat),
      record.quantize elementType dims values outputLength =
        record.convert elementType dims (fun affine => affine.quantize (storedRange elementType))
          values outputLength ∧
      record.dequantize elementType dims stored outputLength =
        record.convert elementType dims Affine.dequantize stored outputLength) ∧
    (∀ {α β : Type} (conversion : Affine → α → β) (values : Array α) (outputLength : Nat),
      ((∃ converted, record.convert elementType dims conversion values outputLength =
          .ok converted) ↔ record.Accepts elementType dims values.size outputLength) ∧
      ∀ converted, record.convert elementType dims conversion values outputLength =
        .ok converted → record.Converts dims conversion values converted) ∧
    (∀ (values : Array Single) (before : Buffer) (old : Array Int),
      before.elementType = elementType → before.integers? = some old →
      Ends (record.Accepts elementType dims values.size old.size)
        ((record.quantizeInto elementType dims values old.size).runOn before) before
        fun after => after.elementType = elementType ∧ ∃ stored, after.integers? = some stored ∧
          record.Converts dims (fun affine => affine.quantize (storedRange elementType)) values
            stored) ∧
    (∀ (stored : Array Int) (singles : Array Single),
      Ends (record.Accepts elementType dims stored.size singles.size)
        ((record.dequantizeInto elementType dims stored singles.size).runOn (.f32 singles))
        (.f32 singles)
        fun after => ∃ values, after = .f32 values ∧
          record.Converts dims Affine.dequantize stored values) ∧
    ∀ affine scales zeroPoints axis, Repeats affine scales zeroPoints axis elementType dims →
      record = perChannel scales zeroPoints axis →
      ConvertAlike record (perTensor affine) elementType dims := by
  refine ⟨fun values stored outputLength =>
    ⟨quantize_eq_convert values, dequantize_eq_convert stored⟩,
    fun conversion values outputLength => ⟨⟨?accepted, fun accepts => ?converted⟩, ?_⟩,
    fun values before old typed held => ?quantized, fun stored singles => ?dequantized, ?repeated⟩
  case accepted =>
    rintro ⟨converted, computed⟩
    exact accepts_of_convert computed
  case converted =>
    obtain ⟨converted, computed, _⟩ := exists_convert accepts conversion
    exact ⟨converted, computed⟩
  · exact fun converted => converts_of_convert
  case quantized =>
    refine ends_of_cases (fun accepts => ?_) (quantizeInto_refused typed held)
    obtain ⟨after, stored, done, kept, afterHeld, converts⟩ :=
      exists_quantizedInto typed held accepts
    exact ⟨after, done, kept, stored, afterHeld, converts⟩
  case dequantized =>
    refine ends_of_cases (fun accepts => ?_) dequantizeInto_refused
    obtain ⟨after, done, converts⟩ := exists_dequantizedInto accepts
    exact ⟨.f32 after, done, after, rfl, converts⟩
  case repeated =>
    rintro affine scales zeroPoints axis repeats rfl
    exact repeats.convertAlike

theorem columns_convert_by_channel :
    (∃ stored, (((perChannel #[⟨0x3F800000⟩, ⟨0x41200000⟩] #[0, 0] 1).quantizeInto .i8 [2, 2]
        #[⟨0x3F800000⟩, ⟨0x41200000⟩, ⟨0x40000000⟩, ⟨0x41A00000⟩] 4).runOn
          (.i8 #[0, 0, 0, 0])).2.integers? = some stored ∧
      (perChannel #[⟨0x3F800000⟩, ⟨0x41200000⟩] #[0, 0] 1).Converts [2, 2]
        (fun affine => affine.quantize (storedRange .i8))
        #[⟨0x3F800000⟩, ⟨0x41200000⟩, ⟨0x40000000⟩, ⟨0x41A00000⟩] stored) ∧
    ((perChannel #[⟨0x3F000000⟩, ⟨0x3F000000⟩] #[2, 2] 1).dequantizeInto .i8 [2, 2]
        #[4, 6, 8, 10] 4).runOn (.f32 (Array.replicate 4 ⟨0⟩)) =
      ((perTensor ⟨⟨0x3F000000⟩, 2⟩).dequantizeInto .i8 [2, 2] #[4, 6, 8, 10] 4).runOn
        (.f32 (Array.replicate 4 ⟨0⟩)) := by
  constructor
  · have accepts : (perChannel #[⟨0x3F800000⟩, ⟨0x41200000⟩] #[0, 0] 1).Accepts .i8 [2, 2] 4 4 :=
      ⟨rfl, rfl, rfl⟩
    have ends := (records_convert_by_channel (perChannel #[⟨0x3F800000⟩, ⟨0x41200000⟩] #[0, 0] 1)
      .i8 [2, 2]).2.2.1 #[⟨0x3F800000⟩, ⟨0x41200000⟩, ⟨0x40000000⟩, ⟨0x41A00000⟩]
      (.i8 #[0, 0, 0, 0]) #[0, 0, 0, 0] rfl (by simp [Buffer.integers?])
    exact (ends.left (ends.done.2 accepts)).2
  · have repeats : Repeats ⟨⟨0x3F000000⟩, 2⟩ #[⟨0x3F000000⟩, ⟨0x3F000000⟩] #[2, 2] 1 .i8 [2, 2] :=
      ⟨rfl, rfl, by simp, by simp, .inl (by decide)⟩
    exact ((records_convert_by_channel (perChannel #[⟨0x3F000000⟩, ⟨0x3F000000⟩] #[2, 2] 1) .i8
      [2, 2]).2.2.2.2 _ _ _ _ repeats rfl).dequantizes #[4, 6, 8, 10] (Array.replicate 4 ⟨0⟩)

end TensorRuntime
