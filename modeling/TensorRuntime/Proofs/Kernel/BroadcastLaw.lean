import TensorRuntime.Proofs.Kernel.Agreement
import TensorRuntime.Proofs.Kernel.ImageOrder
import TensorRuntime.Proofs.Kernel.TransposeLaw
import TensorRuntime.Proofs.Numeric.Quotient

/-!
The law of broadcasting. At every index of the output an operator combines the elements of its
operands at the stretched indices, whether it computes on singles, on halves or on stored bytes,
and whether or not the extents let it skip the strides.
-/

namespace TensorRuntime

open Attempt

/-- Every element of a tensor is what a step makes of the elements of two operands at the
stretched indices. -/
def CombinesStretched {α : Type} (wrap : α → Entry) (step : α → α → α)
    (first second written : Tensor) : Prop :=
  ∀ index, Shape.Within index written.dims → ∃ left right,
    first.entryAt? (stretchedIndex first.dims index) = some (wrap left) ∧
    second.entryAt? (stretchedIndex second.dims index) = some (wrap right) ∧
    written.entryAt? index = some (wrap (step left right))

theorem Combined.combinesStretched {α : Type} {wrap : α → Entry} {step : α → α → α}
    {first second written : Tensor} {left right values : Array α} {outDims : List Nat}
    (combined : Combined step left first.dims right second.dims values outDims)
    (dims : written.dims = outDims) (firstStores : first.Stores wrap left)
    (secondStores : second.Stores wrap right) (stores : written.Stores wrap values) :
    CombinesStretched wrap step first second written := by
  subst dims
  intro index within
  obtain ⟨value, value', firstFound, secondFound, found⟩ := combined.each index within
  refine ⟨value, value', ?_, ?_, ?_⟩
  · rw [Tensor.entryAt?, firstStores, firstFound]
    rfl
  · rw [Tensor.entryAt?, secondStores, secondFound]
    rfl
  · rw [Tensor.entryAt?, stores, found]
    rfl

theorem CombinesStretched.entry {α : Type} {wrap : α → Entry} {step : α → α → α}
    {first second written : Tensor} (combines : CombinesStretched wrap step first second written)
    (injective : Function.Injective wrap) {index : List Nat}
    (within : Shape.Within index written.dims) {left right : α}
    (firstFound : first.entryAt? (stretchedIndex first.dims index) = some (wrap left))
    (secondFound : second.entryAt? (stretchedIndex second.dims index) = some (wrap right)) :
    written.entryAt? index = some (wrap (step left right)) := by
  obtain ⟨left', right', firstFound', secondFound', found⟩ := combines index within
  rw [found, injective (Option.some.inj (firstFound.symm.trans firstFound')),
    injective (Option.some.inj (secondFound.symm.trans secondFound'))]

theorem Combined.converted {α β : Type} {step : β → β → β} {widen : α → β} {narrow : β → α}
    {first second : Array α} {firstDims secondDims outDims : List Nat} {values : Array β}
    (combined : Combined step (first.map widen) firstDims (second.map widen) secondDims values
      outDims) :
    Combined (fun left right => narrow (step (widen left) (widen right))) first firstDims second
      secondDims (values.map narrow) outDims := by
  refine ⟨by simpa using combined.size, fun index within => ?_⟩
  obtain ⟨_, _, firstFound, secondFound, found⟩ := combined.each index within
  rw [Array.getElem?_map, Option.map_eq_some_iff] at firstFound secondFound
  obtain ⟨left, firstFound, rfl⟩ := firstFound
  obtain ⟨right, secondFound, rfl⟩ := secondFound
  exact ⟨left, right, firstFound, secondFound, by simp [found]⟩

namespace Tensor

variable {tensor : Tensor}

theorem exists_halves (halves : tensor.elementType = .f16) :
    ∃ values, tensor.buffer = .f16 values := by
  unfold elementType at halves
  cases held : tensor.buffer with
  | f16 values => exact ⟨values, rfl⟩
  | f32 | i8 | u8 | i16 | i32 | bool =>
      rw [held] at halves
      cases halves

theorem toSingles_halves [Host] {values : Array Half} (held : tensor.buffer = .f16 values)
    (size : values.size = tensor.count) (room : tensor.HasRoom) :
    tensor.toSingles = .ok (values.map Half.toSingle) := by
  unfold toSingles
  rw [room.allocate, held]
  refine congrArg Except.ok (Array.ext (by simp [size]) fun position bound inside => ?_)
  have below : position < values.size := by simpa using inside
  simp [below]

theorem toSingles_of_noRoom [Host] (room : ¬ tensor.HasRoom) :
    ∃ bytes, tensor.toSingles =
      refuse (.allocationFailure bytes "dequantized buffer") := by
  have full : Buffer.allocate tensor.count 4 "dequantized buffer" = .error _ := if_neg room
  unfold toSingles
  rw [full]
  exact ⟨_, rfl⟩

theorem writeSingles_halves {old : Array Half} {values : Array Single}
    (held : tensor.buffer = .f16 old) (oldSize : old.size = tensor.count)
    (size : values.size = tensor.count) :
    tensor.writeSingles values =
      .ok { tensor with buffer := .f16 (values.map Half.ofSingle) } := by
  have filled : old.mapIdx (fun index half => (values[index]?.map Half.ofSingle).getD half) =
      values.map Half.ofSingle := by
    refine Array.ext (by simp [oldSize, size]) fun position bound inside => ?_
    have below : position < values.size := by simpa using inside
    simp [below]
  unfold writeSingles bufferOfSingles
  rw [held, if_neg (not_not.2 size)]
  dsimp only
  rw [filled]
  rfl

theorem affineFor_of_perChannel (routine : String)
    (perChannel : ∀ affine, tensor.quantization ≠ some (.perTensor affine)) :
    ∃ error, tensor.affineFor routine = .error error := by
  unfold affineFor
  split
  · rename_i affine recorded
    exact absurd recorded (perChannel affine)
  · exact ⟨_, rfl⟩
  · exact ⟨_, rfl⟩

theorem storedSlots_eq {elementType : ElementType} {old : Array Int}
    (own : tensor.elementType = elementType) (held : tensor.buffer.integers? = some old)
    (routine : String) : tensor.storedSlots elementType routine = .ok old.size := by
  simp [storedSlots, own, held]

end Tensor

def combineStored (op : BinaryOp) (activation : FusedActivation) (range : Int × Int)
    (firstAffine secondAffine outAffine : Affine) (first second : Int) : Int :=
  outAffine.quantize range
    (combine op activation (firstAffine.dequantize first) (secondAffine.dequantize second))

section Run

variable {op : BinaryOp} {activation : FusedActivation} {first second output : Tensor}
  {derived : Option Derived} (broadcast : first.shape.broadcast? second.shape = some output.shape)
  (firstValid : first.Valid) (secondValid : second.Valid) (outValid : output.Valid)

include broadcast firstValid secondValid outValid

theorem exists_singlesCombined (singles : first.elementType = .f32)
    (singles' : second.elementType = .f32) (outSingles : output.elementType = .f32)
    {kernel : Kernel} (member : kernel ∈ binaryKernel :: Backend.all.map laneBinaryKernel) :
    ∃ written,
      kernel.run ⟨.binary op activation, [first, second], [output], derived⟩ =
        ⟨[written], .ok ()⟩ ∧
      written.frame = output.frame ∧
      CombinesStretched .single (combine op activation) first second written := by
  obtain ⟨left, firstHeld, firstSize⟩ := firstValid.singles singles
  obtain ⟨right, secondHeld, secondSize⟩ := secondValid.singles singles'
  obtain ⟨old, held, size⟩ := outValid.singles outSingles
  have bodies := fun lanes (wide : 0 < lanes) => @exists_binaryValues lanes output op activation
    wide first second [] left right old firstHeld firstSize secondHeld secondSize held size
    broadcast
  have writes : ∀ values, Combined (combine op activation) left first.dims right second.dims values
      output.dims → (output.withSingles values).frame = output.frame ∧
        CombinesStretched .single (combine op activation) first second
          (output.withSingles values) := fun values combined =>
    ⟨Tensor.frame_of_withSingles held (combined.size.trans size.symm),
      combined.combinesStretched rfl (Tensor.stores_singles firstHeld)
        (Tensor.stores_singles secondHeld) (Tensor.stores_singles rfl)⟩
  rcases List.mem_cons.1 member with rfl | member
  · obtain ⟨values, combined, ran⟩ := bodies 1 (by decide)
    exact ⟨_, Kernel.run_ofBody_ok (ran derived).2, writes values combined⟩
  · obtain ⟨backend, _, rfl⟩ := List.mem_map.1 member
    obtain ⟨values, combined, ran⟩ := bodies backend.lanes backend.lanes_pos
    exact ⟨_, Kernel.run_ofBody_ok (ran derived).1, writes values combined⟩

theorem exists_halvesCombined [Host] (halves : first.elementType = .f16)
    (halves' : second.elementType = .f16) (outHalves : output.elementType = .f16)
    (room : first.HasRoom) (room' : second.HasRoom) :
    ∃ written,
      halfBinaryKernel.run ⟨.binary op activation, [first, second], [output], derived⟩ =
        ⟨[written], .ok ()⟩ ∧
      written.frame = output.frame ∧
      CombinesStretched .half
        (fun left right => .ofSingle (combine op activation left.toSingle right.toSingle))
        first second written := by
  obtain ⟨left, firstHeld⟩ := Tensor.exists_halves halves
  obtain ⟨right, secondHeld⟩ := Tensor.exists_halves halves'
  obtain ⟨old, held⟩ := Tensor.exists_halves outHalves
  have firstSize := firstValid.sized.halves firstHeld
  have secondSize := secondValid.sized.halves secondHeld
  have size := outValid.sized.halves held
  obtain ⟨stretched, stretched'⟩ := broadcasts_of_broadcast? broadcast
  have wideSize : (left.map Half.toSingle).size = volume first.dims :=
    Array.size_map.trans firstSize
  have wideSize' : (right.map Half.toSingle).size = volume second.dims :=
    Array.size_map.trans secondSize
  obtain ⟨values, computed, combined⟩ :=
    exists_combineStretched (combine op activation) stretched stretched' wideSize wideSize'
  have slots : (Array.replicate output.count (0 : Single)).size = volume output.dims :=
    Array.size_replicate
  have combinedInto : combineInto op activation (left.map Half.toSingle) first.dims
      (right.map Half.toSingle) second.dims (Array.replicate output.count 0) output.dims =
      .ok values := by
    refine (combineInto_eq wideSize wideSize' slots stretched stretched').trans ?_
    rw [combineBroadcast_eq, slots]
    exact computed
  refine ⟨{ output with buffer := .f16 (values.map Half.ofSingle) }, Kernel.run_ofBody_ok ?_, ?_,
    combined.converted.combinesStretched rfl (Tensor.stores_halves firstHeld)
      (Tensor.stores_halves secondHeld) (Tensor.stores_halves rfl)⟩
  · unfold halfBinaryBody
    simp only [bind_eq_ok, lift_eq_ok]
    exact ⟨first, rfl, second, rfl, (), if_pos halves, (), if_pos halves', output, rfl, (),
      if_pos outHalves, _, Tensor.toSingles_halves firstHeld firstSize room, _,
      Tensor.toSingles_halves secondHeld secondSize room', values, combinedInto,
      Tensor.writeSingles_halves held size combined.size⟩
  · apply Tensor.frame_of_buffer
    · rw [held]
      rfl
    · rw [held]
      simp only [Buffer.byteCount, Array.size_map]
      rw [size]
      exact congrArg (2 * ·) combined.size

theorem exists_storedCombined {elementType : ElementType} {kernel : Kernel}
    (known : (elementType, kernel) ∈ [(.i8, addBytesKernel), (.u8, addUnsignedBytesKernel)])
    (firstType : first.elementType = elementType) (secondType : second.elementType = elementType)
    (outType : output.elementType = elementType) {firstAffine secondAffine outAffine : Affine}
    (firstRecord : first.quantization = some (.perTensor firstAffine))
    (secondRecord : second.quantization = some (.perTensor secondAffine))
    (outRecord : output.quantization = some (.perTensor outAffine)) :
    ∃ written,
      kernel.run ⟨.binary op activation, [first, second], [output], derived⟩ =
        ⟨[written], .ok ()⟩ ∧
      written.frame = output.frame ∧
      CombinesStretched .stored
        (combineStored op activation (storedRange elementType) firstAffine secondAffine outAffine)
        first second written := by
  obtain ⟨integer, runs⟩ : elementType.isInteger = true ∧
      ∀ call written, storedBinaryBody elementType call = .ok written →
        kernel.run call = ⟨call.outputs.set 0 written, .ok ()⟩ := by
    simp only [List.mem_cons, Prod.mk.injEq, List.not_mem_nil, or_false] at known
    obtain ⟨rfl, rfl⟩ | ⟨rfl, rfl⟩ := known
    · exact ⟨rfl, fun call written done => Kernel.run_ofBody_ok done⟩
    · exact ⟨rfl, fun call written done => Kernel.run_ofBody_ok done⟩
  have held : ∀ tensor : Tensor, tensor.Valid → tensor.elementType = elementType →
      ∃ stored, tensor.buffer.integers? = some stored ∧ stored.size = volume tensor.dims :=
    fun tensor valid own =>
      have ⟨stored, held⟩ := Buffer.exists_integers (own ▸ integer : tensor.elementType.isInteger)
      ⟨stored, held, valid.sized.stored held⟩
  obtain ⟨left, firstHeld, firstSize⟩ := held first firstValid firstType
  obtain ⟨right, secondHeld, secondSize⟩ := held second secondValid secondType
  obtain ⟨old, outHeld, size⟩ := held output outValid outType
  obtain ⟨stretched, stretched'⟩ := broadcasts_of_broadcast? broadcast
  obtain ⟨values, computed, combined⟩ := exists_combineStretched
    (combineStored op activation (storedRange elementType) firstAffine secondAffine outAffine)
    stretched stretched' firstSize secondSize
  obtain ⟨buffer, built, bufferHeld⟩ := Buffer.exists_ofQuantized integer
    fun value member =>
      have ⟨left, right, same⟩ := combined.exists_of_mem member
      ⟨outAffine, _, same⟩
  rw [← outType] at built
  have done := Tensor.withStored_eq built
  refine ⟨{ output with buffer }, runs _ _ ?_, Tensor.frame_of_withStored outHeld
    (combined.size.trans size.symm) done, combined.combinesStretched rfl
      (Tensor.stores_integers firstHeld) (Tensor.stores_integers secondHeld)
      (Tensor.stores_integers bufferHeld)⟩
  obtain ⟨firstStrides, firstBuilt, computed⟩ := bind_eq_ok.1 computed
  obtain ⟨secondStrides, secondBuilt, computed⟩ := bind_eq_ok.1 computed
  unfold storedBinaryBody
  simp only [bind_eq_ok, lift_eq_ok]
  refine ⟨first, rfl, second, rfl, firstAffine, Tensor.affineFor_eq firstRecord _, secondAffine,
    Tensor.affineFor_eq secondRecord _, output, rfl, outAffine, Tensor.affineFor_eq outRecord _,
    left, Tensor.storedFor_eq_ok.2 ⟨firstType, firstHeld⟩, right,
    Tensor.storedFor_eq_ok.2 ⟨secondType, secondHeld⟩, firstStrides, firstBuilt, secondStrides,
    secondBuilt, _, Tensor.storedSlots_eq outType outHeld _, values, ?_, done⟩
  rw [size]
  exact computed

end Run

section Refusals

variable {op : BinaryOp} {activation : FusedActivation} {first second output : Tensor}
  {derived : Option Derived}

theorem exists_halvesRefused [Host] (halves : first.elementType = .f16)
    (halves' : second.elementType = .f16) (outHalves : output.elementType = .f16)
    (valid : first.Valid) (room : ¬ (first.HasRoom ∧ second.HasRoom)) :
    ∃ bytes,
      halfBinaryKernel.run ⟨.binary op activation, [first, second], [output], derived⟩ =
        ⟨[output], .error (.refused (.allocationFailure bytes "dequantized buffer"))⟩ := by
  suffices failed : ∃ bytes,
      halfBinaryBody ⟨.binary op activation, [first, second], [output], derived⟩ =
        refuse (.allocationFailure bytes "dequantized buffer") from
    failed.imp fun _ failed => Kernel.run_ofBody_error failed
  have expected : ∀ tensor : Tensor, tensor.elementType = .f16 →
      tensor.expect .f16 halfBinaryRoutine = .ok () := fun tensor own => if_pos own
  unfold halfBinaryBody
  simp only [Call.input, Call.output, List.getElem?_cons_zero, List.getElem?_cons_succ,
    expected first halves, expected second halves', expected output outHalves, lift_ok_bind]
  by_cases own : first.HasRoom
  · obtain ⟨values, held⟩ := Tensor.exists_halves halves
    obtain ⟨bytes, failed⟩ := Tensor.toSingles_of_noRoom fun other => room ⟨own, other⟩
    refine ⟨bytes, ?_⟩
    rw [Tensor.toSingles_halves held (valid.sized.halves held) own, failed]
    rfl
  · obtain ⟨bytes, failed⟩ := Tensor.toSingles_of_noRoom own
    refine ⟨bytes, ?_⟩
    rw [failed]
    rfl

theorem exists_storedRefused {elementType : ElementType} {kernel : Kernel}
    (known : (elementType, kernel) ∈ [(.i8, addBytesKernel), (.u8, addUnsignedBytesKernel)])
    {tensor : Tensor} (member : tensor ∈ [first, second, output])
    (perChannel : ∀ affine, tensor.quantization ≠ some (.perTensor affine)) :
    ∃ error,
      kernel.run ⟨.binary op activation, [first, second], [output], derived⟩ =
        ⟨[output], .error (.refused error)⟩ := by
  suffices failed : ∃ error,
      storedBinaryBody elementType
        ⟨.binary op activation, [first, second], [output], derived⟩ = refuse error by
    obtain ⟨error, failed⟩ := failed
    refine ⟨error, ?_⟩
    simp only [List.mem_cons, Prod.mk.injEq, List.not_mem_nil, or_false] at known
    obtain ⟨rfl, rfl⟩ | ⟨rfl, rfl⟩ := known
    · exact Kernel.run_ofBody_error failed
    · exact Kernel.run_ofBody_error failed
  unfold storedBinaryBody
  simp only [Call.input, Call.output, List.getElem?_cons_zero, List.getElem?_cons_succ,
    lift_ok_bind]
  cases firstRead : first.affineFor storedBinaryRoutine with
  | error error => exact ⟨error, rfl⟩
  | ok firstAffine =>
  cases secondRead : second.affineFor storedBinaryRoutine with
  | error error => exact ⟨error, rfl⟩
  | ok secondAffine =>
  cases outRead : output.affineFor storedBinaryRoutine with
  | error error => exact ⟨error, rfl⟩
  | ok outAffine =>
      obtain ⟨error, failed⟩ := tensor.affineFor_of_perChannel storedBinaryRoutine perChannel
      simp only [List.mem_cons, List.not_mem_nil, or_false] at member
      obtain rfl | rfl | rfl := member
      · cases failed.symm.trans firstRead
      · cases failed.symm.trans secondRead
      · cases failed.symm.trans outRead

end Refusals

/-- The law of broadcasting, for every operator with every fused activation and for all shapes that
broadcast, empty ones included. Stretched indices are inside; the loop reads nothing else, whatever
is made of two elements; leaving the strides out changes nothing; and every kernel writes exactly
the elements that belong to the stretched indices. Only halves without room to be widened and bytes
without a pair for the whole tensor are refused, and nothing is written then. -/
theorem broadcasts_combine_stretched [Host] {first second output : Tensor} (op : BinaryOp)
    (activation : FusedActivation) (derived : Option Derived)
    (broadcast : first.shape.broadcast? second.shape = some output.shape)
    (firstValid : first.Valid) (secondValid : second.Valid) (outValid : output.Valid) :
    (∀ index, Shape.Within index output.dims →
      Shape.Within (stretchedIndex first.dims index) first.dims ∧
      Shape.Within (stretchedIndex second.dims index) second.dims) ∧
    (∀ (α β γ : Type) (step : α → β → γ) (left : Array α) (right : Array β),
      left.size = first.count → right.size = second.count → ∃ values,
        combineStretched step left first.dims right second.dims output.count output.dims =
          .ok values ∧
        Combined step left first.dims right second.dims values output.dims) ∧
    (∀ left right old : Array Single, left.size = first.count → right.size = second.count →
      old.size = output.count →
        combineInto op activation left first.dims right second.dims old output.dims =
          combineBroadcast op activation left first.dims right second.dims old output.dims) ∧
    (first.elementType = .f32 → second.elementType = .f32 → output.elementType = .f32 →
      ∀ kernel ∈ binaryKernel :: Backend.all.map laneBinaryKernel, ∃ written,
        kernel.run ⟨.binary op activation, [first, second], [output], derived⟩ =
          ⟨[written], .ok ()⟩ ∧
        written.frame = output.frame ∧
        CombinesStretched .single (combine op activation) first second written) ∧
    (first.elementType = .f16 → second.elementType = .f16 → output.elementType = .f16 →
      (first.HasRoom ∧ second.HasRoom → ∃ written,
        halfBinaryKernel.run ⟨.binary op activation, [first, second], [output], derived⟩ =
          ⟨[written], .ok ()⟩ ∧
        written.frame = output.frame ∧
        CombinesStretched .half
          (fun left right => .ofSingle (combine op activation left.toSingle right.toSingle))
          first second written) ∧
      (¬ (first.HasRoom ∧ second.HasRoom) → ∃ bytes,
        halfBinaryKernel.run ⟨.binary op activation, [first, second], [output], derived⟩ =
          ⟨[output], .error (.refused (.allocationFailure bytes "dequantized buffer"))⟩)) ∧
    (∀ elementType kernel,
      (elementType, kernel) ∈ [(.i8, addBytesKernel), (.u8, addUnsignedBytesKernel)] →
      first.elementType = elementType → second.elementType = elementType →
      output.elementType = elementType →
      (∀ firstAffine secondAffine outAffine,
        first.quantization = some (.perTensor firstAffine) →
        second.quantization = some (.perTensor secondAffine) →
        output.quantization = some (.perTensor outAffine) → ∃ written,
          kernel.run ⟨.binary op activation, [first, second], [output], derived⟩ =
            ⟨[written], .ok ()⟩ ∧
          written.frame = output.frame ∧
          CombinesStretched .stored (combineStored op activation (storedRange elementType)
            firstAffine secondAffine outAffine) first second written) ∧
      ((∃ tensor ∈ [first, second, output],
          ∀ affine, tensor.quantization ≠ some (.perTensor affine)) → ∃ error,
        kernel.run ⟨.binary op activation, [first, second], [output], derived⟩ =
          ⟨[output], .error (.refused error)⟩)) := by
  obtain ⟨stretched, stretched'⟩ := broadcasts_of_broadcast? broadcast
  refine ⟨fun index within => ⟨stretched.within within, stretched'.within within⟩,
    fun α β γ step left right firstSize secondSize =>
      exists_combineStretched step stretched stretched' firstSize secondSize,
    fun left right old firstSize secondSize size =>
      combineInto_eq firstSize secondSize size stretched stretched', ?_, ?_, ?_⟩
  · intro singles singles' outSingles kernel member
    exact exists_singlesCombined broadcast firstValid secondValid outValid singles singles'
      outSingles member
  · intro halves halves' outHalves
    exact ⟨fun room => exists_halvesCombined broadcast firstValid secondValid outValid halves
        halves' outHalves room.1 room.2,
      exists_halvesRefused halves halves' outHalves firstValid⟩
  · intro elementType kernel known firstType secondType outType
    refine ⟨fun firstAffine secondAffine outAffine firstRecord secondRecord outRecord =>
      exists_storedCombined broadcast firstValid secondValid outValid known firstType secondType
        outType firstRecord secondRecord outRecord, ?_⟩
    rintro ⟨tensor, member, perChannel⟩
    exact exists_storedRefused known member perChannel

def addendColumn (record : Option Quantization) (buffer : Buffer) : Tensor :=
  ⟨"", ⟨[2, 1]⟩, .any, record, .external, buffer⟩

def addendRow (record : Option Quantization) (buffer : Buffer) : Tensor :=
  ⟨"", ⟨[3]⟩, .any, record, .external, buffer⟩

def sumTable (record : Option Quantization) (buffer : Buffer) : Tensor :=
  ⟨"", ⟨[2, 3]⟩, .any, record, .external, buffer⟩

def unitRecord : Option Quantization := some (.perTensor ⟨1, 0⟩)

theorem addends_combine_stretched :
    (∃ written, (laneBinaryKernel .avx2).run ⟨.binary .add .none,
        [addendColumn none (.f32 #[1, 2]), addendRow none (.f32 #[3, 4, 6])],
        [sumTable none (.f32 #[0, 0, 0, 0, 0, 0])], none⟩ = ⟨[written], .ok ()⟩ ∧
      written.entryAt? [1, 2] = some (.single 8)) ∧
    (∃ written, halfBinaryKernel.run ⟨.binary .add .none,
        [addendColumn none (.f16 #[⟨0x3C00⟩, ⟨0x4000⟩]),
          addendRow none (.f16 #[⟨0x4200⟩, ⟨0x4400⟩, ⟨0x4600⟩])],
        [sumTable none (.f16 #[⟨0⟩, ⟨0⟩, ⟨0⟩, ⟨0⟩, ⟨0⟩, ⟨0⟩])], none⟩ = ⟨[written], .ok ()⟩ ∧
      written.entryAt? [1, 2] = some (.half ⟨0x4800⟩)) ∧
    ∃ written, addBytesKernel.run ⟨.binary .add .none,
        [addendColumn unitRecord (.i8 #[1, 2]), addendRow unitRecord (.i8 #[3, 4, 6])],
        [sumTable unitRecord (.i8 #[0, 0, 0, 0, 0, 0])], none⟩ = ⟨[written], .ok ()⟩ ∧
      written.entryAt? [1, 2] = some (.stored 8) := by
  have inside : Shape.Within [1, 2] [2, 3] := by decide
  refine ⟨?_, ?_, ?_⟩
  · obtain ⟨_, _, _, singles, _⟩ := @broadcasts_combine_stretched _
      (addendColumn none (.f32 #[1, 2])) (addendRow none (.f32 #[3, 4, 6]))
      (sumTable none (.f32 #[0, 0, 0, 0, 0, 0])) .add .none none rfl rfl rfl rfl
    obtain ⟨written, ran, frame, combined⟩ := singles rfl rfl rfl (laneBinaryKernel .avx2)
      (by simp [Backend.all])
    have sum : combine .add .none 2 6 = 8 := by
      decide +kernel
    exact ⟨written, ran, sum ▸ combined.entry (fun _ _ => Entry.single.inj)
      (Tensor.dims_of_frame frame ▸ inside) rfl rfl⟩
  · obtain ⟨_, _, _, _, halves, _⟩ := @broadcasts_combine_stretched _
      (addendColumn none (.f16 #[⟨0x3C00⟩, ⟨0x4000⟩]))
      (addendRow none (.f16 #[⟨0x4200⟩, ⟨0x4400⟩, ⟨0x4600⟩]))
      (sumTable none (.f16 #[⟨0⟩, ⟨0⟩, ⟨0⟩, ⟨0⟩, ⟨0⟩, ⟨0⟩])) .add .none none rfl rfl rfl rfl
    obtain ⟨written, ran, frame, combined⟩ := (halves rfl rfl rfl).1
      ⟨show 2 * 4 ≤ Host.allocationLimit by decide, show 3 * 4 ≤ Host.allocationLimit by decide⟩
    have sum : Half.ofSingle
        (combine .add .none (Half.toSingle ⟨0x4000⟩) (Half.toSingle ⟨0x4600⟩)) = ⟨0x4800⟩ := by
      decide +kernel
    exact ⟨written, ran, sum ▸ combined.entry (fun _ _ => Entry.half.inj)
      (Tensor.dims_of_frame frame ▸ inside) rfl rfl⟩
  · obtain ⟨_, _, _, _, _, stored⟩ := @broadcasts_combine_stretched _
      (addendColumn unitRecord (.i8 #[1, 2])) (addendRow unitRecord (.i8 #[3, 4, 6]))
      (sumTable unitRecord (.i8 #[0, 0, 0, 0, 0, 0])) .add .none none rfl rfl rfl rfl
    obtain ⟨written, ran, frame, combined⟩ :=
      (stored .i8 addBytesKernel (by simp) rfl rfl rfl).1 _ _ _ rfl rfl rfl
    have sum : combineStored .add .none (-128, 127) ⟨1, 0⟩ ⟨1, 0⟩ ⟨1, 0⟩ 2 6 = 8 := by
      decide +kernel
    exact ⟨written, ran, sum ▸ combined.entry (fun _ _ => Entry.stored.inj)
      (Tensor.dims_of_frame frame ▸ inside) rfl rfl⟩

end TensorRuntime
