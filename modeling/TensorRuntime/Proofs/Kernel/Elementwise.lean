import TensorRuntime.Proofs.Kernel.Calls
import TensorRuntime.Proofs.Kernel.Rows
import TensorRuntime.Proofs.Positions
import TensorRuntime.Proofs.Refusals

/-!
Operators that work element by element. Blocks of lanes and plain loops agree where
all runs have one length, and operands that broadcast are read at stretched indices.
-/

namespace TensorRuntime

open Attempt

section Aligned

variable {lanes : Nat} {op : BinaryOp} {activation : FusedActivation}
  {first second values old : Array Single}

theorem combineAligned_eq (firstSize : first.size = old.size)
    (secondSize : second.size = old.size) :
    combineAligned op activation first second old =
      arrayOf old.size fun index =>
        combine op activation (elementAt first index) (elementAt second index) := by
  unfold combineAligned
  apply Array.ext
  · simp [size_of_arrayOf]
  · intro index bound inside
    have within : index < old.size := by simpa using bound
    have firstBound : index < first.size := by omega
    have secondBound : index < second.size := by omega
    simp [arrayOf, elementAt, firstBound, secondBound]

theorem combineLanes_eq (wide : 0 < lanes) (firstSize : first.size = old.size)
    (secondSize : second.size = old.size) :
    combineLanes lanes op activation first second old =
      .ok (combineAligned op activation first second old) := by
  rw [combineAligned_eq firstSize secondSize]
  apply tabulate_of_ok
  intro index bound
  have aligned : ∀ size ∈ [first.size, second.size], size = old.size := by
    simp [firstSize, secondSize]
  rw [blockPartners?_aligned wide bound aligned]
  change (readAt first index >>= fun left => readAt second index >>= fun right =>
    pure (combine op activation left right)) = _
  rw [readAt_elementAt (firstSize ▸ bound), readAt_elementAt (secondSize ▸ bound)]
  rfl

theorem mapInto_eq {function : Single → Single} (size : values.size = old.size) :
    mapInto function values old =
      arrayOf old.size fun index => function (elementAt values index) := by
  unfold mapInto
  apply Array.ext
  · simp [size_of_arrayOf]
  · intro index bound inside
    have within : index < values.size := by
      rw [size]
      simpa using bound
    simp [arrayOf, elementAt, within]

theorem mapLanes_eq (wide : 0 < lanes) {function : Single → Single}
    (size : values.size = old.size) :
    (tabulate old.size fun index =>
      match blockPartners? lanes old.size [values.size] index with
      | some [place] => function <$> readAt values place
      | _ => readAt old index) = .ok (mapInto function values old) := by
  rw [mapInto_eq size]
  apply tabulate_of_ok
  intro index bound
  rw [blockPartners?_aligned wide bound (by simp [size])]
  change function <$> readAt values index = _
  rw [readAt_elementAt (size ▸ bound)]
  rfl

end Aligned

section Broadcast

inductive Stretches : List Nat → List Nat → Prop where
  | nil : Stretches [] []
  | cons {extent outExtent : Nat} {inner outInner : List Nat}
      (side : extent = outExtent ∨ extent = 1) (rest : Stretches inner outInner) :
      Stretches (extent :: inner) (outExtent :: outInner)

theorem Stretches.refl (dims : List Nat) : Stretches dims dims := by
  induction dims with
  | nil => exact .nil
  | cons extent inner ih => exact .cons (.inl rfl) ih

theorem Stretches.append {outer outOuter inner outInner : List Nat}
    (first : Stretches outer outOuter) (second : Stretches inner outInner) :
    Stretches (outer ++ inner) (outOuter ++ outInner) := by
  induction first with
  | nil => exact second
  | cons side _ ih => exact .cons side ih

theorem Stretches.reverse {dims outDims : List Nat} (fits : Stretches dims outDims) :
    Stretches dims.reverse outDims.reverse := by
  induction fits with
  | nil => exact .nil
  | cons side _ ih =>
      rw [List.reverse_cons, List.reverse_cons]
      exact ih.append (.cons side .nil)

theorem stretches_of_broadcastInner? {first second outDims : List Nat}
    (found : Shape.broadcastInner? first second = some outDims) :
    (first.length ≤ outDims.length ∧ Stretches first (outDims.take first.length)) ∧
      second.length ≤ outDims.length ∧ Stretches second (outDims.take second.length) := by
  induction first generalizing second outDims with
  | nil =>
      have same : second = outDims := by simpa [Shape.broadcastInner?] using found
      subst same
      simp [Stretches.refl]
  | cons extent outer ih =>
      cases second with
      | nil =>
          have same : extent :: outer = outDims := by simpa [Shape.broadcastInner?] using found
          subst same
          simp [Stretches.refl]
      | cons extent' outer' =>
          rw [Shape.broadcastInner?] at found
          simp only [Option.bind_eq_bind, Option.bind_eq_some_iff] at found
          obtain ⟨common, extents, rest, others, built⟩ := found
          cases built
          obtain ⟨⟨firstLength, firstFits⟩, secondLength, secondFits⟩ := ih others
          have sides : (extent = common ∨ extent = 1) ∧ (extent' = common ∨ extent' = 1) := by
            unfold Shape.broadcastExtent? at extents
            split at extents
            · cases extents
              omega
            · split at extents
              · cases extents
                omega
              · split at extents
                · cases extents
                  omega
                · cases extents
          refine ⟨⟨by simpa using firstLength, ?_⟩, by simpa using secondLength, ?_⟩
          · exact Stretches.cons sides.1 firstFits
          · exact Stretches.cons sides.2 secondFits

/-- The axes of an operand are the innermost of the output, each as long as there or stretched. -/
structure Broadcasts (dims outDims : List Nat) : Prop where
  length : dims.length ≤ outDims.length
  fits : Stretches dims (outDims.drop (outDims.length - dims.length))

theorem broadcasts_of_broadcast? {first second shape : Shape}
    (found : first.broadcast? second = some shape) :
    Broadcasts first.dims shape.dims ∧ Broadcasts second.dims shape.dims := by
  unfold Shape.broadcast? at found
  obtain ⟨reversed, inner, rfl⟩ := Option.map_eq_some_iff.1 found
  obtain ⟨⟨firstLength, firstFits⟩, secondLength, secondFits⟩ := stretches_of_broadcastInner? inner
  rw [List.length_reverse] at firstLength firstFits secondLength secondFits
  have turned : ∀ {dims : List Nat}, dims.length ≤ reversed.length →
      Stretches dims.reverse (reversed.take dims.length) →
      Stretches dims (reversed.reverse.drop (reversed.length - dims.length)) := by
    intro dims length fits
    have again := fits.reverse
    rwa [List.reverse_reverse, List.reverse_take] at again
  refine ⟨⟨by simpa using firstLength, ?_⟩, by simpa using secondLength, ?_⟩
  · simpa using turned firstLength firstFits
  · simpa using turned secondLength secondFits

/-- The index at which an operand is read for an index of the output. The leading axes that the
operand lacks are dropped, and along an axis of extent 1 it is read at zero. -/
def stretchedIndex (dims index : List Nat) : List Nat :=
  dims.zipWith (fun extent coordinate => if extent = 1 then 0 else coordinate)
    (index.drop (index.length - dims.length))

theorem offset_replicate_append (count : Nat) (coordinates strides : List Nat) :
    Shape.offset coordinates (List.replicate count 0 ++ strides) =
      Shape.offset (coordinates.drop count) strides := by
  induction count generalizing coordinates with
  | zero => rfl
  | succ count ih =>
      cases coordinates with
      | nil => rfl
      | cons coordinate rest => simpa [List.replicate_succ, Shape.offset_cons] using ih rest

theorem offset_stretched (dims coordinates strides : List Nat) :
    Shape.offset coordinates
        (dims.zipWith (fun extent stride => if extent = 1 then 0 else stride) strides) =
      Shape.offset
        (dims.zipWith (fun extent coordinate => if extent = 1 then 0 else coordinate) coordinates)
        strides := by
  induction dims generalizing coordinates strides with
  | nil => cases coordinates <;> rfl
  | cons extent inner ih =>
      rcases coordinates with _ | ⟨coordinate, others⟩
      · rfl
      rcases strides with _ | ⟨stride, rest⟩
      · rfl
      rw [List.zipWith_cons_cons, List.zipWith_cons_cons, Shape.offset_cons, Shape.offset_cons, ih]
      by_cases stretched : extent = 1
      · simp [stretched]
      · simp [stretched]

theorem Stretches.within {dims outDims index : List Nat} (fits : Stretches dims outDims)
    (within : Shape.Within index outDims) :
    Shape.Within
      (dims.zipWith (fun extent coordinate => if extent = 1 then 0 else coordinate) index)
      dims := by
  induction fits generalizing index with
  | nil => exact .nil
  | cons side _ ih =>
      cases within with
      | cons bound rest =>
          refine .cons ?_ (ih rest)
          dsimp only
          split <;> omega

section Reading

variable {dims outDims : List Nat}

theorem Broadcasts.within (broadcasts : Broadcasts dims outDims) {index : List Nat}
    (within : Shape.Within index outDims) : Shape.Within (stretchedIndex dims index) dims := by
  unfold stretchedIndex
  rw [within.length_eq]
  exact broadcasts.fits.within (List.forall₂_drop _ within)

theorem stretchedIndex_self {index : List Nat} (within : Shape.Within index dims) :
    stretchedIndex dims index = index := by
  unfold stretchedIndex
  rw [within.length_eq, Nat.sub_self, List.drop_zero]
  induction within with
  | nil => rfl
  | cons bound _ ih =>
      rw [List.zipWith_cons_cons, ih]
      split
      · congr 1
        omega
      · rfl

theorem Broadcasts.exists_strides (broadcasts : Broadcasts dims outDims) :
    ∃ strides, broadcastStrides dims outDims = .ok strides ∧
      ∀ position < volume outDims, ∃ place,
        Shape.offsetOf outDims strides position = .ok place ∧ place < volume dims ∧
        place = Shape.offset (stretchedIndex dims (Shape.coordinates outDims position))
          (Shape.strides dims) := by
  have length := broadcasts.length
  refine ⟨_, if_neg (by omega), fun position bound => ?_⟩
  have positive : 0 ∉ outDims := Shape.volume_pos.1 (by omega)
  have inside := broadcasts.within (Shape.within_coordinates positive position)
  refine ⟨_, Shape.offsetOf_of_pos positive _ _, ?_⟩
  rw [offset_replicate_append, offset_stretched]
  unfold stretchedIndex at inside ⊢
  rw [Shape.length_coordinates] at inside ⊢
  exact ⟨Shape.offset_lt_volume inside, rfl⟩

end Reading

section Loop

variable {α β γ : Type} {step : α → β → γ} {first : Array α} {second : Array β}
  {values : Array γ} {firstDims secondDims outDims : List Nat}

def combineStretched (step : α → β → γ) (first : Array α) (firstDims : List Nat)
    (second : Array β) (secondDims : List Nat) (count : Nat) (outDims : List Nat) :
    Attempt (Array γ) := do
  let firstStrides ← broadcastStrides firstDims outDims
  let secondStrides ← broadcastStrides secondDims outDims
  tabulate count fun index => do
    let first ← readAt first (← Shape.offsetOf outDims firstStrides index)
    let second ← readAt second (← Shape.offsetOf outDims secondStrides index)
    return step first second

theorem combineBroadcast_eq (op : BinaryOp) (activation : FusedActivation)
    (first second old : Array Single) (firstDims secondDims outDims : List Nat) :
    combineBroadcast op activation first firstDims second secondDims old outDims =
      combineStretched (combine op activation) first firstDims second secondDims old.size
        outDims := rfl

structure Combined (step : α → β → γ) (first : Array α) (firstDims : List Nat) (second : Array β)
    (secondDims : List Nat) (values : Array γ) (outDims : List Nat) : Prop where
  size : values.size = volume outDims
  each : ∀ index, Shape.Within index outDims → ∃ left right,
    first[Shape.offset (stretchedIndex firstDims index) (Shape.strides firstDims)]? = some left ∧
    second[Shape.offset (stretchedIndex secondDims index) (Shape.strides secondDims)]? =
      some right ∧
    values[Shape.offset index (Shape.strides outDims)]? = some (step left right)

theorem exists_combineStretched (step : α → β → γ) (stretched : Broadcasts firstDims outDims)
    (stretched' : Broadcasts secondDims outDims) (firstSize : first.size = volume firstDims)
    (secondSize : second.size = volume secondDims) :
    ∃ values, combineStretched step first firstDims second secondDims (volume outDims) outDims =
      .ok values ∧ Combined step first firstDims second secondDims values outDims := by
  obtain ⟨firstStrides, firstBuilt, firstReads⟩ := stretched.exists_strides
  obtain ⟨secondStrides, secondBuilt, secondReads⟩ := stretched'.exists_strides
  have each : ∀ position < volume outDims, ∃ value,
      (do
        let first ← readAt first (← Shape.offsetOf outDims firstStrides position)
        let second ← readAt second (← Shape.offsetOf outDims secondStrides position)
        return step first second) = .ok value ∧
      ∃ left right,
        first[Shape.offset (stretchedIndex firstDims (Shape.coordinates outDims position))
          (Shape.strides firstDims)]? = some left ∧
        second[Shape.offset (stretchedIndex secondDims (Shape.coordinates outDims position))
          (Shape.strides secondDims)]? = some right ∧
        value = step left right := by
    intro position bound
    obtain ⟨_, firstAt, firstInside, rfl⟩ := firstReads position bound
    obtain ⟨_, secondAt, secondInside, rfl⟩ := secondReads position bound
    have left := Array.getElem?_eq_getElem (firstSize ▸ firstInside)
    have right := Array.getElem?_eq_getElem (secondSize ▸ secondInside)
    refine ⟨_, ?_, _, _, left, right, rfl⟩
    simp only [bind_eq_ok, pure_eq_ok]
    exact ⟨_, firstAt, _, readAt_eq_ok.2 left, _, secondAt, _, readAt_eq_ok.2 right, rfl⟩
  obtain ⟨values, computed, size, elements⟩ := exists_tabulate_with each
  refine ⟨values, bind_eq_ok.2 ⟨_, firstBuilt, bind_eq_ok.2 ⟨_, secondBuilt, computed⟩⟩, size,
    fun index within => ?_⟩
  obtain ⟨_, present, left, right, firstFound, secondFound, rfl⟩ :=
    elements _ (Shape.offset_lt_volume within)
  rw [Shape.coordinates_offset within] at firstFound secondFound
  exact ⟨left, right, firstFound, secondFound, present⟩

theorem Combined.aligned (combined : Combined step first outDims second outDims values outDims)
    {position : Nat} (bound : position < volume outDims) :
    ∃ left right, first[position]? = some left ∧ second[position]? = some right ∧
      values[position]? = some (step left right) := by
  have within := Shape.within_coordinates (Shape.volume_pos.1 (Nat.zero_lt_of_lt bound)) position
  have found := combined.each _ within
  rwa [stretchedIndex_self within, Shape.offset_coordinates, Nat.mod_eq_of_lt bound] at found

theorem Combined.exists_of_mem
    (combined : Combined step first firstDims second secondDims values outDims) {value : γ}
    (member : value ∈ values) : ∃ left right, value = step left right := by
  obtain ⟨position, inside, rfl⟩ := Array.getElem_of_mem member
  have bound : position < volume outDims := combined.size ▸ inside
  have within := Shape.within_coordinates (Shape.volume_pos.1 (Nat.zero_lt_of_lt bound)) position
  obtain ⟨left, right, _, _, found⟩ := combined.each _ within
  rw [Shape.offset_coordinates, Nat.mod_eq_of_lt bound, Array.getElem?_eq_getElem inside] at found
  exact ⟨left, right, Option.some.inj found⟩

theorem Combined.eq_combineAligned {op : BinaryOp} {activation : FusedActivation}
    {first second old values : Array Single}
    (combined : Combined (combine op activation) first outDims second outDims values outDims)
    (size : old.size = volume outDims) :
    combineAligned op activation first second old = values := by
  refine Array.ext_getElem? fun position => ?_
  unfold combineAligned
  rw [Array.getElem?_mapIdx]
  by_cases inside : position < volume outDims
  · obtain ⟨left, right, firstFound, secondFound, found⟩ := combined.aligned inside
    simp [firstFound, secondFound, found, size, inside]
  · simp [combined.size, size, inside]

theorem combineInto_eq {op : BinaryOp} {activation : FusedActivation}
    {first second old : Array Single} (firstSize : first.size = volume firstDims)
    (secondSize : second.size = volume secondDims) (size : old.size = volume outDims)
    (stretched : Broadcasts firstDims outDims) (stretched' : Broadcasts secondDims outDims) :
    combineInto op activation first firstDims second secondDims old outDims =
      combineBroadcast op activation first firstDims second secondDims old outDims := by
  unfold combineInto
  split
  · rename_i aligned
    obtain ⟨values, computed, combined⟩ :=
      exists_combineStretched (combine op activation) stretched stretched' firstSize secondSize
    rw [combineBroadcast_eq, size, computed]
    rw [aligned.1, aligned.2] at combined
    exact congrArg Except.ok (combined.eq_combineAligned size)
  · rfl

end Loop

end Broadcast

section Bodies

variable {lanes : Nat} {inputs : List Tensor} {output : Tensor}

theorem exists_binaryValues {op : BinaryOp} {activation : FusedActivation} (wide : 0 < lanes)
    {first second : Tensor} (rest : List Tensor) {left right old : Array Single}
    (firstHeld : first.buffer = .f32 left) (firstSize : left.size = first.count)
    (secondHeld : second.buffer = .f32 right) (secondSize : right.size = second.count)
    (held : output.buffer = .f32 old) (size : old.size = output.count)
    (stretched : first.shape.broadcast? second.shape = some output.shape) :
    ∃ values, Combined (combine op activation) left first.dims right second.dims values
        output.dims ∧
      ∀ derived,
        laneBinaryBody lanes
            ⟨.binary op activation, first :: second :: rest, [output], derived⟩ =
          .ok (output.withSingles values) ∧
        binaryBody ⟨.binary op activation, first :: second :: rest, [output], derived⟩ =
          .ok (output.withSingles values) := by
  obtain ⟨firstStretched, secondStretched⟩ := broadcasts_of_broadcast? stretched
  obtain ⟨values, computed, combined⟩ := exists_combineStretched (combine op activation)
    firstStretched secondStretched firstSize secondSize
  have plain : combineInto op activation left first.dims right second.dims old output.dims =
      .ok values := by
    refine (combineInto_eq firstSize secondSize size firstStretched secondStretched).trans ?_
    rw [combineBroadcast_eq, size]
    exact computed
  have laned : (if first.dims = output.dims ∧ second.dims = output.dims then
      combineLanes lanes op activation left right old
    else combineInto op activation left first.dims right second.dims old output.dims) =
      .ok values := by
    split
    · rename_i aligned
      have firstAligned : left.size = old.size :=
        firstSize.trans ((congrArg volume aligned.1).trans size.symm)
      have secondAligned : right.size = old.size :=
        secondSize.trans ((congrArg volume aligned.2).trans size.symm)
      rw [combineLanes_eq wide firstAligned secondAligned]
      exact (if_pos aligned).symm.trans plain
    · exact plain
  refine ⟨values, combined, fun derived => ⟨?_, ?_⟩⟩
  · unfold laneBinaryBody
    simp only [bind_eq_ok, lift_eq_ok, map_eq_ok]
    exact ⟨first, rfl, second, rfl, output, rfl, left, Tensor.singlesFor_eq firstHeld _, right,
      Tensor.singlesFor_eq secondHeld _, ⟨output, old⟩, Call.singleOutput_eq held _, values,
      laned, rfl⟩
  · unfold binaryBody
    simp only [bind_eq_ok, lift_eq_ok, map_eq_ok]
    exact ⟨first, rfl, second, rfl, ⟨output, old⟩, Call.singleOutput_eq held _, left,
      Tensor.singlesFor_eq firstHeld _, right, Tensor.singlesFor_eq secondHeld _, values, plain,
      rfl⟩

/-- Both bodies of a binary operator write the same tensor, stretched operands or not. -/
theorem binaryBodies_agree {op : BinaryOp} {activation : FusedActivation} (wide : 0 < lanes)
    (valid : ValidCall (.binary op activation) inputs output) :
    ∃ result, ∀ derived derived',
      laneBinaryBody lanes ⟨.binary op activation, inputs, [output], derived⟩ = .ok result ∧
        binaryBody ⟨.binary op activation, inputs, [output], derived'⟩ = .ok result := by
  obtain ⟨first, others, rfl, inferred⟩ := valid.inferredOf
  obtain ⟨second, rest, rfl, stretched⟩ := Params.broadcast?_of_binary inferred
  obtain ⟨old, held, size⟩ := valid.held (show output ∈ _ by simp)
  obtain ⟨left, firstHeld, firstSize⟩ := valid.held (show first ∈ _ by simp)
  obtain ⟨right, secondHeld, secondSize⟩ := valid.held (show second ∈ _ by simp)
  obtain ⟨values, _, bodies⟩ := exists_binaryValues wide rest firstHeld firstSize secondHeld
    secondSize held size stretched
  exact ⟨_, fun derived derived' => ⟨(bodies derived).1, (bodies derived').2⟩⟩

theorem activationBodies_agree {kind : ActivationKind} (wide : 0 < lanes)
    (valid : ValidCall (.activation kind) inputs output) :
    ∃ result, ∀ derived derived',
      laneActivationBody lanes ⟨.activation kind, inputs, [output], derived⟩ = .ok result ∧
        activationBody ⟨.activation kind, inputs, [output], derived'⟩ = .ok result := by
  obtain ⟨input, others, rfl, inferred⟩ := valid.inferredOf
  have same : input.shape = output.shape := pure_eq_ok.1 inferred
  obtain ⟨old, written, size⟩ := valid.held (show output ∈ _ by simp)
  obtain ⟨values, held, valuesSize⟩ := valid.held (show input ∈ _ by simp)
  have aligned : values.size = old.size := by
    rw [valuesSize, size]
    exact congrArg Shape.count same
  refine ⟨output.withSingles (mapInto kind.apply values old), fun derived derived' => ⟨?_, ?_⟩⟩
  · unfold laneActivationBody
    simp only [bind_eq_ok, lift_eq_ok, map_eq_ok]
    exact ⟨input, rfl, values, Tensor.singlesFor_eq held _, ⟨output, old⟩,
      Call.singleOutput_eq written _, _, mapLanes_eq wide aligned, rfl⟩
  · unfold activationBody
    simp only [bind_eq_ok, lift_eq_ok, pure_eq_ok]
    exact ⟨input, rfl, values, Tensor.singlesFor_eq held _, ⟨output, old⟩,
      Call.singleOutput_eq written _, rfl⟩

end Bodies

end TensorRuntime
