import TensorRuntime.Proofs.Accumulation
import TensorRuntime.Proofs.Kernel.Movement
import TensorRuntime.Proofs.Kernel.Safety.Reduction

/-!
The law of reductions. One loop adds every element, in stored order, to the output element that has
its coordinates on the axes that are kept, for all ranks, sets of axes and extents.
-/

namespace TensorRuntime

open Attempt

def keptEntries (axes : List Nat) (axis : Nat) (entries : List Nat) : List Nat :=
  (entries.zipIdx axis).filterMap fun entry => if entry.2 ∈ axes then none else some entry.1

/-- The coordinates of an output element on the axes that are kept. With the reduced axes in place
they are some of its coordinates, else all of them. -/
def outputCoordinates (axes : List Nat) (keepDims : Bool) (dims : List Nat) (position : Nat) :
    List Nat :=
  if keepDims then keptEntries axes 0 (Shape.coordinates dims position)
  else Shape.coordinates dims position

section Slots

variable {axes : List Nat}

theorem keptEntries_cons (axis entry : Nat) (inner : List Nat) :
    keptEntries axes axis (entry :: inner) =
      if axis ∈ axes then keptEntries axes (axis + 1) inner
      else entry :: keptEntries axes (axis + 1) inner := by
  unfold keptEntries
  rw [List.zipIdx_cons]
  by_cases reduced : axis ∈ axes <;> simp [reduced]

theorem reducedDims_dropped (axes : List Nat) (axis : Nat) (dims : List Nat) :
    reducedDims axes false axis dims = keptEntries axes axis dims := rfl

theorem volume_reducedDims (axes : List Nat) (keepDims : Bool) (axis : Nat) (dims : List Nat) :
    volume (reducedDims axes keepDims axis dims) = volume (keptEntries axes axis dims) := by
  induction dims generalizing axis with
  | nil => rfl
  | cons extent inner ih =>
      rw [reducedDims_cons, ih, ← reducedDims_dropped, ← reducedDims_dropped, reducedDims_cons]

theorem within_kept {coordinates dims : List Nat} (inside : Shape.Within coordinates dims)
    (axis : Nat) :
    Shape.Within (keptEntries axes axis coordinates) (keptEntries axes axis dims) := by
  induction inside generalizing axis with
  | nil => exact .nil
  | @cons coordinate extent others inner bound _ ih =>
      rw [keptEntries_cons, keptEntries_cons]
      by_cases reduced : axis ∈ axes
      · simpa [reduced] using ih (axis + 1)
      · simpa [reduced] using ⟨bound, ih (axis + 1)⟩

theorem offset_keptStrides {coordinates dims : List Nat} (inside : Shape.Within coordinates dims)
    (axis : Nat) :
    Shape.offset coordinates (keptStrides axes axis dims) =
      Shape.offset (keptEntries axes axis coordinates)
        (Shape.strides (keptEntries axes axis dims)) := by
  induction inside generalizing axis with
  | nil => rfl
  | @cons coordinate extent others inner bound _ ih =>
      rw [keptStrides, Shape.offset_cons, keptVolume_eq axes false, Nat.one_mul, ih,
        keptEntries_cons, keptEntries_cons, reducedDims_dropped]
      by_cases reduced : axis ∈ axes
      · simp [reduced]
      · rw [if_neg reduced, if_neg reduced, if_neg reduced]
        rfl

theorem outputCoordinates_eq (axes : List Nat) (keepDims : Bool) (dims : List Nat)
    (position : Nat) :
    outputCoordinates axes keepDims (reducedDims axes keepDims 0 dims) position =
      Shape.coordinates (keptEntries axes 0 dims) position := by
  have kept (axis : Nat) (dims : List Nat) :
      keptEntries axes axis (Shape.coordinates (reducedDims axes true axis dims) position) =
        Shape.coordinates (keptEntries axes axis dims) position := by
    induction dims generalizing axis with
    | nil => rfl
    | cons extent inner ih =>
        have held : reducedDims axes true axis (extent :: inner) =
            (if axis ∈ axes then 1 else extent) :: reducedDims axes true (axis + 1) inner := by
          unfold reducedDims
          rw [List.zipIdx_cons]
          by_cases reduced : axis ∈ axes <;> simp [reduced]
        rw [held, Shape.coordinates, keptEntries_cons, ih, keptEntries_cons,
          volume_reducedDims]
        by_cases reduced : axis ∈ axes
        · simp [reduced]
        · rw [if_neg reduced, if_neg reduced, if_neg reduced, Shape.coordinates]
  cases keepDims with
  | false => rfl
  | true => exact kept 0 dims

def slotOf (axes dims : List Nat) (index : Nat) : Nat :=
  Shape.offset (Shape.coordinates dims index) (keptStrides axes 0 dims)

variable {dims : List Nat}

/-- An element has a slot if and only if the slot's coordinates are its own on the axes that are
kept. -/
theorem slotOf_eq_iff (keepDims : Bool) (positive : 0 ∉ dims) {index position : Nat}
    (bound : position < volume (reducedDims axes keepDims 0 dims)) :
    slotOf axes dims index = position ↔
      keptEntries axes 0 (Shape.coordinates dims index) =
        outputCoordinates axes keepDims (reducedDims axes keepDims 0 dims) position := by
  have inside := Shape.within_coordinates positive index
  rw [slotOf, offset_keptStrides inside, outputCoordinates_eq]
  rw [volume_reducedDims] at bound
  constructor
  · rintro rfl
    exact (Shape.coordinates_offset (within_kept inside 0)).symm
  · intro same
    rw [same, Shape.offset_coordinates, Nat.mod_eq_of_lt bound]

theorem slotOf_lt (keepDims : Bool) (positive : 0 ∉ dims) (index : Nat) :
    slotOf axes dims index < volume (reducedDims axes keepDims 0 dims) :=
  offset_kept_lt axes keepDims (Shape.within_coordinates positive index) 0

end Slots

theorem Shape.reduce?_of_nodup {shape : Shape} {axes : List Nat} (low : shape.rank ≤ maxRank)
    (distinct : axes.Nodup) (inside : ∀ axis ∈ axes, axis < shape.rank) (keepDims : Bool) :
    shape.reduce? axes keepDims = .ok (some ⟨reducedDims axes keepDims 0 shape.dims⟩) := by
  unfold reduce?
  rw [distinctAxes_of_nodup low distinct inside (by simp)]
  change (if maxRank < shape.rank then _ else _) = _
  rw [if_neg (by omega)]
  rfl

namespace ReduceParams

theorem resolvedAxes_fit {params : ReduceParams} {rank : Nat} (distinct : params.axes.Nodup)
    (inside : ∀ axis ∈ params.axes, axis < rank) :
    (params.resolvedAxes rank).Nodup ∧ ∀ axis ∈ params.resolvedAxes rank, axis < rank := by
  unfold resolvedAxes
  split
  · exact ⟨List.nodup_range, fun _ => List.mem_range.1⟩
  · exact ⟨distinct, inside⟩

def reducedCount (params : ReduceParams) (dims : List Nat) : Nat :=
  volume ((params.resolvedAxes dims.length).map fun axis => dims.getD axis 0)

/-- The last step of a reduction: the mean of anything is its sum times the inverse of its
number. -/
def finish (params : ReduceParams) (dims : List Nat) (total : Single) : Single :=
  if params.mode = .mean ∧ 0 < params.reducedCount dims then
    total * (1 / Single.ofNat (params.reducedCount dims))
  else total

/-- The elements that one output element is made of, in stored order. -/
def reducedTo (params : ReduceParams) (dims outDims : List Nat) (position : Nat) : List Nat :=
  (List.range (volume dims)).filter fun index =>
    keptEntries (params.resolvedAxes dims.length) 0 (Shape.coordinates dims index) =
      outputCoordinates (params.resolvedAxes dims.length) params.keepDims outDims position

end ReduceParams

section Loop

variable {params : ReduceParams} {values : Array Single} {dims : List Nat}

theorem zipIdx_elementAt (values : Array Single) :
    values.toList.zipIdx =
      (List.range values.size).map fun index => (elementAt values index, index) := by
  rw [← zipIdx_map_range]
  exact congrArg List.zipIdx (congrArg Array.toList (arrayOf_elementAt values)).symm

/-- What the loop over the elements leaves in the slots, before the last step. -/
theorem exists_slots (size : values.size = volume dims) {outDims : List Nat}
    (shaped : outDims = reducedDims (params.resolvedAxes dims.length) params.keepDims 0 dims) :
    ∃ totals, values.toList.zipIdx.foldlM (fun totals (value, index) => do
        let place ← Shape.offsetOf dims (keptStrides (params.resolvedAxes dims.length) 0 dims) index
        let total ← readAt totals place
        writeAt totals place (params.mode.step total value))
        (Array.replicate (volume outDims) params.mode.start) = .ok totals ∧
      totals.size = volume outDims ∧ ∀ position < volume outDims, totals[position]? =
        some (((params.reducedTo dims outDims position).map (elementAt values)).foldl
          params.mode.step params.mode.start) := by
  subst shaped
  let axes := params.resolvedAxes dims.length
  let place (entry : Single × Nat) : Nat := slotOf axes dims entry.2
  have positive : ∀ entry ∈ values.toList.zipIdx, 0 ∉ dims := by
    intro entry member
    have bound : entry.2 < volume dims := by
      rw [← size, ← Array.length_toList]
      exact List.snd_lt_of_mem_zipIdx member
    exact Shape.volume_pos.1 (by omega)
  have inside : ∀ entry ∈ values.toList.zipIdx, place entry <
      (Array.replicate (volume (reducedDims axes params.keepDims 0 dims))
        params.mode.start).size := by
    intro entry member
    rw [Array.size_replicate]
    exact slotOf_lt params.keepDims (positive entry member) entry.2
  obtain ⟨totals, done, totalsSize, each⟩ :=
    foldlM_addAt (fun total entry => params.mode.step total entry.1) inside
  rw [Array.size_replicate] at totalsSize
  refine ⟨totals, ?_, totalsSize, fun position bound => ?_⟩
  · rw [← done]
    refine foldlM_congr (fun entry member totals => ?_) _
    dsimp only
    rw [Shape.offsetOf_of_pos (positive entry member)]
    rfl
  · have chosen : values.toList.zipIdx.filter (fun entry => place entry = position) =
        (params.reducedTo dims (reducedDims axes params.keepDims 0 dims) position).map
          fun index => (elementAt values index, index) := by
      rw [zipIdx_elementAt, size, List.filter_map, ReduceParams.reducedTo]
      congr 1
      refine List.filter_congr fun index member => decide_eq_decide.2 ?_
      have below := List.mem_range.1 member
      exact slotOf_eq_iff params.keepDims (Shape.volume_pos.1 (by omega)) bound
    rw [each, chosen, Array.getElem?_replicate, if_pos bound, Option.map_some, List.foldl_map,
      List.foldl_map]

theorem reduceInto_folds (size : values.size = volume dims)
    (inside : ∀ axis ∈ params.resolvedAxes dims.length, axis < dims.length) {outDims : List Nat}
    (shaped : outDims = reducedDims (params.resolvedAxes dims.length) params.keepDims 0 dims) :
    ∃ totals, reduceInto params values dims (volume outDims) = .ok totals ∧
      totals.size = volume outDims ∧ ∀ position < volume outDims, totals[position]? =
        some (params.finish dims (((params.reducedTo dims outDims position).map
          (elementAt values)).foldl params.mode.step params.mode.start)) := by
  obtain ⟨totals, looped, totalsSize, slots⟩ := exists_slots size shaped
  have present : ¬ ((params.resolvedAxes dims.length).any fun axis =>
      dims.length ≤ axis) = true := by
    simpa using inside
  refine ⟨totals.map (params.finish dims), ?_, by simpa using totalsSize, fun position bound => ?_⟩
  · unfold reduceInto
    dsimp only
    rw [if_neg present]
    refine bind_eq_ok.2 ⟨totals, looped, ?_⟩
    split
    · rename_i mean
      exact congrArg Except.ok (congrArg totals.map (funext fun total => (if_pos mean).symm))
    · rename_i whole
      have last : params.finish dims = id := funext fun total => if_neg whole
      rw [last, Array.map_id]
      rfl
  · rw [Array.getElem?_map, slots position bound]
    rfl

end Loop

/-- The law of reductions, for every tensor of an allowed rank, every set of its axes, every mode,
and with the reduced axes kept or dropped. -/
theorem reductions_fold_kept_coordinates {params : ReduceParams} {shape : Shape}
    {values : Array Single} (low : shape.rank ≤ maxRank) (distinct : params.axes.Nodup)
    (inside : ∀ axis ∈ params.axes, axis < shape.rank) (size : values.size = shape.count) :
    ∃ reduced totals,
      shape.reduce? (params.resolvedAxes shape.rank) params.keepDims = .ok (some reduced) ∧
      reduceInto params values shape.dims reduced.count = .ok totals ∧
      totals.size = reduced.count ∧
      (∀ position < reduced.count, totals[position]? =
        some (params.finish shape.dims
          (((params.reducedTo shape.dims reduced.dims position).map (elementAt values)).foldl
            params.mode.step params.mode.start))) ∧
      (∀ index < shape.count, ∃ position < reduced.count,
        index ∈ params.reducedTo shape.dims reduced.dims position ∧
        ∀ other < reduced.count, index ∈ params.reducedTo shape.dims reduced.dims other →
          other = position) ∧
      ∃ turned, shape.reduce? (params.resolvedAxes shape.rank) (!params.keepDims) =
          .ok (some turned) ∧
        reduceInto { params with keepDims := !params.keepDims } values shape.dims turned.count =
          .ok totals := by
  let axes := params.resolvedAxes shape.rank
  let reduced : Shape := ⟨reducedDims axes params.keepDims 0 shape.dims⟩
  obtain ⟨distinct, inside⟩ := ReduceParams.resolvedAxes_fit distinct inside
  have shaped : reduced.dims = reducedDims (params.resolvedAxes shape.dims.length)
      params.keepDims 0 shape.dims := rfl
  obtain ⟨totals, done, totalsSize, folds⟩ := reduceInto_folds size inside shaped
  refine ⟨reduced, totals, Shape.reduce?_of_nodup low distinct inside _, done, totalsSize, folds,
    fun index bound => ?_, ⟨reducedDims axes (!params.keepDims) 0 shape.dims⟩,
    Shape.reduce?_of_nodup low distinct inside _, ?_⟩
  · have positive : 0 ∉ shape.dims := by
      refine Shape.volume_pos.1 ?_
      change 0 < shape.count
      omega
    have reached (position : Nat) (inReduced : position < reduced.count) :
        index ∈ params.reducedTo shape.dims reduced.dims position ↔
          slotOf axes shape.dims index = position := by
      rw [slotOf_eq_iff params.keepDims positive inReduced, ReduceParams.reducedTo, List.mem_filter,
        List.mem_range, decide_eq_true_iff]
      exact and_iff_right bound
    have slot : slotOf axes shape.dims index < reduced.count :=
      slotOf_lt params.keepDims positive index
    exact ⟨_, slot, (reached _ slot).2 rfl,
      fun other below chosen => ((reached other below).1 chosen).symm⟩
  · have counts : volume (reducedDims axes (!params.keepDims) 0 shape.dims) = reduced.count := by
      rw [Shape.count, volume_reducedDims, volume_reducedDims]
    change reduceInto params values shape.dims
      (volume (reducedDims axes (!params.keepDims) 0 shape.dims)) = _
    rw [counts]
    exact done

def outerMeans : ReduceParams := ⟨.mean, [2, 0], true⟩

def eightValues : Array Single :=
  #[⟨0x3F800000⟩, ⟨0x40000000⟩, ⟨0x40400000⟩, ⟨0x40800000⟩, ⟨0x40A00000⟩, ⟨0x40C00000⟩,
    ⟨0x40E00000⟩, ⟨0x41000000⟩]

/-- The means of 1, 2, 5 and 6 and of 3, 4, 7 and 8 are 3.5 and 5.5. -/
theorem outerMeans_fold_kept_coordinates : ∃ reduced totals,
    (⟨[2, 2, 2]⟩ : Shape).reduce? [2, 0] true = .ok (some reduced) ∧
    reduceInto outerMeans eightValues [2, 2, 2] reduced.count = .ok totals ∧
    totals[0]? = some ⟨0x40600000⟩ ∧ totals[1]? = some ⟨0x40B00000⟩ := by
  have low : (⟨[2, 2, 2]⟩ : Shape).rank ≤ maxRank := by decide
  have distinct : outerMeans.axes.Nodup := by decide
  have inside : ∀ axis ∈ outerMeans.axes, axis < (⟨[2, 2, 2]⟩ : Shape).rank := by decide
  have size : eightValues.size = (⟨[2, 2, 2]⟩ : Shape).count := rfl
  obtain ⟨reduced, totals, shaped, done, _, folds, _⟩ :=
    reductions_fold_kept_coordinates low distinct inside size
  cases shaped
  have first : outerMeans.finish [2, 2, 2] (((outerMeans.reducedTo [2, 2, 2] [1, 2, 1] 0).map
      (elementAt eightValues)).foldl ReduceMode.mean.step ReduceMode.mean.start) =
        ⟨0x40600000⟩ := by decide +kernel
  have second : outerMeans.finish [2, 2, 2] (((outerMeans.reducedTo [2, 2, 2] [1, 2, 1] 1).map
      (elementAt eightValues)).foldl ReduceMode.mean.step ReduceMode.mean.start) =
        ⟨0x40B00000⟩ := by decide +kernel
  exact ⟨_, totals, rfl, done, (folds 0 (by decide)).trans (congrArg some first),
    (folds 1 (by decide)).trans (congrArg some second)⟩

end TensorRuntime
