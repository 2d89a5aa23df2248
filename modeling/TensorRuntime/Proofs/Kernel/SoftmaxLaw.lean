import TensorRuntime.Proofs.Accumulation
import TensorRuntime.Proofs.Kernel.Calls
import TensorRuntime.Proofs.Kernel.SoftmaxLines
import TensorRuntime.Proofs.Positions

/-!
The law of softmax. The lines along an axis share out the positions of a tensor, and two passes
over each of them, the first of which leaves its exponentials in the output, make every element
from its own line alone.
-/

namespace TensorRuntime

open Attempt

section Lines

variable {dims : List Nat} {axis : Nat}

def softmaxLines (dims : List Nat) (axis : Nat) : List (List Nat) :=
  (List.range (volume (dims.take axis))).flatMap fun outerIndex =>
    (List.range (volume (dims.drop (axis + 1)))).map fun innerIndex =>
      softmaxLine (dims.getD axis 0) (volume (dims.drop (axis + 1))) outerIndex innerIndex

def lineAt (dims : List Nat) (axis place : Nat) : List Nat :=
  let inner := volume (dims.drop (axis + 1))
  softmaxLine (dims.getD axis 0) inner (place / inner / dims.getD axis 0) (place % inner)

theorem mem_softmaxLines {line : List Nat} :
    line ∈ softmaxLines dims axis ↔ ∃ outerIndex < volume (dims.take axis),
      ∃ innerIndex < volume (dims.drop (axis + 1)),
        softmaxLine (dims.getD axis 0) (volume (dims.drop (axis + 1))) outerIndex innerIndex =
          line := by
  unfold softmaxLines
  simp only [List.mem_flatMap, List.mem_map, List.mem_range]

theorem nodup_softmaxLine {length inner innerIndex : Nat} (innerBound : innerIndex < inner)
    (outerIndex : Nat) : (softmaxLine length inner outerIndex innerIndex).Nodup := by
  refine List.nodup_range.map fun step step' same => ?_
  have places := congrArg (fun place => place / inner) same
  rw [place_div innerBound, place_div innerBound] at places
  omega

theorem lineAt_of_mem (inside : axis < dims.length) {line : List Nat}
    (visited : line ∈ softmaxLines dims axis) {place : Nat} (member : place ∈ line) :
    lineAt dims axis place = line ∧ place < volume dims := by
  obtain ⟨outerIndex, outerBound, innerIndex, innerBound, rfl⟩ := mem_softmaxLines.1 visited
  obtain ⟨step, listed, rfl⟩ := List.mem_map.1 member
  have stepBound := List.mem_range.1 listed
  have extent : dims[axis]? = some (dims.getD axis 0) := by simp [inside]
  constructor
  · unfold lineAt
    dsimp only
    rw [place_div innerBound, place_mod innerBound, place_div stepBound]
  · rw [volume_split extent]
    exact place_lt (place_lt outerBound stepBound) innerBound

theorem lineAt_mem (inside : axis < dims.length) {place : Nat} (bound : place < volume dims) :
    lineAt dims axis place ∈ softmaxLines dims axis ∧ place ∈ lineAt dims axis place := by
  have extent : dims[axis]? = some (dims.getD axis 0) := by simp [inside]
  rw [volume_split extent] at bound
  obtain ⟨outerIndex, outerBound, innerIndex, innerBound, member⟩ := mem_softmaxLine bound
  have visited := mem_softmaxLines.2 ⟨outerIndex, outerBound, innerIndex, innerBound, rfl⟩
  rw [(lineAt_of_mem inside visited member).1]
  exact ⟨visited, member⟩

theorem disjoint_softmaxLine {length inner outerIndex outerIndex' innerIndex innerIndex' : Nat}
    (innerBound : innerIndex < inner) (innerBound' : innerIndex' < inner)
    (other : outerIndex ≠ outerIndex' ∨ innerIndex ≠ innerIndex') :
    (softmaxLine length inner outerIndex innerIndex).Disjoint
      (softmaxLine length inner outerIndex' innerIndex') := by
  intro place member member'
  obtain ⟨step, listed, rfl⟩ := List.mem_map.1 member
  obtain ⟨step', listed', same⟩ := List.mem_map.1 member'
  have sameInner := congrArg (fun place => place % inner) same
  have sameOuter := congrArg (fun place => place / inner / length) same
  rw [place_mod innerBound, place_mod innerBound'] at sameInner
  rw [place_div innerBound, place_div innerBound', place_div (List.mem_range.1 listed),
    place_div (List.mem_range.1 listed')] at sameOuter
  omega

/-- The loop comes to every position once. -/
theorem softmaxLines_perm (inside : axis < dims.length) :
    (softmaxLines dims axis).flatten.Perm (List.range (volume dims)) := by
  have distinct : (softmaxLines dims axis).flatten.Nodup := by
    refine List.nodup_flatten.2 ⟨fun line visited => ?_, ?_⟩
    · obtain ⟨outerIndex, _, innerIndex, innerBound, rfl⟩ := mem_softmaxLines.1 visited
      exact nodup_softmaxLine innerBound outerIndex
    · refine List.pairwise_flatMap.2 ⟨fun outerIndex _ => List.pairwise_map.2 ?_, ?_⟩
      · refine List.pairwise_lt_range.imp_of_mem fun first second before => ?_
        exact disjoint_softmaxLine (List.mem_range.1 first) (List.mem_range.1 second)
          (.inr (Nat.ne_of_lt before))
      · refine List.pairwise_lt_range.imp_of_mem fun _ _ before line visited line' visited' => ?_
        obtain ⟨innerIndex, listed, rfl⟩ := List.mem_map.1 visited
        obtain ⟨innerIndex', listed', rfl⟩ := List.mem_map.1 visited'
        exact disjoint_softmaxLine (List.mem_range.1 listed) (List.mem_range.1 listed')
          (.inl (Nat.ne_of_lt before))
  refine (List.perm_ext_iff_of_nodup distinct List.nodup_range).2 fun place => ?_
  rw [List.mem_flatten, List.mem_range]
  constructor
  · rintro ⟨line, visited, member⟩
    exact (lineAt_of_mem inside visited member).2
  · intro bound
    exact ⟨_, lineAt_mem inside bound⟩

/-- The indices that differ from an index only in their coordinate along the axis. -/
def lineThrough (dims : List Nat) (axis : Nat) (index : List Nat) : List (List Nat) :=
  (List.range (dims.getD axis 0)).map fun step => index.set axis step

theorem mem_lineThrough (inside : axis < dims.length) {index other : List Nat}
    (within : Shape.Within index dims) :
    other ∈ lineThrough dims axis index ↔ Shape.Within other dims ∧
      ∀ place, place ≠ axis → other[place]? = index[place]? := by
  have extent : dims.getD axis 0 = dims[axis] := by simp [inside]
  obtain ⟨length, below⟩ := Shape.within_iff.1 within
  unfold lineThrough
  rw [List.mem_map, extent]
  constructor
  · rintro ⟨step, listed, rfl⟩
    refine ⟨Shape.within_iff.2 ⟨by simpa using length, fun place first second => ?_⟩,
      fun place apart => List.getElem?_set_ne (Ne.symm apart)⟩
    rw [List.getElem_set]
    split
    · rename_i own
      subst own
      exact List.mem_range.1 listed
    · exact below place (length ▸ second) second
  · rintro ⟨otherWithin, same⟩
    obtain ⟨otherLength, otherBelow⟩ := Shape.within_iff.1 otherWithin
    refine ⟨other[axis], List.mem_range.2 (otherBelow axis (by omega) inside),
      List.ext_getElem? fun place => ?_⟩
    by_cases own : place = axis
    · subst own
      rw [List.getElem?_set_self (by omega), List.getElem?_eq_getElem]
    · rw [List.getElem?_set_ne (Ne.symm own), same place own]

theorem lineThrough_eq {index other : List Nat} (member : other ∈ lineThrough dims axis index) :
    lineThrough dims axis other = lineThrough dims axis index := by
  obtain ⟨step, _, rfl⟩ := List.mem_map.1 member
  unfold lineThrough
  simp only [List.set_set]

theorem offset_set {index : List Nat} (within : Shape.Within index dims)
    (inside : axis < dims.length) (step : Nat) :
    Shape.offset (index.set axis step) (Shape.strides dims) =
      (Shape.offset (index.take axis) (Shape.strides (dims.take axis)) * dims.getD axis 0 + step) *
        volume (dims.drop (axis + 1)) +
      Shape.offset (index.drop (axis + 1)) (Shape.strides (dims.drop (axis + 1))) := by
  induction within generalizing axis with
  | nil => cases inside
  | @cons coordinate extent index dims _ _ ih =>
      cases axis with
      | zero => simp [Shape.strides, Shape.offset]
      | succ axis =>
          have below : axis < dims.length := Nat.lt_of_succ_lt_succ inside
          have found : dims[axis]? = some (dims.getD axis 0) := by simp [below]
          have rest := ih below
          simp only [List.set_cons_succ, List.take_succ_cons, List.drop_succ_cons,
            List.getD_cons_succ, Shape.strides, Shape.offset_cons] at rest ⊢
          rw [rest, volume_split found]
          simp only [Nat.add_mul, Nat.mul_assoc]
          omega

theorem lineThrough_places (inside : axis < dims.length) {index : List Nat}
    (within : Shape.Within index dims) :
    (lineThrough dims axis index).map (fun other => Shape.offset other (Shape.strides dims)) =
      lineAt dims axis (Shape.offset index (Shape.strides dims)) := by
  obtain ⟨length, below⟩ := Shape.within_iff.1 within
  have reach : axis < index.length := length ▸ inside
  have coordinate : index[axis] < dims.getD axis 0 := by
    simpa [inside] using below axis reach inside
  have innerBound := Shape.offset_lt_volume (List.forall₂_drop (axis + 1) within)
  have place := offset_set within inside index[axis]
  rw [List.set_getElem_self] at place
  unfold lineAt lineThrough softmaxLine
  dsimp only
  rw [place, place_div innerBound, place_mod innerBound, place_div coordinate, List.map_map]
  exact List.map_congr_left fun step _ => offset_set within inside step

end Lines

/-- The arithmetic of a softmax, of which nothing is assumed. -/
structure LineArithmetic (α : Type) where
  lowest : α
  zero : α
  one : α
  maximum : α → α → α
  subtract : α → α → α
  exp : α → α
  add : α → α → α
  multiply : α → α → α
  divide : α → α → α

namespace LineArithmetic

def single : LineArithmetic Single where
  lowest := .negativeInfinity
  zero := 0
  one := 1
  maximum := .maximum
  subtract := (· - ·)
  exp := .exp
  add := (· + ·)
  multiply := (· * ·)
  divide := (· / ·)

variable {α : Type} (arithmetic : LineArithmetic α)

def greatest (line : List α) : α := line.foldl arithmetic.maximum arithmetic.lowest

def exponential (greatest value : α) : α := arithmetic.exp (arithmetic.subtract value greatest)

def total (line : List α) : α :=
  (line.map (arithmetic.exponential (arithmetic.greatest line))).foldl arithmetic.add
    arithmetic.zero

def share (line : List α) (value : α) : α :=
  arithmetic.multiply (arithmetic.exponential (arithmetic.greatest line) value)
    (arithmetic.divide arithmetic.one (arithmetic.total line))

theorem softmaxOfLine_eq (line : List Single) : softmaxOfLine line = line.map (single.share line) :=
  List.map_map

def element (values : Array α) (place : Nat) : α := values.getD place arithmetic.zero

def exponentials (values : Array α) (greatest : α) (places : List Nat) (written : Array α) :
    Attempt (Array α × α) :=
  places.foldlM (fun (written, sum) place => do
    let exponential := arithmetic.exponential greatest (← readAt values place)
    return (← writeAt written place exponential, arithmetic.add sum exponential))
    (written, arithmetic.zero)

def scaled (inverse : α) (places : List Nat) (written : Array α) : Attempt (Array α) :=
  places.foldlM (fun written place => do
    writeAt written place (arithmetic.multiply (← readAt written place) inverse)) written

def passes (values written : Array α) (places : List Nat) : Attempt (Array α) := do
  let line ← places.mapM (readAt values)
  let (exponentials, sum) ←
    arithmetic.exponentials values (arithmetic.greatest line) places written
  arithmetic.scaled (arithmetic.divide arithmetic.one sum) places exponentials

/-- Softmax along an axis, with the output as the only scratch space. -/
def softmax (values : Array α) (dims : List Nat) (axis : Nat) (old : Array α) :
    Attempt (Array α) :=
  match dims[axis]? with
  | none => abort
  | some _ => (softmaxLines dims axis).foldlM (arithmetic.passes values) old

end LineArithmetic

section Passes

variable {α β γ ι : Type}

theorem foldlM_alongside (step : β → ι → Attempt β) (next : γ → ι → γ) (items : List ι)
    (first : β) (second : γ) :
    items.foldlM (fun (state : β × γ) item => do
      return (← step state.1 item, next state.2 item)) (first, second) =
      (fun last => (last, items.foldl next second)) <$> items.foldlM step first := by
  induction items generalizing first second with
  | nil => rfl
  | cons item rest ih =>
      rw [List.foldlM_cons, List.foldlM_cons, List.foldl_cons]
      cases stepped : step first item with
      | error fault => rfl
      | ok after => exact ih after (next second item)

/-- A step over one line gives every place of the line its result and changes nothing else. -/
def Settles (count : Nat) (result : Nat → α) (line : List Nat)
    (step : Array α → Attempt (Array α)) : Prop :=
  ∀ before : Array α, before.size = count → ∃ after, step before = .ok after ∧
    after.size = count ∧ (∀ place ∈ line, after[place]? = some (result place)) ∧
    ∀ place, place ∉ line → after[place]? = before[place]?

theorem Settles.congr {count : Nat} {result result' : Nat → α} {line : List Nat}
    {step : Array α → Attempt (Array α)} (settles : Settles count result line step)
    (same : ∀ place ∈ line, result' place = result place) : Settles count result' line step := by
  intro before size
  obtain ⟨after, done, afterSize, held, kept⟩ := settles before size
  exact ⟨after, done, afterSize, fun place member => by rw [held place member, same place member],
    kept⟩

theorem Settles.unique {count : Nat} {result : Nat → α} {line : List Nat}
    {step step' : Array α → Attempt (Array α)} (settles : Settles count result line step)
    (settles' : Settles count result line step') (whole : ∀ place < count, place ∈ line)
    {before : Array α} (size : before.size = count) : step before = step' before := by
  obtain ⟨after, done, afterSize, held, _⟩ := settles before size
  obtain ⟨after', done', afterSize', held', _⟩ := settles' before size
  rw [done, done']
  refine congrArg Except.ok (Array.ext_getElem? fun place => ?_)
  by_cases inside : place < count
  · rw [held place (whole place inside), held' place (whole place inside)]
  · rw [Array.getElem?_eq_none (by omega), Array.getElem?_eq_none (by omega)]

theorem settles_foldlM {count : Nat} {result : Nat → α} {lines : List (List Nat)}
    {step : Array α → List Nat → Attempt (Array α)}
    (settles : ∀ line ∈ lines, Settles count result line (step · line)) :
    Settles count result lines.flatten (lines.foldlM step) := by
  induction lines with
  | nil => exact fun before size => ⟨before, rfl, size, nofun, fun _ _ => rfl⟩
  | cons line rest ih =>
      intro before size
      obtain ⟨middle, stepped, middleSize, held, kept⟩ := settles line (by simp) before size
      obtain ⟨after, done, afterSize, laterHeld, laterKept⟩ :=
        ih (fun later member => settles later (by simp [member])) middle middleSize
      refine ⟨after, ?_, afterSize, fun place member => ?_, fun place absent => ?_⟩
      · exact List.foldlM_cons.trans (bind_eq_ok.2 ⟨middle, stepped, done⟩)
      · by_cases later : place ∈ rest.flatten
        · exact laterHeld place later
        · rw [laterKept place later]
          exact held place ((List.mem_append.1 member).resolve_right later)
      · rw [List.flatten_cons, List.mem_append, not_or] at absent
        rw [laterKept place absent.2, kept place absent.1]

variable (arithmetic : LineArithmetic α) {values written : Array α} {places : List Nat}

theorem exists_exponentials (greatest : α) (inside : ∀ place ∈ places, place < values.size)
    (reach : ∀ place ∈ places, place < written.size) (distinct : places.Nodup) :
    ∃ after, arithmetic.exponentials values greatest places written =
        .ok (after, ((places.map (arithmetic.element values)).map
          (arithmetic.exponential greatest)).foldl arithmetic.add arithmetic.zero) ∧
      after.size = written.size ∧
      (∀ place ∈ places, after[place]? =
        some (arithmetic.exponential greatest (arithmetic.element values place))) ∧
      ∀ place, place ∉ places → after[place]? = written[place]? := by
  have read : arithmetic.exponentials values greatest places written =
      (fun after => (after, places.foldl (fun sum place => arithmetic.add sum
        (arithmetic.exponential greatest (arithmetic.element values place))) arithmetic.zero)) <$>
      places.foldlM (fun written place => writeAt written place
        (arithmetic.exponential greatest (arithmetic.element values place))) written := by
    rw [← foldlM_alongside]
    refine foldlM_congr (fun place member state => ?_) _
    rw [readAt_getD arithmetic.zero (inside place member)]
    rfl
  obtain ⟨after, done, size, held, kept⟩ := @foldlM_scatter α Nat id places written
    (fun place => arithmetic.exponential greatest (arithmetic.element values place)) reach
    (by simpa using distinct)
  refine ⟨after, ?_, size, held, by simpa using kept⟩
  rw [read, List.foldl_map, List.foldl_map]
  exact map_eq_ok.2 ⟨after, done, rfl⟩

theorem exists_scaled (inverse : α) (reach : ∀ place ∈ places, place < written.size)
    (distinct : places.Nodup) :
    ∃ after, arithmetic.scaled inverse places written = .ok after ∧ after.size = written.size ∧
      (∀ place ∈ places,
        after[place]? = written[place]?.map fun value => arithmetic.multiply value inverse) ∧
      ∀ place, place ∉ places → after[place]? = written[place]? := by
  obtain ⟨after, done, size, each⟩ := @foldlM_addAt α Nat id places written
    (fun value _ => arithmetic.multiply value inverse) reach
  refine ⟨after, done, size, fun place member => ?_, fun place absent => ?_⟩
  · have once : places.filter (fun item => id item = place) = [place] := by
      refine (List.filter_eq place).trans ?_
      rw [List.count_eq_one_of_mem distinct member]
      rfl
    rw [each, once]
    rfl
  · have never : places.filter (fun item => id item = place) = [] :=
      List.filter_eq_nil_iff.2 fun item member => by
        rw [decide_eq_true_eq]
        rintro rfl
        exact absent member
    rw [each, never]
    exact Option.map_id'

theorem passes_settles {count : Nat} (size : values.size = count)
    (inside : ∀ place ∈ places, place < count) (distinct : places.Nodup) :
    Settles count (fun place => arithmetic.share (places.map (arithmetic.element values))
      (arithmetic.element values place)) places (arithmetic.passes values · places) := by
  intro before beforeSize
  have read : places.mapM (readAt values) = .ok (places.map (arithmetic.element values)) :=
    mapM_of_ok fun place member => readAt_getD _ (size ▸ inside place member)
  obtain ⟨middle, first, middleSize, held, kept⟩ := exists_exponentials arithmetic
    (arithmetic.greatest (places.map (arithmetic.element values))) (size ▸ inside)
    (beforeSize ▸ inside) distinct
  obtain ⟨after, second, afterSize, scaled, rest⟩ := exists_scaled arithmetic
    (arithmetic.divide arithmetic.one
      (arithmetic.total (places.map (arithmetic.element values))))
    (by rw [middleSize, beforeSize]; exact inside) distinct
  refine ⟨after, bind_eq_ok.2 ⟨_, read, bind_eq_ok.2 ⟨_, first, second⟩⟩,
    afterSize.trans (middleSize.trans beforeSize), fun place member => ?_, fun place absent => ?_⟩
  · rw [scaled place member, held place member]
    rfl
  · rw [rest place absent, kept place absent]

theorem softmaxOfLine_settles {values : Array Single} {count : Nat} (size : values.size = count)
    (inside : ∀ place ∈ places, place < count) (distinct : places.Nodup) :
    Settles count (fun place => LineArithmetic.single.share
      (places.map (LineArithmetic.single.element values))
      (LineArithmetic.single.element values place)) places
      (fun written => do
        let line ← places.mapM (readAt values)
        (places.zip (softmaxOfLine line)).foldlM
          (fun written entry => writeAt written entry.1 entry.2) written) := by
  intro before beforeSize
  have read : places.mapM (readAt values) =
      .ok (places.map (LineArithmetic.single.element values)) :=
    mapM_of_ok fun place member => readAt_getD _ (size ▸ inside place member)
  obtain ⟨after, done, afterSize, held, kept⟩ := @foldlM_scatter Single Nat id places before
    (fun place => LineArithmetic.single.share
      (places.map (LineArithmetic.single.element values))
      (LineArithmetic.single.element values place))
    (beforeSize ▸ inside) (by simpa using distinct)
  refine ⟨after, bind_eq_ok.2 ⟨_, read, ?_⟩, afterSize.trans beforeSize, held, by simpa using kept⟩
  rw [LineArithmetic.softmaxOfLine_eq, List.map_map, ← List.map_prod_left_eq_zip,
    List.foldlM_map]
  exact done

end Passes

section Loop

variable {α : Type} (arithmetic : LineArithmetic α) {values old : Array α} {dims : List Nat}
  {axis : Nat}

def LineArithmetic.shareAt (values : Array α) (dims : List Nat) (axis place : Nat) : α :=
  arithmetic.share ((lineAt dims axis place).map (arithmetic.element values))
    (arithmetic.element values place)

theorem settles_softmaxLines (inside : axis < dims.length)
    {step : Array α → List Nat → Attempt (Array α)}
    (settles : ∀ line, (∀ place ∈ line, place < volume dims) → line.Nodup →
      Settles (volume dims) (fun place => arithmetic.share (line.map (arithmetic.element values))
        (arithmetic.element values place)) line (step · line)) :
    Settles (volume dims) (arithmetic.shareAt values dims axis) (softmaxLines dims axis).flatten
      ((softmaxLines dims axis).foldlM step) := by
  refine settles_foldlM fun line visited => ?_
  have own := fun place member => @lineAt_of_mem dims axis inside line visited place member
  have distinct : line.Nodup := by
    obtain ⟨outerIndex, _, innerIndex, innerBound, rfl⟩ := mem_softmaxLines.1 visited
    exact nodup_softmaxLine innerBound outerIndex
  refine (settles line (fun place member => (own place member).2) distinct).congr
    fun place member => ?_
  unfold LineArithmetic.shareAt
  rw [(own place member).1]

/-- After the loop every element is its share of the line that it is on. -/
theorem exists_softmax (inside : axis < dims.length) (size : values.size = volume dims)
    (oldSize : old.size = volume dims) :
    ∃ written, arithmetic.softmax values dims axis old = .ok written ∧
      written.size = volume dims ∧
      ∀ place < volume dims,
        written[place]? = some (arithmetic.shareAt values dims axis place) := by
  obtain ⟨written, done, writtenSize, held, _⟩ := settles_softmaxLines arithmetic inside
    (fun line bounds distinct => passes_settles arithmetic size bounds distinct) old oldSize
  refine ⟨written, ?_, writtenSize, fun place bound =>
    held place ((softmaxLines_perm inside).mem_iff.2 (List.mem_range.2 bound))⟩
  unfold LineArithmetic.softmax
  rw [List.getElem?_eq_getElem inside]
  exact done

theorem softmaxInto_eq {values old : Array Single} (inside : axis < dims.length)
    (size : values.size = volume dims) (oldSize : old.size = volume dims) :
    softmaxInto values dims axis old = LineArithmetic.single.softmax values dims axis old := by
  have extent : dims[axis]? = some (dims.getD axis 0) := by simp [inside]
  have first := settles_softmaxLines LineArithmetic.single inside
    fun line bounds distinct => softmaxOfLine_settles size bounds distinct
  have second := settles_softmaxLines LineArithmetic.single inside
    fun line bounds distinct => passes_settles LineArithmetic.single size bounds distinct
  unfold softmaxInto LineArithmetic.softmax
  rw [extent]
  exact first.unique second (fun place bound =>
    (softmaxLines_perm inside).mem_iff.2 (List.mem_range.2 bound)) oldSize

theorem self_mem_lineThrough (inside : axis < dims.length) {index : List Nat}
    (within : Shape.Within index dims) : index ∈ lineThrough dims axis index :=
  (mem_lineThrough inside within).2 ⟨within, fun _ _ => rfl⟩

theorem shareAt_set (inside : axis < dims.length) {index changed : List Nat}
    (within : Shape.Within index dims) (changedWithin : Shape.Within changed dims)
    (apart : index ∉ lineThrough dims axis changed) (replacement : α) :
    arithmetic.shareAt
        (values.setIfInBounds (Shape.offset changed (Shape.strides dims)) replacement) dims axis
        (Shape.offset index (Shape.strides dims)) =
      arithmetic.shareAt values dims axis (Shape.offset index (Shape.strides dims)) := by
  have outside : Shape.offset changed (Shape.strides dims) ∉
      lineAt dims axis (Shape.offset index (Shape.strides dims)) := by
    rw [← lineThrough_places inside within]
    intro member
    obtain ⟨other, listed, same⟩ := List.mem_map.1 member
    have otherWithin := ((mem_lineThrough inside within).1 listed).1
    have coordinates := congrArg (Shape.coordinates dims) same
    rw [Shape.coordinates_offset otherWithin, Shape.coordinates_offset changedWithin] at coordinates
    subst coordinates
    exact apart (lineThrough_eq listed ▸ self_mem_lineThrough inside within)
  have kept : ∀ place ∈ lineAt dims axis (Shape.offset index (Shape.strides dims)),
      arithmetic.element
        (values.setIfInBounds (Shape.offset changed (Shape.strides dims)) replacement) place =
      arithmetic.element values place := by
    intro place member
    have other : Shape.offset changed (Shape.strides dims) ≠ place := fun same =>
      outside (same ▸ member)
    unfold LineArithmetic.element
    rw [Array.getD_eq_getD_getElem?, Array.getD_eq_getD_getElem?,
      Array.getElem?_setIfInBounds_ne other]
  unfold LineArithmetic.shareAt
  rw [List.map_congr_left kept,
    kept _ (lineAt_mem inside (Shape.offset_lt_volume within)).2]

end Loop

/-- The law of softmax, for every shape, every axis inside it and every arithmetic. The lines along
the axis, each of the indices that differ in that coordinate only, share out the positions of the
tensor. With both passes in the output itself every element ends as its share of its own line, so
that no other line sees it change; and the softmax of singles is the one by these passes. -/
theorem softmax_by_lines {dims : List Nat} {axis : Nat} (inside : axis < dims.length) :
    (softmaxLines dims axis).flatten.Perm (List.range (volume dims)) ∧
    (∀ index, Shape.Within index dims →
      (lineThrough dims axis index).map (fun other => Shape.offset other (Shape.strides dims)) ∈
        softmaxLines dims axis ∧
      index ∈ lineThrough dims axis index ∧
      (∀ other, other ∈ lineThrough dims axis index ↔ Shape.Within other dims ∧
        ∀ place, place ≠ axis → other[place]? = index[place]?) ∧
      ∀ other ∈ lineThrough dims axis index,
        lineThrough dims axis other = lineThrough dims axis index) ∧
    (∀ (α : Type) (arithmetic : LineArithmetic α) (values old : Array α),
      values.size = volume dims → old.size = volume dims → ∃ written,
        arithmetic.softmax values dims axis old = .ok written ∧ written.size = volume dims ∧
        (∀ index, Shape.Within index dims → ∃ line value,
          (lineThrough dims axis index).map
              (fun other => values[Shape.offset other (Shape.strides dims)]?) = line.map some ∧
          values[Shape.offset index (Shape.strides dims)]? = some value ∧
          written[Shape.offset index (Shape.strides dims)]? =
            some (arithmetic.share line value)) ∧
        ∀ changed replacement, Shape.Within changed dims → ∃ rewritten,
          arithmetic.softmax
              (values.setIfInBounds (Shape.offset changed (Shape.strides dims)) replacement) dims
              axis old = .ok rewritten ∧
          ∀ index, Shape.Within index dims → index ∉ lineThrough dims axis changed →
            rewritten[Shape.offset index (Shape.strides dims)]? =
              written[Shape.offset index (Shape.strides dims)]?) ∧
    (∀ values old : Array Single, values.size = volume dims → old.size = volume dims →
      softmaxInto values dims axis old = LineArithmetic.single.softmax values dims axis old) ∧
    ∀ (input output : Tensor) (derived : Option Derived), input.Valid → output.Valid →
      input.elementType = .f32 → output.elementType = .f32 → input.dims = dims →
      output.dims = dims → ∃ values old written,
        input.buffer = .f32 values ∧ output.buffer = .f32 old ∧
        LineArithmetic.single.softmax values dims axis old = .ok written ∧
        softmaxKernel.run ⟨.softmax axis, [input], [output], derived⟩ =
          ⟨[output.withSingles written], .ok ()⟩ := by
  refine ⟨softmaxLines_perm inside, fun index within => ⟨?_, self_mem_lineThrough inside within,
    fun other => mem_lineThrough inside within, fun other member => lineThrough_eq member⟩,
    fun α arithmetic values old size oldSize => ?_,
    fun values old size oldSize => softmaxInto_eq inside size oldSize,
    fun input output derived valid outValid singles outSingles own outOwn => ?_⟩
  · rw [lineThrough_places inside within]
    exact (lineAt_mem inside (Shape.offset_lt_volume within)).1
  · obtain ⟨written, done, writtenSize, held⟩ := exists_softmax arithmetic inside size oldSize
    have read : ∀ index, Shape.Within index dims →
        values[Shape.offset index (Shape.strides dims)]? =
          some (arithmetic.element values (Shape.offset index (Shape.strides dims))) :=
      fun index within => readAt_eq_ok.1
        (readAt_getD arithmetic.zero (size.symm ▸ Shape.offset_lt_volume within))
    refine ⟨written, done, writtenSize, fun index within => ?_,
      fun changed replacement changedWithin => ?_⟩
    · refine ⟨(lineAt dims axis (Shape.offset index (Shape.strides dims))).map
        (arithmetic.element values), _, ?_, read index within,
        held _ (Shape.offset_lt_volume within)⟩
      rw [← lineThrough_places inside within, List.map_map, List.map_map]
      exact List.map_congr_left fun other member =>
        read other ((mem_lineThrough inside within).1 member).1
    · obtain ⟨rewritten, redone, _, reheld⟩ := exists_softmax arithmetic inside
        (Array.size_setIfInBounds.trans size) oldSize
      refine ⟨rewritten, redone, fun index within apart => ?_⟩
      have bound := Shape.offset_lt_volume within
      rw [reheld _ bound, held _ bound,
        shareAt_set arithmetic inside within changedWithin apart replacement]
  · subst own
    obtain ⟨values, held, size⟩ := valid.singles singles
    obtain ⟨old, outHeld, oldSize⟩ := outValid.singles outSingles
    have whole : old.size = volume input.dims := oldSize.trans (congrArg volume outOwn)
    obtain ⟨written, done, _⟩ := exists_softmax LineArithmetic.single inside size whole
    refine ⟨values, old, written, held, outHeld, done, Kernel.run_ofBody_ok ?_⟩
    unfold softmaxBody
    simp only [bind_eq_ok, lift_eq_ok, guard_eq_ok, map_eq_ok]
    exact ⟨input, rfl, Nat.not_le.2 inside, ⟨output, old⟩, Call.singleOutput_eq outHeld _, values,
      Tensor.singlesFor_eq held _, written, (softmaxInto_eq inside size whole).trans done, rfl⟩

def wholeArithmetic : LineArithmetic Int where
  lowest := -100
  zero := 0
  one := 640
  maximum := max
  subtract := (· - ·)
  exp value := Int.pow 2 (value + 8).toNat
  add := (· + ·)
  multiply := (· * ·)
  divide := (· / ·)

theorem columns_softmax_by_lines :
    0 < [2, 2].length ∧ ∃ written rewritten,
      wholeArithmetic.softmax #[1, 2, 3, 4] [2, 2] 0 #[0, 0, 0, 0] = .ok written ∧
      written[1]? = some 128 ∧
      wholeArithmetic.softmax #[9, 2, 3, 4] [2, 2] 0 #[0, 0, 0, 0] = .ok rewritten ∧
      rewritten[1]? = some 128 := by
  have inside : 0 < [2, 2].length := by decide
  obtain ⟨_, _, shares, _⟩ := softmax_by_lines inside
  obtain ⟨written, done, _, each, changes⟩ :=
    shares Int wholeArithmetic #[1, 2, 3, 4] #[0, 0, 0, 0] rfl rfl
  obtain ⟨line, value, lineRead, valueRead, found⟩ := each [0, 1] (by decide)
  have column : line = [2, 4] := List.map_injective_iff.2 (fun _ _ => Option.some.inj) lineRead.symm
  subst column
  cases valueRead
  obtain ⟨rewritten, redone, kept⟩ := changes [0, 0] 9 (by decide)
  exact ⟨inside, written, rewritten, done, found, redone,
    (kept [0, 1] (by decide) (by decide)).trans found⟩

end TensorRuntime
