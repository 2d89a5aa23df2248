import TensorRuntime.Proofs.InPlace.Basic

/-!
Loops over a buffer in place, for each type of element. One that writes every element in turn
leaves the array that is tabulated from what it writes.
-/

namespace TensorRuntime

open Attempt

section Arrays

variable {α β : Type}

section Extracts

variable {values : Array β} {place : Nat}

theorem extract_through (inside : place < values.size) (value : β) :
    (values.setIfInBounds place value).extract 0 (place + 1) =
      values.extract 0 place ++ #[value] := by
  have outside : ¬ place < min place values.size := by omega
  rw [Array.extract_succ_right (by omega) (by simpa using inside)]
  simp [Array.setIfInBounds, inside, Array.extract_set, outside]

theorem extract_past {start : Nat} (past : place < start) (value : β) (stop : Nat) :
    (values.setIfInBounds place value).extract start stop = values.extract start stop := by
  unfold Array.setIfInBounds
  split
  · rw [Array.extract_set, dif_pos past]
  · rfl

theorem extract_from (inside : place < values.size) :
    values.extract place values.size =
      #[values[place]] ++ values.extract (place + 1) values.size := by
  have one : values.extract place (place + 1) = #[values[place]] := by
    rw [Array.extract_succ_right (by omega) inside,
      Array.extract_empty_of_stop_le_start (Nat.le_refl place)]
    rfl
  rw [← one, Array.extract_append_extract]
  congr 1 <;> omega

end Extracts

theorem foldlM_writeAt {items : List α} {place : α → Nat} {value : α → Attempt β}
    {old : Array β} {start : Nat} (places : items.map place = List.range' start items.length)
    (room : start + items.length ≤ old.size) :
    items.foldlM (fun written item => do writeAt written (place item) (← value item)) old =
      (fun values => old.extract 0 start ++ values.toArray ++
        old.extract (start + items.length) old.size) <$> items.mapM value := by
  induction items generalizing old start with
  | nil =>
      change Except.ok old =
        Except.ok (old.extract 0 start ++ #[] ++ old.extract (start + 0) old.size)
      rw [Array.append_empty, Nat.add_zero, Array.extract_append_extract]
      simpa using (Array.extract_eq_self_of_le (Nat.le_max_right start old.size)).symm
  | cons item rest ih =>
      rw [List.map_cons, List.length_cons, List.range'_succ, List.cons.injEq] at places
      rw [List.length_cons] at room
      rw [List.foldlM_cons, List.mapM_cons]
      cases valued : value item with
      | error fault => rfl
      | ok first =>
          have wrote : writeAt old (place item) first =
              .ok (old.setIfInBounds (place item) first) := if_pos (by omega)
          change (writeAt old (place item) first >>= fun written => rest.foldlM _ written) = _
          rw [wrote]
          change rest.foldlM _ (old.setIfInBounds (place item) first) = _
          rw [@ih _ (start + 1) places.2 (by simp; omega), places.1,
            extract_through (by omega), extract_past (by omega), Array.size_setIfInBounds,
            List.length_cons, Nat.add_right_comm]
          cases rest.mapM value with
          | error fault => rfl
          | ok values =>
              change Except.ok _ = Except.ok _
              simp [Nat.add_assoc]

theorem foldlM_range_writeAt {old : Array β} {value : Nat → Attempt β} :
    (List.range old.size).foldlM (fun written index => do writeAt written index (← value index))
      old = tabulate old.size value := by
  refine (@foldlM_writeAt _ _ (List.range old.size) id value old 0
    (by simp [List.range_eq_range']) (by simp)).trans ?_
  simp [tabulate]

theorem foldlM_modify_from (function : β → β) {count start : Nat} {written : Array β}
    (reach : start + count = written.size) :
    (List.range' start count).foldlM (fun written index => do
      writeAt written index (function (← readAt written index))) written =
        .ok (written.extract 0 start ++ (written.extract start written.size).map function) := by
  induction count generalizing start written with
  | zero =>
      rw [show start = written.size by omega]
      change Except.ok written = _
      simp
  | succ count ih =>
      have bound : start < written.size := by omega
      have wrote : writeAt written start (function written[start]) =
          .ok (written.setIfInBounds start (function written[start])) := if_pos bound
      rw [List.range'_succ, List.foldlM_cons, readAt_of_lt bound]
      change (writeAt written start (function written[start]) >>= _) = _
      rw [wrote]
      have later : start + 1 + count =
          (written.setIfInBounds start (function written[start])).size := by simp; omega
      refine (ih later).trans (congrArg _ ?_)
      rw [extract_through bound, Array.size_setIfInBounds, extract_past (by omega),
        extract_from bound]
      simp

theorem foldlM_range_modify (old : Array β) (function : β → β) :
    (List.range old.size).foldlM (fun written index => do
      writeAt written index (function (← readAt written index))) old = .ok (old.map function) := by
  rw [List.range_eq_range', foldlM_modify_from function (Nat.zero_add _)]
  simp

def writeRun (values : Array β) (start : Nat) (run : Array β) : Attempt (Array β) :=
  if start + run.size ≤ values.size then
    pure (values.extract 0 start ++ run ++ values.extract (start + run.size) values.size)
  else Attempt.abort

theorem unrefused_writeRun (values : Array β) (start : Nat) (run : Array β) :
    (writeRun values start run).Unrefused := by
  unfold writeRun
  split
  · exact failsOnly_pure _
  · exact unrefused_abort

theorem extract_written {values run : Array β} {start stop : Nat}
    (fits : start + run.size ≤ values.size)
    (ends : start + run.size = stop ∨ start + run.size = values.size ∧ values.size ≤ stop) :
    (values.extract 0 start ++ run ++ values.extract (start + run.size) values.size).extract 0
      stop = values.extract 0 start ++ run := by
  have size : (values.extract 0 start ++ run).size = start + run.size := by
    rw [Array.size_append, Array.size_extract]
    omega
  rw [Array.extract_append, size]
  rcases ends with rfl | ⟨whole, past⟩
  · rw [Array.extract_eq_self_of_le (by omega), Nat.sub_self]
    simp
  · rw [Array.extract_eq_self_of_le (by omega), whole,
      Array.extract_empty_of_stop_le_start (Nat.le_refl _)]
    simp

section Rows

variable {width size : Nat} {row : Nat → Nat → Attempt (Array β)}

theorem rows_reach (wide : 0 < width) (size : Nat) :
    size ≤ (size + width - 1) / width * width := by
  have covered := @Nat.lt_div_mul_add (size + width - 1) width wide
  omega

theorem row_starts (wide : 0 < width) {place : Nat} (counted : place < (size + width - 1) / width) :
    place * width < size := by
  have reached := (Nat.le_div_iff_mul_le wide).1 (Nat.succ_le_of_lt counted)
  rw [Nat.succ_mul] at reached
  omega

theorem foldlM_writeRun_from (wide : 0 < width)
    (sized : ∀ size place made, row size place = .ok made → made.size = size)
    {count first : Nat} {written : Array β} (same : written.size = size)
    (reach : first + count = (size + width - 1) / width) :
    (List.range' first count).foldlM (fun written place => do
      writeRun written (place * width) (← row (min width (size - place * width)) place)) written =
      (fun rows => rows.foldl (· ++ ·) (written.extract 0 (first * width))) <$>
        (List.range' first count).mapM fun place =>
          row (min width (size - place * width)) place := by
  induction count generalizing first written with
  | zero =>
      have past := rows_reach wide size
      rw [← reach, Nat.add_zero] at past
      change Except.ok written = Except.ok (written.extract 0 (first * width))
      rw [Array.extract_eq_self_of_le (by omega)]
  | succ count ih =>
      have inside : first * width < size := row_starts wide (by omega)
      rw [List.range'_succ, List.foldlM_cons, List.mapM_cons]
      cases computed : row (min width (size - first * width)) first with
      | error fault => rfl
      | ok made =>
          have length := sized _ _ _ computed
          have wrote : writeRun written (first * width) made = .ok (written.extract 0
              (first * width) ++ made ++ written.extract (first * width + made.size)
                written.size) := if_pos (by omega)
          change (writeRun written (first * width) made >>= fun written =>
            (List.range' (first + 1) count).foldlM _ written) = _
          rw [wrote]
          have stop : first * width + made.size = (first + 1) * width ∨
              first * width + made.size = written.size ∧ written.size ≤ (first + 1) * width := by
            rw [Nat.succ_mul]
            omega
          refine (ih (by simp; omega) (by omega)).trans ?_
          rw [extract_written (by omega) stop]
          cases (List.range' (first + 1) count).mapM fun place =>
              row (min width (size - place * width)) place with
          | error fault => rfl
          | ok rows => rfl

theorem foldlM_writeRun (wide : 0 < width) {old : Array β}
    (sized : ∀ size place made, row size place = .ok made → made.size = size) :
    (List.range ((old.size + width - 1) / width)).foldlM (fun written place => do
      writeRun written (place * width) (← row (min width (old.size - place * width)) place)) old =
      (fun rows => rows.foldl (· ++ ·) #[]) <$>
        (List.range ((old.size + width - 1) / width)).mapM fun place =>
          row (min width (old.size - place * width)) place := by
  rw [List.range_eq_range', foldlM_writeRun_from wide sized rfl (Nat.zero_add _)]
  simp

end Rows

theorem foldlM_wrap {γ : Type} {items : List α} {wrap : β → γ} {change : γ → α → Attempt γ}
    {step : β → α → Attempt β} (each : ∀ values item, change (wrap values) item =
      wrap <$> step values item) (old : β) :
    items.foldlM change (wrap old) = wrap <$> items.foldlM step old := by
  induction items generalizing old with
  | nil => rfl
  | cons item rest ih =>
      rw [List.foldlM_cons, List.foldlM_cons, each]
      cases step old item with
      | error fault => rfl
      | ok values => exact ih values

theorem mapM_map_right {γ : Type} {items : List α} {step : α → Attempt β} {turn : β → γ} :
    items.mapM (fun item => turn <$> step item) = List.map turn <$> items.mapM step := by
  induction items with
  | nil => rfl
  | cons item rest ih =>
      rw [List.mapM_cons, List.mapM_cons, ih]
      cases step item with
      | error fault => rfl
      | ok value => cases rest.mapM step <;> rfl

theorem mapIdxM_go_eq {values : Array α} {function : Nat → α → Attempt β} {items : List α}
    {built : Array β} (left : values.toList.drop built.size = items) :
    List.mapIdxM.go function items built = (built.toList ++ ·) <$>
      (List.range' built.size items.length).mapM fun index =>
        readAt values index >>= function index := by
  induction items generalizing built with
  | nil => simp [List.mapIdxM.go]
  | cons item rest ih =>
      have bound : built.size < values.size := by
        have length := congrArg List.length left
        simp only [List.length_drop, Array.length_toList, List.length_cons] at length
        omega
      rw [List.drop_eq_getElem_cons (by simpa using bound), List.cons.injEq] at left
      have here : readAt values built.size = .ok item := by
        rw [readAt_of_lt bound, ← left.1]
        rfl
      rw [List.mapIdxM.go, List.length_cons, List.range'_succ, List.mapM_cons, here]
      change (function built.size item >>= _) = (built.toList ++ ·) <$>
        (function built.size item >>= _)
      cases computed : function built.size item with
      | error fault => rfl
      | ok value =>
          have leftAfter : values.toList.drop (built.push value).size = rest := by
            rw [Array.size_push]
            exact left.2
          change List.mapIdxM.go function rest (built.push value) = _
          rw [ih leftAfter, Array.size_push]
          generalize (List.range' (built.size + 1) rest.length).mapM (fun index =>
            readAt values index >>= function index) = later
          cases later with
          | error fault => rfl
          | ok results =>
              change Except.ok _ = Except.ok _
              simp

theorem mapIdxM_eq_tabulate (values : Array α) (function : Nat → α → Attempt β) :
    values.mapIdxM function =
      tabulate values.size fun index => readAt values index >>= function index := by
  have listed : Array.toList <$> values.mapIdxM function = values.toList.mapIdxM function :=
    Array.toList_mapIdxM
  have whole : values.toList.mapIdxM function = _ :=
    @mapIdxM_go_eq _ _ values function values.toList #[] (by simp)
  rw [whole] at listed
  have arrays := congrArg (List.toArray <$> ·) listed
  simpa [tabulate, List.range_eq_range'] using arrays

theorem mapIdx_eq_tabulate (values : Array α) (function : Nat → α → β) :
    (tabulate values.size fun index => do return function index (← readAt values index)) =
      .ok (values.mapIdx function) := by
  refine tabulate_eq_ok.2 ⟨by simp, fun index bound => ?_⟩
  have inside : index < values.size := by simpa using bound
  rw [readAt_of_lt inside]
  simp [pure, Except.pure, bind, Except.bind]

theorem tabulate_pure (value : α) (count : Nat) :
    tabulate count (fun _ => pure value) = .ok (Array.replicate count value) :=
  tabulate_eq_ok.2 ⟨by simp, fun index bound => by simp [pure, Except.pure]⟩

theorem tabulate_map {γ : Type} {count : Nat} {element : Nat → Attempt β} {turn : β → γ} :
    tabulate count (fun index => turn <$> element index) =
      Array.map turn <$> tabulate count element := by
  unfold tabulate
  rw [mapM_map_right]
  cases (List.range count).mapM element with
  | error fault => rfl
  | ok values => simp [Functor.map, Except.map]

end Arrays

structure Buffer.Form (β : Type) where
  wrap : Array β → Buffer
  view? : Buffer → Option (Array β)
  view?_wrap : ∀ values, view? (wrap values) = some values := by
    intro _
    rfl
  wrap_view? : ∀ buffer values, view? buffer = some values → wrap values = buffer := by
    intro buffer values seen
    cases buffer <;> cases seen
    rfl
  alike : ∀ first second, first.size = second.size →
      (wrap first).elementType = (wrap second).elementType ∧
        (wrap first).byteCount = (wrap second).byteCount := by
    simp [Buffer.elementType, Buffer.byteCount]

namespace Buffer.Form

variable {β : Type}

def f32 : Form Single where
  wrap := .f32
  view?
    | .f32 values => some values
    | _ => none

def f16 : Form Half where
  wrap := .f16
  view?
    | .f16 values => some values
    | _ => none

def i8 : Form Int8 where
  wrap := .i8
  view?
    | .i8 values => some values
    | _ => none

def u8 : Form UInt8 where
  wrap := .u8
  view?
    | .u8 values => some values
    | _ => none

def i16 : Form Int16 where
  wrap := .i16
  view?
    | .i16 values => some values
    | _ => none

def i32 : Form Int32 where
  wrap := .i32
  view?
    | .i32 values => some values
    | _ => none

def bool : Form UInt8 where
  wrap := .bool
  view?
    | .bool packed => some packed
    | _ => none

def change (form : Form β) (update : Array β → Attempt (Array β)) (buffer : Buffer) :
    Attempt Buffer :=
  match form.view? buffer with
  | some values => form.wrap <$> update values
  | none => Attempt.abort

theorem change_wrap (form : Form β) (update : Array β → Attempt (Array β)) (values : Array β) :
    form.change update (form.wrap values) = form.wrap <$> update values := by
  unfold change
  rw [form.view?_wrap]

theorem unrefused_change {form : Form β} {update : Array β → Attempt (Array β)}
    (unrefused : ∀ values, (update values).Unrefused) (buffer : Buffer) :
    (form.change update buffer).Unrefused := by
  unfold change
  split
  · exact (unrefused _).map _
  · exact unrefused_abort

end Buffer.Form

namespace InPlace

variable {α β : Type} {form : Buffer.Form β}

def sweep (form : Buffer.Form β) (items : List α) (step : Array β → α → Attempt (Array β)) :
    InPlace Unit :=
  items.forM fun item => rewrite (form.change (step · item))

def fill (form : Buffer.Form β) (count : Nat) (element : Nat → Attempt β) : InPlace Unit :=
  sweep form (List.range count) fun values index => do writeAt values index (← element index)

def mapEach (form : Buffer.Form β) (count : Nat) (function : β → β) : InPlace Unit :=
  sweep form (List.range count) fun values index => do
    writeAt values index (function (← readAt values index))

def fillIntegers (elementType : ElementType) (count : Nat) (element : Nat → Attempt Int) :
    InPlace Unit :=
  match elementType with
  | .i8 => fill .i8 count fun index => Int8.ofInt <$> element index
  | .u8 => fill .u8 count fun index => (fun value => UInt8.ofNat (value % 256).toNat) <$>
      element index
  | .i16 => fill .i16 count fun index => Int16.ofInt <$> element index
  | .i32 => fill .i32 count fun index => Int32.ofInt <$> element index
  | _ => Attempt.abort

theorem fills_sweep {items : List α} {step : Array β → α → Attempt (Array β)}
    (unrefused : ∀ item ∈ items, ∀ values, (step values item).Unrefused) (old : Array β) :
    (sweep form items step).Fills (form.wrap old) (form.wrap <$> items.foldlM step old) := by
  rw [← @foldlM_wrap _ _ _ _ form.wrap (fun buffer item => form.change (step · item) buffer) step
    fun values item => form.change_wrap _ values]
  exact fills_forM fun item member => Buffer.Form.unrefused_change (unrefused item member)

theorem fills_fill {old : Array β} {element : Nat → Attempt β}
    (unrefused : ∀ index, (element index).Unrefused) :
    (fill form old.size element).Fills (form.wrap old) (form.wrap <$> tabulate old.size element) :=
  by
  rw [← foldlM_range_writeAt]
  exact fills_sweep (fun index _ values => (unrefused index).bind fun _ _ =>
    unrefused_writeAt _ _ _) old

theorem fills_mapEach (old : Array β) (function : β → β) :
    (mapEach form old.size function).Fills (form.wrap old)
      (form.wrap <$> (pure (old.map function) : Attempt (Array β))) := by
  change (mapEach form old.size function).Fills _ (form.wrap <$> .ok (old.map function))
  rw [← foldlM_range_modify]
  exact fills_sweep (fun index _ values => (unrefused_readAt _ _).bind fun _ _ =>
    unrefused_writeAt _ _ _) old

section Sequences

variable {routine next : InPlace Unit} {before : Buffer} {result : Attempt (Array β)}

theorem wrap_check {γ : Type} {first : Attempt γ} {further : γ → InPlace Unit}
    {rest : γ → Attempt (Array β)} (unrefused : first.Unrefused)
    (fills : ∀ value, first = .ok value →
      (further value).Fills before (form.wrap <$> rest value)) :
    (liftM first >>= further : InPlace Unit).Fills before (form.wrap <$> (first >>= rest)) := by
  rw [map_bind]
  exact fills_check unrefused fills

theorem wrap_assert {condition : Prop} [Decidable condition] {further : PUnit → InPlace Unit}
    {taken : PUnit → Attempt (Array β)}
    (fills : ¬ condition → routine.Fills before (form.wrap <$> result)) :
    (if condition then liftM (abort : Attempt PUnit) >>= further else routine).Fills before
      (form.wrap <$> (if condition then abort >>= taken else result)) := by
  by_cases holds : condition
  · rw [if_pos holds, if_pos holds]
    exact wrap_check unrefused_abort fun value impossible => by cases impossible
  · rw [if_neg holds, if_neg holds]
    exact fills holds

theorem Fills.wrap_seq (fills : routine.Fills before (form.wrap <$> result))
    {later : Array β → Attempt (Array β)} (fillsNext : ∀ values, result = .ok values →
      next.Fills (form.wrap values) (form.wrap <$> later values)) :
    (do routine; next : InPlace Unit).Fills before (form.wrap <$> (result >>= later)) := by
  have changed : form.wrap <$> (result >>= later) = form.wrap <$> result >>= form.change later := by
    cases result with
    | error fault => rfl
    | ok values => exact (form.change_wrap later values).symm
  rw [changed]
  refine fills.seq fun middle done => ?_
  obtain ⟨values, made, rfl⟩ := map_eq_ok.1 done
  rw [form.change_wrap]
  exact fillsNext values made

theorem wrap_filled {old : Array β} {value : β}
    (fills : next.Fills (form.wrap (Array.replicate old.size value)) (form.wrap <$> result)) :
    (do fill form old.size fun _ => pure value; next : InPlace Unit).Fills (form.wrap old)
      (form.wrap <$> result) := by
  have filled := @fills_fill _ form old (fun _ => pure value) fun _ => failsOnly_pure _
  rw [tabulate_pure] at filled
  refine @Fills.wrap_seq _ form _ _ _ _ filled (fun _ => result) fun values same => ?_
  cases same
  exact fills

end Sequences

theorem fills_fillIntegers {buffer : Buffer} {old : Array Int}
    (held : buffer.integers? = some old) {element : Nat → Attempt Int}
    (unrefused : ∀ index, (element index).Unrefused) :
    (fillIntegers buffer.elementType old.size element).Fills buffer (do
      let stored ← tabulate old.size element
      match Buffer.ofIntegers? buffer.elementType stored with
      | some buffer => pure buffer
      | none => Attempt.abort) := by
  cases buffer with
  | f32 | f16 | bool => cases held
  | i8 values | u8 values | i16 values | i32 values =>
      cases held
      rw [Array.size_map]
      refine cast (congrArg _ ?_) (@fills_fill _ _ values _ fun index => (unrefused index).map _)
      rw [tabulate_map]
      cases tabulate values.size element <;> rfl

end InPlace

end TensorRuntime
