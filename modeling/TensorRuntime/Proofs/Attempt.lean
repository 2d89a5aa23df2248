import TensorRuntime.Kernel.Arguments

/-!
How attempts compose: what a successful step says about the steps inside it, and
what arrays that are computed or read element by element hold.
-/

namespace TensorRuntime

namespace Attempt

theorem bind_eq_ok {ε α β : Type} {first : Except ε α} {next : α → Except ε β} {result : β} :
    first >>= next = .ok result ↔ ∃ value, first = .ok value ∧ next value = .ok result := by
  cases first with
  | error fault =>
      constructor
      · intro impossible
        cases impossible
      · rintro ⟨value, impossible, _⟩
        cases impossible
  | ok value =>
      constructor
      · intro done
        exact ⟨value, rfl, done⟩
      · rintro ⟨other, same, done⟩
        cases same
        exact done

theorem map_eq_ok {ε α β : Type} {function : α → β} {first : Except ε α} {result : β} :
    function <$> first = .ok result ↔ ∃ value, first = .ok value ∧ function value = result := by
  cases first with
  | error fault =>
      constructor
      · intro impossible
        cases impossible
      · rintro ⟨value, impossible, _⟩
        cases impossible
  | ok value =>
      constructor
      · intro done
        cases done
        exact ⟨value, rfl, rfl⟩
      · rintro ⟨other, same, rfl⟩
        cases same
        rfl

theorem pure_eq_ok {ε α : Type} {first second : α} :
    (pure first : Except ε α) = .ok second ↔ first = second := by
  constructor
  · intro same
    cases same
    rfl
  · rintro rfl
    rfl

theorem lift_eq_ok {α : Type} {first : Except Error α} {result : α} :
    (liftM first : Attempt α) = .ok result ↔ first = .ok result := by
  cases first with
  | error error =>
      constructor <;> intro impossible <;> cases impossible
  | ok value =>
      constructor <;> intro same <;> cases same <;> rfl

theorem refuse_bind {α β : Type} (error : Error) (next : α → Attempt β) :
    (refuse error : Attempt α) >>= next = refuse error := rfl

theorem lift_ok_bind {α β : Type} (value : α) (next : α → Attempt β) :
    (liftM (.ok value : Except Error α) : Attempt α) >>= next = next value := rfl

theorem abort_ne_ok {α : Type} {result : α} : (abort : Attempt α) = .ok result ↔ False := by
  constructor <;> intro impossible <;> cases impossible

theorem stop_eq_ok {ε α : Type} {condition : Prop} [Decidable condition]
    {stopped rest : Except ε α} {result : α} (stops : stopped ≠ .ok result) :
    (if condition then stopped else rest) = .ok result ↔ ¬ condition ∧ rest = .ok result := by
  by_cases holds : condition
  · rw [if_pos holds]
    constructor
    · intro impossible
      exact absurd impossible stops
    · rintro ⟨passed, _⟩
      exact absurd holds passed
  · rw [if_neg holds]
    simp [holds]

theorem guard_eq_ok {α : Type} {condition : Prop} [Decidable condition] {error : Error}
    {next : PUnit → Attempt α} {rest : Attempt α} {result : α} :
    (if condition then (refuse error : Attempt PUnit) >>= next else rest) = .ok result ↔
      ¬ condition ∧ rest = .ok result :=
  stop_eq_ok fun impossible => by cases impossible

theorem check_eq_ok {ε α : Type} {condition : Prop} [Decidable condition] {error : ε}
    {next : PUnit → Except ε α} {rest : Except ε α} {result : α} :
    (if condition then (throw error : Except ε PUnit) >>= next else rest) = .ok result ↔
      ¬ condition ∧ rest = .ok result :=
  stop_eq_ok fun impossible => by cases impossible

theorem assert_eq_ok {α : Type} {condition : Prop} [Decidable condition]
    {next : PUnit → Attempt α} {rest : Attempt α} {result : α} :
    (if condition then (abort : Attempt PUnit) >>= next else rest) = .ok result ↔
      ¬ condition ∧ rest = .ok result :=
  stop_eq_ok fun impossible => by cases impossible

theorem mapError_eq_ok {α : Type} {outcome : Attempt α} {change : Fault → Fault} {value : α} :
    outcome.mapError change = .ok value ↔ outcome = .ok value := by
  cases outcome with
  | ok _ => exact Iff.rfl
  | error _ => exact ⟨nofun, nofun⟩

theorem mapError_eq_error {α : Type} {outcome : Attempt α} {change : Fault → Fault}
    {fault : Fault} :
    outcome.mapError change = .error fault ↔ ∃ own, outcome = .error own ∧ change own = fault := by
  cases outcome with
  | ok _ => exact ⟨nofun, fun ⟨_, impossible, _⟩ => nomatch impossible⟩
  | error own =>
      constructor
      · intro same
        exact ⟨own, rfl, Except.error.inj same⟩
      · rintro ⟨_, same, rfl⟩
        cases same
        rfl

theorem eq_ok_of_toBool {outcome : Attempt Unit} (done : outcome.toBool = true) :
    outcome = .ok () := by
  cases outcome with
  | error fault => cases done
  | ok _ => rfl

theorem bind_congr_ok {α β : Type} {first : Attempt α} {next next' : α → Attempt β}
    (same : ∀ value, first = .ok value → next' value = next value) :
    (first >>= next') = first >>= next := by
  cases first with
  | error fault => rfl
  | ok value => exact same value rfl

theorem bind_moved {ε α α' β β' : Type} {first : Except ε α} {first' : Except ε α'}
    {next : α → Except ε β} {next' : α' → Except ε β'} (move : α → α') (turn : β → β')
    (moved : first' = move <$> first)
    (rest : ∀ value, first = .ok value → next' (move value) = turn <$> next value) :
    first' >>= next' = turn <$> (first >>= next) := by
  subst moved
  cases first with
  | error fault => rfl
  | ok value => exact rest value rfl

theorem bind_alike {ε α β β' : Type} {first : Except ε α} {next : α → Except ε β}
    {next' : α → Except ε β'} (turn : β → β')
    (rest : ∀ value, first = .ok value → next' value = turn <$> next value) :
    first >>= next' = turn <$> (first >>= next) :=
  bind_moved id turn (id_map first).symm rest

theorem if_moved {ε β β' : Type} {condition : Prop} [Decidable condition]
    {taken other : Except ε β} {taken' other' : Except ε β'} (turn : β → β')
    (holds : taken' = turn <$> taken) (fails : other' = turn <$> other) :
    (if condition then taken' else other') =
      turn <$> (if condition then taken else other) := by
  split
  · exact holds
  · exact fails

theorem lift_map {α β : Type} (move : α → β) (first : Except Error α) :
    (liftM (move <$> first) : Attempt β) = move <$> (liftM first : Attempt α) := by
  cases first <;> rfl

theorem toOption_bind {ε α β : Type} (first : Except ε α) (next : α → Except ε β) :
    (first >>= next).toOption = first.toOption.bind fun value => (next value).toOption := by
  cases first <;> rfl

theorem toOption_map {ε α β : Type} (function : α → β) (first : Except ε α) :
    (function <$> first).toOption = first.toOption.map function := by
  cases first <;> rfl

theorem toOption_lift {α : Type} (first : Except Error α) :
    (liftM first : Attempt α).toOption = first.toOption := by
  cases first <;> rfl

theorem toOption_eq_some {ε α : Type} {first : Except ε α} {result : α} :
    first.toOption = some result ↔ first = .ok result := by
  cases first with
  | error fault =>
      constructor <;> intro impossible <;> cases impossible
  | ok value =>
      constructor <;> intro same <;> cases same <;> rfl

theorem mapM_eq_ok {ε α β : Type} {function : α → Except ε β} {items : List α}
    {results : List β} :
    items.mapM function = .ok results ↔ items.map function = results.map .ok := by
  induction items generalizing results with
  | nil => cases results <;> simp [pure_eq_ok]
  | cons item rest ih =>
      rw [List.mapM_cons]
      simp only [bind_eq_ok, pure_eq_ok, ih]
      cases results with
      | nil => simp
      | cons result results =>
          simp only [List.map_cons, List.cons.injEq]
          constructor
          · rintro ⟨_, first, _, others, rfl, rfl⟩
            exact ⟨first, others⟩
          · rintro ⟨first, others⟩
            exact ⟨result, first, results, others, rfl, rfl⟩

theorem reads_of_mapM {ε α β γ δ : Type} {step : α → Except ε β} {read : α → γ} {result : β → δ}
    {items items' : List α} {values values' : List β}
    (each : ∀ item ∈ items, ∀ item' ∈ items', ∀ value value', read item' = read item →
      step item = .ok value → step item' = .ok value' → result value' = result value)
    (same : items'.map read = items.map read) (done : items.mapM step = .ok values)
    (done' : items'.mapM step = .ok values') : values'.map result = values.map result := by
  induction items generalizing items' values values' with
  | nil =>
      obtain rfl := List.map_eq_nil_iff.1 same
      cases done
      cases done'
      rfl
  | cons item rest ih =>
      cases items' with
      | nil => cases same
      | cons item' rest' =>
          simp only [List.map_cons, List.cons.injEq] at same
          rw [List.mapM_cons] at done done'
          simp only [bind_eq_ok, pure_eq_ok] at done done'
          obtain ⟨value, first, others, remaining, rfl⟩ := done
          obtain ⟨value', first', others', remaining', rfl⟩ := done'
          rw [List.map_cons, List.map_cons,
            each item (by simp) item' (by simp) value value' same.1 first first',
            ih (fun other member other' member' => each other (by simp [member]) other'
              (by simp [member'])) same.2 remaining remaining']

theorem mapIdxM_eq_ok {ε α β : Type} {function : Nat → α → Except ε β} {items : List α}
    {results : List β} (done : items.mapIdxM function = .ok results) :
    results.length = items.length ∧ ∀ place item, items[place]? = some item →
      ∃ result, function place item = .ok result ∧ results[place]? = some result := by
  have rest : ∀ (items : List α) (built : Array β) (results : List β),
      List.mapIdxM.go function items built = .ok results →
        ∃ rest, results = built.toList ++ rest ∧ rest.length = items.length ∧
          ∀ place item, items[place]? = some item →
            ∃ result, function (built.size + place) item = .ok result ∧
              rest[place]? = some result := by
    intro items
    induction items with
    | nil =>
        intro built results finished
        cases finished
        exact ⟨[], by simp, rfl, fun _ _ impossible => by cases impossible⟩
    | cons first others ih =>
        intro built results finished
        rw [List.mapIdxM.go, bind_eq_ok] at finished
        obtain ⟨value, computed, finished⟩ := finished
        obtain ⟨rest, rfl, length, later⟩ := ih _ _ finished
        refine ⟨value :: rest, by simp, by simp [length], fun place item present => ?_⟩
        cases place with
        | zero =>
            cases present
            exact ⟨value, computed, rfl⟩
        | succ place =>
            obtain ⟨result, own, found⟩ := later place item present
            rw [Array.size_push, Nat.add_right_comm] at own
            exact ⟨result, own, found⟩
  obtain ⟨rest, rfl, length, found⟩ := rest items #[] results done
  simpa using And.intro length found

theorem mapM_congr {ε α β : Type} {step step' : α → Except ε β} {items : List α}
    (same : ∀ item ∈ items, step' item = step item) : items.mapM step' = items.mapM step := by
  induction items with
  | nil => rfl
  | cons item rest ih =>
      rw [List.mapM_cons, List.mapM_cons, same item (by simp),
        ih fun later member => same later (by simp [member])]

theorem foldlM_congr {ε α β : Type} {step step' : β → α → Except ε β} {items : List α}
    (same : ∀ item ∈ items, ∀ value, step' value item = step value item) (start : β) :
    items.foldlM step' start = items.foldlM step start := by
  induction items generalizing start with
  | nil => rfl
  | cons item rest ih =>
      rw [List.foldlM_cons, List.foldlM_cons, same item (by simp)]
      exact bind_congr fun value => ih (fun later member => same later (by simp [member])) value

theorem foldlM_keeps {ε α β : Type} (property : β → Prop) {step : β → α → Except ε β}
    {items : List α} {first last : β} (start : property first)
    (keeps : ∀ before item after, property before → step before item = .ok after → property after)
    (done : items.foldlM step first = .ok last) : property last := by
  induction items generalizing first with
  | nil =>
      cases done
      exact start
  | cons item rest ih =>
      rw [List.foldlM_cons, bind_eq_ok] at done
      obtain ⟨middle, stepped, done⟩ := done
      exact ih (keeps first item middle start stepped) done

theorem forM_eq_ok {ε α : Type} {items : List α} {step : α → Except ε Unit} :
    items.forM step = .ok () ↔ ∀ item ∈ items, step item = .ok () := by
  induction items with
  | nil => simp [List.forM_nil, pure_eq_ok]
  | cons first rest ih =>
      change (step first >>= fun _ => rest.forM step) = .ok () ↔ _
      rw [bind_eq_ok, List.forall_mem_cons, ih]
      exact ⟨fun ⟨_, firstChecked, restChecked⟩ => ⟨firstChecked, restChecked⟩,
        fun ⟨firstChecked, restChecked⟩ => ⟨(), firstChecked, restChecked⟩⟩

theorem forM_alike {ε α : Type} {items : List α} {step : α → Except ε Unit}
    {outcome : Except ε Unit} (alike : ∀ item ∈ items, step item = outcome)
    (some : items ≠ [] ∨ outcome = .ok ()) : items.forM step = outcome := by
  cases outcome with
  | ok _ => exact forM_eq_ok.2 alike
  | error fault =>
      cases items with
      | nil => simp at some
      | cons item rest =>
          change (step item >>= fun _ => rest.forM step) = _
          rw [alike item (by simp)]
          rfl

end Attempt

open Attempt

theorem tabulate_eq_ok {α : Type} {count : Nat} {element : Nat → Attempt α} {values : Array α} :
    tabulate count element = .ok values ↔
      values.size = count ∧ ∀ index (bound : index < values.size),
        element index = .ok values[index] := by
  rw [tabulate, map_eq_ok]
  constructor
  · rintro ⟨list, computed, rfl⟩
    rw [mapM_eq_ok] at computed
    have size : list.length = count := by
      simpa using (congrArg List.length computed).symm
    refine ⟨by simpa using size, ?_⟩
    intro index bound
    have place := congrArg (fun items => items[index]?) computed
    have inside : index < list.length := by simpa using bound
    simpa [inside, size ▸ inside] using place
  · rintro ⟨size, computed⟩
    refine ⟨values.toList, ?_, by simp⟩
    rw [mapM_eq_ok]
    apply List.ext_getElem
    · simp [size]
    · intro index bound inside
      have below : index < values.size := by simpa using inside
      simpa using computed index below

theorem size_of_tabulate {α : Type} {count : Nat} {element : Nat → Attempt α} {values : Array α}
    (computed : tabulate count element = .ok values) : values.size = count :=
  (tabulate_eq_ok.1 computed).1

theorem tabulate_congr {α : Type} {count : Nat} {element element' : Nat → Attempt α}
    (same : ∀ index < count, element' index = element index) :
    tabulate count element' = tabulate count element := by
  unfold tabulate
  rw [mapM_congr fun index member => same index (List.mem_range.1 member)]

theorem size_of_mapIdxM {α β : Type} {function : Nat → α → Attempt β} {values : Array α}
    {results : Array β} (done : values.mapIdxM function = .ok results) :
    results.size = values.size := by
  have listed : Array.toList <$> values.mapIdxM function = values.toList.mapIdxM function :=
    Array.toList_mapIdxM
  rw [done] at listed
  simpa using (mapIdxM_eq_ok listed.symm).1

theorem at_mapIdxM {α β : Type} {function : Nat → α → Attempt β} {values : Array α}
    {results : Array β} (done : values.mapIdxM function = .ok results) {place : Nat} {item : α}
    (present : values[place]? = some item) :
    ∃ result, function place item = .ok result ∧ results[place]? = some result := by
  have listed : Array.toList <$> values.mapIdxM function = values.toList.mapIdxM function :=
    Array.toList_mapIdxM
  rw [done] at listed
  simpa using (mapIdxM_eq_ok listed.symm).2 place item (by simpa using present)

theorem readAt_eq_ok {α : Type} {values : Array α} {index : Nat} {value : α} :
    readAt values index = .ok value ↔ values[index]? = some value := by
  unfold readAt
  cases values[index]? with
  | none => simp [abort_ne_ok]
  | some found => simp [pure_eq_ok]

theorem size_of_writeAt {α : Type} {values written : Array α} {index : Nat} {value : α}
    (done : writeAt values index value = .ok written) : written.size = values.size := by
  unfold writeAt at done
  split at done
  · rw [pure_eq_ok] at done
    rw [← done]
    simp
  · cases done

end TensorRuntime
