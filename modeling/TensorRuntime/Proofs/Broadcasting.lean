import TensorRuntime.Shape

/-!
Broadcasting as a partial join. Aligned at the innermost axis, with 1 for the axes that a shape
lacks, two shapes join extent by extent, so that what holds of extents holds of shapes.
-/

namespace TensorRuntime

namespace Shape

def Joinable (first second : Nat) : Prop := first = second ∨ first = 1 ∨ second = 1

def joined (first second : Nat) : Nat := if first = 1 then second else first

section Extents

variable {first second third extent : Nat}

theorem broadcastExtent?_eq_some :
    broadcastExtent? first second = some extent ↔
      Joinable first second ∧ extent = joined first second := by
  unfold broadcastExtent? Joinable joined
  by_cases same : first = second
  · simp [same, eq_comm]
  · by_cases one : first = 1
    · simp [one ▸ same, one, eq_comm]
    · by_cases one' : second = 1
      · simp [one, one', eq_comm]
      · simp [same, one, one']

theorem joinable_one (extent : Nat) : Joinable 1 extent := .inr (.inl rfl)

theorem joined_one (extent : Nat) : joined 1 extent = extent := if_pos rfl

theorem joinable_comm : Joinable first second ↔ Joinable second first := by
  unfold Joinable
  omega

theorem joined_comm (joinable : Joinable first second) :
    joined first second = joined second first := by
  unfold Joinable at joinable
  unfold joined
  split <;> split <;> omega

theorem joined_self (extent : Nat) : joined extent extent = extent := by
  unfold joined
  split <;> rfl

theorem joinable_turned :
    Joinable first second ∧ Joinable (joined first second) third ↔
      Joinable second third ∧ Joinable (joined second third) first := by
  unfold Joinable joined
  split <;> split <;> omega

theorem joined_turned (joinable : Joinable first second)
    (rest : Joinable (joined first second) third) :
    joined (joined first second) third = joined (joined second third) first := by
  by_cases one : first = 1
  · subst one
    rw [joined_one, joined_comm (joinable_comm.2 (joinable_one _)), joined_one]
  · have own : joined first second = first := if_neg one
    rw [own] at rest ⊢
    unfold Joinable at joinable rest
    unfold joined
    rw [if_neg one]
    by_cases one' : second = 1
    · rw [if_pos one']
      split <;> omega
    · rw [if_neg one', if_neg one']
      omega

end Extents

section Inner

variable {first second dims : List Nat}

theorem eq_of_extents {first second : List Nat} (lengths : first.length = second.length)
    (extents : ∀ place, first.getD place 1 = second.getD place 1) : first = second := by
  apply List.ext_getElem lengths
  intro place bound bound'
  simpa [bound, bound'] using extents place

theorem broadcastInner?_eq_some :
    broadcastInner? first second = some dims ↔
      dims.length = max first.length second.length ∧
        ∀ place, Joinable (first.getD place 1) (second.getD place 1) ∧
          dims.getD place 1 = joined (first.getD place 1) (second.getD place 1) := by
  induction first generalizing second dims with
  | nil =>
      simp only [broadcastInner?, Option.some.injEq, List.length_nil, List.getD_nil, joined_one,
        joinable_one, true_and, Nat.zero_max]
      constructor
      · rintro rfl
        exact ⟨rfl, fun _ => rfl⟩
      · rintro ⟨lengths, extents⟩
        exact (eq_of_extents lengths extents).symm
  | cons extent outer ih =>
      cases second with
      | nil =>
          simp only [broadcastInner?, Option.some.injEq, List.length_nil, List.getD_nil,
            joinable_comm.2 (joinable_one _), true_and, Nat.max_zero,
            joined_comm (joinable_comm.2 (joinable_one _)), joined_one]
          constructor
          · rintro rfl
            exact ⟨rfl, fun _ => rfl⟩
          · rintro ⟨lengths, extents⟩
            exact (eq_of_extents lengths extents).symm
      | cons extent' outer' =>
          simp only [broadcastInner?, Option.bind_eq_bind, Option.bind_eq_some_iff,
            broadcastExtent?_eq_some, ih]
          constructor
          · rintro ⟨own, ⟨joinable, rfl⟩, rest, ⟨lengths, extents⟩, same⟩
            cases same
            refine ⟨by simp only [List.length_cons]; omega, fun place => ?_⟩
            cases place with
            | zero => exact ⟨joinable, rfl⟩
            | succ place => exact extents place
          · rintro ⟨lengths, extents⟩
            cases dims with
            | nil =>
                simp only [List.length_cons, List.length_nil] at lengths
                omega
            | cons own rest =>
                simp only [List.length_cons] at lengths
                obtain ⟨joinable, same⟩ := extents 0
                exact ⟨own, ⟨joinable, same⟩, rest, ⟨by omega, fun place => extents (place + 1)⟩,
                  rfl⟩

theorem exists_broadcastInner?
    (joinable : ∀ place, Joinable (first.getD place 1) (second.getD place 1)) :
    ∃ dims, broadcastInner? first second = some dims := by
  induction first generalizing second with
  | nil => exact ⟨second, rfl⟩
  | cons extent outer ih =>
      cases second with
      | nil => exact ⟨extent :: outer, rfl⟩
      | cons extent' outer' =>
          obtain ⟨rest, joins⟩ := ih fun place => joinable (place + 1)
          have innermost := broadcastExtent?_eq_some.2 ⟨joinable 0, rfl⟩
          simp only [List.getD_cons_zero] at innermost
          refine ⟨joined extent extent' :: rest, ?_⟩
          simp [broadcastInner?, joins, innermost]

end Inner

/-- The extent at a place counted from the innermost axis. Axes that a shape lacks have extent 1. -/
def alignedExtent (shape : Shape) (place : Nat) : Nat := shape.dims.reverse.getD place 1

section Shapes

variable {first second third shape : Shape}

theorem broadcast?_eq_some :
    first.broadcast? second = some shape ↔
      shape.rank = max first.rank second.rank ∧
        ∀ place, Joinable (first.alignedExtent place) (second.alignedExtent place) ∧
          shape.alignedExtent place =
            joined (first.alignedExtent place) (second.alignedExtent place) := by
  have turned : first.broadcast? second = some shape ↔
      broadcastInner? first.dims.reverse second.dims.reverse = some shape.dims.reverse := by
    cases shape with
    | mk dims =>
        simp only [broadcast?, Option.map_eq_some_iff, mk.injEq]
        constructor
        · rintro ⟨inner, joins, rfl⟩
          rw [joins, List.reverse_reverse]
        · intro joins
          exact ⟨dims.reverse, joins, dims.reverse_reverse⟩
  rw [turned, broadcastInner?_eq_some]
  simp [rank, alignedExtent]

theorem exists_broadcast? :
    (∃ shape, first.broadcast? second = some shape) ↔
      ∀ place, Joinable (first.alignedExtent place) (second.alignedExtent place) := by
  constructor
  · rintro ⟨shape, joins⟩ place
    exact ((broadcast?_eq_some.1 joins).2 place).1
  · intro joinable
    obtain ⟨dims, joins⟩ := exists_broadcastInner? joinable
    exact ⟨⟨dims.reverse⟩, by rw [broadcast?, joins]; rfl⟩

theorem broadcast?_comm (first second : Shape) :
    first.broadcast? second = second.broadcast? first := by
  apply Option.ext
  intro shape
  rw [broadcast?_eq_some, broadcast?_eq_some, Nat.max_comm]
  refine and_congr_right fun _ => forall_congr' fun place => ?_
  rw [joinable_comm]
  exact and_congr_right fun joinable => by rw [joined_comm joinable]

theorem broadcast?_self (shape : Shape) : shape.broadcast? shape = some shape :=
  broadcast?_eq_some.2 ⟨(Nat.max_self _).symm, fun _ => ⟨.inl rfl, (joined_self _).symm⟩⟩

theorem scalar_broadcast? (shape : Shape) : scalar.broadcast? shape = some shape :=
  broadcast?_eq_some.2 ⟨(Nat.zero_max _).symm, fun _ => ⟨joinable_one _, (joined_one _).symm⟩⟩

theorem broadcast?_bind_eq_some :
    (first.broadcast? second).bind (·.broadcast? third) = some shape ↔
      shape.rank = max (max first.rank second.rank) third.rank ∧
        ∀ place,
          Joinable (first.alignedExtent place) (second.alignedExtent place) ∧
          Joinable (joined (first.alignedExtent place) (second.alignedExtent place))
            (third.alignedExtent place) ∧
          shape.alignedExtent place =
            joined (joined (first.alignedExtent place) (second.alignedExtent place))
              (third.alignedExtent place) := by
  rw [Option.bind_eq_some_iff]
  constructor
  · rintro ⟨between, joins, rest⟩
    obtain ⟨rank, extents⟩ := broadcast?_eq_some.1 joins
    obtain ⟨rank', extents'⟩ := broadcast?_eq_some.1 rest
    rw [rank] at rank'
    refine ⟨rank', fun place => ?_⟩
    obtain ⟨joinable, same⟩ := extents place
    have later := extents' place
    rw [same] at later
    exact ⟨joinable, later⟩
  · rintro ⟨rank, extents⟩
    obtain ⟨between, joins⟩ := exists_broadcast?.2 fun place => (extents place).1
    obtain ⟨rank', extents'⟩ := broadcast?_eq_some.1 joins
    refine ⟨between, joins, broadcast?_eq_some.2 ⟨by rw [rank, rank'], fun place => ?_⟩⟩
    rw [(extents' place).2]
    exact (extents place).2

/-- It does not matter which two of three shapes join first, nor whether they do. -/
theorem broadcast?_turned (first second third : Shape) :
    (first.broadcast? second).bind (·.broadcast? third) =
      (second.broadcast? third).bind (·.broadcast? first) := by
  apply Option.ext
  intro shape
  rw [broadcast?_bind_eq_some, broadcast?_bind_eq_some]
  have ranks : max (max first.rank second.rank) third.rank =
      max (max second.rank third.rank) first.rank := by omega
  rw [ranks]
  refine and_congr_right fun _ => forall_congr' fun place => ?_
  rw [← and_assoc, ← and_assoc, joinable_turned]
  refine and_congr_right fun joinable => ?_
  obtain ⟨joins, rest⟩ := joinable_turned.2 joinable
  rw [joined_turned joins rest]

/-- Broadcasting is a partial join of shapes with the scalar shape below all others. It is defined
where aligned extents are equal or one of them is 1, and takes the other one. -/
theorem broadcasting_joins_shapes (first second third : Shape) :
    first.broadcast? second = second.broadcast? first ∧
    first.broadcast? first = some first ∧
    first.broadcast? scalar = some first ∧
    (first.broadcast? second).bind (·.broadcast? third) =
      (second.broadcast? third).bind (·.broadcast? first) ∧
    ((∃ shape, first.broadcast? second = some shape) ↔
      ∀ place, first.alignedExtent place = second.alignedExtent place ∨
        first.alignedExtent place = 1 ∨ second.alignedExtent place = 1) ∧
    ∀ shape, first.broadcast? second = some shape ↔
      shape.rank = max first.rank second.rank ∧
      ∀ place, (first.alignedExtent place = second.alignedExtent place ∨
          first.alignedExtent place = 1 ∨ second.alignedExtent place = 1) ∧
        shape.alignedExtent place =
          if first.alignedExtent place = 1 then second.alignedExtent place
          else first.alignedExtent place := by
  have right : first.broadcast? scalar = some first := by
    rw [broadcast?_comm, scalar_broadcast?]
  exact ⟨broadcast?_comm first second, broadcast?_self first, right,
    broadcast?_turned first second third, exists_broadcast?, fun _ => broadcast?_eq_some⟩

/-- An empty axis is kept against 1 and joins nothing else, also where it arises on the way. -/
example :
    (⟨[2, 1]⟩ : Shape).broadcast? ⟨[3, 1, 0]⟩ = some ⟨[3, 2, 0]⟩ ∧
      ((⟨[0]⟩ : Shape).broadcast? ⟨[1]⟩).bind (·.broadcast? ⟨[4, 2]⟩) = none := by
  decide

end Shapes

end Shape

end TensorRuntime
