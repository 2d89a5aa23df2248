import Mathlib.Algebra.GroupWithZero.Nat
import Mathlib.Data.List.Infix
import TensorRuntime.Shape

/-!
Reshape targets. A target is accepted exactly where its given extents leave one count for the
placeholder, and the shape that results is the only one that agrees with it.
-/

namespace TensorRuntime

namespace Shape

def givenProduct (target : List Int) : Nat :=
  volume ((target.filter (· ≠ -1)).map Int.toNat)

def filledIn (target : List Int) (inferred : Nat) : List Nat :=
  target.map fun extent => if extent = -1 then inferred else extent.toNat

def Agrees (target : List Int) (dims : List Nat) : Prop :=
  List.Forall₂ (fun (extent : Int) (own : Nat) => extent = -1 ∨ extent = own) target dims

def asTarget (dims : List Nat) : List Int := dims.map Int.ofNat

section Targets

variable {target : List Int} {inferred : Nat}

theorem givenProduct_cons (extent : Int) (rest : List Int) :
    givenProduct (extent :: rest) =
      if extent = -1 then givenProduct rest else extent.toNat * givenProduct rest := by
  unfold givenProduct
  by_cases placeholder : extent = -1
  · simp [placeholder]
  · simp [placeholder]

theorem filledIn_cons (extent : Int) (rest : List Int) (inferred : Nat) :
    filledIn (extent :: rest) inferred =
      (if extent = -1 then inferred else extent.toNat) :: filledIn rest inferred := rfl

theorem volume_filledIn (target : List Int) (inferred : Nat) :
    volume (filledIn target inferred) =
      givenProduct target * inferred ^ target.count (-1) := by
  induction target with
  | nil => rfl
  | cons extent rest ih =>
      rw [filledIn_cons, volume_cons, givenProduct_cons, ih]
      by_cases placeholder : extent = -1
      · subst placeholder
        rw [if_pos rfl, if_pos rfl, List.count_cons_self, Nat.pow_succ]
        ac_rfl
      · rw [if_neg placeholder, if_neg placeholder, List.count_cons_of_ne placeholder]
        ac_rfl

theorem filledIn_of_given (given : -1 ∉ target) (inferred other : Nat) :
    filledIn target inferred = filledIn target other := by
  apply List.map_congr_left
  intro extent member
  have known : extent ≠ -1 := fun same => given (same ▸ member)
  rw [if_neg known, if_neg known]

theorem agrees_filledIn (natural : ∀ extent ∈ target, extent = -1 ∨ 0 ≤ extent)
    (inferred : Nat) : Agrees target (filledIn target inferred) := by
  induction target with
  | nil => exact .nil
  | cons extent rest ih =>
      refine .cons ?_ (ih fun later member => natural later (by simp [member]))
      by_cases placeholder : extent = -1
      · exact .inl placeholder
      · obtain same | positive := natural extent (by simp)
        · exact .inl same
        · refine .inr ?_
          dsimp only
          rw [if_neg placeholder, Int.toNat_of_nonneg positive]

theorem eq_filledIn {dims : List Nat} (single : target.count (-1) ≤ 1)
    (agrees : Agrees target dims) : ∃ inferred, dims = filledIn target inferred := by
  induction agrees with
  | nil => exact ⟨0, rfl⟩
  | @cons extent own rest others same _ ih =>
      by_cases placeholder : extent = -1
      · subst placeholder
        rw [List.count_cons_self] at single
        obtain ⟨inferred, filled⟩ := ih (by omega)
        have given : -1 ∉ rest := List.count_eq_zero.1 (by omega)
        refine ⟨own, ?_⟩
        rw [filledIn_cons, if_pos rfl, filled, filledIn_of_given given]
      · rw [List.count_cons_of_ne placeholder] at single
        obtain ⟨inferred, filled⟩ := ih single
        have known : extent = (own : Int) := same.resolve_left placeholder
        refine ⟨inferred, ?_⟩
        rw [filledIn_cons, if_neg placeholder, filled, known, Int.toNat_natCast]

theorem givenProduct_asTarget (dims : List Nat) : givenProduct (asTarget dims) = volume dims := by
  induction dims with
  | nil => rfl
  | cons extent inner ih =>
      have given : Int.ofNat extent ≠ -1 := by simp
      rw [asTarget, List.map_cons, givenProduct_cons, if_neg given, ← asTarget, ih, volume_cons]
      rfl

theorem filledIn_asTarget (dims : List Nat) (inferred : Nat) :
    filledIn (asTarget dims) inferred = dims := by
  induction dims with
  | nil => rfl
  | cons extent inner ih =>
      have given : Int.ofNat extent ≠ -1 := by simp
      rw [asTarget, List.map_cons, filledIn_cons, if_neg given, ← asTarget, ih]
      rfl

theorem natural_asTarget {dims : List Nat} {extent : Int} (member : extent ∈ asTarget dims) :
    0 ≤ extent := by
  obtain ⟨own, _, rfl⟩ := List.mem_map.1 member
  exact Int.natCast_nonneg own

end Targets

section Product

variable {target : List Int} {product result : Nat}

theorem knownProduct?_of_fits (natural : ∀ extent ∈ target, extent = -1 ∨ 0 ≤ extent)
    (fits : ∀ taken, taken <+: target → product * givenProduct taken < wordLimit) :
    knownProduct? target product = some (product * givenProduct target) := by
  induction target generalizing product with
  | nil => simp [knownProduct?, givenProduct]
  | cons extent rest ih =>
      have natural' : ∀ later ∈ rest, later = -1 ∨ 0 ≤ later := fun later member =>
        natural later (by simp [member])
      by_cases placeholder : extent = -1
      · subst placeholder
        rw [knownProduct?, if_pos rfl, givenProduct_cons, if_pos rfl]
        refine ih natural' fun taken start => ?_
        have longer := fits (-1 :: taken) (List.prefix_cons_inj _ |>.2 start)
        rwa [givenProduct_cons, if_pos rfl] at longer
      · obtain same | positive := natural extent (by simp)
        · exact absurd same placeholder
        · have own := fits [extent] ⟨rest, rfl⟩
          rw [givenProduct_cons, if_neg placeholder] at own
          have fitting : product * extent.toNat < wordLimit := by
            simpa [givenProduct] using own
          rw [knownProduct?, if_neg placeholder, if_neg (by omega), if_pos fitting,
            givenProduct_cons, if_neg placeholder, ← Nat.mul_assoc]
          refine ih natural' fun taken start => ?_
          have longer := fits (extent :: taken) (List.prefix_cons_inj _ |>.2 start)
          rwa [givenProduct_cons, if_neg placeholder, ← Nat.mul_assoc] at longer

theorem natural_of_knownProduct? (known : knownProduct? target product = some result) :
    ∀ extent ∈ target, extent = -1 ∨ 0 ≤ extent := by
  induction target generalizing product with
  | nil => simp
  | cons extent rest ih =>
      intro other member
      rw [knownProduct?] at known
      by_cases placeholder : extent = -1
      · rw [if_pos placeholder] at known
        rcases List.mem_cons.1 member with rfl | later
        · exact .inl placeholder
        · exact ih known other later
      · by_cases negative : extent < 0
        · rw [if_neg placeholder, if_pos negative] at known
          cases known
        · rw [if_neg placeholder, if_neg negative] at known
          split at known
          · rcases List.mem_cons.1 member with rfl | later
            · exact .inr (by omega)
            · exact ih known other later
          · cases known

end Product

variable {shape resolved : Shape} {target : List Int}

theorem reshape?_eq_some :
    shape.reshape? target = some resolved ↔
      target.count (-1) ≤ 1 ∧ ∃ product, knownProduct? target 1 = some product ∧
        (target.count (-1) = 1 → 0 < product ∧ product ∣ shape.count) ∧
        resolved.dims = filledIn target (shape.count / product) ∧
        volume resolved.dims = shape.count ∧ resolved.dims.length ≤ maxRank := by
  unfold reshape?
  dsimp only
  by_cases many : 1 < target.count (-1)
  · rw [if_pos many]
    simp only [Nat.not_le.2 many, false_and, iff_false]
    exact nofun
  rw [if_neg many, Option.bind_eq_bind, Option.bind_eq_some_iff]
  simp only [Nat.le_of_not_lt many, true_and]
  refine exists_congr fun product => and_congr_right fun _ => ?_
  rw [← filledIn]
  by_cases unfit : target.count (-1) = 1 ∧ (product = 0 ∨ shape.count % product ≠ 0)
  · rw [if_pos unfit]
    obtain ⟨single, unfit⟩ := unfit
    constructor
    · exact nofun
    · rintro ⟨divides, _⟩
      obtain ⟨positive, divides⟩ := divides single
      have remainder := Nat.mod_eq_zero_of_dvd divides
      omega
  · have divides : target.count (-1) = 1 → 0 < product ∧ product ∣ shape.count := by
      intro single
      have fit : ¬ (product = 0 ∨ shape.count % product ≠ 0) := fun other =>
        unfit ⟨single, other⟩
      exact ⟨by omega, Nat.dvd_of_mod_eq_zero (by omega)⟩
    rw [if_neg unfit, and_iff_right divides]
    by_cases other : volume (filledIn target (shape.count / product)) ≠ shape.count ∨
        maxRank < (filledIn target (shape.count / product)).length
    · rw [if_pos other]
      constructor
      · exact nofun
      · rintro ⟨dims, counted, ranked⟩
        rw [dims] at counted ranked
        omega
    · rw [if_neg other]
      obtain ⟨counted, ranked⟩ := not_or.1 other
      constructor
      · intro same
        cases same
        exact ⟨rfl, not_not.1 counted, Nat.not_lt.1 ranked⟩
      · rintro ⟨dims, _, _⟩
        rw [← dims]
        rfl

theorem count_of_reshape? (found : shape.reshape? target = some resolved) :
    resolved.count = shape.count := by
  obtain ⟨_, _, _, _, _, counted, _⟩ := reshape?_eq_some.1 found
  exact counted

/-- What a target has to be for a shape: short enough, natural but for one placeholder, and with
a product that leaves one count for the placeholder. -/
structure Admits (shape : Shape) (target : List Int) : Prop where
  ranked : target.length ≤ maxRank
  single : target.count (-1) ≤ 1
  natural : ∀ extent ∈ target, extent = -1 ∨ 0 ≤ extent
  counted : if -1 ∈ target then 0 < givenProduct target ∧ givenProduct target ∣ shape.count
    else givenProduct target = shape.count

/-- Multiplied from left to right, the given extents stay within a word. -/
def WordSized (target : List Int) : Prop :=
  ∀ taken, taken <+: target → givenProduct taken < wordLimit

theorem WordSized.knownProduct?_eq (fits : WordSized target)
    (natural : ∀ extent ∈ target, extent = -1 ∨ 0 ≤ extent) :
    knownProduct? target 1 = some (givenProduct target) := by
  have known := @knownProduct?_of_fits target 1 natural fun taken start => by
    rw [Nat.one_mul]
    exact fits taken start
  rwa [Nat.one_mul] at known

theorem Admits.count_placeholder (admits : shape.Admits target) (placeholder : -1 ∈ target) :
    target.count (-1) = 1 :=
  Nat.le_antisymm admits.single (List.one_le_count_iff.2 placeholder)

theorem Admits.volume_eq (admits : shape.Admits target) :
    volume (filledIn target (shape.count / givenProduct target)) = shape.count := by
  have counted := admits.counted
  rw [volume_filledIn]
  by_cases placeholder : -1 ∈ target
  · rw [if_pos placeholder] at counted
    rw [admits.count_placeholder placeholder, Nat.pow_one, Nat.mul_div_cancel' counted.2]
  · rw [if_neg placeholder] at counted
    rw [List.count_eq_zero.2 placeholder, Nat.pow_zero, Nat.mul_one, counted]

theorem WordSized.reshape?_eq_some (fits : WordSized target) :
    shape.reshape? target = some resolved ↔
      shape.Admits target ∧
        resolved.dims = filledIn target (shape.count / givenProduct target) := by
  rw [Shape.reshape?_eq_some]
  constructor
  · rintro ⟨single, product, known, divides, dims, counted, ranked⟩
    have natural := natural_of_knownProduct? known
    cases (fits.knownProduct?_eq natural).symm.trans known
    refine ⟨⟨by simpa [dims, filledIn] using ranked, single, natural, ?_⟩, dims⟩
    by_cases placeholder : -1 ∈ target
    · rw [if_pos placeholder]
      have once := List.one_le_count_iff.2 placeholder
      exact divides (by omega)
    · rw [if_neg placeholder, ← counted, dims, volume_filledIn, List.count_eq_zero.2 placeholder,
        Nat.pow_zero, Nat.mul_one]
  · rintro ⟨admits, dims⟩
    refine ⟨admits.single, _, fits.knownProduct?_eq admits.natural, fun one => ?_, dims,
      dims ▸ admits.volume_eq, ?_⟩
    · have counted := admits.counted
      rwa [if_pos (List.one_le_count_iff.1 (by omega))] at counted
    · rw [dims]
      simpa [filledIn] using admits.ranked

theorem Admits.unique (admits : shape.Admits target) {dims : List Nat}
    (agrees : Agrees target dims) (counted : volume dims = shape.count) :
    dims = filledIn target (shape.count / givenProduct target) := by
  obtain ⟨inferred, rfl⟩ := eq_filledIn admits.single agrees
  by_cases placeholder : -1 ∈ target
  · have own := admits.counted
    rw [if_pos placeholder] at own
    rw [volume_filledIn, admits.count_placeholder placeholder, Nat.pow_one] at counted
    rw [← counted, Nat.mul_div_cancel_left _ own.1]
  · exact filledIn_of_given placeholder _ _

theorem volume_prefix_dvd {taken dims : List Nat} (start : taken <+: dims) :
    volume taken ∣ volume dims := by
  obtain ⟨rest, rfl⟩ := start
  induction taken with
  | nil => exact Nat.one_dvd _
  | cons extent inner ih => exact Nat.mul_dvd_mul_left extent ih

theorem Admits.wordSized (admits : shape.Admits target) (fits : WordSized target)
    (small : shape.count < wordLimit) :
    WordSized (asTarget (filledIn target (shape.count / givenProduct target))) := by
  intro taken start
  obtain ⟨own, ownStart, rfl⟩ := List.prefix_map_iff.1 start
  rw [← asTarget, givenProduct_asTarget]
  by_cases empty : shape.count = 0
  · obtain ⟨first, firstStart, rfl⟩ := List.prefix_map_iff.1 ownStart
    have below := fits first firstStart
    have none : 0 / givenProduct target = 0 := Nat.zero_div _
    change volume (filledIn first _) < wordLimit
    rw [volume_filledIn, empty, none]
    have atMost : 0 ^ first.count (-1) ≤ 1 := by
      cases first.count (-1) <;> simp
    exact Nat.lt_of_le_of_lt (Nat.mul_le_mul_left _ atMost) (by rwa [Nat.mul_one])
  · have divides := volume_prefix_dvd ownStart
    rw [admits.volume_eq] at divides
    exact Nat.lt_of_le_of_lt (Nat.le_of_dvd (Nat.pos_of_ne_zero empty) divides) small

theorem Admits.reshape?_resolved (admits : shape.Admits target) (fits : WordSized target)
    (small : shape.count < wordLimit)
    (dims : resolved.dims = filledIn target (shape.count / givenProduct target)) :
    shape.reshape? (asTarget resolved.dims) = some resolved := by
  have fits' : WordSized (asTarget resolved.dims) := dims ▸ admits.wordSized fits small
  have given : -1 ∉ asTarget resolved.dims := fun member =>
    absurd (natural_asTarget member) (by decide)
  refine fits'.reshape?_eq_some.2
    ⟨⟨?_, ?_, fun extent member => .inr (natural_asTarget member), ?_⟩,
    (filledIn_asTarget _ _).symm⟩
  · rw [dims]
    simpa [asTarget, filledIn] using admits.ranked
  · rw [List.count_eq_zero.2 given]
    exact Nat.zero_le 1
  · rw [if_neg given, givenProduct_asTarget, dims, admits.volume_eq]

/-- Which targets a shape resolves, and to what. The result has the count of the shape, is the only
one that agrees with the target and has it, resolves to itself, and has no extent that the target
does not give and that would not be an extent of a target. -/
theorem reshaping_infers_extent (small : shape.count < 2 ^ 63) (fits : WordSized target) :
    ((∃ resolved, shape.reshape? target = some resolved) ↔ shape.Admits target) ∧
    ∀ resolved, shape.reshape? target = some resolved →
      Agrees target resolved.dims ∧
      resolved.count = shape.count ∧
      (∀ other : Shape, Agrees target other.dims → other.count = shape.count →
        other = resolved) ∧
      shape.reshape? (asTarget resolved.dims) = some resolved ∧
      ∀ extent ∈ resolved.dims, Int.ofNat extent ∈ target ∨ extent < 2 ^ 63 := by
  have word : shape.count < wordLimit := Nat.lt_trans small (by decide)
  constructor
  · constructor
    · rintro ⟨resolved, found⟩
      exact (fits.reshape?_eq_some.1 found).1
    · intro admits
      exact ⟨⟨_⟩, fits.reshape?_eq_some.2 ⟨admits, rfl⟩⟩
  · intro resolved found
    obtain ⟨admits, dims⟩ := fits.reshape?_eq_some.1 found
    refine ⟨?_, count_of_reshape? found, ?_, admits.reshape?_resolved fits word dims, ?_⟩
    · rw [dims]
      exact agrees_filledIn admits.natural _
    · intro other agrees counted
      cases other
      cases resolved
      exact congrArg mk ((admits.unique agrees counted).trans dims.symm)
    · intro extent member
      rw [dims] at member
      obtain ⟨given, present, same⟩ := List.mem_map.1 member
      by_cases placeholder : given = -1
      · rw [if_pos placeholder] at same
        have below := Nat.div_le_self shape.count (givenProduct target)
        exact .inr (by omega)
      · rw [if_neg placeholder] at same
        have natural := (admits.natural given present).resolve_left placeholder
        have known : Int.ofNat extent = given := by
          rw [← same]
          exact Int.toNat_of_nonneg natural
        exact .inl (known ▸ present)

theorem wordSized_of_inits (each : ∀ taken ∈ target.inits, givenProduct taken < wordLimit) :
    WordSized target :=
  fun taken start => each taken ((List.mem_inits taken target).2 start)

theorem cuboid_infers_extent :
    (⟨[2, 3, 4]⟩ : Shape).count < 2 ^ 63 ∧ WordSized [4, -1, 2] ∧ WordSized [3, -1] ∧
      (⟨[2, 3, 4]⟩ : Shape).reshape? [4, -1, 2] = some ⟨[4, 3, 2]⟩ ∧
      (⟨[2, 3, 4]⟩ : Shape).Admits [4, -1, 2] ∧
      (∀ other : Shape, Agrees [4, -1, 2] other.dims → other.count = 24 →
        other = ⟨[4, 3, 2]⟩) ∧
      (⟨[0, 5]⟩ : Shape).Admits [3, -1] ∧
      (⟨[0, 5]⟩ : Shape).reshape? [3, 0] = some ⟨[3, 0]⟩ := by
  have fits : WordSized [4, -1, 2] := wordSized_of_inits (by decide)
  have fits' : WordSized [3, -1] := wordSized_of_inits (by decide)
  have found : (⟨[2, 3, 4]⟩ : Shape).reshape? [4, -1, 2] = some ⟨[4, 3, 2]⟩ := by decide
  have empty : (⟨[0, 5]⟩ : Shape).reshape? [3, -1] = some ⟨[3, 0]⟩ := by decide
  obtain ⟨accepted, resolves⟩ :=
    @reshaping_infers_extent ⟨[2, 3, 4]⟩ [4, -1, 2] (by decide) fits
  obtain ⟨accepted', resolves'⟩ := @reshaping_infers_extent ⟨[0, 5]⟩ [3, -1] (by decide) fits'
  obtain ⟨_, _, unique, _⟩ := resolves _ found
  obtain ⟨_, _, _, again, _⟩ := resolves' _ empty
  exact ⟨by decide, fits, fits', found, accepted.1 ⟨_, found⟩, unique, accepted'.1 ⟨_, empty⟩,
    again⟩

end Shape

end TensorRuntime
