import TensorRuntime.Proofs.Numeric.Requantizer
import TensorRuntime.Proofs.Numeric.Rounding

/-!
Fixed-point scaling in words. Wherever the rounded product is a word of 64 bits it is what
`Requantizer.apply` gives, and no number on the way there needs more than 128 bits. So far scaling
is monotone and commutes with a change of sign.
-/

namespace TensorRuntime

section Nearest

variable {value : Rat} {number : Int}

/-- No integer is nearer to the value, and of two that are equally near this is the one farther from
zero. -/
structure NearestAway (value : Rat) (number : Int) : Prop where
  near : |value - number| ≤ 1 / 2
  away : |value - number| = 1 / 2 → |value| < |(number : Rat)|

theorem NearestAway.neg (nearest : NearestAway value number) : NearestAway (-value) (-number) := by
  have distance : |-value - (-number : Int)| = |value - number| := by
    rw [Int.cast_neg, ← neg_sub, abs_neg]
    congr 1
    ring
  refine ⟨distance ▸ nearest.near, fun half => ?_⟩
  rw [Int.cast_neg, abs_neg, abs_neg]
  exact nearest.away (distance ▸ half)

theorem roundHalfAway_of_nonneg (nonneg : 0 ≤ value) : roundHalfAway value = ⌊value + 1 / 2⌋ := by
  unfold roundHalfAway
  rw [if_neg (not_lt.2 nonneg)]
  rfl

theorem nearestAway_of_nonneg (nonneg : 0 ≤ value) : NearestAway value (roundHalfAway value) := by
  rw [roundHalfAway_of_nonneg nonneg]
  have below := Int.floor_le (value + 1 / 2)
  have above := Int.lt_floor_add_one (value + 1 / 2)
  refine ⟨abs_le.2 ⟨by linarith, by linarith⟩, fun half => ?_⟩
  rw [abs_of_nonneg nonneg]
  obtain short | past := eq_or_eq_neg_of_abs_eq half
  · linarith
  · exact lt_of_lt_of_le (by linarith) (le_abs_self _)

theorem nearestAway_roundHalfAway (value : Rat) : NearestAway value (roundHalfAway value) := by
  obtain nonneg | negative := le_or_gt 0 value
  · exact nearestAway_of_nonneg nonneg
  · have reflected := (nearestAway_of_nonneg (neg_nonneg.2 negative.le)).neg
    rwa [roundHalfAway_neg, neg_neg, neg_neg] at reflected

theorem NearestAway.not_lt {other : Int} (nearest : NearestAway value number)
    (nearest' : NearestAway value other) : ¬ number < other := by
  intro below
  obtain ⟨_, high⟩ := abs_le.1 nearest.near
  obtain ⟨low, _⟩ := abs_le.1 nearest'.near
  have step : (number : Rat) + 1 ≤ other := by exact_mod_cast below
  have middle : value = number + 1 / 2 := by linarith
  have next : (other : Rat) = number + 1 := by linarith
  have far := nearest.away (by rw [middle]; norm_num)
  have far' := nearest'.away (by rw [middle, next]; norm_num)
  rw [middle] at far far'
  rw [next] at far'
  obtain nonneg | negative := le_or_gt 0 number
  · have sign : (0 : Rat) ≤ number := by exact_mod_cast nonneg
    rw [abs_of_nonneg (by linarith), abs_of_nonneg sign] at far
    linarith
  · have sign : (number : Rat) + 1 ≤ 0 := by exact_mod_cast negative
    rw [abs_of_nonpos (by linarith), abs_of_nonpos sign] at far'
    linarith

theorem NearestAway.unique {other : Int} (nearest : NearestAway value number)
    (nearest' : NearestAway value other) : number = other :=
  Int.le_antisymm (Int.not_lt.1 (nearest'.not_lt nearest)) (Int.not_lt.1 (nearest.not_lt nearest'))

end Nearest

def InWideWord (number : Int) : Prop := -2 ^ 127 ≤ number ∧ number < 2 ^ 127

instance (number : Int) : Decidable (InWideWord number) := inferInstanceAs (Decidable (_ ∧ _))

def wide? (number : Int) : Option Int := if InWideWord number then some number else none

theorem of_wide?_bind {α : Type} {number : Int} {next : Int → Option α} {result : α}
    (done : (wide? number).bind next = some result) : next number = some result := by
  unfold wide? at done
  split at done
  · exact done
  · cases done

theorem wide?_of_fits {number : Int} (fits : InWideWord number) : wide? number = some number :=
  if_pos fits

namespace Requantizer

/-- `apply` with every operation done in words of 128 bits, up to the reduction to 64 bits. -/
def applyWide? (requantizer : Requantizer) (accumulator : Int) : Option Int := do
  let product ← wide? (accumulator * requantizer.multiplier)
  let right := 31 - requantizer.shift
  if right ≤ 0 then
    return wrap64 (← wide? (product * (1 <<< (min (-right) 63).toNat : Nat)))
  else if 127 ≤ right then return 0
  else
    let half ← wide? (1 <<< (right - 1).toNat : Nat)
    let unit : Int := (1 <<< right.toNat : Nat)
    if 0 ≤ product then return wrap64 ((← wide? (product + half)) / unit)
    else
      let opposite ← wide? (-product)
      return wrap64 (← wide? (-((← wide? (opposite + half)) / unit)))

variable {requantizer : Requantizer} {accumulator : Int}

theorem apply_of_applyWide? {number : Int}
    (wide : requantizer.applyWide? accumulator = some number) :
    requantizer.apply accumulator = number := by
  have done := of_wide?_bind wide
  unfold apply
  dsimp only at done ⊢
  split at done
  · rename_i left
    rw [if_pos left]
    have shifted := of_wide?_bind done
    exact Option.some.inj shifted
  · rename_i right
    rw [if_neg right]
    split at done
    · rename_i far
      rw [if_pos far]
      exact Option.some.inj done
    · rename_i near
      rw [if_neg near]
      have halved := of_wide?_bind done
      split at halved
      · rename_i nonneg
        rw [if_pos nonneg]
        have summed := of_wide?_bind halved
        exact Option.some.inj summed
      · rename_i negative
        rw [if_neg negative]
        have opposite := of_wide?_bind halved
        have summed := of_wide?_bind opposite
        have reflected := of_wide?_bind summed
        exact Option.some.inj reflected

theorem applyWide?_of_left {places : Nat} (left : requantizer.shift = 31 + places)
    (product : InWideWord (accumulator * requantizer.multiplier))
    (shifted : InWideWord (accumulator * requantizer.multiplier * 2 ^ min places 63)) :
    requantizer.applyWide? accumulator = some (requantizer.apply accumulator) := by
  have moved : (min (-(31 - requantizer.shift)) 63).toNat = min places 63 := by omega
  have power : ((1 <<< min places 63 : Nat) : Int) = 2 ^ min places 63 := by
    rw [Nat.one_shiftLeft]
    push_cast
    rfl
  rw [apply_of_left left, applyWide?, wide?_of_fits product, Option.bind_eq_bind, Option.bind_some]
  dsimp only
  rw [if_pos (by omega), moved, power, wide?_of_fits shifted]
  rfl

theorem applyWide?_of_right {places : Nat} (right : requantizer.shift = 30 - places)
    (near : places < 126) (low : -2 ^ 94 < accumulator * requantizer.multiplier)
    (high : accumulator * requantizer.multiplier < 2 ^ 94) :
    requantizer.applyWide? accumulator = some (requantizer.apply accumulator) := by
  have rounds : ¬ 31 - requantizer.shift ≤ 0 := by omega
  have short : ¬ 127 ≤ 31 - requantizer.shift := by omega
  have bounded : 1 <<< (31 - requantizer.shift - 1).toNat ≤ 2 ^ 125 := by
    rw [Nat.one_shiftLeft]
    exact Nat.pow_le_pow_right (by decide) (by omega)
  unfold applyWide? apply
  generalize accumulator * requantizer.multiplier = product at low high ⊢
  rw [wide?_of_fits (show InWideWord product from ⟨by omega, by omega⟩), Option.bind_eq_bind,
    Option.bind_some]
  dsimp only
  rw [if_neg rounds, if_neg short, if_neg rounds, if_neg short]
  generalize 1 <<< (31 - requantizer.shift - 1).toNat = half at bounded ⊢
  generalize 1 <<< (31 - requantizer.shift).toNat = unit
  rw [wide?_of_fits (show InWideWord half from ⟨by omega, by omega⟩), Option.bind_some]
  split
  · rw [wide?_of_fits (show InWideWord (product + half) from ⟨by omega, by omega⟩)]
    rfl
  · have shrinks := Int.ediv_le_self (a := -product + half) unit (by omega)
    have nonneg : 0 ≤ (-product + half) / (unit : Int) := Int.ediv_nonneg (by omega) (by omega)
    rw [wide?_of_fits (show InWideWord (-product) from ⟨by omega, by omega⟩), Option.bind_some,
      wide?_of_fits (show InWideWord (-product + half) from ⟨by omega, by omega⟩),
      Option.bind_some,
      wide?_of_fits (show InWideWord (-((-product + half) / unit)) from ⟨by omega, by omega⟩)]
    rfl

/-- A multiplier of 31 bits scales a word in wide words wherever the result is a word. -/
theorem Scales.applyWide?_eq (scales : requantizer.Scales) (word : InWord accumulator)
    (fits : InWord (requantizer.rounded accumulator)) :
    requantizer.applyWide? accumulator = some (requantizer.rounded accumulator) := by
  obtain ⟨low, high⟩ := scales.product_bound word
  have product : InWideWord (accumulator * requantizer.multiplier) := ⟨by omega, by omega⟩
  rw [← scales.apply_eq word fits]
  by_cases left : 31 ≤ requantizer.shift
  · obtain ⟨places, shifted⟩ := Int.le.dest left
    refine applyWide?_of_left shifted.symm product ?_
    by_cases near : places ≤ 63
    · rw [Nat.min_eq_left near, ← rounded_of_left shifted.symm]
      exact ⟨by have := fits.1; omega, by have := fits.2; omega⟩
    · rw [product_of_far shifted.symm (by omega) fits, Int.zero_mul]
      decide
  · obtain ⟨places, shifted⟩ := Int.le.dest (a := requantizer.shift) (b := 30) (by omega)
    have right : requantizer.shift = 30 - places := by omega
    by_cases near : places < 126
    · exact applyWide?_of_right right near low high
    · rw [applyWide?, apply, wide?_of_fits product, Option.bind_eq_bind, Option.bind_some]
      dsimp only
      rw [if_neg (by omega), if_pos (by omega), if_neg (by omega), if_pos (by omega)]
      rfl

theorem double_power {bits significand : Nat} {negative : Bool} {exponent : Int}
    (finite : BinaryFormat.double.decode bits = .finite negative significand exponent)
    (nonzero : significand ≠ 0) :
    -1074 ≤ (significand.log2 : Int) + exponent ∧ (significand.log2 : Int) + exponent ≤ 1023 := by
  have least : BinaryFormat.double.minExponent = -1074 := by decide
  have most : BinaryFormat.double.topExponent = 971 := by decide
  have binade : BinaryFormat.double.binade = 2 ^ 52 := by decide
  obtain ⟨size, low, high⟩ := BinaryFormat.decode_bounds (by decide) finite
  have places : significand.log2 < 53 := (Nat.log2_lt nonzero).2 (by omega)
  omega

theorem shift_ofDyadic (significand : Nat) (exponent : Int) :
    (significand.log2 : Int) + exponent ≤ (ofDyadic significand exponent).shift ∧
      (ofDyadic significand exponent).shift ≤ (significand.log2 : Int) + exponent + 3 := by
  unfold ofDyadic
  generalize (significand.log2 : Int) + exponent = power
  dsimp only
  obtain ⟨divisor, chosen, near⟩ : ∃ divisor,
      (if reachesPower significand (power + 1) = true then power + 1 + 1 else power + 1) =
        divisor ∧ power < divisor ∧ divisor ≤ power + 2 := by
    refine ⟨_, rfl, ?_⟩
    split <;> omega
  rw [chosen]
  split
  · dsimp only
    omega
  · split
    · dsimp only
      omega
    · split <;> dsimp only <;> omega

theorem shift_ofRatio (ratio : Float) : |(ofRatio ratio).shift| ≤ 1100 := by
  unfold ofRatio
  split
  · rename_i significand exponent finite
    split
    · decide
    · rename_i nonzero
      obtain ⟨low, high⟩ := double_power finite nonzero
      obtain ⟨least, most⟩ := shift_ofDyadic significand exponent
      exact abs_le.2 ⟨by omega, by omega⟩
  · decide

structure Fits (requantizer : Requantizer) (accumulator : Int) : Prop where
  word : InWord accumulator
  result : InWord (requantizer.rounded accumulator)

theorem rounded_neg (requantizer : Requantizer) (accumulator : Int) :
    requantizer.rounded (-accumulator) = -requantizer.rounded accumulator := by
  have reflected : requantizer.scaled (-accumulator) = -requantizer.scaled accumulator := by
    unfold scaled
    push_cast
    ring
  unfold rounded
  rw [reflected, roundHalfAway_neg]

/-- Wherever the integer nearest to the exact product, halves away from zero, is a word, scaling
gives that integer and needs no more than 128 bits for it. There it grows with the accumulator and
commutes with a change of sign. Ratios have shifts not far from the exponents of doubles. -/
theorem apply_rounds_in_wide_words (nonneg : 0 ≤ requantizer.multiplier)
    (bound : requantizer.multiplier < 2 ^ 31) :
    (∀ ratio, |(ofRatio ratio).shift| ≤ 1100) ∧
    (∀ accumulator number, NearestAway (requantizer.scaled accumulator) number ↔
      number = requantizer.rounded accumulator) ∧
    (∀ accumulator, requantizer.Fits accumulator →
      requantizer.apply accumulator = requantizer.rounded accumulator ∧
      requantizer.applyWide? accumulator = some (requantizer.rounded accumulator)) ∧
    (∀ first second, first ≤ second → requantizer.Fits first → requantizer.Fits second →
      requantizer.apply first ≤ requantizer.apply second) ∧
    (∀ accumulator, requantizer.Fits accumulator → requantizer.Fits (-accumulator) →
      requantizer.apply (-accumulator) = -requantizer.apply accumulator) := by
  have scales : requantizer.Scales := .inl ⟨nonneg, bound⟩
  have wide {accumulator : Int} (fits : requantizer.Fits accumulator) :
      requantizer.applyWide? accumulator = some (requantizer.rounded accumulator) :=
    scales.applyWide?_eq fits.word fits.result
  have exact {accumulator : Int} (fits : requantizer.Fits accumulator) :
      requantizer.apply accumulator = requantizer.rounded accumulator :=
    apply_of_applyWide? (wide fits)
  refine ⟨shift_ofRatio, fun accumulator number => ?nearest, fun accumulator fits => ?rounds,
    fun first second ordered fits fits' => ?monotone, fun accumulator fits fits' => ?odd⟩
  case nearest =>
    have own : NearestAway (requantizer.scaled accumulator) (requantizer.rounded accumulator) :=
      nearestAway_roundHalfAway _
    exact ⟨fun nearest => nearest.unique own, fun same => same ▸ own⟩
  case rounds => exact ⟨exact fits, wide fits⟩
  case monotone =>
    rw [exact fits, exact fits']
    exact scales.rounded_mono ordered fits.word fits'.word
  case odd => rw [exact fits, exact fits', rounded_neg]

def quarter : Requantizer := ⟨2 ^ 30, -1⟩

/-- A quarter of six is half way between one and two, and two is farther from zero. -/
theorem quarter_rounds_in_wide_words :
    (0 ≤ quarter.multiplier ∧ quarter.multiplier < 2 ^ 31) ∧ quarter.scaled 6 = 3 / 2 ∧
      NearestAway (quarter.scaled 6) 2 ∧ quarter.apply 6 = 2 ∧ quarter.applyWide? 6 = some 2 ∧
      quarter.apply (-6) = -2 := by
  have bounds : 0 ≤ quarter.multiplier ∧ quarter.multiplier < 2 ^ 31 := by decide
  have two : quarter.rounded 6 = 2 := by decide +kernel
  have fits : quarter.Fits 6 := ⟨by decide, two ▸ by decide⟩
  have fits' : quarter.Fits (-6) := ⟨by decide, by rw [rounded_neg, two]; decide⟩
  obtain ⟨-, nearest, rounds, -, odd⟩ := apply_rounds_in_wide_words bounds.1 bounds.2
  have scaled := rounds 6 fits
  have opposite := odd 6 fits fits'
  rw [two] at scaled
  rw [scaled.1] at opposite
  exact ⟨bounds, by decide +kernel, (nearest 6 2).2 two.symm, scaled.1, scaled.2, opposite⟩

end Requantizer

end TensorRuntime
