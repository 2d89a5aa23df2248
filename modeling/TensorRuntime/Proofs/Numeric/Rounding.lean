import Mathlib.Algebra.Order.Field.Power
import Mathlib.Data.Int.Log
import Mathlib.Data.Rat.Floor
import Mathlib.Tactic.FieldSimp
import Mathlib.Tactic.GCongr
import Mathlib.Tactic.Linarith
import Mathlib.Tactic.NormNum
import Mathlib.Tactic.Positivity
import Mathlib.Tactic.Ring
import TensorRuntime.Numeric.BinaryFormat

/-!
Rounding to a binary format. Powers of two from the least positive value on bound a rounded value
where they bound the value itself, and the pattern of a magnitude is below the one of infinity
exactly below the overflow threshold.
-/

namespace TensorRuntime

section Logarithm

variable {value : Rat} {exponent : Int}

/-- The logarithms of numerator and denominator place a quotient within two powers of two. -/
theorem quotient_between_powers {numerator denominator : Nat} (positive : 0 < numerator)
    (nonzero : 0 < denominator) :
    (2 : Rat) ^ ((numerator.log2 : Int) - denominator.log2 - 1) ≤ numerator / denominator ∧
      (numerator : Rat) / denominator < 2 ^ ((numerator.log2 : Int) - denominator.log2 + 1) := by
  have low : (2 : Rat) ^ (numerator.log2 : Int) ≤ numerator := by
    exact_mod_cast Nat.log2_self_le positive.ne'
  have high : (numerator : Rat) < 2 ^ ((numerator.log2 : Int) + 1) := by
    exact_mod_cast Nat.lt_log2_self (n := numerator)
  have low' : (2 : Rat) ^ (denominator.log2 : Int) ≤ denominator := by
    exact_mod_cast Nat.log2_self_le nonzero.ne'
  have high' : (denominator : Rat) < 2 ^ ((denominator.log2 : Int) + 1) := by
    exact_mod_cast Nat.lt_log2_self (n := denominator)
  have divisor : (0 : Rat) < denominator := by exact_mod_cast nonzero
  constructor
  · rw [le_div_iff₀ divisor]
    calc (2 : Rat) ^ ((numerator.log2 : Int) - denominator.log2 - 1) * denominator
        ≤ 2 ^ ((numerator.log2 : Int) - denominator.log2 - 1) *
            2 ^ ((denominator.log2 : Int) + 1) := by gcongr
      _ = 2 ^ (numerator.log2 : Int) := by
          rw [← zpow_add₀ two_ne_zero]
          congr 1
          ring
      _ ≤ numerator := low
  · rw [div_lt_iff₀ divisor]
    calc (numerator : Rat) < 2 ^ ((numerator.log2 : Int) + 1) := high
      _ = 2 ^ ((numerator.log2 : Int) - denominator.log2 + 1) * 2 ^ (denominator.log2 : Int) := by
          rw [← zpow_add₀ two_ne_zero]
          congr 1
          ring
      _ ≤ 2 ^ ((numerator.log2 : Int) - denominator.log2 + 1) * denominator := by gcongr

theorem floorLog2_bounds (positive : 0 < value) :
    (2 : Rat) ^ floorLog2 value ≤ value ∧ value < 2 ^ (floorLog2 value + 1) := by
  have numerator : 0 < value.num.toNat := by
    have := Rat.num_pos.2 positive
    omega
  have ratio : (value.num.toNat : Rat) / value.den = value := by
    have own : ((value.num.toNat : Int) : Rat) = value.num := by
      exact_mod_cast Int.toNat_of_nonneg (Rat.num_nonneg.2 positive.le)
    rw [← Int.cast_natCast (R := Rat) value.num.toNat, own, Rat.num_div_den]
  have between := quotient_between_powers numerator value.den_pos
  rw [ratio] at between
  unfold floorLog2
  dsimp only
  split
  · rename_i reached
    exact ⟨reached, between.2⟩
  · rename_i missed
    rw [Int.sub_add_cancel]
    exact ⟨between.1, not_le.1 missed⟩

theorem floorLog2_eq_log (positive : 0 < value) : floorLog2 value = Int.log 2 value := by
  obtain ⟨low, high⟩ := floorLog2_bounds positive
  have under := (Int.zpow_le_iff_le_log Nat.one_lt_two positive).1 low
  have next := (Int.lt_zpow_iff_log_lt Nat.one_lt_two positive).1 high
  omega

theorem le_floorLog2_iff (positive : 0 < value) :
    exponent ≤ floorLog2 value ↔ 2 ^ exponent ≤ value := by
  rw [floorLog2_eq_log positive]
  exact (Int.zpow_le_iff_le_log Nat.one_lt_two positive).symm

theorem floorLog2_lt_iff (positive : 0 < value) :
    floorLog2 value < exponent ↔ value < 2 ^ exponent := by
  rw [floorLog2_eq_log positive]
  exact (Int.lt_zpow_iff_log_lt Nat.one_lt_two positive).symm

end Logarithm

section HalfEven

variable {value : Rat} {number : Int}

theorem roundHalfEven_near (value : Rat) : |value - roundHalfEven value| ≤ 1 / 2 := by
  have below := Rat.floor_le value
  have above := Rat.lt_floor (x := value)
  unfold roundHalfEven
  dsimp only
  split
  · exact abs_le.2 ⟨by linarith, by linarith⟩
  · split
    · push_cast
      exact abs_le.2 ⟨by linarith, by linarith⟩
    · split
      · exact abs_le.2 ⟨by linarith, by linarith⟩
      · push_cast
        exact abs_le.2 ⟨by linarith, by linarith⟩

theorem roundHalfEven_even (half : |value - roundHalfEven value| = 1 / 2) :
    roundHalfEven value % 2 = 0 := by
  have below := Rat.floor_le value
  have above := Rat.lt_floor (x := value)
  unfold roundHalfEven at half ⊢
  dsimp only at half ⊢
  split
  · rename_i low
    rw [if_pos low, abs_of_nonneg (by linarith)] at half
    linarith
  · rename_i low
    split
    · rename_i high
      rw [if_neg low, if_pos high] at half
      push_cast at half
      rw [abs_of_nonpos (by linarith)] at half
      linarith
    · split
      · assumption
      · omega

theorem le_roundHalfEven (bound : (number : Rat) ≤ value) : number ≤ roundHalfEven value := by
  have near := (abs_le.1 (roundHalfEven_near value)).2
  have step : ((number - 1 : Int) : Rat) < roundHalfEven value := by
    push_cast
    linarith
  have := Int.cast_lt.1 step
  omega

theorem roundHalfEven_le (bound : value ≤ number) : roundHalfEven value ≤ number := by
  have near := (abs_le.1 (roundHalfEven_near value)).1
  have step : (roundHalfEven value : Rat) < ((number + 1 : Int) : Rat) := by
    push_cast
    linarith
  have := Int.cast_lt.1 step
  omega

theorem even_le_roundHalfEven_iff (even : number % 2 = 0) :
    number ≤ roundHalfEven value ↔ (number : Rat) - 1 / 2 ≤ value := by
  have near := abs_le.1 (roundHalfEven_near value)
  constructor
  · intro reached
    have cast : (number : Rat) ≤ roundHalfEven value := by exact_mod_cast reached
    linarith
  · intro bound
    by_contra missed
    have under : (roundHalfEven value : Rat) + 1 ≤ number := by
      exact_mod_cast (show roundHalfEven value + 1 ≤ number by omega)
    have half : value - roundHalfEven value = 1 / 2 := by linarith
    have next : roundHalfEven value = number - 1 := by
      have cast : ((roundHalfEven value + 1 : Int) : Rat) = number := by
        push_cast
        linarith
      have := Int.cast_inj.1 cast
      omega
    have tie := roundHalfEven_even (by rw [half]; norm_num : |value - roundHalfEven value| = 1 / 2)
    omega

end HalfEven

namespace BinaryFormat

variable {format : BinaryFormat} {value : Rat} {exponent : Int}

theorem power_in_units {unit : Int} (ordered : unit ≤ exponent) :
    (2 : Rat) ^ exponent / 2 ^ unit = ((2 ^ (exponent - unit).toNat : Int) : Rat) := by
  obtain ⟨places, rfl⟩ := Int.le.dest ordered
  rw [zpow_add₀ two_ne_zero, mul_div_cancel_left₀ _ (by positivity), add_sub_cancel_left,
    Int.toNat_natCast, zpow_natCast]
  push_cast
  rfl

theorem nearest_of_pos (positive : 0 < value) :
    format.nearest value = roundHalfEven (value / 2 ^ format.quantumExponent value) *
      2 ^ format.quantumExponent value := by
  unfold nearest
  rw [if_neg positive.ne', if_neg (not_lt.2 positive.le)]

theorem power_le_nearest (least : format.minExponent ≤ exponent) (bound : 2 ^ exponent ≤ value) :
    2 ^ exponent ≤ format.nearest value := by
  have positive : 0 < value := lt_of_lt_of_le (by positivity) bound
  have unit : (0 : Rat) < 2 ^ format.quantumExponent value := by positivity
  rw [nearest_of_pos positive, ← div_le_iff₀ unit]
  obtain ⟨power, ordered, whole, reached⟩ : ∃ power, exponent ≤ power ∧
      format.quantumExponent value ≤ power ∧ 2 ^ power ≤ value := by
    by_cases near : format.quantumExponent value ≤ exponent
    · exact ⟨exponent, le_refl _, near, bound⟩
    · refine ⟨floorLog2 value, (le_floorLog2_iff positive).2 bound, ?_,
        (floorLog2_bounds positive).1⟩
      unfold quantumExponent at near ⊢
      omega
  calc (2 : Rat) ^ exponent / 2 ^ format.quantumExponent value
      ≤ 2 ^ power / 2 ^ format.quantumExponent value := by
        gcongr
        norm_num
    _ = ((2 ^ (power - format.quantumExponent value).toNat : Int) : Rat) := power_in_units whole
    _ ≤ roundHalfEven (value / 2 ^ format.quantumExponent value) := by
        rw [Int.cast_le]
        refine le_roundHalfEven ?_
        rw [← power_in_units whole]
        gcongr

theorem nearest_le_power (positive : 0 < value) (least : format.minExponent ≤ exponent)
    (bound : value ≤ 2 ^ exponent) : format.nearest value ≤ 2 ^ exponent := by
  have unit : (0 : Rat) < 2 ^ format.quantumExponent value := by positivity
  have whole : format.quantumExponent value ≤ exponent := by
    have power : floorLog2 value ≤ exponent := by
      have under := (floorLog2_bounds positive).1.trans bound
      exact (zpow_le_zpow_iff_right₀ (by norm_num)).1 under
    unfold quantumExponent
    omega
  rw [nearest_of_pos positive, ← le_div_iff₀ unit, power_in_units whole, Int.cast_le]
  refine roundHalfEven_le ?_
  rw [← power_in_units whole]
  gcongr

def topExponent (format : BinaryFormat) : Int :=
  format.minExponent + (1 <<< format.exponentBits : Nat) - 3

def overflowThreshold (format : BinaryFormat) : Rat :=
  (2 * format.binade - 1 / 2) * 2 ^ format.topExponent

theorem binade_pos (format : BinaryFormat) : 0 < format.binade := by
  unfold binade
  rw [Nat.one_shiftLeft]
  positivity

theorem decode_bounds (wide : 2 ≤ format.exponentBits) {bits significand : Nat} {negative : Bool}
    (finite : format.decode bits = .finite negative significand exponent) :
    significand < 2 * format.binade ∧ format.minExponent ≤ exponent ∧
      exponent ≤ format.topExponent := by
  have patterns : 2 ^ 2 ≤ 1 <<< format.exponentBits := by
    rw [Nat.one_shiftLeft]
    exact Nat.pow_le_pow_right (by decide) wide
  have fraction : bits % format.binade < format.binade := Nat.mod_lt _ format.binade_pos
  have biased : bits / format.binade % (1 <<< format.exponentBits) < 1 <<< format.exponentBits :=
    Nat.mod_lt _ (by omega)
  unfold decode at finite
  unfold topExponent
  dsimp only at finite
  split at finite
  · split at finite <;> cases finite
  · split at finite
    · cases finite
      omega
    · cases finite
      omega

theorem binade_eq (format : BinaryFormat) :
    (format.binade : Rat) = 2 ^ ((format.precision - 1 : Nat) : Int) := by
  unfold binade
  rw [Nat.one_shiftLeft, zpow_natCast]
  push_cast
  rfl

theorem significand_le (positive : 0 < value) :
    roundHalfEven (value / 2 ^ format.quantumExponent value) ≤ (2 * format.binade : Nat) := by
  have unit : (0 : Rat) < 2 ^ format.quantumExponent value := by positivity
  refine roundHalfEven_le ?_
  rw [div_le_iff₀ unit]
  calc value ≤ 2 ^ (floorLog2 value + 1) := (floorLog2_bounds positive).2.le
    _ ≤ 2 ^ (1 + ((format.precision - 1 : Nat) : Int) + format.quantumExponent value) := by
        refine zpow_le_zpow_right₀ (by norm_num) ?_
        unfold quantumExponent
        omega
    _ = ((2 * format.binade : Nat) : Int) * 2 ^ format.quantumExponent value := by
        rw [zpow_add₀ two_ne_zero, zpow_add₀ two_ne_zero, ← binade_eq]
        push_cast
        ring

theorem binade_le_significand (positive : 0 < value)
    (normal : format.minExponent < format.quantumExponent value) :
    (format.binade : Int) ≤ roundHalfEven (value / 2 ^ format.quantumExponent value) := by
  have unit : (0 : Rat) < 2 ^ format.quantumExponent value := by positivity
  have power : floorLog2 value = (format.precision - 1 : Nat) + format.quantumExponent value := by
    unfold quantumExponent at normal ⊢
    omega
  refine le_roundHalfEven ?_
  rw [le_div_iff₀ unit, Int.cast_natCast, binade_eq, ← zpow_add₀ two_ne_zero, ← power]
  exact (floorLog2_bounds positive).1

theorem magnitudeBits_le (format : BinaryFormat) (value : Rat) :
    format.magnitudeBits value ≤ format.infinityBits := by
  unfold magnitudeBits
  split
  · exact Nat.zero_le _
  · exact min_le_right _ _

theorem infinityBits_pos (wide : 1 ≤ format.exponentBits) : 0 < format.infinityBits := by
  have patterns : 2 ^ 1 ≤ 2 ^ format.exponentBits := Nat.pow_le_pow_right (by decide) wide
  unfold infinityBits
  rw [Nat.one_shiftLeft]
  exact Nat.mul_pos (by omega) format.binade_pos

theorem magnitudeBits_pos (wide : 1 ≤ format.exponentBits)
    (bound : 2 ^ format.minExponent ≤ value) : 0 < format.magnitudeBits value := by
  have positive : 0 < value := lt_of_lt_of_le (by positivity) bound
  unfold magnitudeBits
  rw [if_neg (not_le.2 positive)]
  dsimp only
  refine lt_min ?_ (infinityBits_pos wide)
  by_cases normal : format.minExponent < format.quantumExponent value
  · have filled := binade_le_significand positive normal
    have := format.binade_pos
    omega
  · have least : format.quantumExponent value = format.minExponent := by
      unfold quantumExponent at normal ⊢
      omega
    have unit : (0 : Rat) < 2 ^ format.minExponent := by positivity
    have reached : 1 ≤ roundHalfEven (value / 2 ^ format.quantumExponent value) := by
      refine le_roundHalfEven ?_
      rw [least, le_div_iff₀ unit, Int.cast_one, one_mul]
      exact bound
    omega

theorem quantumExponent_le_iff (positive : 0 < value) {places : Nat} :
    format.quantumExponent value ≤ format.minExponent + places ↔
      value < 2 * format.binade * 2 ^ (format.minExponent + places) := by
  have power : (2 : Rat) * format.binade * 2 ^ (format.minExponent + places) =
      2 ^ (1 + ((format.precision - 1 : Nat) : Int) + (format.minExponent + places)) := by
    rw [binade_eq, zpow_add₀ two_ne_zero _ (format.minExponent + places), zpow_one_add₀ two_ne_zero]
  rw [power, ← floorLog2_lt_iff positive]
  unfold quantumExponent
  omega

/-- The pattern of a magnitude counts the binades of its last place. -/
theorem magnitudeBits_lt_iff (positive : 0 < value) {places bound : Nat}
    (power : format.quantumExponent value = format.minExponent + places)
    (small : bound ≤ format.infinityBits) :
    format.magnitudeBits value < bound ↔
      places * format.binade + roundHalfEven (value / 2 ^ format.quantumExponent value) <
        bound := by
  have whole : 0 ≤ roundHalfEven (value / 2 ^ format.quantumExponent value) :=
    le_roundHalfEven (by rw [Int.cast_zero]; positivity)
  have exponent : (format.quantumExponent value - format.minExponent).toNat = places := by omega
  unfold magnitudeBits
  rw [if_neg (not_le.2 positive)]
  dsimp only
  rw [exponent, min_lt_iff, ← Int.ofNat_lt (n := places * _ + _)]
  push_cast
  rw [Int.toNat_of_nonneg whole]
  omega

theorem exists_quantumExponent_eq (value : Rat) :
    ∃ places : Nat, format.quantumExponent value = format.minExponent + places := by
  refine ⟨(format.quantumExponent value - format.minExponent).toNat, ?_⟩
  unfold quantumExponent
  omega

theorem exists_last_binade (wide : 2 ≤ format.exponentBits) : ∃ top : Nat,
    format.infinityBits = top * format.binade + 2 * format.binade ∧
      format.overflowThreshold =
        (2 * format.binade - 1 / 2) * 2 ^ (format.minExponent + top) := by
  obtain ⟨top, patterns⟩ : ∃ top, 1 <<< format.exponentBits = top + 3 := by
    have least : 2 ^ 2 ≤ 2 ^ format.exponentBits := Nat.pow_le_pow_right (by decide) wide
    exact ⟨1 <<< format.exponentBits - 3, by rw [Nat.one_shiftLeft]; omega⟩
  refine ⟨top, ?_, ?_⟩
  · unfold infinityBits
    rw [patterns, ← Nat.add_mul]
    rfl
  · unfold overflowThreshold topExponent
    rw [patterns, Nat.cast_add, Nat.cast_ofNat, ← add_assoc, add_sub_cancel_right]

theorem lt_of_lower_binade (positive : 0 < value) {places top : Nat}
    (power : format.quantumExponent value = format.minExponent + places) (below : places < top) :
    value < (2 * format.binade - 1 / 2) * 2 ^ (format.minExponent + top) := by
  have unit : (0 : Rat) < 2 ^ (format.minExponent + top) := by positivity
  have narrow : value < 2 * format.binade * 2 ^ (format.minExponent + places) :=
    (quantumExponent_le_iff positive).1 power.le
  have doubled : (2 : Rat) * 2 ^ (format.minExponent + places) ≤
      2 ^ (format.minExponent + top) := by
    rw [← zpow_one_add₀ two_ne_zero]
    exact zpow_le_zpow_right₀ (by norm_num) (by omega)
  have room : (1 : Rat) ≤ format.binade := by exact_mod_cast format.binade_pos
  nlinarith

theorem not_lt_of_higher_binade (positive : 0 < value) {places top : Nat}
    (power : format.quantumExponent value = format.minExponent + places) (above : top < places) :
    ¬ value < (2 * format.binade - 1 / 2) * 2 ^ (format.minExponent + top) := by
  have unit : (0 : Rat) < 2 ^ (format.minExponent + top) := by positivity
  have beyond : ¬ value < 2 * format.binade * 2 ^ (format.minExponent + top) := by
    rw [← quantumExponent_le_iff positive]
    omega
  linarith

theorem lt_infinityBits_of_pos (wide : 2 ≤ format.exponentBits) (positive : 0 < value) :
    format.magnitudeBits value < format.infinityBits ↔ value < format.overflowThreshold := by
  obtain ⟨top, infinity, threshold⟩ := exists_last_binade wide
  obtain ⟨places, power⟩ := format.exists_quantumExponent_eq value
  have binade := format.binade_pos
  have most : roundHalfEven (value / 2 ^ format.quantumExponent value) ≤
      (2 * format.binade : Nat) := significand_le positive
  rw [magnitudeBits_lt_iff positive power (le_refl _), infinity, threshold]
  obtain below | rfl | above := Nat.lt_trichotomy places top
  · have steps : (places + 1) * format.binade ≤ top * format.binade :=
      Nat.mul_le_mul_right _ below
    refine iff_of_true ?_ (lt_of_lower_binade positive power below)
    rw [Nat.add_mul] at steps
    push_cast
    omega
  · have unit : (0 : Rat) < 2 ^ (format.minExponent + places) := by positivity
    have even : ((2 * format.binade : Nat) : Int) % 2 = 0 := by omega
    have tie :
        (2 * format.binade : Nat) ≤ roundHalfEven (value / 2 ^ format.quantumExponent value) ↔
          ((2 * format.binade : Nat) : Rat) - 1 / 2 ≤ value / 2 ^ format.quantumExponent value :=
      even_le_roundHalfEven_iff even
    rw [← div_lt_iff₀ unit, ← power, ← not_le, ← not_le, not_iff_not]
    push_cast at tie ⊢
    rw [add_le_add_iff_left]
    exact tie
  · have steps : (top + 1) * format.binade ≤ places * format.binade :=
      Nat.mul_le_mul_right _ above
    have filled :
        (format.binade : Int) ≤ roundHalfEven (value / 2 ^ format.quantumExponent value) :=
      binade_le_significand positive (by omega)
    refine iff_of_false ?_ (not_lt_of_higher_binade positive power above)
    rw [Nat.add_mul] at steps
    push_cast
    omega

/-- Exactly from the overflow threshold on a magnitude rounds to infinity. -/
theorem magnitudeBits_lt_infinityBits_iff (wide : 2 ≤ format.exponentBits) :
    format.magnitudeBits value < format.infinityBits ↔ value < format.overflowThreshold := by
  obtain positive | absent := lt_or_ge 0 value
  · exact lt_infinityBits_of_pos wide positive
  · have room : (1 : Rat) ≤ format.binade := by exact_mod_cast format.binade_pos
    have threshold : 0 < format.overflowThreshold :=
      mul_pos (by linarith) (by positivity)
    refine iff_of_true ?_ (by linarith)
    unfold magnitudeBits
    rw [if_pos absent]
    exact infinityBits_pos (by omega)

end BinaryFormat

end TensorRuntime
