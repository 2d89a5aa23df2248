import Mathlib.Algebra.Order.Field.Power
import Mathlib.Data.Rat.Floor
import Mathlib.Tactic.FieldSimp
import Mathlib.Tactic.GCongr
import Mathlib.Tactic.Linarith
import Mathlib.Tactic.NormNum
import Mathlib.Tactic.Positivity
import Mathlib.Tactic.Ring
import TensorRuntime.Proofs.Attempt
import TensorRuntime.Proofs.Numeric.Quotient

/-!
Fixed-point scaling against the exact product. What `Requantizer.apply` gives is the product of
the accumulator and the ratio, rounded once, wherever that fits into a word of 64 bits; larger
products lose their upper bits before a stage can clamp them.
-/

namespace TensorRuntime

open Attempt

section Rounding

variable {value other : Rat}

theorem roundHalfAway_neg (value : Rat) : roundHalfAway (-value) = -roundHalfAway value := by
  unfold roundHalfAway
  obtain below | rfl | above := lt_trichotomy value 0
  · rw [if_neg (by linarith), if_pos below]
    simp
  · decide +kernel
  · rw [if_pos (by linarith), if_neg (by linarith)]
    simp

theorem roundHalfAway_mono (ordered : value ≤ other) :
    roundHalfAway value ≤ roundHalfAway other := by
  have grows {first second : Rat} (low : 0 ≤ first) (steps : first ≤ second) :
      roundHalfAway first ≤ roundHalfAway second := by
    unfold roundHalfAway
    rw [if_neg (by linarith), if_neg (by linarith), Rat.le_floor_iff]
    have floored := Rat.floor_le (first + 1 / 2)
    linarith
  by_cases low : 0 ≤ value
  · exact grows low ordered
  · by_cases high : 0 ≤ other
    · have below : 0 ≤ roundHalfAway (-value) := roundHalfAway_nonneg (by linarith)
      have above := roundHalfAway_nonneg high
      rw [roundHalfAway_neg] at below
      omega
    · have reflected : roundHalfAway (-other) ≤ roundHalfAway (-value) :=
        grows (by linarith) (by linarith)
      rw [roundHalfAway_neg, roundHalfAway_neg] at reflected
      omega

theorem roundHalfAway_intCast (number : Int) : roundHalfAway (number : Rat) = number := by
  have fraction : (⌊(1 / 2 : Rat)⌋ : Int) = 0 := by norm_num
  have floors (whole : Int) : ((whole : Rat) + 1 / 2).floor = whole := by
    change ⌊(whole : Rat) + 1 / 2⌋ = whole
    rw [Int.floor_intCast_add, fraction, Int.add_zero]
  unfold roundHalfAway
  split
  · rw [← Int.cast_neg, floors]
    omega
  · exact floors number

theorem roundHalfAway_div (number : Int) {half : Nat} (positive : 0 < half) :
    roundHalfAway ((number : Rat) / (2 * half : Nat)) =
      if 0 ≤ number then (number + half) / (2 * half : Nat)
      else -((-number + half) / (2 * half : Nat)) := by
  have unit : (0 : Rat) < (2 * half : Nat) := by positivity
  have nonneg {whole : Int} (low : 0 ≤ whole) :
      roundHalfAway ((whole : Rat) / (2 * half : Nat)) = (whole + half) / (2 * half : Nat) := by
    have quotient : (0 : Rat) ≤ (whole : Rat) / (2 * half : Nat) := by positivity
    unfold roundHalfAway
    rw [if_neg (by linarith), ← Rat.floor_intCast_div_natCast]
    congr 1
    push_cast
    field_simp
  split
  · rename_i low
    exact nonneg low
  · rename_i low
    have reflected := nonneg (show 0 ≤ -number by omega)
    rw [← reflected, ← roundHalfAway_neg, Int.cast_neg, neg_div, neg_neg]

end Rounding

def InWord (number : Int) : Prop := -2 ^ 63 ≤ number ∧ number < 2 ^ 63

instance (number : Int) : Decidable (InWord number) := inferInstanceAs (Decidable (_ ∧ _))

namespace Requantizer

variable {requantizer : Requantizer} {accumulator : Int}

def scaled (requantizer : Requantizer) (accumulator : Int) : Rat :=
  (accumulator * requantizer.multiplier : Int) * 2 ^ (requantizer.shift - 31)

def rounded (requantizer : Requantizer) (accumulator : Int) : Int :=
  roundHalfAway (requantizer.scaled accumulator)

/-- The multiplier is not negative and fits into its field, or the ratio is next to nothing. -/
def Scales (requantizer : Requantizer) : Prop :=
  0 ≤ requantizer.multiplier ∧ requantizer.multiplier < 2 ^ 31 ∨
    requantizer.multiplier = -1 ∧ requantizer.shift ≤ -1023

instance (requantizer : Requantizer) : Decidable requantizer.Scales :=
  inferInstanceAs (Decidable (_ ∨ _))

theorem wrap64_of_inWord {number : Int} (fits : InWord number) : wrap64 number = number := by
  unfold InWord at fits
  exact Int.bmod_eq_of_le_mul_two (by omega) (by omega)

theorem scaled_of_left {places : Nat} (left : requantizer.shift = 31 + places) :
    requantizer.scaled accumulator =
      ((accumulator * requantizer.multiplier * 2 ^ places : Int) : Rat) := by
  unfold scaled
  rw [left, add_sub_cancel_left, zpow_natCast]
  push_cast
  ring

theorem scaled_of_right {places : Nat} (right : requantizer.shift = 31 - places) :
    requantizer.scaled accumulator =
      ((accumulator * requantizer.multiplier : Int) : Rat) / (2 ^ places : Nat) := by
  unfold scaled
  have exponent : requantizer.shift - 31 = -(places : Int) := by omega
  rw [exponent, zpow_neg, zpow_natCast, div_eq_mul_inv]
  push_cast
  ring

theorem rounded_of_left {places : Nat} (left : requantizer.shift = 31 + places) :
    requantizer.rounded accumulator = accumulator * requantizer.multiplier * 2 ^ places := by
  unfold rounded
  rw [scaled_of_left left, roundHalfAway_intCast]

theorem rounded_of_right {places : Nat} (right : requantizer.shift = 30 - places) :
    requantizer.rounded accumulator =
      if 0 ≤ accumulator * requantizer.multiplier then
        (accumulator * requantizer.multiplier + (2 ^ places : Nat)) / (2 * 2 ^ places : Nat)
      else -((-(accumulator * requantizer.multiplier) + (2 ^ places : Nat)) /
        (2 * 2 ^ places : Nat)) := by
  have shifted : requantizer.shift = 31 - (places + 1 : Nat) := by omega
  unfold rounded
  rw [scaled_of_right shifted, pow_succ', roundHalfAway_div _ (by positivity)]

/-- A left shift by more than 63 places leaves nothing of a product but its last bit. -/
theorem apply_of_left {places : Nat} (left : requantizer.shift = 31 + places) :
    requantizer.apply accumulator =
      wrap64 (accumulator * requantizer.multiplier * 2 ^ min places 63) := by
  have moved : (min (-(31 - requantizer.shift)) 63).toNat = min places 63 := by omega
  unfold apply
  dsimp only
  rw [if_pos (by omega), moved, Nat.one_shiftLeft]
  push_cast
  rfl

theorem apply_of_right {places : Nat} (right : requantizer.shift = 30 - places)
    (bound : places < 126) :
    requantizer.apply accumulator = wrap64 (requantizer.rounded accumulator) := by
  have half : (31 - requantizer.shift - 1).toNat = places := by omega
  have unit : (31 - requantizer.shift).toNat = places + 1 := by omega
  unfold apply
  dsimp only
  rw [if_neg (by omega), if_neg (by omega), half, unit, rounded_of_right right, Nat.one_shiftLeft,
    Nat.one_shiftLeft, pow_succ']

theorem Scales.size (scales : requantizer.Scales) :
    -1 ≤ requantizer.multiplier ∧ requantizer.multiplier < 2 ^ 31 := by
  unfold Scales at scales
  omega

theorem Scales.product_bound (scales : requantizer.Scales) (word : InWord accumulator) :
    -2 ^ 94 < accumulator * requantizer.multiplier ∧
      accumulator * requantizer.multiplier < 2 ^ 94 := by
  obtain ⟨low, high⟩ := scales.size
  obtain ⟨least, most⟩ := word
  constructor <;> nlinarith

theorem Scales.rounded_far (scales : requantizer.Scales) (word : InWord accumulator) {places : Nat}
    (right : requantizer.shift = 30 - places) (far : 126 ≤ places) :
    requantizer.rounded accumulator = 0 := by
  have power : 2 ^ 126 ≤ 2 ^ places := Nat.pow_le_pow_right (by omega) far
  obtain ⟨low, high⟩ := scales.product_bound word
  rw [rounded_of_right right]
  split
  · exact Int.ediv_eq_zero_of_lt (by omega) (by omega)
  · rw [Int.ediv_eq_zero_of_lt (by omega) (by omega)]
    rfl

/-- Up to a left shift by 63 places, scaling is rounding the exact product and dropping the bits
above a word. -/
theorem Scales.apply_eq_wrap (scales : requantizer.Scales) (word : InWord accumulator)
    (bound : requantizer.shift ≤ 94) :
    requantizer.apply accumulator = wrap64 (requantizer.rounded accumulator) := by
  by_cases left : 31 ≤ requantizer.shift
  · obtain ⟨places, shifted⟩ := Int.le.dest left
    rw [apply_of_left shifted.symm, rounded_of_left shifted.symm, Nat.min_eq_left (by omega)]
  · obtain ⟨places, shifted⟩ := Int.le.dest (a := requantizer.shift) (b := 30) (by omega)
    have right : requantizer.shift = 30 - places := by omega
    by_cases near : places < 126
    · exact apply_of_right right near
    · rw [scales.rounded_far word right (by omega)]
      unfold apply
      dsimp only
      rw [if_neg (by omega), if_pos (by omega)]
      rfl

theorem product_of_far {places : Nat} (left : requantizer.shift = 31 + places) (far : 64 ≤ places)
    (fits : InWord (requantizer.rounded accumulator)) :
    accumulator * requantizer.multiplier = 0 := by
  have power : (2 : Int) ^ 64 ≤ 2 ^ places := by gcongr; omega
  rw [rounded_of_left left] at fits
  by_contra product
  obtain below | above := lt_or_gt_of_ne product
  · have := fits.1
    nlinarith
  · have := fits.2
    nlinarith

theorem Scales.apply_eq (scales : requantizer.Scales) (word : InWord accumulator)
    (fits : InWord (requantizer.rounded accumulator)) :
    requantizer.apply accumulator = requantizer.rounded accumulator := by
  by_cases bound : requantizer.shift ≤ 94
  · rw [scales.apply_eq_wrap word bound, wrap64_of_inWord fits]
  · obtain ⟨places, shifted⟩ := Int.le.dest (a := 31) (b := requantizer.shift) (by omega)
    have vanished := product_of_far shifted.symm (by omega) fits
    rw [apply_of_left shifted.symm, rounded_of_left shifted.symm, vanished]
    simp [wrap64]

theorem Scales.rounded_mono (scales : requantizer.Scales) {first second : Int}
    (ordered : first ≤ second) (word : InWord first) (word' : InWord second) :
    requantizer.rounded first ≤ requantizer.rounded second := by
  obtain ⟨nonneg, _⟩ | ⟨_, tiny⟩ := id scales
  · have products := Int.mul_le_mul_of_nonneg_right ordered nonneg
    apply roundHalfAway_mono
    unfold scaled
    gcongr
  · obtain ⟨places, shifted⟩ := Int.le.dest (a := requantizer.shift) (b := 30) (by omega)
    have right : requantizer.shift = 30 - places := by omega
    rw [scales.rounded_far word right (by omega), scales.rounded_far word' right (by omega)]

theorem Scales.rounded_bound (scales : requantizer.Scales)
    (room : |(accumulator : Rat)| * 2 ^ requantizer.shift ≤ 2 ^ 63) :
    -2 ^ 63 + 2 ^ 32 ≤ requantizer.rounded accumulator ∧
      requantizer.rounded accumulator ≤ 2 ^ 63 - 2 ^ 32 := by
  have size : |requantizer.scaled accumulator| ≤ ((2 ^ 63 - 2 ^ 32 : Int) : Rat) := by
    have multiplier : |(requantizer.multiplier : Rat)| ≤ 2 ^ 31 - 1 := by
      have within : |requantizer.multiplier| ≤ 2 ^ 31 - 1 :=
        abs_le.2 (by have := scales.size; omega)
      exact_mod_cast within
    have power : (0 : Rat) < 2 ^ (requantizer.shift - 31) := by positivity
    calc |requantizer.scaled accumulator|
        = |(accumulator : Rat)| * 2 ^ requantizer.shift *
            (|(requantizer.multiplier : Rat)| / 2 ^ 31) := by
          unfold scaled
          rw [abs_mul, Int.cast_mul, abs_mul, abs_of_pos power, zpow_sub₀ (by norm_num)]
          norm_num
          ring
      _ ≤ 2 ^ 63 * ((2 ^ 31 - 1) / 2 ^ 31) := by gcongr
      _ = ((2 ^ 63 - 2 ^ 32 : Int) : Rat) := by norm_num
  obtain ⟨low, high⟩ := abs_le.1 size
  have least := roundHalfAway_mono low
  have most := roundHalfAway_mono high
  rw [← Int.cast_neg, roundHalfAway_intCast] at least
  rw [roundHalfAway_intCast] at most
  unfold rounded
  omega

theorem mantissa_bounds {significand : Nat} (positive : 0 < significand) (exponent : Int) :
    let mantissa := roundHalfAway
      ((significand : Rat) * 2 ^ (exponent - (significand.log2 + exponent + 1) + 31))
    2 ^ 30 ≤ mantissa ∧ mantissa ≤ 2 ^ 31 := by
  have low : ((2 ^ significand.log2 : Nat) : Rat) ≤ significand := by
    exact_mod_cast Nat.log2_self_le (by omega)
  have high : (significand : Rat) ≤ (2 ^ (significand.log2 + 1) : Nat) := by
    exact_mod_cast Nat.lt_log2_self.le
  have places : exponent - (significand.log2 + exponent + 1) + 31 =
      30 - (significand.log2 : Int) := by omega
  have power : (0 : Rat) < 2 ^ significand.log2 := by positivity
  have value : (significand : Rat) * 2 ^ (30 - (significand.log2 : Int)) =
      2 ^ 30 * (significand / 2 ^ significand.log2) := by
    rw [zpow_sub₀ (by norm_num), zpow_natCast]
    norm_num
    ring
  push_cast at low high
  rw [pow_succ] at high
  have least : ((2 ^ 30 : Int) : Rat) ≤ 2 ^ 30 * (significand / 2 ^ significand.log2) := by
    have one : 1 ≤ (significand : Rat) / 2 ^ significand.log2 := (one_le_div power).2 low
    push_cast
    linarith
  have most : 2 ^ 30 * ((significand : Rat) / 2 ^ significand.log2) ≤ ((2 ^ 31 : Int) : Rat) := by
    have two : (significand : Rat) / 2 ^ significand.log2 ≤ 2 :=
      (div_le_iff₀ power).2 (by linarith)
    push_cast
    linarith
  intro mantissa
  have lower := roundHalfAway_mono least
  have upper := roundHalfAway_mono most
  rw [roundHalfAway_intCast, ← value, ← places] at lower
  rw [roundHalfAway_intCast, ← value, ← places] at upper
  exact ⟨lower, upper⟩

theorem ofDyadic_multiplier {significand : Nat} (positive : 0 < significand) (exponent : Int) :
    let requantizer := ofDyadic significand exponent
    2 ^ 30 ≤ requantizer.multiplier ∧ requantizer.multiplier < 2 ^ 31 ∨
      requantizer.multiplier = 0 ∧ 1023 ≤ requantizer.shift ∨
      requantizer.multiplier = -1 ∧ requantizer.shift ≤ -1023 := by
  obtain ⟨low, high⟩ := mantissa_bounds positive exponent
  unfold ofDyadic
  dsimp only
  generalize
    (if reachesPower significand (significand.log2 + exponent + 1) = true then _ else _ : Int) =
      divisor
  by_cases large : 1024 ≤ divisor
  · rw [if_pos large]
    exact .inr (.inl ⟨rfl, by dsimp only; omega⟩)
  rw [if_neg large]
  by_cases small : divisor ≤ -1024
  · rw [if_pos small]
    exact .inr (.inr ⟨rfl, by dsimp only; omega⟩)
  rw [if_neg small]
  left
  split
  · have narrow : ((1 <<< 30 : Nat) : Int) < 2 ^ 31 := by decide
    exact ⟨Int.le_refl _, narrow⟩
  · rename_i below
    exact ⟨low, lt_of_le_of_ne high below⟩

theorem ofRatio_scales (ratio : Float) : (ofRatio ratio).Scales := by
  unfold ofRatio
  split
  · rename_i significand exponent _
    split
    · decide
    · rename_i nonzero
      obtain normal | vanished | tiny :=
        ofDyadic_multiplier (Nat.pos_of_ne_zero nonzero) exponent
      · exact .inl (by omega)
      · exact .inl (by omega)
      · exact .inr tiny
  · decide

end Requantizer

namespace OutputStage

variable {stage : OutputStage} {outChannel : Nat} {requantizer : Requantizer}

def clamp (stage : OutputStage) (number : Int) : Int :=
  max stage.bounds.1 (min stage.bounds.2 number)

/-- The sum, its rounded product and the stored integer before it is clamped are words. -/
def Carries (stage : OutputStage) (requantizer : Requantizer) (sum : Int) : Prop :=
  InWord sum ∧ InWord (requantizer.rounded sum) ∧
    InWord (requantizer.rounded sum + stage.zeroPoint)

instance (stage : OutputStage) (requantizer : Requantizer) (sum : Int) :
    Decidable (stage.Carries requantizer sum) := inferInstanceAs (Decidable (_ ∧ _))

theorem store_eq (held : stage.requantizers[outChannel]? = some requantizer)
    (ordered : stage.bounds.1 ≤ stage.bounds.2) (sum : Int) :
    stage.store outChannel sum =
      .ok (stage.clamp (Requantizer.wrap64 (requantizer.apply sum + stage.zeroPoint))) := by
  unfold store
  rw [readAt_eq_ok.2 held]
  exact if_neg (by omega)

theorem clamp_mono {first second : Int} (ordered : first ≤ second) :
    stage.clamp first ≤ stage.clamp second := by
  unfold clamp
  omega

theorem carries_of_room (scales : requantizer.Scales) {sum : Int} (word : InWord sum)
    (room : requantizer.shift ≤ 0 ∨ |(sum : Rat)| * 2 ^ requantizer.shift ≤ 2 ^ 63)
    (zero : -128 ≤ stage.zeroPoint ∧ stage.zeroPoint ≤ 127) : stage.Carries requantizer sum := by
  have within : |(sum : Rat)| * 2 ^ requantizer.shift ≤ 2 ^ 63 := by
    obtain small | within := room
    · have size : |sum| ≤ 2 ^ 63 := by
        obtain ⟨low, high⟩ := word
        exact abs_le.2 ⟨low, high.le⟩
      have power : (2 : Rat) ^ requantizer.shift ≤ 1 := zpow_le_one_of_nonpos₀ (by norm_num) small
      calc |(sum : Rat)| * 2 ^ requantizer.shift ≤ 2 ^ 63 * 1 := by
            gcongr
            exact_mod_cast size
        _ = 2 ^ 63 := mul_one _
    · exact within
  obtain ⟨low, high⟩ := scales.rounded_bound within
  refine ⟨word, ⟨?_, ?_⟩, ⟨?_, ?_⟩⟩ <;> omega

/-- What a stage stores is the exact product of the sum and the ratio, rounded half away from zero,
moved by the zero point and clamped, as long as the rounded product is a word before and after it is
moved; so far it grows with the sum and saturates. What is no word loses its upper bits before it is
clamped. -/
theorem store_rounds_and_saturates (held : stage.requantizers[outChannel]? = some requantizer)
    (scales : requantizer.Scales) (ordered : stage.bounds.1 ≤ stage.bounds.2) :
    (∀ ratio, (Requantizer.ofRatio ratio).Scales) ∧
    (∀ sum, stage.Carries requantizer sum → stage.store outChannel sum =
      .ok (stage.clamp (requantizer.rounded sum + stage.zeroPoint))) ∧
    (∀ first second, first ≤ second → stage.Carries requantizer first →
      stage.Carries requantizer second → ∃ low high, stage.store outChannel first = .ok low ∧
        stage.store outChannel second = .ok high ∧ low ≤ high) ∧
    (∀ sum, stage.Carries requantizer sum →
      (stage.bounds.2 ≤ requantizer.rounded sum + stage.zeroPoint →
        stage.store outChannel sum = .ok stage.bounds.2) ∧
      (requantizer.rounded sum + stage.zeroPoint ≤ stage.bounds.1 →
        stage.store outChannel sum = .ok stage.bounds.1)) ∧
    (∀ sum, InWord sum → -128 ≤ stage.zeroPoint ∧ stage.zeroPoint ≤ 127 →
      requantizer.shift ≤ 0 ∨ |(sum : Rat)| * 2 ^ requantizer.shift ≤ 2 ^ 63 →
      stage.Carries requantizer sum) ∧
    (∀ sum, InWord sum → requantizer.shift ≤ 94 → stage.store outChannel sum =
      .ok (stage.clamp (Requantizer.wrap64
        (Requantizer.wrap64 (requantizer.rounded sum) + stage.zeroPoint)))) := by
  have stores sum (carried : stage.Carries requantizer sum) : stage.store outChannel sum =
      .ok (stage.clamp (requantizer.rounded sum + stage.zeroPoint)) := by
    obtain ⟨word, fits, moved⟩ := carried
    rw [store_eq held ordered, scales.apply_eq word fits, Requantizer.wrap64_of_inWord moved]
  refine ⟨Requantizer.ofRatio_scales, stores, ?_, ?_, ?_, ?_⟩
  · intro first second grows carried carried'
    have rounded := scales.rounded_mono grows carried.1 carried'.1
    exact ⟨_, _, stores first carried, stores second carried', clamp_mono (by omega)⟩
  · intro sum carried
    rw [stores sum carried]
    unfold clamp
    constructor
    · intro above
      rw [show max stage.bounds.1 _ = stage.bounds.2 by omega]
    · intro below
      rw [show max stage.bounds.1 _ = stage.bounds.1 by omega]
  · intro sum word zero room
    exact carries_of_room scales word room zero
  · intro sum word bound
    rw [store_eq held ordered, scales.apply_eq_wrap word bound]

def steepStage : OutputStage :=
  ⟨#[.ofRatio (.ofBits 0x43B0000000000000)], #[0], 0, (-128, 127)⟩

theorem steepStage_saturates : steepStage.Carries ⟨2 ^ 30, 61⟩ 4 ∧
    steepStage.store 0 4 = .ok 127 ∧ steepStage.store 0 (-4) = .ok (-128) := by
  have held : steepStage.requantizers[0]? = some ⟨2 ^ 30, 61⟩ := by decide +kernel
  have carried : steepStage.Carries ⟨2 ^ 30, 61⟩ 4 := by decide +kernel
  have carried' : steepStage.Carries ⟨2 ^ 30, 61⟩ (-4) := by decide +kernel
  obtain ⟨_, _, _, saturates, _⟩ :=
    store_rounds_and_saturates held (by decide) (by decide)
  exact ⟨carried, (saturates 4 carried).1 (by decide +kernel),
    (saturates (-4) carried').2 (by decide +kernel)⟩

/-- Twice the sum is scaled to `2 ^ 63`, which is stored as the least byte. -/
theorem steepStage_wraps :
    steepStage.requantizers[0]? = some ⟨2 ^ 30, 61⟩ ∧ steepStage.store 0 4 = .ok 127 ∧
      steepStage.store 0 8 = .ok (-128) ∧
      steepStage.clamp ((⟨2 ^ 30, 61⟩ : Requantizer).rounded 8 + steepStage.zeroPoint) = 127 := by
  have held : steepStage.requantizers[0]? = some ⟨2 ^ 30, 61⟩ := by decide +kernel
  have ordered : steepStage.bounds.1 ≤ steepStage.bounds.2 := by decide
  have kept : steepStage.clamp
      (Requantizer.wrap64 ((⟨2 ^ 30, 61⟩ : Requantizer).apply 4 + 0)) = 127 := by decide +kernel
  have lost : steepStage.clamp
      (Requantizer.wrap64 ((⟨2 ^ 30, 61⟩ : Requantizer).apply 8 + 0)) = -128 := by decide +kernel
  exact ⟨held, (store_eq held ordered 4).trans (congrArg Except.ok kept),
    (store_eq held ordered 8).trans (congrArg Except.ok lost), by decide +kernel⟩

end OutputStage

end TensorRuntime
