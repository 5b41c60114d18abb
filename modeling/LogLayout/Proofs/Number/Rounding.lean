import Mathlib
import LogLayout.Number.Binary64

/- Each positive finite number m * 2^e owns the reals between the middles to its two neighbours.
   A ratio in that interval, however it is written, is rounded to the number. Just below a power
   of two the grid is twice as fine, so the ratio may be measured on either of two grids. -/
namespace LogLayout.Number

namespace Dyadic

def value (d : Dyadic) : ℚ := d.mantissa * (2 : ℚ) ^ d.exponent

/-- The distance to the middle below, in units of the last place. -/
def lowerGap (d : Dyadic) : ℚ := if d.narrow then 1 / 4 else 1 / 2

def low (d : Dyadic) : ℚ := (d.mantissa - d.lowerGap) * (2 : ℚ) ^ d.exponent

def high (d : Dyadic) : ℚ := (d.mantissa + 1 / 2) * (2 : ℚ) ^ d.exponent

/-- The ends of the interval belong to it when the mantissa is even. -/
structure Owns (d : Dyadic) (v : ℚ) : Prop where
  above : d.low ≤ v
  below : v ≤ d.high
  inside : d.mantissa % 2 = 0 ∨ d.low < v ∧ v < d.high

structure Regular (d : Dyadic) : Prop where
  positive : 0 < d.mantissa
  short : d.mantissa < 2 ^ 53
  least : -1074 ≤ d.exponent
  greatest : d.exponent ≤ 971
  full : d.exponent = -1074 ∨ 2 ^ 52 ≤ d.mantissa
  narrow_iff : d.narrow = true ↔ d.mantissa = 2 ^ 52 ∧ d.exponent ≠ -1074

def word (d : Dyadic) : Nat := (d.exponent + 1074).toNat * 2 ^ 52 + d.mantissa

theorem low_le (d : Dyadic) : (d.mantissa - 1 / 2) * (2 : ℚ) ^ d.exponent ≤ d.low := by
  unfold low lowerGap
  gcongr
  split <;> norm_num

theorem low_positive (d : Dyadic) (positive : 0 < d.mantissa) : 0 < d.low := by
  have one : (1 : ℚ) ≤ d.mantissa := by exact_mod_cast positive
  have place : (0 : ℚ) < 2 ^ d.exponent := by positivity
  have half : (0 : ℚ) < (d.mantissa - 1 / 2) * 2 ^ d.exponent := by
    apply mul_pos _ place
    linarith
  exact half.trans_le d.low_le

theorem word_le_infinity (d : Dyadic) (regular : d.Regular) : d.word ≤ Binary64.infinity := by
  have short := regular.short
  have greatest := regular.greatest
  have scale : (d.exponent + 1074).toNat ≤ 2045 := by omega
  simp only [word, Binary64.infinity, Nat.pow_eq]
  omega

end Dyadic

theorem magnitude_regular (x : Binary64) (d : Dyadic) (found : x.magnitude = .positive d) :
    d.Regular ∧ d.word = x.bits.toNat % 2 ^ 63 := by
  unfold Binary64.magnitude at found
  simp only [Nat.pow_eq] at found
  have small : x.bits.toNat % 2 ^ 52 < 2 ^ 52 := Nat.mod_lt _ (by decide)
  have scales : x.bits.toNat / 2 ^ 52 % 2048 < 2048 := Nat.mod_lt _ (by decide)
  have parts : x.bits.toNat % 2 ^ 63 =
      x.bits.toNat / 2 ^ 52 % 2048 * 2 ^ 52 + x.bits.toNat % 2 ^ 52 := by omega
  rw [parts]
  generalize x.bits.toNat % 2 ^ 52 = fraction at *
  generalize x.bits.toNat / 2 ^ 52 % 2048 = scale at *
  split at found
  · split at found <;> simp at found
  · split at found
    · rename_i subnormal
      split at found
      · simp at found
      · simp only [Magnitude.positive.injEq] at found
        subst found
        constructor
        · constructor <;> simp <;> omega
        · simp only [Dyadic.word, subnormal]
          omega
    · simp only [Magnitude.positive.injEq] at found
      subst found
      constructor
      · constructor <;> simp <;> omega
      · simp only [Dyadic.word]
        omega

theorem sign_and_word (x : Binary64) :
    (if x.isNegative then Binary64.negate ⟨(x.bits.toNat % 2 ^ 63).toUInt64⟩
      else ⟨(x.bits.toNat % 2 ^ 63).toUInt64⟩) = x := by
  obtain ⟨bits⟩ := x
  have size := bits.toNat_lt
  have word : ((bits.toNat % 2 ^ 63).toUInt64).toNat = bits.toNat % 2 ^ 63 := by
    simp
    omega
  unfold Binary64.isNegative Binary64.negate
  simp only [Nat.pow_eq, beq_iff_eq]
  split
  · rename_i negative
    have top : (0x8000000000000000 : UInt64).toNat = 2 ^ 63 := by decide
    congr 1
    apply UInt64.toNat_inj.mp
    rw [UInt64.toNat_xor, word, top]
    apply Nat.eq_of_testBit_eq
    intro i
    rw [Nat.testBit_xor, Nat.testBit_two_pow, Nat.testBit_mod_two_pow]
    rcases Nat.lt_trichotomy i 63 with lower | rfl | higher
    · simp [lower, Nat.ne_of_gt lower]
    · simp [Nat.testBit_eq_decide_div_mod_eq, negative]
    · have none : bits.toNat.testBit i = false :=
        Nat.testBit_lt_two_pow (size.trans_le (Nat.pow_le_pow_right (by decide) higher))
      simp [none]
      omega
  · congr 1
    apply UInt64.toNat_inj.mp
    rw [word]
    omega

theorem in_units_value (num den : Nat) (e : Int) :
    ((inUnits num den e).1 : ℚ) / (inUnits num den e).2 = num / den / (2 : ℚ) ^ e := by
  unfold inUnits
  simp only [Nat.pow_eq]
  push_cast
  rcases le_total 0 e with h | h
  · obtain ⟨k, rfl⟩ := Int.eq_ofNat_of_zero_le h
    simp [div_div]
  · obtain ⟨k, hk⟩ := Int.eq_ofNat_of_zero_le (Int.neg_nonneg.mpr h)
    obtain rfl : e = -(k : Int) := by omega
    simp [zpow_neg]
    ring

theorem in_units_positive (num den : Nat) (e : Int) (positive : 0 < den) :
    0 < (inUnits num den e).2 := by
  unfold inUnits
  exact Nat.mul_pos positive (Nat.pow_pos (by decide))

theorem rounded_quotient_of_near (num den n : Nat) (positive : 0 < den)
    (low : 2 * n * den ≤ 2 * num + den) (high : 2 * num ≤ (2 * n + 1) * den)
    (tie : 2 * num = (2 * n + 1) * den ∨ 2 * n * den = 2 * num + den → n % 2 = 0) :
    roundedQuotient num den = n := by
  have parts := Nat.div_add_mod num den
  have left := Nat.mod_lt num positive
  unfold roundedQuotient
  generalize num / den = q at *
  generalize num % den = r at *
  subst parts
  have upper : q ≤ n := by
    by_contra h
    have : (n + 1) * den ≤ den * q := by rw [mul_comm den]; exact Nat.mul_le_mul_right _ (by omega)
    nlinarith
  have lower : n ≤ q + 1 := by
    by_contra h
    have : den * q + 2 * den ≤ n * den := by nlinarith
    nlinarith
  rcases Nat.eq_or_lt_of_le upper with same | less
  · subst same
    have e : 2 * q * den = 2 * (den * q) := by ring
    have e' : (2 * q + 1) * den = 2 * (den * q) + den := by ring
    simp only
    split <;> omega
  · have : n = q + 1 := by omega
    subst this
    have e : 2 * (q + 1) * den = 2 * (den * q) + 2 * den := by ring
    have e' : (2 * (q + 1) + 1) * den = 2 * (den * q) + 3 * den := by ring
    simp only
    split <;> omega

theorem rounded_quotient_of_close (num den n : Nat) (positive : 0 < den)
    (low : (n : ℚ) - 1 / 2 ≤ num / den) (high : (num : ℚ) / den ≤ n + 1 / 2)
    (tie : (num : ℚ) / den = n - 1 / 2 ∨ (num : ℚ) / den = n + 1 / 2 → n % 2 = 0) :
    roundedQuotient num den = n := by
  have den_pos : (0 : ℚ) < den := by exact_mod_cast positive
  rw [le_div_iff₀ den_pos] at low
  rw [div_le_iff₀ den_pos] at high
  rw [div_eq_iff den_pos.ne', div_eq_iff den_pos.ne'] at tie
  apply rounded_quotient_of_near num den n positive
  · have : (2 * n * den : ℚ) ≤ 2 * num + den := by linarith
    exact_mod_cast this
  · have : (2 * num : ℚ) ≤ (2 * n + 1) * den := by linarith
    exact_mod_cast this
  · intro ends
    apply tie
    rcases ends with upper | lower
    · right
      have : (2 * num : ℚ) = (2 * n + 1) * den := by exact_mod_cast upper
      linarith
    · left
      have : (2 * n * den : ℚ) = 2 * num + den := by exact_mod_cast lower
      linarith

theorem ratio_bounds (num den : Nat) (num_pos : 0 < num) (den_pos : 0 < den) :
    (2 : ℚ) ^ ((Nat.log2 num : Int) - Nat.log2 den - 1) < num / den ∧
      (num : ℚ) / den < (2 : ℚ) ^ ((Nat.log2 num : Int) - Nat.log2 den + 1) := by
  have lowNum := Nat.log2_self_le (n := num) (by omega)
  have highNum := Nat.lt_log2_self (n := num)
  have lowDen := Nat.log2_self_le (n := den) (by omega)
  have highDen := Nat.lt_log2_self (n := den)
  generalize Nat.log2 num = a at *
  generalize Nat.log2 den = b at *
  have den_pos' : (0 : ℚ) < den := by exact_mod_cast den_pos
  have ln : (2 : ℚ) ^ a ≤ num := by exact_mod_cast lowNum
  have hn : (num : ℚ) < 2 ^ (a + 1) := by exact_mod_cast highNum
  have ld : (2 : ℚ) ^ b ≤ den := by exact_mod_cast lowDen
  have hd : (den : ℚ) < 2 ^ (b + 1) := by exact_mod_cast highDen
  have two : (2 : ℚ) ≠ 0 := by norm_num
  constructor
  · rw [lt_div_iff₀ den_pos']
    calc (2 : ℚ) ^ ((a : Int) - b - 1) * den < (2 : ℚ) ^ ((a : Int) - b - 1) * 2 ^ (b + 1) := by
          gcongr
      _ = 2 ^ a := by
          rw [← zpow_natCast, ← zpow_natCast, ← zpow_add₀ two]
          congr 1; push_cast; ring
      _ ≤ num := ln
  · rw [div_lt_iff₀ den_pos']
    calc (num : ℚ) < 2 ^ (a + 1) := hn
      _ = (2 : ℚ) ^ ((a : Int) - b + 1) * 2 ^ b := by
          rw [← zpow_natCast, ← zpow_natCast, ← zpow_add₀ two]
          congr 1; push_cast; ring
      _ ≤ (2 : ℚ) ^ ((a : Int) - b + 1) * den := by gcongr

/-- In units of the place a ratio takes at most 53 bits, and it takes them all unless the place
    is the last one there is. -/
structure FitsPlace (v : ℚ) (e : Int) : Prop where
  least : -1074 ≤ e
  below : v < 2 ^ 53 * (2 : ℚ) ^ e
  full : e = -1074 ∨ 2 ^ 52 * (2 : ℚ) ^ e ≤ v

theorem halved_power (e : Int) : (2 : ℚ) ^ e = 2 * 2 ^ (e - 1) := by
  rw [zpow_sub₀ (by norm_num), zpow_one]
  ring

theorem units_quotient_lt_iff (num den n : Nat) (e : Int) (den_pos : 0 < den) :
    (inUnits num den e).1 / (inUnits num den e).2 < n ↔ (num : ℚ) / den < n * 2 ^ e := by
  have units_pos := in_units_positive num den e den_pos
  have place : (0 : ℚ) < 2 ^ e := by positivity
  rw [Nat.div_lt_iff_lt_mul units_pos, ← div_lt_iff₀ place, ← in_units_value,
    div_lt_iff₀ (by exact_mod_cast units_pos)]
  exact_mod_cast Iff.rfl

theorem last_place_fits (num den : Nat) (num_pos : 0 < num) (den_pos : 0 < den) :
    FitsPlace (num / den) (lastPlace num den) := by
  obtain ⟨low, high⟩ := ratio_bounds num den num_pos den_pos
  unfold lastPlace
  generalize hleast : max ((Nat.log2 num : Int) - Nat.log2 den - 53) (-1074) = least
  have fewer := units_quotient_lt_iff num den (2 ^ 53) least den_pos
  push_cast at fewer
  simp only [Nat.pow_eq, fewer]
  split
  · rename_i small
    refine ⟨by omega, small, ?_⟩
    rcases max_choice ((Nat.log2 num : Int) - Nat.log2 den - 53) (-1074) with h | h
    · right
      rw [hleast] at h
      have full : (2 : ℚ) ^ 52 * 2 ^ least = 2 ^ ((Nat.log2 num : Int) - Nat.log2 den - 1) := by
        rw [h, ← zpow_natCast, ← zpow_add₀ (by norm_num)]
        congr 1; push_cast; ring
      rw [full]
      exact low.le
    · left; omega
  · rename_i large
    have double := halved_power (least + 1)
    rw [Int.add_sub_cancel] at double
    refine ⟨by omega, ?_, Or.inr ?_⟩
    · calc (num : ℚ) / den < (2 : ℚ) ^ ((Nat.log2 num : Int) - Nat.log2 den + 1) := high
        _ ≤ (2 : ℚ) ^ (least + 54) := by
            apply zpow_le_zpow_right₀ (by norm_num)
            omega
        _ = 2 ^ 53 * 2 ^ (least + 1) := by
            rw [← zpow_natCast, ← zpow_add₀ (by norm_num)]
            congr 1; push_cast; ring
    · rw [double]
      linarith

theorem rounded_on_own_grid (d : Dyadic) (num den : Nat) (den_pos : 0 < den)
    (owned : d.Owns (num / den)) :
    roundedQuotient (inUnits num den d.exponent).1 (inUnits num den d.exponent).2 =
      d.mantissa := by
  have place : (0 : ℚ) < 2 ^ d.exponent := by positivity
  apply rounded_quotient_of_close _ _ _ (in_units_positive num den _ den_pos)
  · rw [in_units_value, le_div_iff₀ place]
    exact d.low_le.trans owned.above
  · rw [in_units_value, div_le_iff₀ place]
    exact owned.below
  -- At an end the even neighbour is chosen, and only an even mantissa owns its ends.
  · intro ends
    rw [in_units_value, div_eq_iff place.ne', div_eq_iff place.ne'] at ends
    rcases owned.inside with even | ⟨above, below⟩
    · exact even
    · rcases ends with lower | upper
      · exact absurd lower (d.low_le.trans_lt above).ne'
      · exact absurd upper below.ne

/-- On the finer grid below a power of two, that power is the next point. -/
theorem rounded_on_finer_grid (d : Dyadic) (num den : Nat) (den_pos : 0 < den)
    (narrow : d.narrow = true) (least : d.mantissa = 2 ^ 52) (owned : d.Owns (num / den))
    (below : (num : ℚ) / den < 2 ^ 53 * (2 : ℚ) ^ (d.exponent - 1)) :
    roundedQuotient (inUnits num den (d.exponent - 1)).1 (inUnits num den (d.exponent - 1)).2 =
      2 ^ 53 := by
  have place : (0 : ℚ) < 2 ^ (d.exponent - 1) := by positivity
  have above := owned.above
  rw [Dyadic.low, Dyadic.lowerGap, if_pos narrow, least, halved_power d.exponent] at above
  push_cast at above
  apply rounded_quotient_of_close _ _ _ (in_units_positive num den _ den_pos)
  · rw [in_units_value, le_div_iff₀ place]
    push_cast
    linarith
  · rw [in_units_value, div_le_iff₀ place]
    push_cast
    linarith
  · intro _
    decide

theorem finer_place (d : Dyadic) (regular : d.Regular) (v : ℚ) (e : Int) (least : -1074 ≤ e)
    (below : v < 2 ^ 53 * (2 : ℚ) ^ e) (owned : d.Owns v) (finer : e < d.exponent) :
    e = d.exponent - 1 ∧ d.narrow = true ∧ d.mantissa = 2 ^ 52 := by
  have above := d.low_le.trans owned.above
  have normal : 2 ^ 52 ≤ d.mantissa := by
    rcases regular.full with h | h
    · omega
    · exact h
  have next : (2 : ℚ) ^ e ≤ 2 ^ (d.exponent - 1) := zpow_le_zpow_right₀ (by norm_num) (by omega)
  rw [halved_power d.exponent] at above
  have least_mantissa : d.mantissa = 2 ^ 52 := by
    by_contra other
    have more : (2 ^ 52 + 1 : ℚ) ≤ d.mantissa := by
      have : 2 ^ 52 + 1 ≤ d.mantissa := by omega
      exact_mod_cast this
    have half : (0 : ℚ) < 2 ^ (d.exponent - 1) := by positivity
    nlinarith
  refine ⟨?_, regular.narrow_iff.mpr ⟨least_mantissa, by omega⟩, least_mantissa⟩
  by_contra other
  have finest : (2 : ℚ) ^ e ≤ 2 ^ (d.exponent - 1 - 1) :=
    zpow_le_zpow_right₀ (by norm_num) (by omega)
  rw [halved_power (d.exponent - 1), least_mantissa] at above
  push_cast at above
  have quarter : (0 : ℚ) < 2 ^ (d.exponent - 1 - 1) := by positivity
  linarith

theorem no_coarser_place (d : Dyadic) (regular : d.Regular) (v : ℚ) (e : Int)
    (full : 2 ^ 52 * (2 : ℚ) ^ e ≤ v) (owned : d.Owns v) : e ≤ d.exponent := by
  by_contra coarser
  have place : (0 : ℚ) < 2 ^ d.exponent := by positivity
  have next : (2 : ℚ) ^ (d.exponent + 1) ≤ 2 ^ e := zpow_le_zpow_right₀ (by norm_num) (by omega)
  rw [zpow_add₀ (by norm_num), zpow_one] at next
  have top : (d.mantissa : ℚ) ≤ 2 ^ 53 - 1 := by
    have : d.mantissa + 1 ≤ 2 ^ 53 := regular.short
    have : (d.mantissa : ℚ) + 1 ≤ 2 ^ 53 := by exact_mod_cast this
    linarith
  have upper := owned.below
  unfold Dyadic.high at upper
  nlinarith

theorem place_of_owned (d : Dyadic) (regular : d.Regular) (v : ℚ) (e : Int)
    (fits : FitsPlace v e) (owned : d.Owns v) :
    e = d.exponent ∨ e = d.exponent - 1 ∧ d.narrow = true ∧ d.mantissa = 2 ^ 52 := by
  have highest : e ≤ d.exponent := by
    rcases fits.full with last | full
    · have := regular.least
      omega
    · exact no_coarser_place d regular v e full owned
  rcases highest.lt_or_eq with finer | same
  · exact Or.inr (finer_place d regular v e fits.least fits.below owned finer)
  · exact Or.inl same

theorem of_ratio_owned (d : Dyadic) (regular : d.Regular) (num den : Nat) (num_pos : 0 < num)
    (den_pos : 0 < den) (owned : d.Owns (num / den)) :
    Binary64.ofRatio num den = ⟨d.word.toUInt64⟩ := by
  have fits := last_place_fits num den num_pos den_pos
  have least := regular.least
  have size : (lastPlace num den + 1074).toNat * 2 ^ 52 +
      roundedQuotient (inUnits num den (lastPlace num den)).1
        (inUnits num den (lastPlace num den)).2 = d.word := by
    rcases place_of_owned d regular _ _ fits owned with same | ⟨finer, narrow, mantissa⟩
    · rw [same, rounded_on_own_grid d num den den_pos owned, Dyadic.word]
    · have below := fits.below
      have bound := fits.least
      rw [finer] at below bound ⊢
      rw [rounded_on_finer_grid d num den den_pos narrow mantissa owned below, Dyadic.word,
        mantissa]
      omega
  unfold Binary64.ofRatio
  rw [if_neg (by omega)]
  simp only [Nat.pow_eq]
  rw [size, Nat.min_eq_left (d.word_le_infinity regular)]

end LogLayout.Number
