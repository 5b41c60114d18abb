import Mathlib
import LogLayout.Number.Shortest
import LogLayout.Proofs.Number.Rounding

/- The shortest decimal of a finite number lies in the interval of the reals that round to it, so
   a reader that rounds gets the number back. On the decimal grid every comparison is one between
   whole numbers, both sides multiplied by the same scale. -/
namespace LogLayout.Number

def Digits.value (r : Digits) : ℚ := r.digits * (10 : ℚ) ^ r.exponent

theorem power_as_ratio {base : ℚ} (nonzero : base ≠ 0) (e : Int) :
    base ^ e * base ^ (-e).toNat = base ^ e.toNat := by
  rw [← zpow_natCast, ← zpow_natCast, ← zpow_add₀ nonzero]
  congr 1; omega

namespace Dyadic

def decimalScale (d : Dyadic) (e : Int) : ℚ := d.gridStep e / 10 ^ e

theorem grid_step_positive (d : Dyadic) (e : Int) : 0 < d.gridStep e := by
  unfold gridStep
  exact Nat.mul_pos (Nat.pow_pos (by decide)) (Nat.pow_pos (by decide))

theorem decimal_scale_positive (d : Dyadic) (e : Int) : 0 < d.decimalScale e := by
  have step : (0 : ℚ) < d.gridStep e := by exact_mod_cast d.grid_step_positive e
  exact div_pos step (by positivity)

theorem steps_scaled (d : Dyadic) (e : Int) :
    (d.gridStep e : ℚ) = 10 ^ e * d.decimalScale e := by
  unfold decimalScale
  field_simp

theorem quarters_scaled (d : Dyadic) (e : Int) :
    (d.quarterUnit e : ℚ) = 2 ^ d.exponent / 4 * d.decimalScale e := by
  have tens : (10 : ℚ) ^ e * 10 ^ (-e).toNat = 10 ^ e.toNat := power_as_ratio (by norm_num) e
  have twos : (2 : ℚ) ^ (d.exponent - 2).toNat * 4 =
      2 ^ (2 - d.exponent).toNat * 2 ^ d.exponent := by
    rw [show (4 : ℚ) = 2 ^ 2 by norm_num, ← zpow_natCast, ← zpow_natCast, ← zpow_natCast,
      ← zpow_add₀ (by norm_num), ← zpow_add₀ (by norm_num)]
    congr 1; push_cast; omega
  have ten : (10 : ℚ) ^ e ≠ 0 := by positivity
  unfold decimalScale quarterUnit gridStep
  simp only [Nat.pow_eq]
  push_cast
  rw [← tens]
  field_simp
  linear_combination twos

theorem grid_point_le_iff (d : Dyadic) (e : Int) (k : Nat) (v : ℚ) :
    (k * d.gridStep e : ℚ) ≤ v * d.decimalScale e ↔ k * (10 : ℚ) ^ e ≤ v := by
  rw [steps_scaled, ← mul_assoc, mul_le_mul_iff_left₀ (d.decimal_scale_positive e)]

theorem le_grid_point_iff (d : Dyadic) (e : Int) (k : Nat) (v : ℚ) :
    v * d.decimalScale e ≤ k * d.gridStep e ↔ v ≤ k * (10 : ℚ) ^ e := by
  rw [steps_scaled, ← mul_assoc, mul_le_mul_iff_left₀ (d.decimal_scale_positive e)]

theorem low_scaled (d : Dyadic) (positive : 0 < d.mantissa) (e : Int) :
    (((4 * d.mantissa - (if d.narrow then 1 else 2)) * d.quarterUnit e : Nat) : ℚ) =
      d.low * d.decimalScale e := by
  have few : (if d.narrow then 1 else 2) ≤ 4 * d.mantissa := by split <;> omega
  rw [Nat.cast_mul, Nat.cast_sub few, quarters_scaled, low, lowerGap]
  split <;> push_cast <;> ring

theorem high_scaled (d : Dyadic) (e : Int) :
    (((4 * d.mantissa + 2) * d.quarterUnit e : Nat) : ℚ) = d.high * d.decimalScale e := by
  push_cast
  rw [quarters_scaled, high]
  ring

theorem owns_iff (d : Dyadic) (positive : 0 < d.mantissa) (e : Int) (k : Nat) :
    d.owns e k = true ↔ d.Owns (k * 10 ^ e) := by
  have low := d.low_scaled positive e
  have high := d.high_scaled e
  unfold owns
  simp only
  generalize (4 * d.mantissa - (if d.narrow then 1 else 2)) * d.quarterUnit e = least at *
  generalize (4 * d.mantissa + 2) * d.quarterUnit e = greatest at *
  have above : least ≤ k * d.gridStep e ↔ d.low ≤ k * 10 ^ e := by
    rw [← le_grid_point_iff, ← low]; exact_mod_cast Iff.rfl
  have below : k * d.gridStep e ≤ greatest ↔ k * 10 ^ e ≤ d.high := by
    rw [← grid_point_le_iff, ← high]; exact_mod_cast Iff.rfl
  have notAbove : k * d.gridStep e ≤ least ↔ k * 10 ^ e ≤ d.low := by
    rw [← grid_point_le_iff, ← low]; exact_mod_cast Iff.rfl
  have notBelow : greatest ≤ k * d.gridStep e ↔ d.high ≤ k * 10 ^ e := by
    rw [← le_grid_point_iff, ← high]; exact_mod_cast Iff.rfl
  split
  · rename_i even
    simp only [Bool.and_eq_true, decide_eq_true_eq, above, below]
    exact ⟨fun ⟨a, b⟩ => ⟨a, b, Or.inl even⟩, fun owned => ⟨owned.above, owned.below⟩⟩
  · rename_i odd
    simp only [Bool.and_eq_true, decide_eq_true_eq]
    rw [← not_le, ← not_le, notAbove, notBelow, not_le, not_le]
    constructor
    · rintro ⟨a, b⟩
      exact ⟨a.le, b.le, Or.inr ⟨a, b⟩⟩
    · intro owned
      rcases owned.inside with even | inside
      · exact absurd even odd
      · exact inside

theorem value_scaled (d : Dyadic) (e : Int) :
    ((4 * d.mantissa * d.quarterUnit e : Nat) : ℚ) = d.value * d.decimalScale e := by
  push_cast
  rw [quarters_scaled, value]
  ring

theorem near_of_scaled (d : Dyadic) (e : Int) (k : Nat)
    (above : 2 * (k * d.gridStep e) ≤ 2 * (4 * d.mantissa * d.quarterUnit e) + d.gridStep e)
    (below : 2 * (4 * d.mantissa * d.quarterUnit e) ≤ 2 * (k * d.gridStep e) + d.gridStep e) :
    |(k : ℚ) * 10 ^ e - d.value| ≤ 10 ^ e / 2 := by
  have scale := d.decimal_scale_positive e
  have number := d.value_scaled e
  generalize 4 * d.mantissa * d.quarterUnit e = n at *
  have upper : (2 * (k * 10 ^ e)) * d.decimalScale e ≤
      (2 * d.value + 10 ^ e) * d.decimalScale e := by
    have cast : 2 * (k * (d.gridStep e : ℚ)) ≤ 2 * n + d.gridStep e := by exact_mod_cast above
    rw [steps_scaled, number] at cast
    linarith
  have lower : (2 * d.value) * d.decimalScale e ≤
      (2 * (k * 10 ^ e) + 10 ^ e) * d.decimalScale e := by
    have cast : 2 * (n : ℚ) ≤ 2 * (k * d.gridStep e) + d.gridStep e := by exact_mod_cast below
    rw [steps_scaled, number] at cast
    linarith
  have upper := le_of_mul_le_mul_right upper scale
  have lower := le_of_mul_le_mul_right lower scale
  rw [abs_le]
  constructor <;> linarith

theorem nearest_neighbour (d : Dyadic) (tie : Tie) (e : Int) :
    ∃ k rest, d.neighbours tie e = k :: rest ∧ |(k : ℚ) * 10 ^ e - d.value| ≤ 10 ^ e / 2 := by
  have near := d.near_of_scaled e
  have parts := Nat.div_add_mod (4 * d.mantissa * d.quarterUnit e) (d.gridStep e)
  have left := Nat.mod_lt (4 * d.mantissa * d.quarterUnit e) (d.grid_step_positive e)
  unfold neighbours
  simp only
  generalize 4 * d.mantissa * d.quarterUnit e = n at *
  generalize n % d.gridStep e = past at *
  have floor := near (n / d.gridStep e)
  have ceiling := near (n / d.gridStep e + 1)
  generalize n / d.gridStep e = below at *
  rw [mul_comm] at parts
  simp only [Nat.add_mul, Nat.mul_assoc, Nat.one_mul] at ceiling ⊢
  generalize below * d.gridStep e = whole at *
  split
  · rename_i middle
    split
    · exact ⟨_, _, rfl, floor (by omega) (by omega)⟩
    · exact ⟨_, _, rfl, ceiling (by omega) (by omega)⟩
  · split
    · rename_i lower
      have lower := of_decide_eq_true lower
      exact ⟨_, _, rfl, floor (by omega) (by omega)⟩
    · rename_i higher
      have higher : ¬2 * n < 2 * whole + d.gridStep e := fun lower => higher (decide_eq_true lower)
      exact ⟨_, _, rfl, ceiling (by omega) (by omega)⟩

theorem pow_decimal_length_le (n : Nat) (positive : 0 < n) : 10 ^ (decimalLength n - 1) ≤ n := by
  unfold decimalLength
  rcases Nat.eq_zero_or_pos ((Nat.toDigits 10 n).length - 1) with h | h
  · rw [h]
    exact positive
  · by_contra small
    have fewer : (Nat.toDigits 10 n).length ≤ (Nat.toDigits 10 n).length - 1 :=
      (Nat.length_toDigits_le_iff (by decide) h).mpr (Nat.lt_of_not_le small)
    omega

theorem lt_pow_decimal_length (n : Nat) : n < 10 ^ decimalLength n :=
  (Nat.length_toDigits_le_iff (by decide) Nat.length_toDigits_pos).mp (Nat.le_refl _)

theorem value_as_ratio (d : Dyadic) : d.value =
    ((d.mantissa * 2 ^ d.exponent.toNat : Nat) : ℚ) / ((2 ^ (-d.exponent).toNat : Nat) : ℚ) := by
  have twos : (2 : ℚ) ^ d.exponent * 2 ^ (-d.exponent).toNat = 2 ^ d.exponent.toNat :=
    power_as_ratio (by norm_num) d.exponent
  rw [value, eq_div_iff (by positivity)]
  push_cast
  rw [← twos]
  ring

theorem leading_exponent_le (d : Dyadic) (positive : 0 < d.mantissa) :
    (10 : ℚ) ^ d.leadingExponent ≤ d.value := by
  have den_pos : 0 < 2 ^ (-d.exponent).toNat := by positivity
  have num_pos : 0 < d.mantissa * 2 ^ d.exponent.toNat := by positivity
  rw [value_as_ratio]
  unfold leadingExponent
  simp only [Nat.pow_eq]
  generalize d.mantissa * 2 ^ d.exponent.toNat = num at *
  generalize 2 ^ (-d.exponent).toNat = den at *
  have den_pos' : (0 : ℚ) < den := by exact_mod_cast den_pos
  have num_pos' : (0 : ℚ) < num := by exact_mod_cast num_pos
  rw [le_div_iff₀ den_pos']
  split
  · rename_i large
    have whole : 0 < num / den := Nat.div_pos large den_pos
    have digits := pow_decimal_length_le (num / den) whole
    have length : 0 < decimalLength (num / den) := Nat.length_toDigits_pos
    rw [show (decimalLength (num / den) : Int) - 1 = (decimalLength (num / den) - 1 : Nat) by omega,
      zpow_natCast]
    have := Nat.mul_le_of_le_div den _ _ digits
    exact_mod_cast this
  · rename_i small
    rw [zpow_neg, zpow_natCast, inv_mul_le_iff₀ (by positivity)]
    -- Below one it is the inverse, rounded up, whose digits are counted.
    have bound := lt_pow_decimal_length ((den + num - 1) / num - 1)
    generalize decimalLength ((den + num - 1) / num - 1) = places at *
    have ceiling : (den + num - 1) / num ≤ 10 ^ places := by omega
    have : den + num - 1 < (10 ^ places + 1) * num := by
      rw [← Nat.div_lt_iff_lt_mul num_pos]; omega
    have : den ≤ 10 ^ places * num := by
      rw [Nat.add_mul] at this; omega
    exact_mod_cast this

theorem carried_value (r : Digits) : r.carried.value = r.value := by
  unfold Digits.carried
  split
  · rename_i whole
    obtain ⟨n, hn⟩ : ∃ n, r.digits = 10 * n := ⟨r.digits / 10, by omega⟩
    simp only [Digits.value, hn, Nat.mul_div_cancel_left n (show 0 < 10 by decide)]
    rw [zpow_add₀ (by norm_num), zpow_one]
    push_cast
    ring
  · rfl

/-- A number with seventeen digits is near enough to round back. -/
theorem owns_of_near (d : Dyadic) (regular : d.Regular) (v : ℚ)
    (near : |v - d.value| ≤ d.value / (2 * 10 ^ 16)) : d.Owns v := by
  have place : (0 : ℚ) < 2 ^ d.exponent := by positivity
  have short : (d.mantissa : ℚ) < 2 ^ 53 := by exact_mod_cast regular.short
  have size : d.value < 2 ^ 53 * 2 ^ d.exponent := by
    unfold value
    gcongr
  have inside : d.low < v ∧ v < d.high := by
    rw [abs_le] at near
    unfold low high lowerGap
    split
    · rename_i narrow
      have mantissa : (d.mantissa : ℚ) = 2 ^ 52 := by
        exact_mod_cast (regular.narrow_iff.mp narrow).1
      rw [value, mantissa] at near
      rw [mantissa]
      constructor <;> linarith
    · have number : d.value = d.mantissa * 2 ^ d.exponent := rfl
      rw [sub_mul, add_mul, ← number]
      constructor <;> linarith
  exact ⟨inside.1.le, inside.2.le, Or.inr inside⟩

theorem nearest_found (d : Dyadic) (regular : d.Regular) (tie : Tie) :
    (d.nearest? tie (d.leadingExponent - 16)).isSome := by
  obtain ⟨k, rest, front, near⟩ := d.nearest_neighbour tie (d.leadingExponent - 16)
  have lead := d.leading_exponent_le regular.positive
  have grid : (10 : ℚ) ^ (d.leadingExponent - 16) = 10 ^ d.leadingExponent / 10 ^ 16 := by
    rw [zpow_sub₀ (by norm_num)]
    norm_num
  have close : |(k : ℚ) * 10 ^ (d.leadingExponent - 16) - d.value| ≤ d.value / (2 * 10 ^ 16) := by
    rw [grid] at near ⊢
    refine near.trans ?_
    rw [div_div, mul_comm (10 ^ 16 : ℚ) 2]
    gcongr
  have owned := (d.owns_iff regular.positive _ k).mpr (d.owns_of_near regular _ close)
  simp [nearest?, front, owned]

/-- Seventeen digits suffice, so the shortest decimal is one that rounds back. -/
theorem shortest_owned (d : Dyadic) (regular : d.Regular) (tie : Tie) :
    d.Owns (d.shortest tie).value := by
  unfold shortest
  simp only
  rw [carried_value]
  cases found : (List.range 17).findSome? fun (more : Nat) =>
      d.nearest? tie (d.leadingExponent - more) with
  | none =>
    have last := List.findSome?_eq_none_iff.mp found 16 (by simp)
    have reached := d.nearest_found regular tie
    push_cast at last
    simp [last] at reached
  | some r =>
    obtain ⟨more, _, nearest⟩ := List.exists_of_findSome?_eq_some found
    have owned := nearest_is_owned d tie _ r nearest
    exact (d.owns_iff regular.positive _ _).mp owned

-- The value 2251799813685248.25 lies halfway between the two.
example : (Dyadic.mk 9007199254740993 (-2) false).shortest .up = ⟨22517998136852483, -1⟩ ∧
    (Dyadic.mk 9007199254740993 (-2) false).shortest .even = ⟨22517998136852482, -1⟩ := by
  decide +kernel

end Dyadic

end LogLayout.Number
