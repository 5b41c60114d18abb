import LogLayout.Calendar.Written
import LogLayout.Proofs.Json.NumberText

/- Numbers in a fixed number of places. Such a text is known from its length and its value, texts of
   one length are in the order of their values, and this does not depend on what stands behind. -/
namespace LogLayout.Calendar

open Json (AllDigits decimal_digits zeros_digits digits_append)

/-- The texts differ, and where they first do, the first one has the smaller character. -/
def Below (x y : List Char) : Prop :=
  ∃ front a b xs ys, x = front ++ a :: xs ∧ y = front ++ b :: ys ∧ a < b

section

variable {x y : List Char}

theorem below_append (below : Below x y) (a b : List Char) : Below (x ++ a) (y ++ b) := by
  obtain ⟨front, c, d, xs, ys, rfl, rfl, less⟩ := below
  exact ⟨front, c, d, xs ++ a, ys ++ b, by simp, by simp, less⟩

theorem below_behind (front : List Char) (below : Below x y) : Below (front ++ x) (front ++ y) := by
  obtain ⟨common, c, d, xs, ys, rfl, rfl, less⟩ := below
  exact ⟨front ++ common, c, d, xs, ys, by simp, by simp, less⟩

theorem lt_of_below (below : Below x y) : x < y := by
  obtain ⟨front, c, d, xs, ys, rfl, rfl, less⟩ := below
  exact List.append_left_lt (List.cons_lt_cons_iff.mpr (.inl less))

end

theorem decimal_cons {c : Char} (digit : c.isDigit = true) (cs : List Char) :
    48 ≤ c.toNat ∧ c.toNat ≤ 57 ∧
      Nat.ofDigitChars 10 (c :: cs) 0 =
        10 ^ cs.length * (c.toNat - 48) + Nat.ofDigitChars 10 cs 0 := by
  obtain ⟨least, most⟩ := Char.isDigit_iff_toNat.mp digit
  refine ⟨least, most, ?_⟩
  rw [Nat.ofDigitChars_cons, Nat.ofDigitChars_eq_ofDigitChars_zero, Nat.mul_zero, Nat.zero_add]
  rfl

theorem decimal_bound {ds : List Char} (digits : AllDigits ds) :
    Nat.ofDigitChars 10 ds 0 < 10 ^ ds.length := by
  induction ds with
  | nil => simp
  | cons c cs ih =>
    obtain ⟨own, others⟩ := List.forall_mem_cons.mp digits
    obtain ⟨_, nine, value⟩ := decimal_cons own cs
    have rest := ih others
    have most : 10 ^ cs.length * (c.toNat - 48) ≤ 10 ^ cs.length * 9 :=
      Nat.mul_le_mul_left _ (by omega)
    rw [value, List.length_cons, Nat.pow_succ]
    omega

theorem decimal_head {a b : Char} {as bs : List Char} (left : AllDigits (a :: as))
    (right : AllDigits (b :: bs)) (length : as.length = bs.length) (less : a.toNat < b.toNat) :
    Below (a :: as) (b :: bs) ∧
      Nat.ofDigitChars 10 (a :: as) 0 < Nat.ofDigitChars 10 (b :: bs) 0 := by
  obtain ⟨ownLeft, othersLeft⟩ := List.forall_mem_cons.mp left
  obtain ⟨ownRight, _⟩ := List.forall_mem_cons.mp right
  obtain ⟨_, _, valueLeft⟩ := decimal_cons ownLeft as
  obtain ⟨_, _, valueRight⟩ := decimal_cons ownRight bs
  have rest := decimal_bound othersLeft
  have step : 10 ^ bs.length * (a.toNat - 48 + 1) ≤ 10 ^ bs.length * (b.toNat - 48) :=
    Nat.mul_le_mul_left _ (by omega)
  rw [Nat.mul_add] at step
  rw [length] at rest valueLeft
  exact ⟨⟨[], a, b, as, bs, rfl, rfl, less⟩, by omega⟩

/-- Numbers of as many digits are in the same order as their texts. -/
theorem decimal_order {xs ys : List Char} (left : AllDigits xs) (right : AllDigits ys)
    (length : xs.length = ys.length) :
    xs = ys ∨ (Below xs ys ∧ Nat.ofDigitChars 10 xs 0 < Nat.ofDigitChars 10 ys 0) ∨
      (Below ys xs ∧ Nat.ofDigitChars 10 ys 0 < Nat.ofDigitChars 10 xs 0) := by
  induction xs generalizing ys with
  | nil => exact .inl (List.length_eq_zero_iff.mp length.symm).symm
  | cons a as ih =>
    cases ys with
    | nil => cases length
    | cons b bs =>
      obtain ⟨ownLeft, othersLeft⟩ := List.forall_mem_cons.mp left
      obtain ⟨_, othersRight⟩ := List.forall_mem_cons.mp right
      have lengths : as.length = bs.length := Nat.succ.inj length
      rcases Nat.lt_trichotomy a.toNat b.toNat with smaller | same | larger
      · exact .inr (.inl (decimal_head left right lengths smaller))
      · obtain rfl := Char.toNat_inj.mp same
        obtain ⟨_, _, valueLeft⟩ := decimal_cons ownLeft as
        obtain ⟨_, _, valueRight⟩ := decimal_cons ownLeft bs
        rw [valueLeft, valueRight, lengths]
        rcases ih othersLeft othersRight lengths with same | ⟨below, less⟩ | ⟨below, less⟩
        · exact .inl (by rw [same])
        · exact .inr (.inl ⟨below_behind [a] below, by omega⟩)
        · exact .inr (.inr ⟨below_behind [a] below, by omega⟩)
      · exact .inr (.inr (decimal_head right left lengths.symm larger))

theorem decimal_unique {xs ys : List Char} (left : AllDigits xs) (right : AllDigits ys)
    (length : xs.length = ys.length)
    (same : Nat.ofDigitChars 10 xs 0 = Nat.ofDigitChars 10 ys 0) : xs = ys := by
  rcases decimal_order left right length with equal | ⟨_, less⟩ | ⟨_, less⟩
  · exact equal
  · omega
  · omega

section

variable {width n : Nat}

theorem padded_digits (width n : Nat) : AllDigits (zeroPadded width n) :=
  digits_append (zeros_digits _) (decimal_digits n)

@[simp] theorem padded_value (width n : Nat) :
    Nat.ofDigitChars 10 (zeroPadded width n) 0 = n := by
  rw [zeroPadded, padLeft, Nat.ofDigitChars_append, Nat.ofDigitChars_replicate_zero, Nat.mul_zero,
    Nat.ofDigitChars_ten_toDigits]

theorem padded_length (places : 0 < width) (fits : n < 10 ^ width) :
    (zeroPadded width n).length = width := by
  have short := (Nat.length_toDigits_le_iff (by decide) places).mpr fits
  rw [zeroPadded, padLeft, List.length_append, List.length_replicate]
  omega

theorem padded_below {larger : Nat} (places : 0 < width) (less : n < larger)
    (fits : larger < 10 ^ width) : Below (zeroPadded width n) (zeroPadded width larger) := by
  have lengths : (zeroPadded width n).length = (zeroPadded width larger).length := by
    rw [padded_length places fits, padded_length places (by omega)]
  rcases decimal_order (padded_digits _ _) (padded_digits _ _) lengths with
    same | ⟨below, _⟩ | ⟨_, more⟩
  · have values := congrArg (fun ds => Nat.ofDigitChars 10 ds 0) same
    simp only [padded_value] at values
    omega
  · exact below
  · simp only [padded_value] at more
    omega

theorem padded_split {front back : Nat} (leading : 0 < front) (others : 0 < back)
    (fits : n < 10 ^ (front + back)) : zeroPadded (front + back) n =
      zeroPadded front (n / 10 ^ back) ++ zeroPadded back (n % 10 ^ back) := by
  have whole : n < 10 ^ front * 10 ^ back := by rwa [← Nat.pow_add]
  have first : n / 10 ^ back < 10 ^ front := Nat.div_lt_of_lt_mul (by rwa [Nat.mul_comm])
  have rest : n % 10 ^ back < 10 ^ back := Nat.mod_lt _ (by positivity)
  apply decimal_unique (padded_digits _ _) (digits_append (padded_digits _ _) (padded_digits _ _))
  · rw [List.length_append, padded_length leading first, padded_length others rest,
      padded_length (by omega) fits]
  · rw [Nat.ofDigitChars_append, padded_value, Nat.ofDigitChars_eq_ofDigitChars_zero, padded_value,
      padded_value, padded_length others rest, Nat.div_add_mod]

end

end LogLayout.Calendar
