import Mathlib
import LogLayout.Json.Encode
import LogLayout.Proofs.Json.Reader
import LogLayout.Proofs.Number.ShortestDecimal

/- The text of a number is read back as the number, whatever the layout of its digits. The reader
   takes as many characters as it can, so the text behind the number must not continue it. -/
namespace LogLayout.Json

open Number

def Size.value (s : Size) : ℚ := s.digits * (10 : ℚ) ^ s.exponent

def Closed (rest : List Char) : Prop :=
  ∀ c ∈ rest.head?, c.isDigit = false ∧ c ≠ '.' ∧ c ≠ 'e' ∧ c ≠ 'E'

def AllDigits (ds : List Char) : Prop := ∀ c ∈ ds, c.isDigit = true

theorem decimal_digits (n : Nat) : AllDigits (Nat.toDigits 10 n) :=
  fun _ member => Nat.isDigit_of_mem_toDigits (by decide) (by decide) member

theorem zeros_digits (n : Nat) : AllDigits (zeros n) := by
  intro c member
  rw [List.eq_of_mem_replicate member]
  decide

theorem digits_append {as bs : List Char} (left : AllDigits as) (right : AllDigits bs) :
    AllDigits (as ++ bs) :=
  List.forall_mem_append.mpr ⟨left, right⟩

theorem head_of_decimal (n : Nat) (positive : 0 < n) : (Nat.toDigits 10 n).head? ≠ some '0' := by
  induction n using Nat.strongRecOn with
  | ind n ih =>
    rcases Nat.lt_or_ge n 10 with small | large
    · rw [Nat.toDigits_of_lt_base small]
      interval_cases n <;> decide
    · rw [Nat.toDigits_of_base_le (by decide) large, List.head?_append_of_ne_nil _
        Nat.toDigits_ne_nil]
      exact ih (n / 10) (by omega) (by omega)

theorem read_digits (ds rest : List Char) (digits : AllDigits ds) (present : ds ≠ [])
    (stop : ∀ c ∈ rest.head?, c.isDigit = false) : readDigits (ds ++ rest) = some (ds, rest) := by
  have taken : (ds ++ rest).takeWhile Char.isDigit = ds := by
    rw [List.takeWhile_append_of_pos digits]
    cases rest with
    | nil => simp
    | cons c rest => simp [stop c rfl]
  have left : (ds ++ rest).dropWhile Char.isDigit = rest := by
    rw [List.dropWhile_append_of_pos digits]
    cases rest with
    | nil => rfl
    | cons c rest => simp [stop c rfl]
  simp [readDigits, taken, left, present]

theorem read_whole (ds rest : List Char) (digits : AllDigits ds) (present : ds ≠ [])
    (led : ds.head? ≠ some '0' ∨ ds.length = 1) (stop : ∀ c ∈ rest.head?, c.isDigit = false) :
    readWhole (ds ++ rest) = some (ds, rest) := by
  simp [readWhole, read_digits ds rest digits present stop, led]

theorem read_no_fraction (rest : List Char) (closed : ∀ c ∈ rest.head?, c ≠ '.') :
    readFraction rest = some ([], rest) := by
  cases rest with
  | nil => rfl
  | cons c rest => simp [readFraction, closed c rfl]

theorem read_no_exponent (rest : List Char) (closed : Closed rest) :
    readExponent rest = some (none, rest) := by
  cases rest with
  | nil => rfl
  | cons c rest =>
    obtain ⟨_, _, small, capital⟩ := closed c rfl
    unfold readExponent
    simp [small, capital]

theorem read_exponent (e : Int) (rest : List Char) (closed : Closed rest) :
    readExponent ('e' :: (if e < 0 then '-' else '+') :: (Nat.toDigits 10 e.natAbs ++ rest)) =
      some (some e, rest) := by
  have found := read_digits _ rest (decimal_digits e.natAbs) Nat.toDigits_ne_nil
    fun c first => (closed c first).1
  rcases lt_or_ge e 0 with negative | positive
  · have size : (e.natAbs : Int) = -e := by omega
    rw [if_pos negative]
    simp [readExponent, readSigned, found, -Nat.cast_natAbs, size]
  · have size : (e.natAbs : Int) = e := by omega
    rw [if_neg (not_lt.mpr positive)]
    simp [readExponent, readSigned, found, -Nat.cast_natAbs, size]

theorem read_size_of_parts {cs afterWhole afterFraction rest whole fraction : List Char}
    {e : Option Int} (first : readWhole cs = some (whole, afterWhole))
    (second : readFraction afterWhole = some (fraction, afterFraction))
    (third : readExponent afterFraction = some (e, rest)) :
    readSize cs = some (⟨Nat.ofDigitChars 10 (whole ++ fraction) 0,
      e.getD 0 - fraction.length, fraction.isEmpty && e.isNone⟩, rest) := by
  simp [readSize, first, second, third]

theorem read_fixed (whole fraction rest : List Char) (wholeDigits : AllDigits whole)
    (present : whole ≠ []) (led : whole.head? ≠ some '0' ∨ whole.length = 1)
    (digits : AllDigits fraction) (continued : fraction ≠ []) (closed : Closed rest) :
    readSize (whole ++ '.' :: (fraction ++ rest)) =
      some (⟨Nat.ofDigitChars 10 (whole ++ fraction) 0, -fraction.length, false⟩, rest) := by
  have first := read_whole whole ('.' :: (fraction ++ rest)) wholeDigits present led (by simp)
  have second := read_digits fraction rest digits continued fun c first => (closed c first).1
  have parts := read_size_of_parts first second (read_no_exponent rest closed)
  simpa [List.isEmpty_eq_false_iff.mpr continued] using parts

theorem read_scientific (digit : Char) (fraction : List Char) (e : Int) (rest : List Char)
    (leading : digit.isDigit = true) (digits : AllDigits fraction) (closed : Closed rest) :
    readSize (scientificText (digit :: fraction) e ++ rest) =
      some (⟨Nat.ofDigitChars 10 (digit :: fraction) 0, e - fraction.length, false⟩, rest) := by
  have third := read_exponent e rest closed
  generalize shown : 'e' :: (if e < 0 then '-' else '+') :: (Nat.toDigits 10 e.natAbs ++ rest) =
    power at third
  have single : AllDigits [digit] := by simpa [AllDigits] using leading
  cases fraction with
  | nil =>
    have first := read_whole [digit] power single (by simp) (Or.inr rfl) (by simp [← shown])
    have second := read_no_fraction power (by simp [← shown])
    have parts := read_size_of_parts first second third
    simpa [scientificText, shown] using parts
  | cons d ds =>
    have first := read_whole [digit] ('.' :: (d :: ds ++ power)) single (by simp) (Or.inr rfl)
      (by simp)
    have second := read_digits (d :: ds) power digits (by simp) (by simp [← shown])
    have parts := read_size_of_parts first second third
    simpa [scientificText, shown] using parts

theorem read_integer (n : Nat) (rest : List Char) (closed : Closed rest) :
    readSize (Nat.toDigits 10 n ++ rest) = some (⟨n, 0, true⟩, rest) := by
  have led : (Nat.toDigits 10 n).head? ≠ some '0' ∨ (Nat.toDigits 10 n).length = 1 := by
    rcases Nat.eq_zero_or_pos n with rfl | positive
    · right; decide
    · exact Or.inl (head_of_decimal n positive)
  have first := read_whole _ rest (decimal_digits n) Nat.toDigits_ne_nil led
    fun c first => (closed c first).1
  have second := read_no_fraction rest fun c first => (closed c first).2.1
  have parts := read_size_of_parts first second (read_no_exponent rest closed)
  simpa using parts

section
variable (ds rest : List Char) (digits : AllDigits ds) (present : ds ≠ []) (closed : Closed rest)
include digits present closed

theorem read_point_in_front (places : Nat) :
    readSize ('0' :: '.' :: (zeros places ++ ds) ++ rest) =
      some (⟨Nat.ofDigitChars 10 ds 0, -((places + ds.length : Nat) : Int), false⟩, rest) := by
  have found := read_fixed ['0'] (zeros places ++ ds) rest (by simp [AllDigits]) (by simp)
    (Or.inr rfl) (digits_append (zeros_digits _) digits) (by simp [present]) closed
  have number : Nat.ofDigitChars 10 (['0'] ++ (zeros places ++ ds)) 0 =
      Nat.ofDigitChars 10 ds 0 := by
    simp [zeros, Nat.ofDigitChars_cons, Nat.ofDigitChars_append, Nat.ofDigitChars_replicate_zero]
  rw [number, List.length_append, zeros, List.length_replicate] at found
  simpa [zeros] using found

theorem read_point_behind (led : ds.head? ≠ some '0') (places : Nat) :
    readSize (ds ++ zeros places ++ ['.', '0'] ++ rest) =
      some (⟨10 * (10 ^ places * Nat.ofDigitChars 10 ds 0), -1, false⟩, rest) := by
  have found := read_fixed (ds ++ zeros places) ['0'] rest
    (digits_append digits (zeros_digits _)) (by simp [present])
    (Or.inl (by rw [List.head?_append_of_ne_nil _ present]; exact led))
    (by simp [AllDigits]) (by simp) closed
  have number : Nat.ofDigitChars 10 (ds ++ zeros places ++ ['0']) 0 =
      10 * (10 ^ places * Nat.ofDigitChars 10 ds 0) := by
    rw [Nat.ofDigitChars_append, Nat.ofDigitChars_append, zeros, Nat.ofDigitChars_replicate_zero]
    simp [Nat.ofDigitChars_cons]
  rw [number] at found
  simpa using found

theorem read_point_among (led : ds.head? ≠ some '0') (places : Nat) (positive : 0 < places)
    (inside : places < ds.length) :
    readSize (ds.take places ++ '.' :: ds.drop places ++ rest) =
      some (⟨Nat.ofDigitChars 10 ds 0, -((ds.length - places : Nat) : Int), false⟩, rest) := by
  have found := read_fixed (ds.take places) (ds.drop places) rest
    (fun c member => digits c (List.mem_of_mem_take member))
    (by simp [present]; omega)
    (Or.inl (by rw [List.head?_take, if_neg (by omega)]; exact led))
    (fun c member => digits c (List.mem_of_mem_drop member))
    (by rw [ne_eq, List.drop_eq_nil_iff]; omega) closed
  rw [List.take_append_drop, List.length_drop] at found
  simpa using found

end

theorem read_positional (r : Digits) (positive : 0 < r.digits) (rest : List Char)
    (closed : Closed rest) :
    ∃ s, readSize (positionalText ['.', '0'] (Nat.toDigits 10 r.digits)
        ((Nat.toDigits 10 r.digits).length + r.exponent) ++ rest) = some (s, rest) ∧
      s.whole = false ∧ s.value = r.value := by
  have digits := decimal_digits r.digits
  have present : Nat.toDigits 10 r.digits ≠ [] := Nat.toDigits_ne_nil
  have led := head_of_decimal r.digits positive
  have number : Nat.ofDigitChars 10 (Nat.toDigits 10 r.digits) 0 = r.digits :=
    Nat.ofDigitChars_ten_toDigits
  generalize Nat.toDigits 10 r.digits = ds at *
  unfold positionalText
  split
  · refine ⟨_, read_point_in_front ds rest digits present closed _, rfl, ?_⟩
    simp only [Size.value, Digits.value, number]
    congr 2
    omega
  · split
    · refine ⟨_, read_point_behind ds rest digits present closed led _, rfl, ?_⟩
      obtain ⟨k, hk⟩ := Int.eq_ofNat_of_zero_le (show 0 ≤ r.exponent by omega)
      have places : ((ds.length : Int) + k).toNat - ds.length = k := by omega
      simp only [Size.value, Digits.value, number, hk, places]
      simp
      ring
    · refine ⟨_, read_point_among ds rest digits present closed led _ (by omega) (by omega),
        rfl, ?_⟩
      simp only [Size.value, Digits.value, number]
      congr 2
      omega

theorem read_layout (r : Digits) (positive : 0 < r.digits) (rest : List Char)
    (closed : Closed rest) :
    ∃ s, readSize (jsonNumber.layout r ++ rest) = some (s, rest) ∧
      s.whole = false ∧ s.value = r.value := by
  unfold Style.layout
  simp only
  split
  · exact read_positional r positive rest closed
  · have digits := decimal_digits r.digits
    have number : Nat.ofDigitChars 10 (Nat.toDigits 10 r.digits) 0 = r.digits :=
      Nat.ofDigitChars_ten_toDigits
    cases shown : Nat.toDigits 10 r.digits with
    | nil => exact absurd shown Nat.toDigits_ne_nil
    | cons digit fraction =>
      rw [shown] at digits number
      have found := read_scientific digit fraction
        (((digit :: fraction).length : Int) + r.exponent - 1) rest (digits digit (by simp))
        (fun c member => digits c (by simp [member])) closed
      refine ⟨_, found, rfl, ?_⟩
      simp only [Size.value, Digits.value, number]
      congr 2
      simp only [List.length_cons]
      omega

theorem size_as_ratio (s : Size) :
    ((s.digits * Nat.pow 10 s.exponent.toNat : Nat) : ℚ) / (Nat.pow 10 (-s.exponent).toNat : Nat) =
      s.value := by
  have tens : (10 : ℚ) ^ s.exponent * 10 ^ (-s.exponent).toNat = 10 ^ s.exponent.toNat :=
    power_as_ratio (by norm_num) s.exponent
  simp only [Nat.pow_eq]
  push_cast
  rw [div_eq_iff (by positivity), Size.value, mul_assoc, tens]

theorem nearest_of_owned (d : Number.Dyadic) (regular : d.Regular)
    (s : Size) (owned : d.Owns s.value) :
    s.nearest = ⟨d.word.toUInt64⟩ := by
  have positive : 0 < s.value := (d.low_positive regular.positive).trans_le owned.above
  have digits : 0 < s.digits := by
    by_contra none
    have zero : s.digits = 0 := by omega
    simp [Size.value, zero] at positive
  rw [← size_as_ratio] at owned
  exact of_ratio_owned d regular _ _ (Nat.mul_pos digits (Nat.pow_pos (by decide)))
    (Nat.pow_pos (by decide)) owned

theorem read_sign (negative : Bool) {cs rest : List Char} {s : Size}
    (found : readSize cs = some (s, rest)) :
    readNumber ((if negative then ['-'] else []) ++ cs) =
      (s.number? negative).map fun number => (number, rest) := by
  cases negative with
  | true => simp [readNumber, found, Option.map_eq_bind]
  | false =>
    have unsigned : (cs.head? == some '-') = false := by
      cases cs with
      | nil => rfl
      | cons c cs =>
        apply beq_false_of_ne
        rintro first
        obtain rfl : c = '-' := by simpa using first
        simp [readSize, readWhole, readDigits] at found
    simp [readNumber, found, unsigned, Option.map_eq_bind]

theorem number_of_nearest (x : Binary64) (finite : x.isFinite = true) (s : Size)
    (fractional : s.whole = false) (near : s.nearest = ⟨(x.bits.toNat % 2 ^ 63).toUInt64⟩) :
    s.number? x.isNegative = some (.float x) := by
  unfold Size.number?
  simp only [fractional, near, sign_and_word x, finite]
  simp

theorem word_of_zero (x : Binary64) (zero : x.magnitude = .zero) : x.bits.toNat % 2 ^ 63 = 0 := by
  unfold Binary64.magnitude at zero
  simp only [Nat.pow_eq] at zero
  split at zero
  · split at zero <;> simp at zero
  · split at zero
    · split at zero
      · omega
      · simp at zero
    · simp at zero

theorem read_float (x : Binary64) (finite : x.isFinite = true) (rest : List Char)
    (closed : Closed rest) :
    readNumber ((jsonNumber.render x).toList ++ rest) = some (.float x, rest) := by
  unfold Style.render
  simp only
  cases kind : x.magnitude with
  | notANumber => simp [Binary64.isFinite, kind] at finite
  | infinite => simp [Binary64.isFinite, kind] at finite
  | zero =>
    have found := read_fixed ['0'] ['0'] rest (by simp [AllDigits]) (by simp) (Or.inr rfl)
      (by simp [AllDigits]) (by simp) closed
    have near : (⟨Nat.ofDigitChars 10 (['0'] ++ ['0']) 0, -(['0'].length : Int), false⟩ :
        Size).nearest = ⟨(x.bits.toNat % 2 ^ 63).toUInt64⟩ := by
      rw [word_of_zero x kind]
      decide
    have number := number_of_nearest x finite _ rfl near
    have signed := read_sign x.isNegative found
    rw [number] at signed
    simpa [jsonNumber] using signed
  | positive d =>
    obtain ⟨regular, word⟩ := magnitude_regular x d kind
    have owned := d.shortest_owned regular .even
    have digits : 0 < (d.shortest .even).digits := by
      by_contra none
      have zero : (d.shortest .even).digits = 0 := by omega
      have positive := (d.low_positive regular.positive).trans_le owned.above
      simp [Digits.value, zero] at positive
    obtain ⟨s, found, fractional, value⟩ := read_layout _ digits rest closed
    have near := nearest_of_owned d regular s (value ▸ owned)
    rw [word] at near
    have number := number_of_nearest x finite s fractional near
    simpa [jsonNumber, number] using read_sign x.isNegative found

theorem read_int (n : Int) (rest : List Char) (closed : Closed rest) :
    readNumber (intText n ++ rest) = some (.int n, rest) := by
  have found := read_integer n.natAbs rest closed
  unfold intText
  rcases lt_or_ge n 0 with negative | positive
  · have size : (n.natAbs : Int) = -n := by omega
    rw [if_pos negative]
    simpa [Size.number?, -Nat.cast_natAbs, size] using read_sign true found
  · have size : (n.natAbs : Int) = n := by omega
    rw [if_neg (not_lt.mpr positive)]
    simpa [Size.number?, -Nat.cast_natAbs, size] using read_sign false found

end LogLayout.Json
