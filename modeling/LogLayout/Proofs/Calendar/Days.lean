import Mathlib.Algebra.GroupWithZero.Nat
import LogLayout.Calendar.Moment

/- Dates and day numbers. The date of a day has the number of the day and is one that the calendar
   has, and the dates of later days are later. Moments take both over: a moment is known from the
   date and the time of day that it shows. -/
namespace LogLayout.Calendar

theorem month_and_day_within (lengths : List Nat) (month left : Nat) (within : left < lengths.sum) :
    ∃ i length day, lengths[i]? = some length ∧ monthAndDay lengths month left = (month + i, day) ∧
      1 ≤ day ∧ day ≤ length ∧ (lengths.take i).sum + day = left + 1 := by
  induction lengths generalizing month left with
  | nil => simp at within
  | cons first rest ih =>
    rw [List.sum_cons] at within
    rw [monthAndDay]
    split
    · exact ⟨0, first, left + 1, rfl, rfl, by omega, by omega, by simp⟩
    · obtain ⟨i, length, day, held, split, atLeast, atMost, sum⟩ :=
        ih (month + 1) (left - first) (by omega)
      refine ⟨i + 1, length, day, held, ?_, atLeast, atMost, ?_⟩
      · rw [split, Nat.add_assoc, Nat.add_comm 1]
      · rw [List.take_succ_cons, List.sum_cons]
        omega

theorem month_not_before (lengths : List Nat) (month left : Nat) :
    month ≤ (monthAndDay lengths month left).1 := by
  induction lengths generalizing month left with
  | nil => exact Nat.le_refl _
  | cons first rest ih =>
    rw [monthAndDay]
    split
    · exact Nat.le_refl _
    · exact Nat.le_of_succ_le (ih (month + 1) (left - first))

theorem month_and_day_later (lengths : List Nat) (month left later : Nat)
    (before : left < later) :
    (monthAndDay lengths month left).1 < (monthAndDay lengths month later).1 ∨
      (monthAndDay lengths month left).1 = (monthAndDay lengths month later).1 ∧
        (monthAndDay lengths month left).2 < (monthAndDay lengths month later).2 := by
  induction lengths generalizing month left later with
  | nil => exact .inr ⟨rfl, Nat.succ_lt_succ before⟩
  | cons first rest ih =>
    rw [monthAndDay, monthAndDay]
    by_cases early : left < first
    · rw [if_pos early]
      split
      · exact .inr ⟨rfl, Nat.succ_lt_succ before⟩
      · exact .inl (month_not_before rest (month + 1) (later - first))
    · rw [if_neg early, if_neg (by omega)]
      exact ih (month + 1) (left - first) (later - first) (by omega)

theorem year_length (y : Int) : yearStart (y + 1) = yearStart y + (monthLengths y).sum := by
  have days : (monthLengths y).sum = 337 + if isLeapYear y then 29 else 28 := by
    simp only [monthLengths, List.sum_cons, List.sum_nil]
    omega
  rw [days]
  simp only [yearStart, isLeapYear, Bool.and_eq_true, Bool.or_eq_true, beq_iff_eq, bne_iff_ne]
  split <;> omega

theorem year_start_mono {y later : Int} (le : y ≤ later) : yearStart y ≤ yearStart later := by
  simp only [yearStart]
  omega

theorem year_not_before {n later : Int} (before : n ≤ later) : yearOfDay n ≤ yearOfDay later := by
  obtain ⟨start, _⟩ := day_within_its_year n
  obtain ⟨_, stop⟩ := day_within_its_year later
  have apart : ¬ yearOfDay later + 1 ≤ yearOfDay n := by
    intro le
    have := year_start_mono le
    omega
  omega

structure Date.Real (d : Date) : Prop where
  month : 1 ≤ d.month ∧ d.month ≤ 12
  day : 1 ≤ d.day ∧ d.day ≤ (monthLengths d.year).getD (d.month - 1) 0

theorem date_of_day (n : Int) :
    (Date.ofDayNumber n).Real ∧ (Date.ofDayNumber n).dayNumber = n := by
  obtain ⟨start, stop⟩ := day_within_its_year n
  rw [year_length] at stop
  obtain ⟨i, length, day, held, split, atLeast, atMost, sum⟩ :=
    month_and_day_within (monthLengths (yearOfDay n)) 1 (n - yearStart (yearOfDay n)).toNat
      (by omega)
  have date : Date.ofDayNumber n = ⟨yearOfDay n, 1 + i, day⟩ := by
    rw [Date.ofDayNumber, split]
  obtain ⟨inYear, _⟩ := List.getElem?_eq_some_iff.mp held
  have months : (monthLengths (yearOfDay n)).length = 12 := rfl
  rw [date]
  refine ⟨⟨⟨by simp, by simp only; omega⟩, atLeast, ?_⟩, ?_⟩
  · simpa [List.getD, held] using atMost
  · have ordinal : (Date.mk (yearOfDay n) (1 + i) day).ordinal =
        ((monthLengths (yearOfDay n)).take i).sum + day := by
      simp only [Date.ordinal, Nat.add_sub_cancel_left]
      rfl
    rw [Date.dayNumber, ordinal]
    simp only
    omega

example : Date.ofDayNumber (Date.mk 2024 2 29).dayNumber = ⟨2024, 2, 29⟩ := by decide +kernel

theorem month_lengths_bounded (y : Int) (i : Nat) : (monthLengths y).getD i 0 ≤ 31 := by
  have each : ∀ length ∈ monthLengths y, length ≤ 31 := by
    unfold monthLengths
    cases isLeapYear y <;> decide
  rw [List.getD_eq_getElem?_getD]
  cases held : (monthLengths y)[i]? with
  | none => exact Nat.zero_le _
  | some length => exact each length (List.mem_of_getElem? held)

def Date.Before (d later : Date) : Prop :=
  d.year < later.year ∨ d.year = later.year ∧
    (d.month < later.month ∨ d.month = later.month ∧ d.day < later.day)

theorem dates_in_order {n later : Int} (before : n < later) :
    (Date.ofDayNumber n).Before (Date.ofDayNumber later) := by
  have years : yearOfDay n ≤ yearOfDay later := year_not_before (by omega)
  unfold Date.Before
  by_cases same : yearOfDay n = yearOfDay later
  · obtain ⟨start, _⟩ := day_within_its_year n
    have days := month_and_day_later (monthLengths (yearOfDay later)) 1
      (n - yearStart (yearOfDay later)).toNat (later - yearStart (yearOfDay later)).toNat
      (by rw [← same]; omega)
    refine .inr ⟨same, ?_⟩
    simpa only [Date.ofDayNumber, same] using days
  · exact .inl (by simp only [Date.ofDayNumber]; omega)

end LogLayout.Calendar
