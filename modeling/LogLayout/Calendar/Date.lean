/- The Gregorian calendar extended to all years. Days are numbered from 1 January of year 1,
   which was a Monday; a date and its day number determine each other. -/
namespace LogLayout.Calendar

structure Date where
  year : Int
  month : Nat
  day : Nat
  deriving DecidableEq, Repr

def isLeapYear (y : Int) : Bool := y % 4 == 0 && (y % 100 != 0 || y % 400 == 0)

def monthLengths (y : Int) : List Nat :=
  [31, if isLeapYear y then 29 else 28, 31, 30, 31, 30, 31, 31, 30, 31, 30, 31]

def yearStart (y : Int) : Int := 365 * (y - 1) + (y - 1) / 4 - (y - 1) / 100 + (y - 1) / 400

/-- Centuries of 36524 days and years of 365 days leave one day over at the end of a longer
    period; that day still belongs to the fourth part. -/
def yearOfDay (n : Int) : Int :=
  let inEra := n % 146097
  let century := min (inEra / 36524) 3
  let inCentury := inEra - century * 36524
  let inFour := inCentury % 1461
  400 * (n / 146097) + 100 * century + 4 * (inCentury / 1461) + min (inFour / 365) 3 + 1

def monthAndDay : List Nat → Nat → Nat → Nat × Nat
  | [], month, left => (month, left + 1)
  | length :: rest, month, left =>
    if left < length then (month, left + 1) else monthAndDay rest (month + 1) (left - length)

def Date.ofDayNumber (n : Int) : Date :=
  let year := yearOfDay n
  let (month, day) := monthAndDay (monthLengths year) 1 (n - yearStart year).toNat
  ⟨year, month, day⟩

def Date.ordinal (d : Date) : Nat :=
  ((monthLengths d.year).take (d.month - 1)).foldr (· + ·) 0 + d.day

def Date.dayNumber (d : Date) : Int := yearStart d.year + d.ordinal - 1

def Date.quarter (d : Date) : Nat := (d.month - 1) / 3 + 1

def Date.daysSinceMonday (d : Date) : Nat := (d.dayNumber % 7).toNat

def Date.daysSinceSunday (d : Date) : Nat := ((d.dayNumber + 1) % 7).toNat

def Date.weekOfYear (d : Date) (daysIntoWeek : Nat) : Nat := (d.ordinal + 6 - daysIntoWeek) / 7

/-- A week belongs to the year of its Thursday. -/
def Date.weekThursday (d : Date) : Date := .ofDayNumber (d.dayNumber - d.daysSinceMonday + 3)

def Date.weekYear (d : Date) : Int := d.weekThursday.year

def Date.isoWeek (d : Date) : Nat := (d.weekThursday.ordinal - 1) / 7 + 1

def monthNames : List String :=
  ["January", "February", "March", "April", "May", "June", "July", "August", "September",
   "October", "November", "December"]

def weekdayNames : List String :=
  ["Monday", "Tuesday", "Wednesday", "Thursday", "Friday", "Saturday", "Sunday"]

def Date.monthName (d : Date) : String := monthNames.getD (d.month - 1) ""

def Date.weekdayName (d : Date) : String := weekdayNames.getD d.daysSinceMonday ""

theorem year_start_of_parts (era century four rest : Int) (hc : 0 ≤ century ∧ century ≤ 3)
    (hf : 0 ≤ four ∧ four ≤ 24) (hr : 0 ≤ rest ∧ rest ≤ 3) :
    yearStart (400 * era + 100 * century + 4 * four + rest + 1) =
      146097 * era + 36524 * century + 1461 * four + 365 * rest := by
  simp only [yearStart]; omega

theorem year_start_next (era century four rest : Int) (hc : 0 ≤ century ∧ century ≤ 3)
    (hf : 0 ≤ four ∧ four ≤ 24) (hr : 0 ≤ rest ∧ rest ≤ 3) :
    yearStart (400 * era + 100 * century + 4 * four + rest + 2) =
      146097 * era + 36524 * century + 1461 * four + 365 * rest + 365 +
        (if rest = 3 ∧ (four < 24 ∨ century = 3) then 1 else 0) := by
  simp only [yearStart]; split <;> omega

theorem day_within_its_year (n : Int) :
    yearStart (yearOfDay n) ≤ n ∧ n < yearStart (yearOfDay n + 1) := by
  simp only [yearOfDay]
  generalize era_eq : n / 146097 = era
  generalize left_eq : n % 146097 = left
  generalize century_eq : min (left / 36524) 3 = century
  generalize four_eq : (left - century * 36524) / 1461 = four
  generalize rest_eq : min ((left - century * 36524) % 1461 / 365) 3 = rest
  have hc : 0 ≤ century ∧ century ≤ 3 := by omega
  have hf : 0 ≤ four ∧ four ≤ 24 := by omega
  have hr : 0 ≤ rest ∧ rest ≤ 3 := by omega
  have next : 400 * era + 100 * century + 4 * four + rest + 1 + 1 =
      400 * era + 100 * century + 4 * four + rest + 2 := by omega
  rw [next, year_start_of_parts era century four rest hc hf hr,
    year_start_next era century four rest hc hf hr]
  constructor
  · omega
  · split <;> omega

end LogLayout.Calendar
