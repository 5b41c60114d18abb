import LogLayout.Calendar.Moment
import LogLayout.Proofs.Json.Reader

/- A reader of RFC 3339 timestamps. It takes every text of the grammar whose date the calendar has
   and whose clock shows a time, the second 60 included, and nothing else. The letters may be small,
   and a fraction may have any number of digits, of which the first nine count. The instant that is
   read is that of the date and the clock less the offset, and the zone is the offset itself. -/
namespace LogLayout.Calendar

def readNumber (width : Nat) (cs : List Char) : Option (Nat × List Char) :=
  if (cs.take width).length = width ∧ (cs.take width).all Char.isDigit then
    some (Nat.ofDigitChars 10 (cs.take width) 0, cs.drop width)
  else none

def skip (allowed : List Char) : List Char → Option (List Char)
  | [] => none
  | c :: rest => if c ∈ allowed then some rest else none

def readTriple (width : Nat) (separator : Char) (cs : List Char) :
    Option ((Nat × Nat × Nat) × List Char) := do
  let (first, cs) ← readNumber width cs
  let cs ← skip [separator] cs
  let (second, cs) ← readNumber 2 cs
  let cs ← skip [separator] cs
  let (third, cs) ← readNumber 2 cs
  pure ((first, second, third), cs)

def readDate (cs : List Char) : Option (Date × List Char) := do
  let ((year, month, day), cs) ← readTriple 4 '-' cs
  if 1 ≤ month ∧ month ≤ 12 ∧ 1 ≤ day ∧ day ≤ (monthLengths year).getD (month - 1) 0 then
    pure (⟨year, month, day⟩, cs)
  else none

def readClock (cs : List Char) : Option ((Nat × Nat × Nat) × List Char) :=
  (readTriple 2 ':' cs).filter fun found =>
    found.1.1 ≤ 23 && found.1.2.1 ≤ 59 && found.1.2.2 ≤ 60

def readSubsecond : List Char → Option (Nat × List Char)
  | '.' :: cs => (Json.readDigits cs).map fun found =>
      (Nat.ofDigitChars 10 ((found.1 ++ List.replicate 9 '0').take 9) 0, found.2)
  | cs => some (0, cs)

def readOffset : List Char → Option (Int × List Char)
  | [] => none
  | sign :: cs =>
    if sign = 'Z' ∨ sign = 'z' then some (0, cs)
    else if sign = '+' ∨ sign = '-' then do
      let (hours, cs) ← readNumber 2 cs
      let cs ← skip [':'] cs
      let (minutes, cs) ← readNumber 2 cs
      if hours ≤ 23 ∧ minutes ≤ 59 then
        let size : Int := hours * 3600 + minutes * 60
        pure (if sign = '-' then -size else size, cs)
      else none
    else none

/-- A second 60 is the leap second that follows the second 59. -/
def readTimestamp (text : String) : Option Moment := do
  let (date, cs) ← readDate text.toList
  let cs ← skip ['T', 't'] cs
  let ((hour, minute, second), cs) ← readClock cs
  let (subsecond, cs) ← readSubsecond cs
  let (offset, cs) ← readOffset cs
  let shown : Int := (date.dayNumber - unixEpochDay) * secondsPerDay +
    (hour * 3600 + minute * 60 + min second 59 : Nat)
  if cs.isEmpty then
    pure ⟨⟨shown - offset, subsecond + if second = 60 then 1000000000 else 0⟩, .fixed offset⟩
  else none

/-- Other forms of the grammar than those that timestamps are written in. -/
example :
    readTimestamp "1985-04-12t23:20:50.52z" = some ⟨⟨482196050, 520000000⟩, .fixed 0⟩ ∧
      readTimestamp "1990-12-31T15:59:60-08:00" = some ⟨⟨662687999, 1000000000⟩, .fixed (-28800)⟩ ∧
      readTimestamp "1996-02-30T00:00:00Z" = none ∧ readTimestamp "1996-02-29T24:00:00Z" = none := by
  decide +kernel

end LogLayout.Calendar
