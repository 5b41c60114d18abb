import LogLayout.Calendar.Written

/- Date patterns: text with directives that start with a percent sign. Reading a pattern gives
   its pieces or nothing when a directive is malformed; writing the pieces for a moment can
   still fail, since the lenient offset may be asked for but has no written form. -/
namespace LogLayout.Calendar

inductive Pad where
  | none | zero | space
  deriving DecidableEq, Repr

inductive Quantity where
  | year | century | yearOfCentury | weekYear | weekYearOfCentury | quarter | month | day
  | weekFromSunday | weekFromMonday | isoWeek | daysFromSunday | weekdayFromMonday | ordinal
  | hour | hourOfHalfDay | minute | second | nanosecond | timestamp
  deriving DecidableEq, Repr

inductive Piece where
  | text (cs : List Char)
  | number (quantity : Quantity) (pad : Pad)
  | monthName (long : Bool)
  | weekdayName (long : Bool)
  | halfDay (upper : Bool)
  | shortestFraction
  | fraction (dot : Bool) (digits : Nat)
  | zoneName
  | offset (precision : OffsetPrecision) (colon : Bool)
  | lenientOffset
  | fullTimestamp
  deriving DecidableEq, Repr

inductive Reading where
  | plain
  | percent
  | padded (pad : Pad)
  | lenient
  | colons (count : Nat)
  | dot
  | digits (dot : Bool) (count : Nat)
  deriving DecidableEq, Repr

def clockPieces : List Piece :=
  [.number .hour .zero, .text [':'], .number .minute .zero, .text [':'], .number .second .zero]

def slashedDate : List Piece :=
  [.number .month .zero, .text ['/'], .number .day .zero, .text ['/'], .number .yearOfCentury .zero]

def directive : Char → Option (List Piece)
  | 'A' => some [.weekdayName true]
  | 'B' => some [.monthName true]
  | 'C' => some [.number .century .zero]
  | 'D' => some slashedDate
  | 'F' => some [.number .year .zero, .text ['-'], .number .month .zero, .text ['-'],
      .number .day .zero]
  | 'G' => some [.number .weekYear .zero]
  | 'H' => some [.number .hour .zero]
  | 'I' => some [.number .hourOfHalfDay .zero]
  | 'M' => some [.number .minute .zero]
  | 'P' => some [.halfDay false]
  | 'R' => some [.number .hour .zero, .text [':'], .number .minute .zero]
  | 'S' => some [.number .second .zero]
  | 'T' | 'X' => some clockPieces
  | 'U' => some [.number .weekFromSunday .zero]
  | 'V' => some [.number .isoWeek .zero]
  | 'W' => some [.number .weekFromMonday .zero]
  | 'Y' => some [.number .year .zero]
  | 'Z' => some [.zoneName]
  | 'a' => some [.weekdayName false]
  | 'b' | 'h' => some [.monthName false]
  | 'c' => some ([.weekdayName false, .text [' '], .monthName false, .text [' '],
      .number .day .space, .text [' ']] ++ clockPieces ++ [.text [' '], .number .year .zero])
  | 'd' => some [.number .day .zero]
  | 'e' => some [.number .day .space]
  | 'f' => some [.number .nanosecond .zero]
  | 'g' => some [.number .weekYearOfCentury .zero]
  | 'j' => some [.number .ordinal .zero]
  | 'k' => some [.number .hour .space]
  | 'l' => some [.number .hourOfHalfDay .space]
  | 'm' => some [.number .month .zero]
  | 'n' => some [.text ['\n']]
  | 'p' => some [.halfDay true]
  | 'q' => some [.number .quarter .none]
  | 'r' => some [.number .hourOfHalfDay .zero, .text [':'], .number .minute .zero, .text [':'],
      .number .second .zero, .text [' '], .halfDay true]
  | 's' => some [.number .timestamp .none]
  | 't' => some [.text ['\t']]
  | 'u' => some [.number .weekdayFromMonday .none]
  | 'v' => some [.number .day .space, .text ['-'], .monthName false, .text ['-'],
      .number .year .zero]
  | 'w' => some [.number .daysFromSunday .none]
  | 'x' => some slashedDate
  | 'y' => some [.number .yearOfCentury .zero]
  | 'z' => some [.offset .minutes false]
  | '+' => some [.fullTimestamp]
  | '%' => some [.text ['%']]
  | _ => none

def fractionDigits : Char → Option Nat
  | '3' => some 3
  | '6' => some 6
  | '9' => some 9
  | _ => none

/-- Padding may be chosen for a single number only. -/
def repad (pad : Pad) : List Piece → Option (List Piece)
  | [.number quantity _] => some [.number quantity pad]
  | _ => none

def afterPercent : Char → Option (List Piece × Reading)
  | '-' => some ([], .padded .none)
  | '0' => some ([], .padded .zero)
  | '_' => some ([], .padded .space)
  | '#' => some ([], .lenient)
  | ':' => some ([], .colons 1)
  | '.' => some ([], .dot)
  | c =>
    match fractionDigits c with
    | some count => some ([], .digits false count)
    | none => (directive c).map fun pieces => (pieces, .plain)

def colonOffset : Nat → Option Piece
  | 1 => some (.offset .minutes true)
  | 2 => some (.offset .seconds true)
  | 3 => some (.offset .hours false)
  | _ => none

def readChar : Reading → Char → Option (List Piece × Reading)
  | .plain, '%' => some ([], .percent)
  | .plain, c => some ([.text [c]], .plain)
  | .percent, c => afterPercent c
  | .padded pad, c => (directive c >>= repad pad).map fun pieces => (pieces, .plain)
  | .lenient, 'z' => some ([.lenientOffset], .plain)
  | .lenient, _ => none
  | .colons n, ':' => if n < 3 then some ([], .colons (n + 1)) else none
  | .colons n, 'z' => (colonOffset n).map fun piece => ([piece], .plain)
  | .colons _, _ => none
  | .dot, 'f' => some ([.shortestFraction], .plain)
  | .dot, c => (fractionDigits c).map fun n => ([], .digits true n)
  | .digits dot n, 'f' => some ([.fraction dot n], .plain)
  | .digits _ _, _ => none

def readFrom : Reading → List Char → Option (List Piece)
  | .plain, [] => some []
  | _, [] => none
  | reading, c :: cs => do
    let (pieces, next) ← readChar reading c
    let rest ← readFrom next cs
    pure (pieces ++ rest)

def readPattern (pattern : String) : Option (List Piece) := readFrom .plain pattern.toList

def padChar : Pad → Char
  | .space => ' '
  | _ => '0'

def padded (pad : Pad) (width : Nat) (cs : List Char) : List Char :=
  if pad = .none then cs else padLeft (padChar pad) width cs

/-- Two places for a number below 256; a tens figure past nine goes on along the code points. -/
def twoPlaces (pad : Pad) (n : Nat) : List Char :=
  let ones := Char.ofNat (48 + n % 10)
  match n / 10, pad with
  | 0, .none => [ones]
  | 0, .space => [' ', ones]
  | tens, _ => [Char.ofNat (48 + tens), ones]

def byteOf (n : Int) : Nat := (n % 256).toNat

def signedPadded (pad : Pad) (width : Nat) (alwaysSign : Bool) (n : Int) : List Char :=
  let sign := if n < 0 then ['-'] else if alwaysSign then ['+'] else []
  let ds := Nat.toDigits 10 n.natAbs
  match pad with
  | .none => sign ++ ds
  | .zero => sign ++ padLeft '0' (width - sign.length) ds
  | .space => padLeft ' ' width (sign ++ ds)

def yearPlaces (pad : Pad) (y : Int) : List Char :=
  if 0 ≤ y ∧ y ≤ 9999 then signedPadded pad 4 false y else signedPadded pad 5 true y

def Moment.quantity (m : Moment) (pad : Pad) : Quantity → List Char
  | .year => yearPlaces pad m.date.year
  | .century => twoPlaces pad (byteOf (m.date.year / 100))
  | .yearOfCentury => twoPlaces pad (byteOf (m.date.year % 100))
  | .weekYear => yearPlaces pad m.date.weekYear
  | .weekYearOfCentury => twoPlaces pad (byteOf (m.date.weekYear % 100))
  | .quarter => Nat.toDigits 10 m.date.quarter
  | .month => twoPlaces pad m.date.month
  | .day => twoPlaces pad m.date.day
  | .weekFromSunday => twoPlaces pad (m.date.weekOfYear m.date.daysSinceSunday)
  | .weekFromMonday => twoPlaces pad (m.date.weekOfYear m.date.daysSinceMonday)
  | .isoWeek => twoPlaces pad m.date.isoWeek
  | .daysFromSunday => Nat.toDigits 10 m.date.daysSinceSunday
  | .weekdayFromMonday => Nat.toDigits 10 (m.date.daysSinceMonday + 1)
  | .ordinal => padded pad 3 (Nat.toDigits 10 m.date.ordinal)
  | .hour => twoPlaces pad m.hour
  | .hourOfHalfDay => twoPlaces pad m.hourOfHalfDay
  | .minute => twoPlaces pad m.minute
  | .second => twoPlaces pad m.second
  | .nanosecond => padded pad 9 (Nat.toDigits 10 m.subsecond)
  | .timestamp => signedPadded pad 9 false m.instant.seconds

def nameText (name : String) (long : Bool) : List Char :=
  if long then name.toList else name.toList.take 3

def halfDayText : Bool → Bool → List Char
  | false, false => ['a', 'm']
  | true, false => ['p', 'm']
  | false, true => ['A', 'M']
  | true, true => ['P', 'M']

def Moment.piece (m : Moment) : Piece → Option (List Char)
  | .text cs => some cs
  | .number quantity pad => some (m.quantity pad quantity)
  | .monthName long => some (nameText m.date.monthName long)
  | .weekdayName long => some (nameText m.date.weekdayName long)
  | .halfDay upper => some (halfDayText m.isAfternoon upper)
  | .shortestFraction => some (fractionText m.subsecond)
  | .fraction dot count =>
    some ((if dot then ['.'] else []) ++ zeroPadded count (m.subsecond / Nat.pow 10 (9 - count)))
  | .zoneName => some m.zone.name
  | .offset precision colon => some (offsetText precision colon m.zone.offset)
  | .lenientOffset => none
  | .fullTimestamp => some (m.timestampWith false)

def Moment.format? (m : Moment) (pieces : List Piece) : Option String := do
  let texts ← pieces.mapM m.piece
  pure (String.ofList texts.flatten)

end LogLayout.Calendar
