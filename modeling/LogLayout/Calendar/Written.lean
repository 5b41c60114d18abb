import LogLayout.Calendar.Moment

/- The written forms of moments: padded numbers, zone offsets, and the timestamp
   yyyy-mm-ddThh:mm:ss with its fraction and offset. -/
namespace LogLayout.Calendar

def padLeft (fill : Char) (width : Nat) (cs : List Char) : List Char :=
  List.replicate (width - cs.length) fill ++ cs

def zeroPadded (width n : Nat) : List Char := padLeft '0' width (Nat.toDigits 10 n)

/-- Four digits in the years 0 to 9999; outside them a sign and at least four digits. -/
def yearText (y : Int) : List Char :=
  if 0 ≤ y ∧ y ≤ 9999 then zeroPadded 4 y.toNat
  else (if y < 0 then '-' else '+') :: zeroPadded 4 y.natAbs

/-- The fewest of 0, 3, 6 and 9 digits that lose nothing. -/
def fractionText (nanos : Nat) : List Char :=
  if nanos = 0 then []
  else if nanos % 1000000 = 0 then '.' :: zeroPadded 3 (nanos / 1000000)
  else if nanos % 1000 = 0 then '.' :: zeroPadded 6 (nanos / 1000)
  else '.' :: zeroPadded 9 nanos

inductive OffsetPrecision where
  | hours | minutes | seconds
  deriving DecidableEq, Repr

/-- Minutes are rounded to the nearest one; hours are cut off. -/
def offsetText (precision : OffsetPrecision) (colon : Bool) (offset : Int) : List Char :=
  let size := offset.natAbs
  let separator := if colon then [':'] else []
  let sign := if offset < 0 then '-' else '+'
  sign :: match precision with
    | .hours => zeroPadded 2 (size / 3600)
    | .minutes =>
      let minutes := (size + 30) / 60
      zeroPadded 2 (minutes / 60) ++ separator ++ zeroPadded 2 (minutes % 60)
    | .seconds =>
      zeroPadded 2 (size / 3600) ++ separator ++ zeroPadded 2 (size / 60 % 60) ++ separator ++
        zeroPadded 2 (size % 60)

def Zone.name : Zone → List Char
  | .utc => ['U', 'T', 'C']
  | .fixed offset =>
    offsetText (if offset % 60 = 0 then .minutes else .seconds) true offset

def Moment.dateText (m : Moment) : List Char :=
  yearText m.date.year ++ '-' :: zeroPadded 2 m.date.month ++ '-' :: zeroPadded 2 m.date.day

def Moment.clockText (m : Moment) : List Char :=
  zeroPadded 2 m.hour ++ ':' :: zeroPadded 2 m.minute ++ ':' :: zeroPadded 2 m.second

def Moment.timestampWith (m : Moment) (zulu : Bool) : List Char :=
  m.dateText ++ 'T' :: m.clockText ++ fractionText m.subsecond ++
    (if zulu ∧ m.zone.offset = 0 then ['Z'] else offsetText .minutes true m.zone.offset)

def Moment.timestamp (m : Moment) : String := String.ofList (m.timestampWith true)

end LogLayout.Calendar
