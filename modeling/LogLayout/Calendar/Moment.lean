import LogLayout.Calendar.Date

/- Instants in UTC and the same instants as a clock in some zone shows them. -/
namespace LogLayout.Calendar

/-- Seconds since 1 January 1970 and nanoseconds within the second; from 10^9 on, the
    nanoseconds lie in a leap second that follows it. -/
structure Instant where
  seconds : Int
  nanos : Nat
  deriving DecidableEq, Repr

def Instant.millis (i : Instant) : Int := i.seconds * 1000 + (i.nanos / 1000000 : Nat)

inductive Zone where
  | utc
  | fixed (offset : Int)
  deriving DecidableEq, Repr

def Zone.offset : Zone → Int
  | .utc => 0
  | .fixed offset => offset

structure Moment where
  instant : Instant
  zone : Zone
  deriving DecidableEq, Repr

def unixEpochDay : Int := 719162

def secondsPerDay : Int := 86400

def Moment.localSeconds (m : Moment) : Int := m.instant.seconds + m.zone.offset

def Moment.date (m : Moment) : Date := .ofDayNumber (m.localSeconds / secondsPerDay + unixEpochDay)

def Moment.secondOfDay (m : Moment) : Nat := (m.localSeconds % secondsPerDay).toNat

def Moment.hour (m : Moment) : Nat := m.secondOfDay / 3600

def Moment.minute (m : Moment) : Nat := m.secondOfDay / 60 % 60

/-- A leap second shows as one more than the second it follows. -/
def Moment.second (m : Moment) : Nat := m.secondOfDay % 60 + m.instant.nanos / 1000000000

def Moment.subsecond (m : Moment) : Nat := m.instant.nanos % 1000000000

def Moment.isAfternoon (m : Moment) : Bool := 12 ≤ m.hour

def Moment.hourOfHalfDay (m : Moment) : Nat := if m.hour % 12 = 0 then 12 else m.hour % 12

end LogLayout.Calendar
