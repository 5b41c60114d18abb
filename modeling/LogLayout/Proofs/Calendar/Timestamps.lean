import LogLayout.Conversion.Builtin
import LogLayout.Normalize
import LogLayout.Proofs.Calendar.Days
import LogLayout.Proofs.Calendar.Digits
import LogLayout.Proofs.Calendar.Reader

/- Timestamps are read back. Each part of the text, the date, the clock, the fraction and the offset,
   is read as what it was written from, whatever stands behind it; and date, clock and offset make
   out the instant. -/
namespace LogLayout.Calendar

open Json (AllDigits)

/-- Four digits show the year and whole minutes the offset, which is less than a day, and there are
    leap seconds only behind the last second of a minute. -/
structure Moment.Regular (m : Moment) : Prop where
  year : 0 ≤ m.date.year ∧ m.date.year ≤ 9999
  offset : m.zone.offset % 60 = 0 ∧ m.zone.offset.natAbs < 86400
  nanos : m.instant.nanos < 2000000000
  leap : 1000000000 ≤ m.instant.nanos → m.instant.seconds % 60 = 59

def triple (width : Nat) (separator : Char) (first second third : Nat) : List Char :=
  zeroPadded width first ++ separator :: zeroPadded 2 second ++ separator :: zeroPadded 2 third

section

variable {width n : Nat}

theorem read_padded (places : 0 < width) (fits : n < 10 ^ width) (rest : List Char) :
    readNumber width (zeroPadded width n ++ rest) = some (n, rest) := by
  have length := padded_length places fits
  have digits : (zeroPadded width n).all Char.isDigit = true :=
    List.all_eq_true.mpr (padded_digits width n)
  have taken : (zeroPadded width n ++ rest).take width = zeroPadded width n :=
    List.take_left' length
  have left : (zeroPadded width n ++ rest).drop width = rest := List.drop_left' length
  rw [readNumber, taken, left, if_pos ⟨length, digits⟩, padded_value]

theorem read_triple {second third : Nat} (separator : Char) (places : 0 < width)
    (fits : n < 10 ^ width) (two : second < 100) (three : third < 100) (rest : List Char) :
    readTriple width separator (triple width separator n second third ++ rest) =
      some ((n, second, third), rest) := by
  have text : triple width separator n second third ++ rest =
      zeroPadded width n ++ (separator :: (zeroPadded 2 second ++
        (separator :: (zeroPadded 2 third ++ rest)))) := by
    simp [triple]
  have passed (cs : List Char) : skip [separator] (separator :: cs) = some cs := by simp [skip]
  simp only [readTriple, text, read_padded places fits, read_padded (by decide : 0 < 2) two,
    read_padded (by decide : 0 < 2) three, passed, Option.bind_eq_bind, Option.bind_some]
  rfl

end

def shownPlaces (nanos : Nat) : Nat :=
  if nanos = 0 then 0 else if nanos % 1000000 = 0 then 3 else if nanos % 1000 = 0 then 6 else 9

theorem shown_places (nanos : Nat) (some_time : nanos ≠ 0) :
    0 < shownPlaces nanos ∧ shownPlaces nanos ≤ 9 ∧
      nanos % 10 ^ (9 - shownPlaces nanos) = 0 ∧
      fractionText nanos = '.' :: zeroPadded (shownPlaces nanos)
        (nanos / 10 ^ (9 - shownPlaces nanos)) := by
  unfold shownPlaces fractionText
  rw [if_neg some_time, if_neg some_time]
  split
  · exact ⟨by decide, by decide, by assumption, rfl⟩
  · split
    · exact ⟨by decide, by decide, by assumption, rfl⟩
    · refine ⟨by decide, by decide, ?_, ?_⟩ <;> simp [Nat.mod_one]

theorem shown_value {nanos : Nat} (some_time : nanos ≠ 0) (fits : nanos < 1000000000) :
    ∃ value, fractionText nanos = '.' :: zeroPadded (shownPlaces nanos) value ∧
      10 ^ (9 - shownPlaces nanos) * value = nanos ∧ value < 10 ^ shownPlaces nanos := by
  obtain ⟨_, nine, exact, text⟩ := shown_places nanos some_time
  refine ⟨_, text, Nat.mul_div_cancel' (Nat.dvd_of_mod_eq_zero exact), ?_⟩
  apply Nat.div_lt_of_lt_mul
  rw [← Nat.pow_add, Nat.sub_add_cancel nine]
  exact fits

theorem read_fraction {nanos : Nat} (fits : nanos < 1000000000) {rest : List Char}
    (stop : ∀ c ∈ rest.head?, c.isDigit = false ∧ c ≠ '.') :
    readSubsecond (fractionText nanos ++ rest) = some (nanos, rest) := by
  by_cases whole : nanos = 0
  · subst whole
    cases rest with
    | nil => rfl
    | cons c rest =>
      obtain ⟨_, other⟩ := stop c rfl
      change readSubsecond (c :: rest) = _
      unfold readSubsecond
      split
      · rename_i same
        exact absurd (List.cons.inj same).1 other
      · rfl
  · obtain ⟨some_places, nine, _⟩ := shown_places nanos whole
    obtain ⟨value, text, number, short⟩ := shown_value whole fits
    generalize shownPlaces nanos = places at *
    have length := padded_length some_places short
    have present : zeroPadded places value ≠ [] := by
      rw [← List.length_pos_iff, length]
      exact some_places
    have found := Json.read_digits (zeroPadded places value) rest (padded_digits _ _) present
      fun c first => (stop c first).1
    have filled : (zeroPadded places value ++ List.replicate 9 '0').take 9 =
        zeroPadded places value ++ List.replicate (9 - places) '0' := by
      rw [List.take_append, length, List.take_of_length_le (by omega), List.take_replicate]
      congr 2
      omega
    have read : Nat.ofDigitChars 10 (zeroPadded places value ++ List.replicate (9 - places) '0') 0 =
        nanos := by
      rw [Nat.ofDigitChars_append, padded_value, Nat.ofDigitChars_replicate_zero, number]
    rw [text, List.cons_append, readSubsecond, found]
    simp only [Option.map_some, filled, read]

def suffix (zulu : Bool) (offset : Int) : List Char :=
  if zulu ∧ offset = 0 then ['Z'] else offsetText .minutes true offset

theorem offset_text (offset : Int) : offsetText .minutes true offset =
    (if offset < 0 then '-' else '+') :: (zeroPadded 2 ((offset.natAbs + 30) / 60 / 60) ++
      ':' :: zeroPadded 2 ((offset.natAbs + 30) / 60 % 60)) := by
  simp [offsetText]

theorem read_signed {sign : Char} (signed : sign = '+' ∨ sign = '-') {hours minutes : Nat}
    (day : hours ≤ 23) (hour : minutes ≤ 59) :
    readOffset (sign :: (zeroPadded 2 hours ++ ':' :: zeroPadded 2 minutes)) =
      some (if sign = '-' then -((hours : Int) * 3600 + minutes * 60)
        else (hours : Int) * 3600 + minutes * 60, []) := by
  have first := read_padded (by decide : 0 < 2) (by omega : hours < 10 ^ 2)
    (':' :: zeroPadded 2 minutes)
  have last := read_padded (by decide : 0 < 2) (by omega : minutes < 10 ^ 2) []
  have passed (cs : List Char) : skip [':'] (':' :: cs) = some cs := by simp [skip]
  have other : ¬(sign = 'Z' ∨ sign = 'z') := by
    rcases signed with rfl | rfl <;> decide
  rw [List.append_nil] at last
  unfold readOffset
  dsimp only
  rw [if_neg other, if_pos signed]
  simp only [first, passed, last, Option.bind_eq_bind, Option.bind_some, if_pos (And.intro day hour)]
  rfl

theorem read_suffix (zulu : Bool) {offset : Int} (minutes : offset % 60 = 0)
    (within : offset.natAbs < 86400) : readOffset (suffix zulu offset) = some (offset, []) := by
  unfold suffix
  split
  · rename_i zero
    rw [zero.2]
    rfl
  · rw [offset_text]
    have day : (offset.natAbs + 30) / 60 / 60 ≤ 23 := by omega
    have hour : (offset.natAbs + 30) / 60 % 60 ≤ 59 := by omega
    by_cases negative : offset < 0
    · rw [if_pos negative, read_signed (.inr rfl) day hour, if_pos rfl]
      congr 2
      omega
    · rw [if_neg negative, read_signed (.inl rfl) day hour, if_neg (by decide)]
      congr 2
      omega

theorem suffix_head (zulu : Bool) (offset : Int) :
    ∀ c ∈ (suffix zulu offset).head?, c.isDigit = false ∧ c ≠ '.' := by
  intro c first
  unfold suffix at first
  rw [offset_text] at first
  split at first
  · cases first
    decide
  · split at first <;> cases first <;> decide

theorem clock_shown (m : Moment) : m.hour ≤ 23 ∧ m.minute ≤ 59 ∧
    m.hour * 3600 + m.minute * 60 + m.secondOfDay % 60 = m.secondOfDay := by
  have day : m.secondOfDay < 86400 := by
    unfold Moment.secondOfDay secondsPerDay
    omega
  unfold Moment.hour Moment.minute
  omega

theorem local_shown (m : Moment) : (m.date.dayNumber - unixEpochDay) * secondsPerDay +
    m.secondOfDay = m.localSeconds := by
  obtain ⟨_, number⟩ := date_of_day (m.localSeconds / secondsPerDay + unixEpochDay)
  unfold Moment.date Moment.secondOfDay
  rw [number]
  unfold secondsPerDay
  omega

theorem second_shown {m : Moment} (regular : m.Regular) : m.second ≤ 60 ∧
    min m.second 59 = m.secondOfDay % 60 ∧
    m.subsecond + (if m.second = 60 then 1000000000 else 0) = m.instant.nanos := by
  obtain ⟨_, ⟨minutes, _⟩, nanos, leap⟩ := regular
  have ordinary : m.secondOfDay % 60 = (m.instant.seconds % 60).toNat := by
    unfold Moment.secondOfDay Moment.localSeconds secondsPerDay
    omega
  unfold Moment.second Moment.subsecond
  by_cases isLeap : 1000000000 ≤ m.instant.nanos
  · have last := leap isLeap
    have one : m.instant.nanos / 1000000000 = 1 := by omega
    rw [one, ordinary, last]
    refine ⟨by decide, by decide, ?_⟩
    rw [if_pos (by decide)]
    omega
  · have none : m.instant.nanos / 1000000000 = 0 := by omega
    rw [none, Nat.add_zero, if_neg (by omega)]
    omega

theorem date_text {m : Moment} (regular : m.Regular) :
    m.dateText = triple 4 '-' m.date.year.toNat m.date.month m.date.day := by
  rw [Moment.dateText, yearText, if_pos regular.year]
  rfl

theorem timestamp_text (m : Moment) (zulu : Bool) : m.timestampWith zulu =
    m.dateText ++ 'T' :: (m.clockText ++ (fractionText m.subsecond ++ suffix zulu m.zone.offset)) := by
  simp [Moment.timestampWith, suffix]

theorem read_date {m : Moment} (regular : m.Regular) (rest : List Char) :
    readDate (m.dateText ++ rest) = some (m.date, rest) := by
  obtain ⟨real, _⟩ := date_of_day (m.localSeconds / secondsPerDay + unixEpochDay)
  obtain ⟨month, day⟩ : m.date.Real := real
  have days := month_lengths_bounded m.date.year (m.date.month - 1)
  have year : ((m.date.year.toNat : Nat) : Int) = m.date.year := Int.toNat_of_nonneg regular.year.1
  have parts := read_triple '-' (by decide : 0 < 4)
    (by have := regular.year; omega : m.date.year.toNat < 10 ^ 4)
    (by omega : m.date.month < 100) (by omega : m.date.day < 100) rest
  rw [date_text regular, readDate, parts]
  simp only [Option.bind_eq_bind, Option.bind_some, year]
  rw [if_pos ⟨month.1, month.2, day.1, day.2⟩]
  rfl

theorem read_clock {m : Moment} (regular : m.Regular) (rest : List Char) :
    readClock (m.clockText ++ rest) = some ((m.hour, m.minute, m.second), rest) := by
  obtain ⟨hour, minute, _⟩ := clock_shown m
  obtain ⟨second, _⟩ := second_shown regular
  have parts := read_triple ':' (by decide : 0 < 2) (by omega : m.hour < 10 ^ 2)
    (by omega : m.minute < 100) (by omega : m.second < 100) rest
  have text : m.clockText = triple 2 ':' m.hour m.minute m.second := rfl
  rw [text, readClock, parts]
  simp [Option.filter, hour, minute, second]

theorem read_timestamp {m : Moment} (regular : m.Regular) (zulu : Bool) :
    readTimestamp (String.ofList (m.timestampWith zulu)) =
      some ⟨m.instant, .fixed m.zone.offset⟩ := by
  obtain ⟨_, _, clock⟩ := clock_shown m
  obtain ⟨_, second, nanos⟩ := second_shown regular
  have shown := local_shown m
  have small : m.subsecond < 1000000000 := Nat.mod_lt _ (by decide)
  have fraction := read_fraction small (suffix_head zulu m.zone.offset)
  have offset := read_suffix zulu regular.offset.1 regular.offset.2
  have passed (cs : List Char) : skip ['T', 't'] ('T' :: cs) = some cs := by simp [skip]
  have seconds : (m.date.dayNumber - unixEpochDay) * secondsPerDay +
      (m.hour * 3600 + m.minute * 60 + min m.second 59 : Nat) - m.zone.offset =
        m.instant.seconds := by
    rw [second, clock, shown, Moment.localSeconds]
    omega
  rw [readTimestamp, String.toList_ofList, timestamp_text]
  simp only [read_date regular, passed, read_clock regular, fraction, offset, Option.bind_eq_bind,
    Option.bind_some, seconds, nanos]
  rfl

theorem builtin_dates (env : Environment) :
    (∀ name ∈ ["date", "d"], (Conversion.builtins env).get? name =
      some (Conversion.date env.localZone)) ∧
    (Conversion.builtins env).get? "utcdate" = some (Conversion.date .utc) := by
  simp [Conversion.builtins, Conversion.builtinNames, Registry.get_register]

theorem date_without_option (zone : Zone) (e : Event) {option : Option String}
    (unset : option.getD "" = "") :
    Conversion.date zone e option = .ok (some (.moment ⟨e.timestamp, zone⟩)) := by
  have nothing : option.filter (· ≠ "") = none := by
    cases option with
    | none => rfl
    | some pattern =>
      obtain rfl : pattern = "" := unset
      rfl
  simp only [Conversion.date, nothing]

theorem moment_normalized (n : Normalizer) (m : Moment) :
    n.normalize (.moment m) = .ok (.text m.timestamp) := by
  unfold Normalizer.normalize Normalizer.nested
  rw [Normalizer.levels, Normalizer.level]
  cases n.flatten <;> rfl

/-- Timestamps are read back as the instant, to the nanosecond and with its leap second, and the
    offset that they were written from. So no two instants or offsets have a text in common, and the
    date conversions, of which one shows the local time and the other one UTC, give values of one
    instant, which is the event's, and texts that are read as this instant. -/
theorem timestamps_read_back :
    (∀ m : Moment, m.Regular →
      readTimestamp m.timestamp = some ⟨m.instant, .fixed m.zone.offset⟩) ∧
    (∀ m other : Moment, m.Regular → other.Regular → m.timestamp = other.timestamp →
      m.instant = other.instant ∧ m.zone.offset = other.zone.offset) ∧
    ∀ (env : Environment) (e : Event) (option : Option String), option.getD "" = "" →
      ∃ shown utc : Moment,
        (∀ name ∈ ["date", "d"], ∃ conversion, (Conversion.builtins env).get? name =
          some conversion ∧ conversion e option = .ok (some (.moment shown))) ∧
        (∃ conversion, (Conversion.builtins env).get? "utcdate" = some conversion ∧
          conversion e option = .ok (some (.moment utc))) ∧
        shown.instant = e.timestamp ∧ utc.instant = e.timestamp ∧
        (shown.Regular → utc.Regular → ∀ n : Normalizer, ∃ first second,
          n.normalize (.moment shown) = .ok (.text first) ∧
          n.normalize (.moment utc) = .ok (.text second) ∧
          (readTimestamp first).map Moment.instant = some e.timestamp ∧
          (readTimestamp second).map Moment.instant = some e.timestamp) := by
  have back (m : Moment) (regular : m.Regular) :
      readTimestamp m.timestamp = some ⟨m.instant, .fixed m.zone.offset⟩ := read_timestamp regular true
  refine ⟨back, ?_, ?_⟩
  · intro m other regular regularOther same
    have first := back m regular
    rw [same, back other regularOther, Option.some.injEq, Moment.mk.injEq, Zone.fixed.injEq] at first
    exact ⟨first.1.symm, first.2.symm⟩
  · intro env e option unset
    obtain ⟨dates, utcdate⟩ := builtin_dates env
    refine ⟨⟨e.timestamp, env.localZone⟩, ⟨e.timestamp, .utc⟩, fun name known => ?_, ?_, rfl, rfl, ?_⟩
    · exact ⟨_, dates name known, date_without_option _ e unset⟩
    · exact ⟨_, utcdate, date_without_option _ e unset⟩
    · intro regular regularUtc n
      exact ⟨_, _, moment_normalized n _, moment_normalized n _, by rw [back _ regular]; rfl,
        by rw [back _ regularUtc]; rfl⟩

/-- Half a second into the leap second at the end of 2016, seen from west of Greenwich. -/
def leapMoment : Moment := ⟨⟨1483228799, 1500000000⟩, .fixed (-16200)⟩

theorem leap_second_read_back : leapMoment.Regular ∧
    leapMoment.timestamp = "2016-12-31T19:29:60.500-04:30" ∧
    readTimestamp "2016-12-31T19:29:60.500-04:30" = some leapMoment := by
  have regular : leapMoment.Regular :=
    ⟨by decide +kernel, by decide, by decide, by decide⟩
  have written : leapMoment.timestampWith true = "2016-12-31T19:29:60.500-04:30".toList := by
    decide +kernel
  have text : leapMoment.timestamp = "2016-12-31T19:29:60.500-04:30" := by
    rw [Moment.timestamp, written]
    rfl
  obtain ⟨back, _⟩ := timestamps_read_back
  exact ⟨regular, text, by rw [← text, back _ regular]; rfl⟩

end LogLayout.Calendar
