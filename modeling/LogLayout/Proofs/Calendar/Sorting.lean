import LogLayout.Proofs.Calendar.Timestamps

/- Timestamps of one offset as texts in the order of their code points. Whole seconds are in the order
   of time. Within a second, a fraction that goes on where another one ends is later, and as a text it
   is compared with the offset that ends the other: signs come before points and digits, but the
   letter for the offset zero comes behind them. -/
namespace LogLayout.Calendar

/-- A leap second is later than the second it follows and earlier than the next one. -/
def Instant.Before (i later : Instant) : Prop :=
  i.seconds < later.seconds ∨ i.seconds = later.seconds ∧ i.nanos < later.nanos

def Instant.SameSecond (i other : Instant) : Prop :=
  i.seconds = other.seconds ∧ i.nanos / 1000000000 = other.nanos / 1000000000

theorem below_not_prefix {x y : List Char} (below : Below x y) : ¬x <+: y := by
  obtain ⟨front, a, b, xs, ys, rfl, rfl, less⟩ := below
  rw [List.prefix_append_right_inj]
  intro continued
  obtain ⟨same, _⟩ := List.cons_prefix_cons.mp continued
  subst same
  exact lt_irrefl a less

theorem triple_below {width first second third first' second' third' : Nat} (separator : Char)
    (places : 0 < width) (fits : first' < 10 ^ width) (two : second' < 100) (three : third' < 100)
    (before : first < first' ∨ first = first' ∧
      (second < second' ∨ second = second' ∧ third < third')) :
    Below (triple width separator first second third)
      (triple width separator first' second' third') := by
  have text (x y z : Nat) : triple width separator x y z = zeroPadded width x ++
      ([separator] ++ (zeroPadded 2 y ++ ([separator] ++ zeroPadded 2 z))) := by
    simp [triple]
  rw [text, text]
  rcases before with less | ⟨rfl, less | ⟨rfl, less⟩⟩
  · exact below_append (padded_below places less fits) _ _
  · exact below_behind _ (below_behind _ (below_append (padded_below (by decide) less two) _ _))
  · exact below_behind _ (below_behind _ (below_behind _ (below_behind _
      (padded_below (by decide) less three))))

section

variable {a b : Moment} (regular : a.Regular) (regularOther : b.Regular)
include regular regularOther

theorem dates_below (before : a.localSeconds / secondsPerDay < b.localSeconds / secondsPerDay) :
    Below a.dateText b.dateText := by
  have days : a.date.Before b.date := dates_in_order (by omega)
  obtain ⟨month, day⟩ : b.date.Real := (date_of_day _).1
  have longest := month_lengths_bounded b.date.year (b.date.month - 1)
  have year := regular.year
  have yearOther := regularOther.year
  rw [date_text regular, date_text regularOther]
  refine triple_below '-' (by decide) ?_ (by omega) (by omega) ?_
  · change b.date.year.toNat < 10000
    omega
  · unfold Date.Before at days
    omega

theorem clocks_below (before : a.secondOfDay < b.secondOfDay ∨ a.secondOfDay = b.secondOfDay ∧
    a.instant.nanos / 1000000000 < b.instant.nanos / 1000000000) : Below a.clockText b.clockText := by
  obtain ⟨hour, minute, _⟩ := clock_shown b
  obtain ⟨second, _⟩ := second_shown regularOther
  have last : 1000000000 ≤ a.instant.nanos → a.secondOfDay % 60 = 59 := by
    intro leap
    have own := regular.leap leap
    have minutes := regular.offset.1
    unfold Moment.secondOfDay Moment.localSeconds secondsPerDay
    omega
  have nanos := regular.nanos
  have text (m : Moment) : m.clockText = triple 2 ':' m.hour m.minute m.second := rfl
  rw [text, text]
  refine triple_below ':' (by decide) (by omega) (by omega) (by omega) ?_
  unfold Moment.hour Moment.minute Moment.second
  omega

variable (zone : a.zone.offset = b.zone.offset)
include zone

theorem seconds_below (before : a.instant.Before b.instant)
    (apart : ¬a.instant.SameSecond b.instant) :
    Below (a.dateText ++ 'T' :: a.clockText) (b.dateText ++ 'T' :: b.clockText) := by
  unfold Instant.Before at before
  unfold Instant.SameSecond at apart
  by_cases days : a.localSeconds / secondsPerDay < b.localSeconds / secondsPerDay
  · exact below_append (dates_below regular regularOther days) _ _
  · have same : a.localSeconds / secondsPerDay = b.localSeconds / secondsPerDay := by
      unfold Moment.localSeconds secondsPerDay at *
      omega
    have date : a.dateText = b.dateText := by
      unfold Moment.dateText Moment.date
      rw [same]
    rw [date]
    refine below_behind _ (below_behind ['T'] (clocks_below regular regularOther ?_))
    unfold Moment.secondOfDay Moment.localSeconds secondsPerDay at *
    omega

omit regular regularOther in
theorem seconds_alike (same : a.instant.SameSecond b.instant) :
    a.dateText = b.dateText ∧ a.clockText = b.clockText := by
  obtain ⟨seconds, leap⟩ := same
  have shown : a.localSeconds = b.localSeconds := by
    rw [Moment.localSeconds, Moment.localSeconds, seconds, zone]
  have day : a.secondOfDay = b.secondOfDay := by
    rw [Moment.secondOfDay, Moment.secondOfDay, shown]
  constructor
  · unfold Moment.dateText Moment.date
    rw [shown]
  · unfold Moment.clockText Moment.hour Moment.minute Moment.second
    rw [day, leap]

end

theorem shorter_in_order {places more x y : Nat} (shown : 0 < places) (further : 0 < more)
    (fits : y < 10 ^ (places + more)) (before : 10 ^ more * x < y) :
    Below (zeroPadded places x) (zeroPadded (places + more) y) ∨
      ∃ c rest, zeroPadded (places + more) y = zeroPadded places x ++ c :: rest ∧
        c.isDigit = true := by
  have first : x ≤ y / 10 ^ more :=
    (Nat.le_div_iff_mul_le (by positivity)).mpr (by rw [Nat.mul_comm]; omega)
  have leading : y / 10 ^ more < 10 ^ places :=
    Nat.div_lt_of_lt_mul (by rwa [← Nat.pow_add, Nat.add_comm])
  have rest : y % 10 ^ more < 10 ^ more := Nat.mod_lt _ (by positivity)
  rw [padded_split shown further fits]
  rcases Nat.lt_or_eq_of_le first with less | same
  · have below := below_append (padded_below shown less leading) [] (zeroPadded more (y % 10 ^ more))
    rw [List.append_nil] at below
    exact .inl below
  · have length := padded_length further rest
    have digits := padded_digits more (y % 10 ^ more)
    cases others : zeroPadded more (y % 10 ^ more) with
    | nil =>
      rw [others] at length
      exact absurd length (by simpa using further.ne)
    | cons c rest =>
      rw [others] at digits
      exact .inr ⟨c, rest, by rw [same], digits c (List.mem_cons_self ..)⟩

theorem longer_in_order {places more x y : Nat} (shown : 0 < places)
    (fits : x < 10 ^ (places + more)) (within : y < 10 ^ places) (before : x < 10 ^ more * y) :
    Below (zeroPadded (places + more) x) (zeroPadded places y) := by
  have leading : x / 10 ^ more < y := Nat.div_lt_of_lt_mul before
  rcases Nat.eq_zero_or_pos more with rfl | further
  · exact padded_below shown (by simpa using before) within
  · have below := below_append (padded_below shown leading within)
      (zeroPadded more (x % 10 ^ more)) []
    rwa [List.append_nil, ← padded_split shown further fits] at below

/-- Of two fractions the later one goes on where the other one ends, or comes behind it as a text. -/
theorem fractions_in_order {n later : Nat} (before : n < later) (fits : later < 1000000000) :
    Below (fractionText n) (fractionText later) ∨
      ∃ c rest, fractionText later = fractionText n ++ c :: rest ∧ (c = '.' ∨ c.isDigit = true) := by
  have some_time : later ≠ 0 := by omega
  obtain ⟨shownLater, nineLater, _⟩ := shown_places later some_time
  obtain ⟨y, textLater, valueLater, smallLater⟩ := shown_value some_time fits
  by_cases whole : n = 0
  · subst whole
    exact .inr ⟨'.', _, textLater, .inl rfl⟩
  · obtain ⟨shown, nine, _⟩ := shown_places n whole
    obtain ⟨x, text, value, small⟩ := shown_value whole (by omega)
    rw [text, textLater]
    generalize shownPlaces n = k at *
    generalize shownPlaces later = l at *
    rw [← value, ← valueLater] at before
    rcases Nat.lt_or_ge k l with shorter | longer
    · obtain ⟨more, rfl⟩ := Nat.exists_eq_add_of_lt shorter
      have scale : 10 ^ (9 - k) = 10 ^ (9 - (k + more + 1)) * 10 ^ (more + 1) := by
        rw [← Nat.pow_add]
        congr 1
        omega
      rw [scale, Nat.mul_assoc] at before
      rcases shorter_in_order shown (by omega : 0 < more + 1) smallLater
        (Nat.lt_of_mul_lt_mul_left before) with below | ⟨c, rest, goesOn, digit⟩
      · exact .inl (below_behind ['.'] below)
      · exact .inr ⟨c, rest, congrArg ('.' :: ·) goesOn, .inr digit⟩
    · obtain ⟨more, rfl⟩ := Nat.exists_eq_add_of_le longer
      have scale : 10 ^ (9 - l) = 10 ^ (9 - (l + more)) * 10 ^ more := by
        rw [← Nat.pow_add]
        congr 1
        omega
      rw [scale, Nat.mul_assoc] at before
      exact .inl (below_behind ['.'] (longer_in_order shownLater small smallLater
        (Nat.lt_of_mul_lt_mul_left before)))

theorem suffix_order (zulu : Bool) (offset : Int) {c : Char} (goesOn : c = '.' ∨ c.isDigit = true)
    (rest : List Char) :
    (zulu ∧ offset = 0 → c :: rest < suffix zulu offset) ∧
      (¬(zulu ∧ offset = 0) → suffix zulu offset < c :: rest) := by
  have code : 46 ≤ c.toNat ∧ c.toNat ≤ 57 := by
    rcases goesOn with rfl | digit
    · decide
    · obtain ⟨least, most⟩ := Char.isDigit_iff_toNat.mp digit
      exact ⟨Nat.le_trans (by decide) least, most⟩
  have less {a b : Char} (codes : a.toNat < b.toNat) (as bs : List Char) : a :: as < b :: bs :=
    List.cons_lt_cons_iff.mpr (.inl codes)
  unfold suffix
  rw [offset_text]
  constructor
  · intro zero
    rw [if_pos zero]
    exact less (Nat.lt_of_le_of_lt code.2 (by decide)) _ _
  · intro signed
    rw [if_neg signed]
    refine less (Nat.lt_of_lt_of_le ?_ code.1) _ _
    split <;> decide

theorem timestamps_order {a b : Moment} (regular : a.Regular) (regularOther : b.Regular)
    (zone : a.zone.offset = b.zone.offset) (before : a.instant.Before b.instant) (zulu : Bool) :
    a.timestampWith zulu < b.timestampWith zulu ↔ ¬((zulu ∧ a.zone.offset = 0) ∧
      a.instant.SameSecond b.instant ∧ fractionText a.subsecond <+: fractionText b.subsecond) := by
  have text (m : Moment) : m.timestampWith zulu =
      (m.dateText ++ 'T' :: m.clockText) ++ (fractionText m.subsecond ++ suffix zulu m.zone.offset) := by
    rw [timestamp_text]
    simp
  rw [text, text]
  by_cases same : a.instant.SameSecond b.instant
  · obtain ⟨date, clock⟩ := seconds_alike zone same
    have later : a.subsecond < b.subsecond := by
      unfold Instant.Before at before
      unfold Instant.SameSecond at same
      unfold Moment.subsecond
      omega
    rw [date, clock, zone]
    rcases fractions_in_order later (Nat.mod_lt _ (by decide)) with below | ⟨c, rest, goesOn, next⟩
    · have less := lt_of_below (below_append below (suffix zulu b.zone.offset)
        (suffix zulu b.zone.offset))
      exact iff_of_true (List.append_left_lt less) fun ⟨_, _, begins⟩ =>
        below_not_prefix below begins
    · obtain ⟨zero, signed⟩ := suffix_order zulu b.zone.offset next (rest ++ suffix zulu b.zone.offset)
      have longer : fractionText b.subsecond ++ suffix zulu b.zone.offset =
          fractionText a.subsecond ++ c :: (rest ++ suffix zulu b.zone.offset) := by
        simp [goesOn]
      have begins : fractionText a.subsecond <+: fractionText b.subsecond := ⟨c :: rest, goesOn.symm⟩
      rw [longer]
      generalize b.dateText ++ 'T' :: b.clockText = second
      by_cases letter : zulu ∧ b.zone.offset = 0
      · have wrong : second ++ (fractionText a.subsecond ++ c :: (rest ++ suffix zulu b.zone.offset)) <
            second ++ (fractionText a.subsecond ++ suffix zulu b.zone.offset) :=
          List.append_left_lt (List.append_left_lt (zero letter))
        exact iff_of_false (lt_asymm wrong) fun other => other ⟨letter, same, begins⟩
      · exact iff_of_true (List.append_left_lt (List.append_left_lt (signed letter)))
          fun ⟨other, _⟩ => letter other
  · have below := seconds_below regular regularOther zone before same
    exact iff_of_true (lt_of_below (below_append below _ _)) fun ⟨_, other, _⟩ => same other

/-- In which order timestamps of one offset stand as texts. When offsets are always written with
    their sign, it is the order of time. The letter for the offset zero spoils it, and it does so
    exactly where two instants lie in one second and the fraction of the later one begins with all
    that is shown of the other: these texts stand the wrong way round. -/
theorem timestamps_sorted_unless_fraction_goes_on (a b : Moment) (regular : a.Regular)
    (regularOther : b.Regular) (zone : a.zone.offset = b.zone.offset)
    (before : a.instant.Before b.instant) :
    String.ofList (a.timestampWith false) < String.ofList (b.timestampWith false) ∧
    (a.timestamp < b.timestamp ↔ ¬(a.zone.offset = 0 ∧ a.instant.SameSecond b.instant ∧
      fractionText a.subsecond <+: fractionText b.subsecond)) := by
  have order := timestamps_order regular regularOther zone before
  simp only [Moment.timestamp, String.lt_iff_toList_lt, String.toList_ofList]
  constructor
  · rw [order false]
    rintro ⟨⟨signed, _⟩, _⟩
    cases signed
  · rw [order true]
    simp

def secondIn (offset : Int) : Moment := ⟨⟨0, 0⟩, .fixed offset⟩

def halfSecondIn (offset : Int) : Moment := ⟨⟨0, 500000000⟩, .fixed offset⟩

theorem half_second_behind_second_with_sign :
    (secondIn 19800).timestamp < (halfSecondIn 19800).timestamp := by
  have regular : (secondIn 19800).Regular :=
    ⟨by decide +kernel, by decide, by decide, by decide⟩
  have regularOther : (halfSecondIn 19800).Regular :=
    ⟨by decide +kernel, by decide, by decide, by decide⟩
  obtain ⟨_, order⟩ := timestamps_sorted_unless_fraction_goes_on (secondIn 19800)
    (halfSecondIn 19800) regular regularOther rfl (.inr ⟨rfl, by decide⟩)
  exact order.mpr fun ⟨zero, _⟩ => absurd zero (by decide)

theorem half_second_before_second_with_letter :
    (secondIn 0).Regular ∧ (halfSecondIn 0).Regular ∧
      (secondIn 0).instant.Before (halfSecondIn 0).instant ∧
      (secondIn 0).timestamp = "1970-01-01T00:00:00Z" ∧
      (halfSecondIn 0).timestamp = "1970-01-01T00:00:00.500Z" ∧
      ¬(secondIn 0).timestamp < (halfSecondIn 0).timestamp := by
  have text : (secondIn 0).timestamp = "1970-01-01T00:00:00Z" := by decide +kernel
  have textOther : (halfSecondIn 0).timestamp = "1970-01-01T00:00:00.500Z" := by decide +kernel
  refine ⟨⟨by decide +kernel, by decide, by decide, by decide⟩,
    ⟨by decide +kernel, by decide, by decide, by decide⟩, .inr ⟨rfl, by decide⟩, text, textOther, ?_⟩
  rw [text, textOther]
  decide

end LogLayout.Calendar
