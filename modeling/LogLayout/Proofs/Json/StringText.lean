import Mathlib
import LogLayout.Json.Encode
import LogLayout.Proofs.Json.Reader

/- Every character of a string is read back from its escape. A table may replace a character by
   anything that is read as that character; whatever the table leaves open is written by itself,
   by a short escape, by a code unit or by a surrogate pair. -/
namespace LogLayout.Json

/-- The reader takes one character from its escape and leaves what is behind. -/
def Faithful (escape : Char → List Char) : Prop :=
  ∀ c rest, readChar (escape c ++ rest) = some (c, rest)

/-- Each replacement is one character or escape of a string, or a surrogate pair of escapes, and
    stands for the character that it replaces. -/
def EscapeTable.Sound (t : EscapeTable) : Prop :=
  ∀ c replacement, t.get? c = some replacement → readChar replacement.toList = some (c, [])

def EscapeTable.unsetAll (t : EscapeTable) (cs : List Char) : EscapeTable := cs.foldl unset t

theorem hex_value_of_digit : ∀ n < 16, hexValue? (Nat.digitChar n) = some n := by decide

theorem hex_digits_of_unit (unit : Nat) (small : unit < 0x10000) :
    hexDigits 4 unit = [Nat.digitChar (unit / 4096), Nat.digitChar (unit / 256 % 16),
      Nat.digitChar (unit / 16 % 16), Nat.digitChar (unit % 16)] := by
  have zero : Nat.digitChar 0 = '0' := rfl
  unfold hexDigits
  rcases Nat.lt_or_ge unit 16 with one | two
  · rw [Nat.toDigits_of_lt_base one]
    simp [show unit / 4096 = 0 by omega, show unit / 256 = 0 by omega,
      show unit / 16 = 0 by omega, show unit % 16 = unit by omega, zero]
  · rw [Nat.toDigits_of_base_le (by decide) two]
    rcases Nat.lt_or_ge unit 256 with two | three
    · rw [Nat.toDigits_of_lt_base (by omega : unit / 16 < 16)]
      simp [show unit / 4096 = 0 by omega, show unit / 256 = 0 by omega,
        show unit / 16 % 16 = unit / 16 by omega, zero]
    · rw [Nat.toDigits_of_base_le (by decide) (by omega : 16 ≤ unit / 16), Nat.div_div_eq_div_mul]
      rcases Nat.lt_or_ge unit 4096 with three | four
      · rw [Nat.toDigits_of_lt_base (by omega : unit / (16 * 16) < 16)]
        simp [show unit / 4096 = 0 by omega, show unit / 256 % 16 = unit / 256 by omega, zero]
      · rw [Nat.toDigits_of_base_le (by decide) (by omega : 16 ≤ unit / (16 * 16)),
          Nat.div_div_eq_div_mul, Nat.toDigits_of_lt_base (by omega : unit / (16 * 16 * 16) < 16)]
        simp

theorem read_unit_of_digits (unit : Nat) (small : unit < 0x10000) (rest : List Char) :
    readUnit (hexDigits 4 unit ++ rest) = some (unit, rest) := by
  rw [hex_digits_of_unit unit small]
  simp only [List.cons_append, List.nil_append, readUnit]
  rw [hex_value_of_digit _ (by omega), hex_value_of_digit _ (by omega),
    hex_value_of_digit _ (by omega), hex_value_of_digit _ (by omega)]
  have parts : ((unit / 4096 * 16 + unit / 256 % 16) * 16 + unit / 16 % 16) * 16 + unit % 16 =
      unit := by omega
  simp [parts]

theorem read_single_unit (unit : Nat) (small : unit < 0x10000) (high : isHigh unit = false)
    (low : isLow unit = false) (rest : List Char) :
    readChar (unitEscape unit ++ rest) = some (Char.ofNat unit, rest) := by
  have found := read_unit_of_digits unit small rest
  simp [unitEscape, readChar, readUnits, found, high, low]

theorem read_surrogate_pair (first second : Nat) (high : isHigh first = true)
    (low : isLow second = true) (rest : List Char) :
    readChar (unitEscape first ++ (unitEscape second ++ rest)) =
      some (Char.ofNat (0x10000 + (first - 0xD800) * 0x400 + (second - 0xDC00)), rest) := by
  have highRange : 0xD800 ≤ first ∧ first < 0xDC00 := by simpa [isHigh] using high
  have lowRange : 0xDC00 ≤ second ∧ second < 0xE000 := by simpa [isLow] using low
  have foundHigh := read_unit_of_digits first (by omega) (unitEscape second ++ rest)
  have foundLow := read_unit_of_digits second (by omega) rest
  simp only [unitEscape, List.cons_append] at foundHigh ⊢
  simp [readChar, readUnits, foundHigh, high, readLow, foundLow, low]

/-- A character is no half of a surrogate pair, so a single unit is read by itself. -/
theorem read_unicode_escape (c : Char) (rest : List Char) :
    readChar (unicodeEscape c ++ rest) = some (c, rest) := by
  have range : c.toNat < 0xD800 ∨ 0xDFFF < c.toNat ∧ c.toNat < 0x110000 := c.valid
  unfold unicodeEscape utf16
  split
  · rename_i single
    have found := read_single_unit c.toNat single (by simp [isHigh]; omega)
      (by simp [isLow]; omega) rest
    simpa using found
  · rename_i double
    have found := read_surrogate_pair (0xD800 + (c.toNat - 0x10000) / 0x400)
      (0xDC00 + (c.toNat - 0x10000) % 0x400) (by simp [isHigh]; omega) (by simp [isLow]; omega) rest
    have whole : 0x10000 + (0xD800 + (c.toNat - 0x10000) / 0x400 - 0xD800) * 0x400 +
        (0xDC00 + (c.toNat - 0x10000) % 0x400 - 0xDC00) = c.toNat := by omega
    rw [whole, Char.ofNat_toNat] at found
    simpa using found

theorem read_plain_char (c : Char) (rest : List Char) (noQuote : c ≠ '"') (noSlash : c ≠ '\\')
    (printable : 32 ≤ c.toNat) : readChar (c :: rest) = some (c, rest) := by
  unfold readChar
  split <;> simp_all

theorem char_of_code (c : Char) (n : Nat) (code : c.toNat = n) : c = Char.ofNat n := by
  rw [← code, Char.ofNat_toNat]

theorem read_mandatory_escape (c : Char) (text rest : List Char)
    (found : mandatoryEscape? c = some text) : readChar (text ++ rest) = some (c, rest) := by
  unfold mandatoryEscape? at found
  split at found
  · rename_i quote
    cases found
    subst quote
    rfl
  split at found
  · rename_i slash
    cases found
    subst slash
    rfl
  iterate 5
    split at found
    · rename_i code
      cases found
      rw [char_of_code c _ code]
      rfl
  split at found
  · cases found
    exact read_unicode_escape c rest
  · cases found

theorem not_mandatory (c : Char) (free : mandatoryEscape? c = none) :
    c ≠ '"' ∧ c ≠ '\\' ∧ 32 ≤ c.toNat := by
  refine ⟨?_, ?_, ?_⟩
  · rintro rfl
    simp [mandatoryEscape?] at free
  · rintro rfl
    simp [mandatoryEscape?] at free
  · rcases Nat.lt_or_ge c.toNat 32 with control | printable
    · unfold mandatoryEscape? at free
      iterate 7
        split at free
        · cases free
      cases free
    · exact printable

/- What is read does not depend on what is behind it. -/

theorem read_unit_append {cs left : List Char} {unit : Nat} (found : readUnit cs = some (unit, left))
    (rest : List Char) : readUnit (cs ++ rest) = some (unit, left ++ rest) := by
  match cs with
  | a :: b :: c :: d :: tail =>
    simp only [readUnit, Option.bind_eq_bind, Option.bind_eq_some_iff] at found
    obtain ⟨a', ha, b', hb, c', hc, d', hd, same⟩ := found
    cases same
    simp [readUnit, ha, hb, hc, hd]
  | [] | [_] | [_, _] | [_, _, _] => simp [readUnit] at found

theorem read_low_append {cs left : List Char} {high : Nat} {c : Char}
    (found : readLow high cs = some (c, left)) (rest : List Char) :
    readLow high (cs ++ rest) = some (c, left ++ rest) := by
  unfold readLow at found
  split at found
  · simp only [Option.bind_eq_bind, Option.bind_eq_some_iff] at found
    obtain ⟨⟨low, behind⟩, unit, same⟩ := found
    have longer := read_unit_append unit rest
    simp only at same
    split at same
    · rename_i second
      simp only [Option.pure_def, Option.some.injEq, Prod.mk.injEq] at same
      obtain ⟨rfl, rfl⟩ := same
      simp [readLow, longer, second]
    · cases same
  · cases found

theorem read_units_append {cs left : List Char} {c : Char} (found : readUnits cs = some (c, left))
    (rest : List Char) : readUnits (cs ++ rest) = some (c, left ++ rest) := by
  simp only [readUnits, Option.bind_eq_bind, Option.bind_eq_some_iff] at found
  obtain ⟨⟨unit, behind⟩, first, same⟩ := found
  have longer := read_unit_append first rest
  simp only at same
  split at same
  · rename_i high
    simp [readUnits, longer, high, read_low_append same rest]
  · rename_i high
    split at same
    · cases same
    · rename_i low
      cases same
      simp [readUnits, longer, high, low]

theorem read_char_append {cs left : List Char} {c : Char} (found : readChar cs = some (c, left))
    (rest : List Char) : readChar (cs ++ rest) = some (c, left ++ rest) := by
  unfold readChar at found
  split at found
  · cases found
  · cases found
  · rename_i d tail
    split at found
    · rename_i unicode
      subst unicode
      simp [readChar, read_units_append found rest]
    · rename_i short
      obtain ⟨e, meaning, same⟩ := Option.map_eq_some_iff.mp found
      cases same
      simp [readChar, short, meaning]
  · rename_i _ tail noSlash noEscape
    split at found
    · cases found
    · rename_i plain
      cases found
      have first : c ≠ '\\' := by
        rintro rfl
        cases left with
        | nil => exact noSlash rfl rfl
        | cons e tail => exact noEscape e tail rfl rfl
      exact read_plain_char c _ (fun quote => plain (Or.inl quote)) first (by omega)

theorem table_faithful (t : EscapeTable) (sound : t.Sound) : Faithful t.escape := by
  intro c rest
  unfold EscapeTable.escape
  cases entry : t.get? c with
  | some replacement =>
    have found := read_char_append (sound c replacement entry) rest
    simpa using found
  | none =>
    cases mandatory : mandatoryEscape? c with
    | some text => exact read_mandatory_escape c text rest mandatory
    | none =>
      obtain ⟨noQuote, noSlash, printable⟩ := not_mandatory c mandatory
      simp only
      split
      · exact read_plain_char c rest noQuote noSlash printable
      · exact read_unicode_escape c rest

theorem escape_nonempty (escape : Char → List Char) (faithful : Faithful escape) (c : Char) :
    escape c ≠ [] := by
  intro empty
  have found := faithful c []
  simp [empty, readChar] at found

theorem read_string_of_escapes (escape : Char → List Char) (faithful : Faithful escape)
    (cs rest : List Char) (fuel : Nat) (enough : cs.length < fuel) :
    readString fuel (cs.flatMap escape ++ '"' :: rest) = some (cs, rest) := by
  induction cs generalizing fuel with
  | nil =>
    obtain ⟨fuel, rfl⟩ := Nat.exists_eq_succ_of_ne_zero (Nat.ne_of_gt enough)
    rfl
  | cons c cs ih =>
    obtain ⟨fuel, rfl⟩ := Nat.exists_eq_succ_of_ne_zero (Nat.ne_of_gt (Nat.zero_lt_of_lt enough))
    have first := faithful c (cs.flatMap escape ++ '"' :: rest)
    have behind := ih fuel (by simpa using enough)
    rw [List.flatMap_cons, List.append_assoc]
    generalize escape c ++ (cs.flatMap escape ++ '"' :: rest) = text at *
    unfold readString
    split
    · simp [readChar] at first
    · simp [first, behind]

theorem flat_map_length (escape : Char → List Char) (faithful : Faithful escape)
    (cs : List Char) : cs.length ≤ (cs.flatMap escape).length := by
  induction cs with
  | nil => simp
  | cons c cs ih =>
    have one := List.length_pos_iff.mpr (escape_nonempty escape faithful c)
    rw [List.flatMap_cons, List.length_append, List.length_cons]
    omega

theorem empty_table_sound : EscapeTable.empty.Sound := by
  intro c replacement found
  cases found

theorem get_unset_all (t : EscapeTable) (cs : List Char) (c : Char) :
    (t.unsetAll cs).get? c = if c ∈ cs then none else t.get? c := by
  induction cs generalizing t with
  | nil => simp [EscapeTable.unsetAll]
  | cons d cs ih =>
    have rest := ih (t.unset d)
    have one : (t.unset d).get? c = if d = c then none else t.get? c := lookup_filter d c t.entries
    rw [one] at rest
    by_cases same : d = c
    · simpa [EscapeTable.unsetAll, same] using rest
    · simpa [EscapeTable.unsetAll, same, Ne.symm same] using rest

theorem unset_all_sound (t : EscapeTable) (sound : t.Sound) (cs : List Char) :
    (t.unsetAll cs).Sound := by
  intro c replacement found
  rw [get_unset_all] at found
  split at found
  · cases found
  · exact sound c replacement found

theorem lookup_mem {c : Char} {replacement : String} {entries : List (Char × String)}
    (found : lookupEntry c entries = some replacement) : (c, replacement) ∈ entries := by
  induction entries with
  | nil => cases found
  | cons entry entries ih =>
    obtain ⟨held, text⟩ := entry
    unfold lookupEntry at found
    split at found
    · rename_i same
      cases found
      simp [same]
    · exact List.mem_cons_of_mem _ (ih found)

theorem standard_table_sound : EscapeTable.standard.Sound := by
  have checked : ∀ entry ∈ EscapeTable.standard.entries,
      readChar entry.2.toList = some (entry.1, []) := by decide +kernel
  intro c replacement found
  exact checked (c, replacement) (lookup_mem found)

end LogLayout.Json
