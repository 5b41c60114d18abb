import LogLayout.Proofs.Json.NumberText
import LogLayout.Proofs.Json.StringText

/- A written value is read back as the same value, entry by entry in the same order. The induction
   is over the value; its number of steps is bounded by the length of what is left to read, and
   what is behind a value never continues its last number. -/
namespace LogLayout.Json

mutual
/-- Values hold finite numbers; JSON has no others. -/
def finite : Json → Bool
  | .float x => x.isFinite
  | .object entries => finiteEntries entries
  | .array items => finiteItems items
  | .null | .text _ | .int _ | .bool _ => true

def finiteEntries : List (String × Json) → Bool
  | [] => true
  | (_, value) :: rest => value.finite && finiteEntries rest

def finiteItems : List Json → Bool
  | [] => true
  | value :: rest => value.finite && finiteItems rest
end

def isBlankChar (c : Char) : Bool := c == ' ' || c == '\t' || c == '\n' || c == '\r'

theorem skip_blanks_of_head (c : Char) (cs : List Char) (solid : isBlankChar c = false) :
    skipBlanks (c :: cs) = c :: cs := by
  unfold isBlankChar at solid
  simp [skipBlanks, solid]

theorem number_head {cs rest : List Char} {number : Json}
    (found : readNumber cs = some (number, rest)) :
    ∃ c tail, cs = c :: tail ∧ (c = '-' ∨ c.isDigit = true) := by
  cases cs with
  | nil => simp [readNumber, readSize, readWhole, readDigits] at found
  | cons c tail =>
    refine ⟨c, tail, rfl, ?_⟩
    by_contra neither
    obtain ⟨noSign, noDigit⟩ := not_or.mp neither
    simp [readNumber, readSize, readWhole, readDigits, noSign, noDigit] at found

theorem solid_number_head (c : Char) (start : c = '-' ∨ c.isDigit = true) :
    isBlankChar c = false ∧ c ∉ ['"', '\x7b', '[', ']', 'n', 't', 'f'] := by
  rcases start with rfl | digit
  · decide
  · constructor
    · unfold isBlankChar
      simp only [Bool.or_eq_false_iff, beq_eq_false_iff_ne]
      refine ⟨⟨⟨?_, ?_⟩, ?_⟩, ?_⟩ <;> rintro rfl <;> revert digit <;> decide
    · intro member
      fin_cases member <;> revert digit <;> decide

theorem read_value_of_number {cs rest : List Char} {number : Json}
    (found : readNumber cs = some (number, rest)) (fuel : Nat) :
    readValue (fuel + 1) cs = some (number, rest) := by
  obtain ⟨c, tail, rfl, start⟩ := number_head found
  obtain ⟨solid, other⟩ := solid_number_head c start
  simp only [List.mem_cons, List.not_mem_nil, or_false, not_or] at other
  obtain ⟨h1, h2, h3, _, h4, h5, h6⟩ := other
  unfold readValue
  rw [skip_blanks_of_head c tail solid]
  simp only [h1, h2, h3, h4, h5, h6, if_false, found]

theorem closed_of_head (c : Char) (cs : List Char) (mark : c ∈ [',', ']', '\x7d']) :
    Closed (c :: cs) := by
  intro d first
  obtain rfl : c = d := by simpa using first
  fin_cases mark <;> decide

theorem written_items_closed (escape : Char → List Char) (items : List Json) (rest : List Char) :
    Closed (writeItems escape false items ++ rest) := by
  cases items with
  | nil => exact closed_of_head ']' rest (by simp)
  | cons value items => exact closed_of_head ',' _ (by simp)

theorem written_items_nonempty (escape : Char → List Char) (items : List Json) :
    0 < (writeItems escape false items).length := by
  cases items with
  | nil => simp [writeItems]
  | cons value items => simp [writeItems]

theorem written_entries_closed (escape : Char → List Char) (entries : List (String × Json))
    (rest : List Char) : Closed (writeEntries escape false entries ++ rest) := by
  cases entries with
  | nil => exact closed_of_head '\x7d' rest (by simp)
  | cons entry entries => exact closed_of_head ',' _ (by simp)

theorem written_head (escape : Char → List Char) (value : Json) (finite : value.finite = true) :
    ∃ c tail, write escape value = c :: tail ∧ isBlankChar c = false ∧ c ≠ ']' := by
  have number_case (text : List Char) (number : Json)
      (found : readNumber (text ++ []) = some (number, [])) :
      ∃ c tail, text = c :: tail ∧ isBlankChar c = false ∧ c ≠ ']' := by
    rw [List.append_nil] at found
    obtain ⟨c, tail, rfl, start⟩ := number_head found
    obtain ⟨solid, other⟩ := solid_number_head c start
    refine ⟨c, tail, rfl, solid, ?_⟩
    rintro rfl
    simp at other
  have closed : Closed [] := by simp [Closed]
  unfold write
  cases value with
  | null => exact ⟨_, _, rfl, by decide, by decide⟩
  | text s => exact ⟨_, _, rfl, by decide, by decide⟩
  | int n => exact number_case _ _ (read_int n [] closed)
  | float x => exact number_case _ _ (read_float x finite [] closed)
  | bool b => cases b <;> exact ⟨_, _, rfl, by decide, by decide⟩
  | object entries => exact ⟨_, _, rfl, by decide, by decide⟩
  | array items => exact ⟨_, _, rfl, by decide, by decide⟩

theorem read_quoted (escape : Char → List Char) (faithful : Faithful escape) (s : String)
    (rest : List Char) (fuel : Nat) (enough : (quoted escape s).length ≤ fuel + 1) :
    readString fuel (s.toList.flatMap escape ++ '"' :: rest) = some (s.toList, rest) := by
  have short := flat_map_length escape faithful s.toList
  apply read_string_of_escapes escape faithful
  simp only [quoted, List.length_cons, List.length_append, List.length_nil] at enough
  omega

theorem read_object {cs rest : List Char} {entries : List (String × Json)} {fuel : Nat}
    (found : readEntries fuel ('"' :: cs) = some (entries, rest)) :
    readValue (fuel + 1) ('\x7b' :: '"' :: cs) = some (.object entries, rest) := by
  unfold readValue
  rw [skip_blanks_of_head _ _ (by decide)]
  simp only
  rw [skip_blanks_of_head _ _ (by decide)]
  simp [found]

theorem read_array {c : Char} {cs rest : List Char} {items : List Json} {fuel : Nat}
    (solid : isBlankChar c = false) (opens : c ≠ ']')
    (found : readItems fuel (c :: cs) = some (items, rest)) :
    readValue (fuel + 1) ('[' :: c :: cs) = some (.array items, rest) := by
  unfold readValue
  rw [skip_blanks_of_head _ _ (by decide)]
  simp only
  rw [skip_blanks_of_head c cs solid]
  simp [opens, found]

theorem read_last_item {cs rest : List Char} {value : Json} {fuel : Nat}
    (found : readValue fuel cs = some (value, ']' :: rest)) :
    readItems (fuel + 1) cs = some ([value], rest) := by
  unfold readItems
  rw [found]
  simp [skip_blanks_of_head, isBlankChar]

theorem read_next_item {cs more rest : List Char} {value : Json} {items : List Json} {fuel : Nat}
    (found : readValue fuel cs = some (value, ',' :: more))
    (others : readItems fuel more = some (items, rest)) :
    readItems (fuel + 1) cs = some (value :: items, rest) := by
  unfold readItems
  rw [found]
  simp [skip_blanks_of_head, isBlankChar, others]

theorem read_last_entry {cs behind rest key : List Char} {value : Json} {fuel : Nat}
    (named : readString fuel cs = some (key, ':' :: behind))
    (found : readValue fuel behind = some (value, '\x7d' :: rest)) :
    readEntries (fuel + 1) ('"' :: cs) = some ([(String.ofList key, value)], rest) := by
  unfold readEntries
  rw [skip_blanks_of_head _ _ (by decide)]
  simp [named, found, skip_blanks_of_head, isBlankChar]

theorem read_next_entry {cs behind more rest key : List Char} {value : Json}
    {entries : List (String × Json)} {fuel : Nat}
    (named : readString fuel cs = some (key, ':' :: behind))
    (found : readValue fuel behind = some (value, ',' :: more))
    (others : readEntries fuel more = some (entries, rest)) :
    readEntries (fuel + 1) ('"' :: cs) = some ((String.ofList key, value) :: entries, rest) := by
  unfold readEntries
  rw [skip_blanks_of_head _ _ (by decide)]
  simp [named, found, others, skip_blanks_of_head, isBlankChar]

mutual
theorem read_written {escape : Char → List Char} (faithful : Faithful escape) (value : Json)
    (finite : value.finite = true) (fuel : Nat) (rest : List Char) (closed : Closed rest)
    (enough : (write escape value).length ≤ fuel) :
    readValue fuel (write escape value ++ rest) = some (value, rest) := by
  obtain ⟨c, tail, head, _⟩ := written_head escape value finite
  obtain ⟨fuel, rfl⟩ : ∃ more, fuel = more + 1 := by
    rw [head, List.length_cons] at enough
    exact ⟨fuel - 1, by omega⟩
  match value with
  | .null => simp [write, readValue, skip_blanks_of_head, isBlankChar, readWord]
  | .bool true => simp [write, readValue, skip_blanks_of_head, isBlankChar, readWord]
  | .bool false => simp [write, readValue, skip_blanks_of_head, isBlankChar, readWord]
  | .int n => exact read_value_of_number (read_int n rest closed) fuel
  | .float x => exact read_value_of_number (read_float x finite rest closed) fuel
  | .text s =>
    have found := read_quoted escape faithful s rest fuel (by simpa [write] using enough)
    simp [write, quoted, readValue, skip_blanks_of_head, isBlankChar, found]
  | .object entries =>
    simp only [write, List.length_cons, Nat.add_le_add_iff_right] at enough
    have found := read_written_entries faithful entries finite fuel rest enough
    cases entries with
    | nil => simp [write, writeEntries, readValue, skip_blanks_of_head, isBlankChar]
    | cons entry entries =>
      have opened := found (by simp)
      simp only [writeEntries, if_true, List.nil_append, quoted, List.cons_append] at opened
      simpa [write, writeEntries, quoted] using read_object opened
  | .array items =>
    simp only [write, List.length_cons, Nat.add_le_add_iff_right] at enough
    have found := read_written_items faithful items finite fuel rest enough
    cases items with
    | nil => simp [write, writeItems, readValue, skip_blanks_of_head, isBlankChar]
    | cons value items =>
      have opened := found (by simp)
      have first : value.finite = true ∧ finiteItems items = true := by
        simpa [Json.finite, finiteItems] using finite
      obtain ⟨c, tail, head, solid, opens⟩ := written_head escape value first.1
      simp only [writeItems, if_true, List.nil_append, head, List.cons_append] at opened
      simpa [write, writeItems, head] using read_array solid opens opened

theorem read_written_entries {escape : Char → List Char} (faithful : Faithful escape)
    (entries : List (String × Json)) (finite : finiteEntries entries = true)
    (fuel : Nat) (rest : List Char)
    (enough : (writeEntries escape true entries).length ≤ fuel) (present : entries ≠ []) :
    readEntries fuel (writeEntries escape true entries ++ rest) = some (entries, rest) := by
  match entries with
  | [] => exact absurd rfl present
  | (key, value) :: entries =>
    simp only [finiteEntries, Bool.and_eq_true] at finite
    simp only [writeEntries, if_true, List.nil_append, List.length_append, List.length_cons]
      at enough
    obtain ⟨fuel, rfl⟩ : ∃ more, fuel = more + 1 := ⟨fuel - 1, by omega⟩
    have named := read_quoted escape faithful key
      (':' :: (write escape value ++ (writeEntries escape false entries ++ rest))) fuel (by omega)
    have found := read_written faithful value finite.1 fuel (writeEntries escape false entries ++ rest)
      (written_entries_closed escape entries rest) (by omega)
    have others := read_written_entries faithful entries finite.2 fuel rest
    cases entries with
    | nil => simpa [writeEntries, quoted] using read_last_entry named found
    | cons next entries =>
      have shorter : (writeEntries escape true (next :: entries)).length ≤ fuel := by
        simp [writeEntries] at enough ⊢
        omega
      simpa [writeEntries, quoted] using read_next_entry named found (others shorter (by simp))

theorem read_written_items {escape : Char → List Char} (faithful : Faithful escape)
    (items : List Json) (finite : finiteItems items = true) (fuel : Nat) (rest : List Char)
    (enough : (writeItems escape true items).length ≤ fuel) (present : items ≠ []) :
    readItems fuel (writeItems escape true items ++ rest) = some (items, rest) := by
  match items with
  | [] => exact absurd rfl present
  | value :: items =>
    simp only [finiteItems, Bool.and_eq_true] at finite
    simp only [writeItems, if_true, List.nil_append, List.length_append] at enough
    have behind := written_items_nonempty escape items
    obtain ⟨fuel, rfl⟩ : ∃ more, fuel = more + 1 := ⟨fuel - 1, by omega⟩
    have found := read_written faithful value finite.1 fuel (writeItems escape false items ++ rest)
      (written_items_closed escape items rest) (by omega)
    have others := read_written_items faithful items finite.2 fuel rest
    cases items with
    | nil => simpa [writeItems] using read_last_item found
    | cons next items =>
      obtain ⟨c, tail, head, _⟩ := written_head escape value finite.1
      have shorter : (writeItems escape true (next :: items)).length ≤ fuel := by
        simp [writeItems, head] at enough ⊢
        omega
      simpa [writeItems] using read_next_item found (others shorter (by simp))
end

theorem decode_of_faithful {escape : Char → List Char} (faithful : Faithful escape) (value : Json)
    (finite : value.finite = true) :
    decode (String.ofList (write escape value)) = some value := by
  have found := read_written faithful value finite ((write escape value).length + 1) []
    (by simp [Closed]) (by omega)
  rw [List.append_nil] at found
  unfold decode
  rw [String.toList_ofList, found]
  rfl

/-- Reading undoes writing for every sound table, and so for what is left of the standard or of
    the empty table after any removals. -/
theorem decode_undoes_encode (value : Json) (finite : value.finite = true) :
    (∀ t : EscapeTable, t.Sound → decode (encode t value) = some value) ∧
      ∀ dropped : List Char,
        decode (encode (EscapeTable.standard.unsetAll dropped) value) = some value ∧
        decode (encode (EscapeTable.empty.unsetAll dropped) value) = some value := by
  have sound_case (t : EscapeTable) (sound : t.Sound) : decode (encode t value) = some value :=
    decode_of_faithful (table_faithful t sound) value finite
  refine ⟨sound_case, fun dropped => ⟨?_, ?_⟩⟩
  · exact sound_case _ (unset_all_sound _ standard_table_sound dropped)
  · exact sound_case _ (unset_all_sound _ empty_table_sound dropped)

theorem nested_value_undone :
    decode (encode (EscapeTable.standard.unsetAll ['<', '"'])
        (.object [("<\x7f😀", .array [.float ⟨0x3FB999999999999A⟩, .int (-7), .null]),
          ("", .text "\"\n")])) =
      some (.object [("<\x7f😀", .array [.float ⟨0x3FB999999999999A⟩, .int (-7), .null]),
        ("", .text "\"\n")]) :=
  ((decode_undoes_encode _ (by decide)).2 ['<', '"']).1

end LogLayout.Json
