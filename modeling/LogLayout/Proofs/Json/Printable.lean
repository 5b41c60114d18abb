import Mathlib
import LogLayout.Proofs.Json.StringText

/- What can occur in a written value. Its punctuation, words and numbers are printable and never
   markup, so everything else comes out of the escapes of single characters; with the standard
   table these are printable whatever has been unset, and markup only where it has been unset. -/
namespace LogLayout.Json

open Number

def markup : List Char := ['<', '>', '&']

def isPlain (c : Char) : Bool := isPrintableAscii c && !markup.contains c

def Plain (cs : List Char) : Prop := ∀ c ∈ cs, isPlain c = true

theorem plain_append {as bs : List Char} (left : Plain as) (right : Plain bs) : Plain (as ++ bs) :=
  List.forall_mem_append.mpr ⟨left, right⟩

theorem plain_cons {c : Char} {cs : List Char} (first : isPlain c = true) (rest : Plain cs) :
    Plain (c :: cs) :=
  List.forall_mem_cons.mpr ⟨first, rest⟩

theorem plain_zeros (n : Nat) : Plain (zeros n) := by
  intro c member
  rw [List.eq_of_mem_replicate member]
  decide

theorem plain_digit (n : Nat) : isPlain (Nat.digitChar n) = true := by
  have small : ∀ n < 16, isPlain (Nat.digitChar n) = true := by decide
  rcases Nat.lt_or_ge n 16 with digit | beyond
  · exact small n digit
  · rw [Nat.digitChar_eq_star.mpr beyond]
    decide

theorem plain_digits (base n : Nat) (twoOrMore : 1 < base) : Plain (Nat.toDigits base n) := by
  induction n using Nat.strongRecOn with
  | ind n ih =>
    rcases Nat.lt_or_ge n base with one | more
    · rw [Nat.toDigits_of_lt_base one]
      exact plain_cons (plain_digit n) (by simp [Plain])
    · rw [Nat.toDigits_of_base_le twoOrMore more]
      have less : n / base < n := Nat.div_lt_self (by omega) twoOrMore
      exact plain_append (ih (n / base) less) (plain_cons (plain_digit _) (by simp [Plain]))

theorem plain_positional (suffix ds : List Char) (point : Int) (end_plain : Plain suffix)
    (digits : Plain ds) : Plain (positionalText suffix ds point) := by
  unfold positionalText
  split
  · exact plain_cons (by decide) (plain_cons (by decide) (plain_append (plain_zeros _) digits))
  · split
    · exact plain_append (plain_append digits (plain_zeros _)) end_plain
    · refine plain_append (fun c member => digits c (List.mem_of_mem_take member))
        (plain_cons (by decide) fun c member => digits c (List.mem_of_mem_drop member))

theorem plain_scientific (ds : List Char) (e : Int) (digits : Plain ds) :
    Plain (scientificText ds e) := by
  have power : Plain ('e' :: (if e < 0 then '-' else '+') :: Nat.toDigits 10 e.natAbs) := by
    apply plain_cons (by decide)
    apply plain_cons _ (plain_digits 10 _ (by decide))
    split <;> decide
  unfold scientificText
  apply plain_append _ power
  split
  · exact plain_cons (by decide) (by simp [Plain])
  · exact digits
  · rename_i d rest _
    have first : isPlain d = true := digits d (by simp)
    have others : Plain rest := fun c member => digits c (by simp [member])
    exact plain_cons first (plain_cons (by decide) others)

theorem plain_float (x : Binary64) : Plain (jsonNumber.render x).toList := by
  have sign : Plain (if x.isNegative then ['-'] else []) := by
    split
    · exact plain_cons (by decide) (by simp [Plain])
    · simp [Plain]
  unfold Style.render
  simp only
  split
  · simp [Plain]; decide
  · rw [String.toList_ofList]
    exact plain_append sign (by simp [Plain]; decide)
  · rw [String.toList_ofList]
    exact plain_append sign (by simp [Plain, jsonNumber]; decide)
  · rename_i d _
    rw [String.toList_ofList]
    apply plain_append sign
    have digits := plain_digits 10 (d.shortest .even).digits (by decide)
    unfold Style.layout
    simp only
    split
    · exact plain_positional _ _ _ (by simp [Plain, jsonNumber]; decide) digits
    · exact plain_scientific _ _ digits

theorem plain_int (n : Int) : Plain (intText n) := by
  have digits := plain_digits 10 n.natAbs (by decide)
  unfold intText
  split
  · exact plain_cons (by decide) digits
  · exact digits

def FromEscapes (escape : Char → List Char) (cs : List Char) : Prop :=
  ∀ d ∈ cs, isPlain d = true ∨ ∃ c, d ∈ escape c

theorem from_plain {escape : Char → List Char} {cs : List Char} (plain : Plain cs) :
    FromEscapes escape cs :=
  fun d member => Or.inl (plain d member)

theorem from_append {escape : Char → List Char} {as bs : List Char}
    (left : FromEscapes escape as) (right : FromEscapes escape bs) :
    FromEscapes escape (as ++ bs) :=
  List.forall_mem_append.mpr ⟨left, right⟩

theorem from_cons {escape : Char → List Char} {c : Char} {cs : List Char}
    (first : isPlain c = true) (rest : FromEscapes escape cs) : FromEscapes escape (c :: cs) :=
  List.forall_mem_cons.mpr ⟨Or.inl first, rest⟩

theorem quoted_from_escapes (escape : Char → List Char) (s : String) :
    FromEscapes escape (quoted escape s) := by
  have body : FromEscapes escape (s.toList.flatMap escape) := by
    intro d member
    obtain ⟨c, _, out⟩ := List.mem_flatMap.mp member
    exact Or.inr ⟨c, out⟩
  have closing : Plain ['"'] := plain_cons (by decide) (by simp [Plain])
  unfold quoted
  exact from_cons (by decide) (from_append body (from_plain closing))

theorem separator_plain (first : Bool) : Plain (if first then [] else [',']) := by
  cases first with
  | true => simp [Plain]
  | false => exact plain_cons (by decide) (by simp [Plain])

mutual
theorem written_from_escapes (escape : Char → List Char) (value : Json) :
    FromEscapes escape (write escape value) := by
  match value with
  | .null => exact from_plain (by simp [Plain, write]; decide)
  | .text s => exact quoted_from_escapes escape s
  | .int n => exact from_plain (plain_int n)
  | .float x => exact from_plain (plain_float x)
  | .bool true => exact from_plain (by simp [Plain, write]; decide)
  | .bool false => exact from_plain (by simp [Plain, write]; decide)
  | .object entries => exact from_cons (by decide) (entries_from_escapes escape true entries)
  | .array items => exact from_cons (by decide) (items_from_escapes escape true items)

theorem entries_from_escapes (escape : Char → List Char) (first : Bool)
    (entries : List (String × Json)) : FromEscapes escape (writeEntries escape first entries) := by
  match entries with
  | [] => exact from_plain (by simp [Plain, writeEntries]; decide)
  | (key, value) :: rest =>
    have named := from_append (from_plain (separator_plain first)) (quoted_from_escapes escape key)
    have valued := from_cons (c := ':') (by decide) (written_from_escapes escape value)
    exact from_append (from_append named valued) (entries_from_escapes escape false rest)

theorem items_from_escapes (escape : Char → List Char) (first : Bool) (items : List Json) :
    FromEscapes escape (writeItems escape first items) := by
  match items with
  | [] => exact from_plain (by simp [Plain, writeItems]; decide)
  | value :: rest =>
    have valued := from_append (from_plain (separator_plain first))
      (written_from_escapes escape value)
    exact from_append valued (items_from_escapes escape false rest)
end

theorem plain_unicode_escape (c : Char) : Plain (unicodeEscape c) := by
  have unit (n : Nat) : Plain (unitEscape n) := by
    apply plain_cons (by decide)
    apply plain_cons (by decide)
    exact plain_append (plain_zeros _) (plain_digits 16 n (by decide))
  intro d member
  obtain ⟨n, _, inUnit⟩ := List.mem_flatMap.mp member
  exact unit n d inUnit

theorem plain_mandatory (c : Char) (text : List Char) (found : mandatoryEscape? c = some text) :
    Plain text := by
  unfold mandatoryEscape? at found
  iterate 7
    split at found
    · cases found
      exact plain_cons (by decide) (plain_cons (by decide) (by simp [Plain]))
  split at found
  · cases found
    exact plain_unicode_escape c
  · cases found

theorem standard_replacements_plain :
    ∀ entry ∈ EscapeTable.standard.entries, ∀ d ∈ entry.2.toList, isPlain d = true := by
  have checked : EscapeTable.standard.entries.all (fun entry => entry.2.toList.all isPlain) =
      true := by decide +kernel
  intro entry member
  exact List.all_eq_true.mp (List.all_eq_true.mp checked entry member)

theorem standard_covers_markup :
    ∀ c ∈ markup, (EscapeTable.standard.get? c).isSome = true := by
  have checked : markup.all (fun c => (EscapeTable.standard.get? c).isSome) = true := by
    decide +kernel
  exact List.all_eq_true.mp checked

/-- Out of the standard table a mark of markup comes only where it has been unset. -/
theorem standard_escape_plain (dropped : List Char) (c d : Char)
    (out : d ∈ (EscapeTable.standard.unsetAll dropped).escape c) :
    isPlain d = true ∨ d ∈ markup ∧ d ∈ dropped := by
  have held := get_unset_all .standard dropped c
  unfold EscapeTable.escape at out
  cases entry : (EscapeTable.standard.unsetAll dropped).get? c with
  | some replacement =>
    rw [entry] at held out
    split at held
    · cases held
    · exact Or.inl (standard_replacements_plain _ (lookup_mem held.symm) d out)
  | none =>
    rw [entry] at held out
    cases mandatory : mandatoryEscape? c with
    | some text =>
      rw [mandatory] at out
      exact Or.inl (plain_mandatory c text mandatory d out)
    | none =>
      rw [mandatory] at out
      simp only at out
      split at out
      · rename_i printable
        obtain rfl : d = c := by simpa using out
        by_cases mark : d ∈ markup
        · right
          split at held
          · rename_i unset
            exact ⟨mark, unset⟩
          · have covered := standard_covers_markup d mark
            rw [← held] at covered
            cases covered
        · left
          simp [isPlain, printable, mark]
      · exact Or.inl (plain_unicode_escape c d out)

theorem printable_of_plain_or_markup (d : Char) (kind : isPlain d = true ∨ d ∈ markup) :
    32 ≤ d.toNat ∧ d.toNat ≤ 126 := by
  have marks : markup.all isPrintableAscii = true := by decide
  rcases kind with plain | mark
  · simpa [isPrintableAscii] using (Bool.and_eq_true_iff.mp plain).1
  · simpa [isPrintableAscii] using List.all_eq_true.mp marks d mark

/-- Printable text on one line, without the marks of markup that have not been given up. -/
def SafeLine (dropped : List Char) (line : String) : Prop :=
  ∀ d ∈ line.toList, (32 ≤ d.toNat ∧ d.toNat ≤ 126) ∧ (d ∈ markup → d ∈ dropped)

theorem encoded_safe (dropped : List Char) (value : Json) :
    SafeLine dropped (encode (EscapeTable.standard.unsetAll dropped) value) := by
  intro d member
  rw [encode, String.toList_ofList] at member
  have kind : isPlain d = true ∨ d ∈ markup ∧ d ∈ dropped := by
    rcases written_from_escapes _ value d member with plain | ⟨c, out⟩
    · exact Or.inl plain
    · exact standard_escape_plain dropped c d out
  rcases kind with plain | ⟨mark, unset⟩
  · have unmarked : d ∉ markup := by simpa [isPlain] using (Bool.and_eq_true_iff.mp plain).2
    exact ⟨printable_of_plain_or_markup d (Or.inl plain), fun mark => absurd mark unmarked⟩
  · exact ⟨printable_of_plain_or_markup d (Or.inr mark), fun _ => unset⟩

end LogLayout.Json
