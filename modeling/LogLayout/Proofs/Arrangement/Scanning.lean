import Mathlib
import LogLayout.Arrangement.Grammar

/- Splitting, searching and unescaping each skip escapes on their own. They agree on escaped text:
   none of them stops inside it, and unescaping gives back what was escaped. -/
namespace LogLayout.Spec

theorem escape_cons (c : Char) (cs : List Char) :
    c ∈ escapable ∧ escape (c :: cs) = '\\' :: c :: escape cs ∨
      c ∉ escapable ∧ escape (c :: cs) = c :: escape cs := by
  by_cases special : c ∈ escapable
  · exact Or.inl ⟨special, by simp [escape, escapeChar, special]⟩
  · exact Or.inr ⟨special, by simp [escape, escapeChar, special]⟩

theorem not_backslash {c : Char} (free : c ∉ escapable) : c ≠ '\\' := by
  rintro rfl
  exact free (by decide)

theorem blank_not_special {c : Char} (blank : Text.isBlank c = true) : c ∉ escapable := by
  have solid : escapable.all (fun c => !Text.isBlank c) = true := by decide
  intro special
  have other := List.all_eq_true.mp solid c special
  rw [blank] at other
  cases other

theorem unescape_plain (bare : Char → Char) (offset : Nat) (c : Char) (rest : List Char)
    (plain : c ≠ '\\') :
    unescapeFrom bare offset (c :: rest) =
      (unescapeFrom bare (offset + c.utf8Size) rest).map (bare c :: ·) := by
  rw [unescapeFrom]
  all_goals (intros; exact plain ‹_›)

theorem pieces_plain (c : Char) (rest : List Char) (plain : c ≠ '\\') :
    pieces (c :: rest) = if c = ';' then [] :: pieces rest else extendFirst [c] (pieces rest) := by
  rw [pieces]
  all_goals (intros; exact plain ‹_›)

theorem find_plain (kind : Char → Bool) (c : Char) (rest : List Char) (plain : c ≠ '\\') :
    findBare kind (c :: rest) =
      if kind c then some ⟨[], c, rest⟩
      else (findBare kind rest).map fun f => { f with head := c :: f.head } := by
  rw [findBare]
  all_goals (intros; exact plain ‹_›)

theorem inner_plain (c : Char) (rest : List Char) (plain : c ≠ '\\') :
    innerText (c :: rest) = c :: innerText rest := by
  rw [innerText]
  all_goals (intros; exact plain ‹_›)

/-- The scanners go through a text by complete escapes and plain characters; a backslash can be
    left over at the end. -/
@[elab_as_elim]
theorem scan_induction {motive : List Char → Prop} (nil : motive []) (lone : motive ['\\'])
    (pair : ∀ c rest, motive rest → motive ('\\' :: c :: rest))
    (plain : ∀ c rest, c ≠ '\\' → motive rest → motive (c :: rest)) (cs : List Char) :
    motive cs := by
  have both : motive cs ∧ ∀ c, motive (c :: cs) := by
    induction cs with
    | nil =>
      refine ⟨nil, ?_⟩
      intro c
      by_cases backslash : c = '\\'
      · rw [backslash]
        exact lone
      · exact plain c [] backslash nil
    | cons d rest ih =>
      obtain ⟨here, behind⟩ := ih
      refine ⟨behind d, ?_⟩
      intro c
      by_cases backslash : c = '\\'
      · rw [backslash]
        exact pair d rest here
      · exact plain c (d :: rest) backslash (behind d)
  exact both.1

/-- Unescaping undoes escaping as long as no character that may stand bare is exchanged. -/
theorem unescape_escape (bare : Char → Char) (kept : ∀ c, c ∉ escapable → bare c = c)
    (cs : List Char) (offset : Nat) : unescapeFrom bare offset (escape cs) = .ok cs := by
  induction cs generalizing offset with
  | nil => rfl
  | cons c cs ih =>
    rcases escape_cons c cs with ⟨special, text⟩ | ⟨free, text⟩
    · rw [text, unescapeFrom, if_pos (List.contains_iff_mem.mpr special), ih]
      rfl
    · rw [text, unescape_plain bare offset c _ (not_backslash free), ih, kept c free]
      rfl

theorem braced_keeps (c : Char) (free : c ∉ escapable) : braced c = c := by
  have opening : c ≠ '(' := by rintro rfl; exact free (by decide)
  have closing : c ≠ ')' := by rintro rfl; exact free (by decide)
  simp [braced, opening, closing]

def escaped (s : String) : List Char := escape s.toList

theorem unescape_escaped (s : String) : unescape (escaped s) = .ok s.toList := by
  rw [unescape, escaped, unescape_escape id (fun _ _ => rfl)]
  rfl

theorem unescape_template_escaped (s : String) : unescapeTemplate (escaped s) = .ok s.toList := by
  rw [unescapeTemplate, escaped, unescape_escape braced braced_keeps]
  rfl

theorem escaped_is_empty (s : String) : (escaped s).isEmpty = true ↔ s = "" := by
  rw [List.isEmpty_iff]
  constructor
  · intro empty
    have back := unescape_escaped s
    rw [empty] at back
    have same : [] = s.toList := Except.ok.inj back
    exact String.toList_eq_nil_iff.mp same.symm
  · rintro rfl
    rfl

theorem escaped_head (s : String) (solid : ∀ c ∈ s.toList.head?, Text.isBlank c = false) :
    ∀ c ∈ (escaped s).head?, Text.isBlank c = false := by
  unfold escaped
  cases shown : s.toList with
  | nil => simp [escape]
  | cons d rest =>
    rw [shown] at solid
    intro c first
    rcases escape_cons d rest with ⟨_, text⟩ | ⟨_, text⟩
    · obtain rfl : '\\' = c := by simpa [text] using first
      decide
    · exact solid c (by simpa [text] using first)

theorem escaped_last (s : String) (solid : ∀ c ∈ s.toList.getLast?, Text.isBlank c = false) :
    ∀ c ∈ (escaped s).getLast?, Text.isBlank c = false := by
  unfold escaped
  rcases List.eq_nil_or_concat s.toList with shown | ⟨front, d, shown⟩
  · simp [shown, escape]
  · rw [List.concat_eq_append] at shown
    rw [shown] at solid ⊢
    intro c last
    apply solid c
    have tail : escape (front ++ [d]) = escape front ++ escapeChar d := by
      simp [escape]
    rw [tail] at last
    unfold escapeChar at last
    split at last
    · simpa using last
    · simpa using last

theorem find_behind_escape (kind : Char → Bool) (special : ∀ c, kind c = true → c ∈ escapable)
    (cs rest : List Char) :
    findBare kind (escape cs ++ rest) =
      (findBare kind rest).map fun f => { f with head := escape cs ++ f.head } := by
  induction cs with
  | nil => simp [escape]
  | cons c cs ih =>
    rcases escape_cons c cs with ⟨_, text⟩ | ⟨free, text⟩
    · rw [text, List.cons_append, List.cons_append, findBare, ih, Option.map_map]
      rfl
    · have other : ¬kind c = true := fun found => free (special c found)
      rw [text, List.cons_append, find_plain kind c _ (not_backslash free), if_neg other, ih,
        Option.map_map]
      rfl

theorem find_at (kind : Char → Bool) (special : ∀ c, kind c = true → c ∈ escapable)
    (cs : List Char) (c : Char) (rest : List Char) (plain : c ≠ '\\') (found : kind c = true) :
    findBare kind (escape cs ++ c :: rest) = some ⟨escape cs, c, rest⟩ := by
  rw [find_behind_escape kind special, find_plain kind c rest plain, if_pos found]
  simp

theorem find_none (kind : Char → Bool) (special : ∀ c, kind c = true → c ∈ escapable)
    (cs : List Char) : findBare kind (escape cs) = none := by
  have found := find_behind_escape kind special cs []
  rw [List.append_nil] at found
  rw [found]
  rfl

theorem operator_special (c : Char) (operator : isOperator c = true) : c ∈ escapable := by
  have all : operators.all (fun c => escapable.contains c) = true := by decide
  have member := List.all_eq_true.mp all c (List.contains_iff_mem.mp operator)
  exact List.contains_iff_mem.mp member

theorem mark_special (mark : Char) (special : mark ∈ escapable) (c : Char)
    (same : (c == mark) = true) : c ∈ escapable := by
  rw [eq_of_beq same]
  exact special

def Unsplit (text : List Char) : Prop :=
  ∀ rest, pieces (text ++ rest) = extendFirst text (pieces rest)

theorem extend_first_append (as bs : List Char) (texts : List (List Char)) :
    extendFirst as (extendFirst bs texts) = extendFirst (as ++ bs) texts := by
  cases texts <;> simp [extendFirst]

theorem unsplit_append {as bs : List Char} (left : Unsplit as) (right : Unsplit bs) :
    Unsplit (as ++ bs) := by
  intro rest
  rw [List.append_assoc, left, right, extend_first_append]

theorem unsplit_char (c : Char) (plain : c ≠ '\\') (inside : c ≠ ';') : Unsplit [c] := by
  intro rest
  rw [List.singleton_append, pieces_plain c rest plain, if_neg inside]

theorem pieces_nonempty (cs : List Char) : pieces cs ≠ [] := by
  fun_cases pieces cs with
  | case1 => simp
  | case2 => simp
  | case3 c rest => cases pieces rest <;> simp [extendFirst]
  | case4 rest => simp
  | case5 c rest => cases pieces rest <;> simp [extendFirst]

theorem unsplit_nothing : Unsplit [] := by
  intro rest
  have present := pieces_nonempty rest
  cases shown : pieces rest with
  | nil => exact absurd shown present
  | cons piece others => simp [extendFirst, shown]

theorem unsplit_cons {c : Char} {cs : List Char} (plain : c ≠ '\\') (inside : c ≠ ';')
    (rest : Unsplit cs) : Unsplit (c :: cs) :=
  unsplit_append (unsplit_char c plain inside) rest

theorem unsplit_escape (cs : List Char) : Unsplit (escape cs) := by
  induction cs with
  | nil => exact unsplit_nothing
  | cons c cs ih =>
    rcases escape_cons c cs with ⟨_, text⟩ | ⟨free, text⟩
    · intro rest
      rw [text, List.cons_append, List.cons_append, pieces, ih rest, extend_first_append]
      rfl
    · have inside : c ≠ ';' := by
        rintro rfl
        exact free (by decide)
      rw [text]
      exact unsplit_cons (not_backslash free) inside ih

def joined : List (List Char) → List Char
  | [] => []
  | [text] => text
  | text :: next :: rest => text ++ ';' :: joined (next :: rest)

theorem pieces_of_joined (text : List Char) (rest : List (List Char))
    (unsplit : ∀ t ∈ text :: rest, Unsplit t) : pieces (joined (text :: rest)) = text :: rest := by
  induction rest generalizing text with
  | nil =>
    have whole := unsplit text (by simp) []
    simpa [joined, pieces, extendFirst] using whole
  | cons next rest ih =>
    have behind := ih next fun t member => unsplit t (List.mem_cons_of_mem _ member)
    rw [joined, unsplit text (by simp), pieces_plain ';' _ (by decide), if_pos rfl, behind]
    simp [extendFirst]

theorem segments_of_joined (texts : List (List Char)) (unsplit : ∀ t ∈ texts, Unsplit t)
    (solid : ∀ t ∈ texts, Text.Solid t) (present : ∀ t ∈ texts, t ≠ []) :
    segments (joined texts) = texts := by
  cases texts with
  | nil => rfl
  | cons text rest =>
    have trimmed : (text :: rest).map Text.trim = text :: rest := by
      rw [List.map_congr_left fun t member => Text.trim_of_solid t (solid t member), List.map_id']
    rw [segments, pieces_of_joined text rest unsplit, trimmed, List.filter_eq_self]
    intro t member
    simpa using present t member

theorem shorthand_of_operator (segment : List Char) (c : Char) (operator : isOperator c = true)
    (member : c ∈ segment) : shorthand segment = segment := by
  have none (word : String) (free : word.toList.all (fun c => !isOperator c) = true)
      (same : String.ofList segment = word) : False := by
    have inWord : c ∈ word.toList := by
      rw [← same, String.toList_ofList]
      exact member
    have other := List.all_eq_true.mp free c inWord
    simp [operator] at other
  unfold shorthand
  split
  · rename_i same
    exact (none _ (by decide) same).elim
  · rename_i same
    exact (none _ (by decide) same).elim
  · rename_i same
    exact (none _ (by decide) same).elim
  · rename_i same
    exact (none _ (by decide) same).elim
  · rfl

theorem parse_joined (factories : Factories) (texts : List (List Char))
    (unsplit : ∀ t ∈ texts, Unsplit t) (solid : ∀ t ∈ texts, Text.Solid t)
    (present : ∀ t ∈ texts, t ≠ []) :
    parse factories (String.ofList (joined texts)) =
      (texts.mapM fun t => parseSegment factories (parseInner factories (joined texts).length)
        (shorthand t)).map .ofList := by
  rw [parse, String.toList_ofList, segments_of_joined texts unsplit solid present]

theorem no_operator (s : String) : findBare isOperator (escaped s) = none :=
  find_none isOperator operator_special s.toList

theorem no_mark (mark : Char) (special : mark ∈ escapable) (s : String) :
    findBare (· == mark) (escaped s) = none :=
  find_none _ (mark_special mark special) s.toList

theorem find_operator (name : String) (operator : Char) (tail : List Char)
    (held : operator ∈ [':', '=', '|', '%']) (quiet : findBare (· == '!') tail = none) :
    leadingWord? (escaped name ++ operator :: tail) = none ∧
      findBare isOperator (escaped name ++ operator :: tail) =
        some ⟨escaped name, operator, tail⟩ := by
  have kinds : [':', '=', '|', '%'].all (fun c => c ≠ '\\' ∧ c ≠ '!' ∧ isOperator c) = true := by
    decide
  obtain ⟨plain, other, kind⟩ := of_decide_eq_true (List.all_eq_true.mp kinds operator held)
  constructor
  · have unmarked : findBare (· == '!') (escaped name ++ operator :: tail) = none := by
      rw [escaped, find_behind_escape _ (mark_special '!' (by decide)), find_plain _ _ _ plain]
      simp [other, quiet]
    rw [leadingWord?, unmarked]
    rfl
  · exact find_at isOperator operator_special name.toList operator tail plain kind

theorem word_char_plain (c : Char) (wordChar : isWordChar c = true) :
    c ≠ '\\' ∧ c ≠ '!' ∧ c ≠ ';' := by
  refine ⟨?_, ?_, ?_⟩ <;> rintro rfl <;> revert wordChar <;> decide

theorem find_word (name tail : List Char) (wordChars : ∀ c ∈ name, isWordChar c = true) :
    findBare (· == '!') (name ++ '!' :: tail) = some ⟨name, '!', tail⟩ := by
  induction name with
  | nil => rw [List.nil_append, find_plain _ _ _ (by decide)]; rfl
  | cons c name ih =>
    obtain ⟨plain, other, _⟩ := word_char_plain c (wordChars c (by simp))
    have behind := ih fun d member => wordChars d (by simp [member])
    rw [List.cons_append, find_plain _ _ _ plain, behind]
    simp [other]

theorem leading_word (name tail : List Char) (word : isWord name = true) :
    leadingWord? (name ++ '!' :: tail) = some ⟨name, '!', tail⟩ := by
  have wordChars : ∀ c ∈ name, isWordChar c = true := by
    simpa using (Bool.and_eq_true_iff.mp word).2
  rw [leadingWord?, find_word name tail wordChars]
  simp [word]

end LogLayout.Spec
