import LogLayout.Proofs.Arrangement.Joining
import LogLayout.Proofs.Arrangement.Segments

/- Texts inside of a segment. Behind a name and an equals sign stand other texts with escaped
   semicolons between them. On the way inside these become separators and nothing else changes, so
   each of the texts is read as it is alone, with whatever is nested in it. -/
namespace LogLayout.Spec

theorem pair_whole {c : Char} {rest : List Char} (whole : ';' ∉ '\\' :: c :: rest) :
    c ≠ ';' ∧ ';' ∉ rest := by
  simp only [List.mem_cons, not_or] at whole
  exact ⟨fun same => whole.2.1 same.symm, whole.2.2⟩

theorem char_whole {c : Char} {rest : List Char} (whole : ';' ∉ c :: rest) :
    c ≠ ';' ∧ ';' ∉ rest := by
  simp only [List.mem_cons, not_or] at whole
  exact ⟨fun same => whole.1 same.symm, whole.2⟩

theorem inner_whole {cs : List Char} (whole : ';' ∉ cs) : innerText cs = cs := by
  induction cs using scan_induction with
  | nil => rfl
  | lone => rfl
  | pair c rest ih =>
    obtain ⟨other, behind⟩ := pair_whole whole
    rw [innerText, if_neg other, ih behind]
  | plain c rest plain ih =>
    rw [inner_plain c rest plain, ih (char_whole whole).2]

theorem pieces_whole {cs : List Char} (whole : ';' ∉ cs) : pieces cs = [cs] := by
  induction cs using scan_induction with
  | nil => rfl
  | lone => rfl
  | pair c rest ih =>
    rw [pieces, ih (pair_whole whole).2]
    rfl
  | plain c rest plain ih =>
    obtain ⟨other, behind⟩ := char_whole whole
    rw [pieces_plain c rest plain, if_neg other, ih behind]
    rfl

section

variable {front : List Char} (closed : backslashesAtEnd front % 2 = 0)
include closed

theorem unsplit_closed (whole : ';' ∉ front) : Unsplit front := by
  induction front using scan_induction with
  | nil => exact unsplit_nothing
  | lone => exact absurd closed (by decide)
  | pair c rest ih =>
    rw [backslashes_behind_pair] at closed
    obtain ⟨_, behind⟩ := pair_whole whole
    intro other
    rw [List.cons_append, List.cons_append, pieces, ih closed behind other, extend_first_append]
    rfl
  | plain c rest plain ih =>
    rw [backslashes_behind_plain c rest plain] at closed
    obtain ⟨inside, behind⟩ := char_whole whole
    exact unsplit_cons plain inside (ih closed behind)

theorem find_behind_closed (kind : Char → Bool) (rest : List Char) :
    (findBare kind (front ++ rest)).isSome =
      ((findBare kind front).isSome || (findBare kind rest).isSome) := by
  induction front using scan_induction with
  | nil => rfl
  | lone => exact absurd closed (by decide)
  | pair c cs ih =>
    rw [backslashes_behind_pair] at closed
    rw [List.cons_append, List.cons_append, findBare, findBare, Option.isSome_map,
      Option.isSome_map, ih closed]
  | plain c cs plain ih =>
    rw [backslashes_behind_plain c cs plain] at closed
    rw [List.cons_append, find_plain kind c _ plain, find_plain kind c _ plain]
    split
    · rfl
    · rw [Option.isSome_map, Option.isSome_map, ih closed]

theorem inner_behind_closed (rest : List Char) :
    innerText (front ++ rest) = innerText front ++ innerText rest := by
  induction front using scan_induction with
  | nil => rfl
  | lone => exact absurd closed (by decide)
  | pair c cs ih =>
    rw [backslashes_behind_pair] at closed
    rw [List.cons_append, List.cons_append, innerText, innerText, ih closed]
    split
    · rfl
    · rfl
  | plain c cs plain ih =>
    rw [backslashes_behind_plain c cs plain] at closed
    rw [List.cons_append, inner_plain c _ plain, inner_plain c _ plain, ih closed]
    rfl

end

/- A blank at the end is trimmed away, sooner or later: as the end of the segment or, one level in,
   as that of the last text. -/

theorem find_before_blank (kind : Char → Bool) (cs : List Char) (c : Char)
    (other : kind c = false) : (findBare kind (cs ++ [c])).isSome = (findBare kind cs).isSome := by
  induction cs using scan_induction with
  | nil =>
    by_cases backslash : c = '\\'
    · rw [backslash]
      rfl
    · rw [List.nil_append, find_plain kind c [] backslash, if_neg (by simp [other])]
      rfl
  | lone => rfl
  | pair d rest ih =>
    rw [List.cons_append, List.cons_append, findBare, findBare, Option.isSome_map,
      Option.isSome_map, ih]
  | plain d rest plain ih =>
    rw [List.cons_append, find_plain kind d _ plain, find_plain kind d _ plain]
    split
    · rfl
    · rw [Option.isSome_map, Option.isSome_map, ih]

theorem inner_before_blank (cs : List Char) (c : Char) (other : c ≠ ';') :
    innerText (cs ++ [c]) = innerText cs ++ [c] := by
  induction cs using scan_induction with
  | nil =>
    by_cases backslash : c = '\\'
    · rw [backslash]
      rfl
    · rw [List.nil_append, inner_plain c [] backslash]
      rfl
  | lone =>
    simp [innerText, other]
  | pair d rest ih =>
    rw [List.cons_append, List.cons_append, innerText, innerText, ih]
    split
    · rfl
    · rfl
  | plain d rest plain ih =>
    rw [List.cons_append, inner_plain d _ plain, inner_plain d _ plain, ih]
    rfl

theorem pieces_before_blank (cs : List Char) (c : Char) (plain : c ≠ '\\') (inside : c ≠ ';') :
    ∃ front last, pieces cs = front ++ [last] ∧ pieces (cs ++ [c]) = front ++ [last ++ [c]] := by
  have extended (text last : List Char) (front : List (List Char)) :
      ∃ before behind, extendFirst text (front ++ [last]) = before ++ [behind] ∧
        extendFirst text (front ++ [last ++ [c]]) = before ++ [behind ++ [c]] := by
    cases front with
    | nil => exact ⟨[], text ++ last, rfl, by simp [extendFirst]⟩
    | cons first others => exact ⟨(text ++ first) :: others, last, rfl, rfl⟩
  induction cs using scan_induction with
  | nil =>
    refine ⟨[], [], rfl, ?_⟩
    rw [List.nil_append, pieces_plain c [] plain, if_neg inside]
    rfl
  | lone => exact ⟨[], ['\\'], rfl, by simp [pieces, extendFirst]⟩
  | pair d rest ih =>
    obtain ⟨front, last, before, behind⟩ := ih
    rw [List.cons_append, List.cons_append, pieces, pieces, before, behind]
    exact extended _ last front
  | plain d rest other ih =>
    obtain ⟨front, last, before, behind⟩ := ih
    rw [List.cons_append, pieces_plain d _ other, pieces_plain d _ other, before, behind]
    split
    · exact ⟨[] :: front, last, rfl, rfl⟩
    · exact extended _ last front

theorem segments_before_blank (cs : List Char) (c : Char) (blank : Text.isBlank c = true) :
    segments (cs ++ [c]) = segments cs := by
  have free := blank_not_special blank
  have inside : c ≠ ';' := by
    intro same
    rw [same] at free
    exact free (by decide)
  obtain ⟨front, last, before, behind⟩ := pieces_before_blank cs c (not_backslash free) inside
  rw [segments, segments, before, behind]
  simp [Text.trim_of_blank c blank]

def insideText : List (List Char) → List Char
  | [] => []
  | [text] => text
  | text :: next :: rest => text ++ '\\' :: ';' :: insideText (next :: rest)

/-- What may stand among others inside of a segment: text that is not blank, has no semicolon of its
    own and does not end in the middle of an escape. -/
structure Part (text : List Char) : Prop where
  filled : ∃ c ∈ text, Text.isBlank c = false
  whole : ';' ∉ text
  closed : backslashesAtEnd text % 2 = 0

theorem Part.trim_present {text : List Char} (part : Part text) : Text.trim text ≠ [] := by
  intro empty
  obtain ⟨c, held, solid⟩ := part.filled
  rw [Text.blank_of_trim text empty c held] at solid
  cases solid

theorem Part.segments {text : List Char} (part : Part text) :
    segments text = [Text.trim text] :=
  segments_single (pieces_whole part.whole) part.trim_present

theorem inside_length (texts : List (List Char)) :
    ∀ text ∈ texts, text.length ≤ (insideText texts).length := by
  induction texts with
  | nil => simp
  | cons first rest ih =>
    cases rest with
    | nil => simp [insideText]
    | cons next rest =>
      intro text member
      rw [insideText, List.length_append, List.length_cons, List.length_cons]
      rcases List.mem_cons.mp member with same | later
      · rw [same]
        omega
      · have fits := ih text later
        omega

section

variable {texts : List (List Char)} (parts : ∀ text ∈ texts, Part text)
include parts

theorem inside_unsplit : Unsplit (insideText texts) := by
  induction texts with
  | nil => exact unsplit_nothing
  | cons first rest ih =>
    have here := parts first (List.mem_cons_self ..)
    have front := unsplit_closed here.closed here.whole
    cases rest with
    | nil => exact front
    | cons next rest =>
      have back := ih fun text member => parts text (List.mem_cons_of_mem _ member)
      exact unsplit_append front (unsplit_append (unsplit_escape [';']) back)

theorem inside_operator
    (operator : ∃ text ∈ texts, (findBare isOperator text).isSome = true) :
    (findBare isOperator (insideText texts)).isSome = true := by
  induction texts with
  | nil =>
    obtain ⟨text, member, _⟩ := operator
    cases member
  | cons first rest ih =>
    have here := parts first (List.mem_cons_self ..)
    obtain ⟨text, member, found⟩ := operator
    cases rest with
    | nil =>
      obtain rfl := List.mem_singleton.mp member
      exact found
    | cons next rest =>
      rw [insideText, find_behind_closed here.closed, findBare, Option.isSome_map,
        Bool.or_eq_true]
      rcases List.mem_cons.mp member with same | later
      · rw [← same]
        exact Or.inl found
      · exact Or.inr (ih (fun t inside => parts t (List.mem_cons_of_mem _ inside))
          ⟨text, later, found⟩)

theorem inner_of_inside : innerText (insideText texts) = joined texts := by
  induction texts with
  | nil => rfl
  | cons first rest ih =>
    have here := parts first (List.mem_cons_self ..)
    cases rest with
    | nil => exact inner_whole here.whole
    | cons next rest =>
      have behind := ih fun text member => parts text (List.mem_cons_of_mem _ member)
      rw [insideText, inner_behind_closed here.closed, inner_whole here.whole, innerText,
        if_pos rfl, behind]
      rfl

theorem segments_of_parts : segments (joined texts) = texts.map Text.trim := by
  induction texts with
  | nil => rfl
  | cons first rest ih =>
    have here := parts first (List.mem_cons_self ..)
    cases rest with
    | nil => exact here.segments
    | cons next rest =>
      have behind := ih fun text member => parts text (List.mem_cons_of_mem _ member)
      rw [joined, segments_at_seam first _ here.closed, here.segments, behind]
      rfl

end

def groupSpec (name : String) (xs : List String) : String :=
  String.ofList (escaped name ++ '=' :: insideText (xs.map String.toList))

section

variable (factories : Factories) {name : String} {xs : List String} {as : List Arrangement}

theorem part_alone {x : String} (part : Part x.toList) {levels : Nat}
    (enough : x.toList.length ≤ levels) :
    parseNested factories x =
      parseSegment factories (parseInner factories levels) (Text.trim x.toList) := by
  rw [parseNested, parseInner, part.segments, read_single]
  apply segment_congr
  intro inner shorter
  have short := Text.trim_not_longer x.toList
  exact levels_enough factories (by omega) (by omega)

theorem parts_read_inside (parts : ∀ x ∈ xs, Part x.toList)
    (read : xs.mapM (parseNested factories) = .ok as) {levels : Nat}
    (enough : (insideText (xs.map String.toList)).length < levels) :
    parseInner factories levels
        (innerText (Text.trimEnd (insideText (xs.map String.toList)))) =
      .ok (.ofList as) := by
  have texts := List.forall_mem_map.mpr parts
  have trimmed := Text.trim_end_ignored (fun cs => segments (innerText cs)) (by
    intro cs c blank
    have other : c ≠ ';' := by
      intro same
      rw [same] at blank
      cases blank
    rw [inner_before_blank cs c other, segments_before_blank _ c blank])
  cases levels with
  | zero => exact absurd enough (Nat.not_lt_zero _)
  | succ levels =>
    rw [parseInner, trimmed, inner_of_inside texts, segments_of_parts texts, List.mapM_map,
      List.mapM_map]
    have same : ∀ x ∈ xs, parseNested factories x =
        parseSegment factories (parseInner factories levels) (Text.trim x.toList) := by
      intro x member
      have short := inside_length _ x.toList (List.mem_map_of_mem member)
      exact part_alone factories (parts x member) (by omega)
    rw [map_m_congr same] at read
    exact congrArg (Except.map Arrangement.ofList) read

theorem parse_group_spec (unindented : ∀ c ∈ name.toList.head?, Text.isBlank c = false)
    (parts : ∀ x ∈ xs, Part x.toList) :
    ∃ levels, (insideText (xs.map String.toList)).length < levels ∧
      parse factories (groupSpec name xs) = parseSegment factories (parseInner factories levels)
        (escaped name ++ '=' :: Text.trimEnd (insideText (xs.map String.toList))) := by
  have texts := List.forall_mem_map.mpr parts
  generalize shown : insideText (xs.map String.toList) = inside
  have unsplit : Unsplit (escaped name ++ '=' :: inside) := by
    have back := inside_unsplit texts
    rw [shown] at back
    exact unsplit_append (unsplit_escape name.toList)
      (unsplit_cons (by decide) (by decide) back)
  have first : ∀ c ∈ (escaped name ++ '=' :: inside).head?, Text.isBlank c = false := by
    have head := escaped_head name unindented
    cases front : escaped name with
    | nil => simp; decide
    | cons c rest =>
      rw [front] at head
      simpa using head
  have trimmed : Text.trim (escaped name ++ '=' :: inside) =
      escaped name ++ '=' :: Text.trimEnd inside := by
    rw [Text.trim, Text.trim_start_of_solid _ first, Text.trim_end_behind _ _ (by decide)]
  refine ⟨(escaped name ++ '=' :: inside).length, ?_, ?_⟩
  · rw [List.length_append, List.length_cons]
    omega
  · have equals : isOperator '=' = true := by decide
    have held : '=' ∈ Text.trim (escaped name ++ '=' :: inside) := by
      rw [trimmed]
      exact List.mem_append_right _ (List.mem_cons_self ..)
    rw [groupSpec, shown, parse_single factories (pieces_unsplit unsplit) equals held, trimmed]

end

theorem of_list_several {as : List Arrangement} (several : 2 ≤ as.length) :
    Arrangement.ofList as = .composite none as := by
  match as with
  | [] => cases several
  | [a] => exact absurd several (by simp)
  | a :: b :: rest => rfl

/-- Texts with escaped semicolons between them, one of which has an operator, are read one by one
    behind a name: a single member is nested, any other single arrangement and all of several make
    up a group. At the top level the texts mean the same, unless they are shorthands. -/
theorem nested_texts_read_one_by_one (factories : Factories) (name : String) (xs : List String)
    (as : List Arrangement) (unindented : ∀ c ∈ name.toList.head?, Text.isBlank c = false)
    (parts : ∀ x ∈ xs, Part x.toList)
    (operator : ∃ x ∈ xs, (findBare isOperator x.toList).isSome = true)
    (read : xs.mapM (parseNested factories) = .ok as) :
    (∀ m, as = [.member m] →
      parse factories (groupSpec name xs) = .ok (.member (.mk name (.nested m)))) ∧
    (∀ a, as = [a] → a ≠ .identity → (∀ m, a ≠ .member m) →
      parse factories (groupSpec name xs) = .ok (.member (.mk name (.group a)))) ∧
    (2 ≤ as.length →
      parse factories (groupSpec name xs) =
        .ok (.member (.mk name (.group (.composite none as))))) ∧
    ∀ x ∈ xs, shorthand (Text.trim x.toList) = Text.trim x.toList →
      parse factories x = parseNested factories x := by
  obtain ⟨levels, enough, whole⟩ := parse_group_spec factories unindented parts
  have inner := parts_read_inside factories parts read enough
  have found : (findBare isOperator
      (Text.trimEnd (insideText (xs.map String.toList)))).isSome = true := by
    have texts := List.forall_mem_map.mpr parts
    obtain ⟨x, held, marked⟩ := operator
    have inside := inside_operator texts ⟨x.toList, List.mem_map_of_mem held, marked⟩
    rw [← inside]
    apply Text.trim_end_ignored fun cs => (findBare isOperator cs).isSome
    intro cs c blank
    refine find_before_blank isOperator cs c ?_
    cases other : isOperator c with
    | false => rfl
    | true => exact absurd (operator_special c other) (blank_not_special blank)
  rw [whole]
  refine ⟨?_, ?_, ?_, ?_⟩
  · intro m single
    rw [single] at inner
    exact parse_around_member factories name found inner
  · intro a single something other
    rw [single] at inner
    exact parse_around_group factories name found inner something other
  · intro several
    rw [of_list_several several] at inner
    exact parse_around_group factories name found inner (by simp) (by simp)
  · intro x member long
    have part := parts x member
    rw [part_alone factories part (Nat.le_refl _), parse, part.segments, read_single, long]

def nestedTexts : List String := ["a=x:y ", " b=\\\\", "c|\\(%p\\)"]

def nestedParts : List Arrangement :=
  [.member (.mk "a" (.nested (.mk "x" (.conversion "y" none)))), .member (.mk "b" (.literal "\\")),
    .member (.mk "c" (.template "(%p)"))]

/-- The second text ends in an escaped backslash, right before the escaped semicolon. -/
theorem escaped_texts_in_group :
    parse [] (groupSpec "g;" nestedTexts) =
      .ok (.member (.mk "g;" (.group (.composite none nestedParts)))) := by
  have parts : ∀ x ∈ nestedTexts, Part x.toList := by
    simp only [nestedTexts, List.forall_mem_cons]
    refine ⟨⟨⟨'a', by decide, by decide⟩, by decide, by decide⟩,
      ⟨⟨'b', by decide, by decide⟩, by decide, by decide⟩,
      ⟨⟨'c', by decide, by decide⟩, by decide, by decide⟩, by simp⟩
  have operator : ∃ x ∈ nestedTexts, (findBare isOperator x.toList).isSome = true :=
    ⟨"a=x:y ", by decide, by decide⟩
  have read : nestedTexts.mapM (parseNested []) = .ok nestedParts := by
    apply map_m_ok
    rfl
  have unindented : ∀ c ∈ "g;".toList.head?, Text.isBlank c = false :=
    Text.head_solid (c := 'g') rfl (by decide)
  obtain ⟨_, _, several, _⟩ :=
    nested_texts_read_one_by_one [] "g;" nestedTexts nestedParts unindented parts operator read
  exact several (by decide)

end LogLayout.Spec
