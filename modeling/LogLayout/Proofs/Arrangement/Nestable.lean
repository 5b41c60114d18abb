import LogLayout.Proofs.Arrangement.FlatText
import LogLayout.Proofs.Arrangement.GroupText

/- What can stand inside of a segment. On the way inside an escaped semicolon becomes a separator,
   so no text one level in can hold a semicolon, however many backslashes are put before it. Nothing
   else is lost: a member without semicolons is written anew with its texts escaped, and what is
   written so can be nested as often as one likes. -/
namespace LogLayout

mutual
/-- No text of the member has a semicolon, and nothing in it is a sequence of arrangements. -/
def Member.Unseparated : Member → Prop
  | .mk name source => ';' ∉ name.toList ∧ source.Unseparated

def Source.Unseparated : Source → Prop
  | .bare => True
  | .literal value => ';' ∉ value.toList
  | .conversion name option => ';' ∉ name.toList ∧ ∀ given ∈ option, ';' ∉ given.toList
  | .template text => ';' ∉ text.toList
  | .group a => a.Unseparated
  | .nested inner => inner.Unseparated

def Arrangement.Unseparated : Arrangement → Prop
  | .identity => True
  | .deferred spec => ';' ∉ spec.toList
  | .preset key => ∀ chosen ∈ key, ';' ∉ chosen.toList
  | .removal pattern => ∀ p ∈ pattern, ';' ∉ p.text.toList
  | .composite _ _ => False
  | .member m => m.Unseparated
end

namespace Spec

theorem inner_pieces_whole (cs : List Char) : ∀ piece ∈ pieces (innerText cs), ';' ∉ piece := by
  have extended (text : List Char) (whole : ';' ∉ text) (texts : List (List Char))
      (each : ∀ piece ∈ texts, ';' ∉ piece) : ∀ piece ∈ extendFirst text texts, ';' ∉ piece := by
    cases texts with
    | nil => simpa [extendFirst] using whole
    | cons first rest =>
      obtain ⟨here, behind⟩ := List.forall_mem_cons.mp each
      simpa [extendFirst, whole, here] using behind
  induction cs using scan_induction with
  | nil => simp [innerText, pieces]
  | lone => simp [innerText, pieces]
  | pair c rest ih =>
    rw [innerText]
    split
    · rw [pieces_plain ';' _ (by decide), if_pos rfl]
      simpa using ih
    · rename_i other
      rw [pieces]
      exact extended _ (by simp [Ne.symm other]) _ ih
  | plain c rest plain ih =>
    rw [inner_plain c rest plain, pieces_plain c _ plain]
    split
    · simpa using ih
    · rename_i other
      exact extended _ (by simp [Ne.symm other]) _ ih

theorem inner_segments_whole (cs : List Char) :
    ∀ segment ∈ segments (innerText cs), ';' ∉ segment := by
  intro segment member
  obtain ⟨piece, inside, rfl⟩ := List.mem_map.mp (List.mem_filter.mp member).1
  intro held
  exact inner_pieces_whole cs piece inside (Text.trim_subset piece held)

theorem segment_solid {cs segment : List Char} (member : segment ∈ segments cs) :
    Text.Solid segment ∧ segment ≠ [] := by
  obtain ⟨trimmed, present⟩ := List.mem_filter.mp member
  obtain ⟨piece, _, rfl⟩ := List.mem_map.mp trimmed
  exact ⟨Text.trim_solid piece, by simpa using present⟩

theorem of_list_read {read : List Char → Except SpecError Arrangement} {texts : List (List Char)}
    {a : Arrangement} (done : (texts.mapM read).map Arrangement.ofList = .ok a) :
    texts = [] ∧ a = .identity ∨ (∃ text, texts = [text] ∧ read text = .ok a) ∨
      2 ≤ texts.length ∧ ∃ as, a = .composite none as := by
  obtain ⟨as, each, made⟩ := ok_of_map done
  have results := results_of_map_m each
  cases texts with
  | nil =>
    cases as with
    | nil => exact Or.inl ⟨rfl, made.symm⟩
    | cons b bs => cases results
  | cons text rest =>
    cases rest with
    | nil =>
      rw [read_single] at done
      exact Or.inr (Or.inl ⟨text, rfl, done⟩)
    | cons next rest =>
      have lengths := congrArg List.length results
      rcases as with _ | ⟨b, _ | ⟨c, others⟩⟩
      · simp at lengths
      · simp at lengths
      · exact Or.inr (Or.inr ⟨by simp, b :: c :: others, made.symm⟩)

theorem member_read {read : List Char → Except SpecError Arrangement} {texts : List (List Char)}
    {m : Member} (done : (texts.mapM read).map Arrangement.ofList = .ok (.member m)) :
    ∃ text, texts = [text] ∧ read text = .ok (.member m) := by
  rcases of_list_read done with ⟨_, other⟩ | single | ⟨_, as, other⟩
  · cases other
  · exact single
  · cases other

theorem escapable_solid {c : Char} (special : escapable.contains c = true) :
    Text.isBlank c = false := by
  cases blank : Text.isBlank c with
  | false => rfl
  | true => exact absurd (List.contains_iff_mem.mp special) (blank_not_special blank)

section

variable {bare : Char → Char} {offset : Nat} {slice text : List Char}
  (done : unescapeFrom bare offset slice = .ok text)
include done

theorem unescape_whole (kept : ∀ c, c ≠ ';' → bare c ≠ ';') (whole : ';' ∉ slice) :
    ';' ∉ text := by
  induction slice using scan_induction generalizing offset text with
  | nil =>
    cases done
    exact List.not_mem_nil
  | lone => cases done
  | pair c rest ih =>
    rw [unescapeFrom] at done
    split at done
    · obtain ⟨tail, read, rfl⟩ := ok_of_map done
      obtain ⟨other, later⟩ := pair_whole whole
      exact List.not_mem_cons_of_ne_of_not_mem (Ne.symm other) (ih read later)
    · cases done
  | plain c rest plain ih =>
    rw [unescape_plain bare offset c rest plain] at done
    obtain ⟨tail, read, rfl⟩ := ok_of_map done
    obtain ⟨other, later⟩ := char_whole whole
    exact List.not_mem_cons_of_ne_of_not_mem (Ne.symm (kept c other)) (ih read later)

variable (kept : ∀ c, Text.isBlank c = false → Text.isBlank (bare c) = false)
include kept

theorem unescape_head (solid : ∀ c ∈ slice.head?, Text.isBlank c = false) :
    ∀ c ∈ text.head?, Text.isBlank c = false := by
  induction slice using scan_induction with
  | nil =>
    cases done
    simp
  | lone => cases done
  | pair c rest =>
    rw [unescapeFrom] at done
    split at done
    · rename_i special
      obtain ⟨tail, _, rfl⟩ := ok_of_map done
      simpa using escapable_solid special
    · cases done
  | plain c rest plain =>
    rw [unescape_plain bare offset c rest plain] at done
    obtain ⟨tail, _, rfl⟩ := ok_of_map done
    simpa using kept c (solid c rfl)

theorem unescape_last (solid : ∀ c ∈ slice.getLast?, Text.isBlank c = false) :
    ∀ c ∈ text.getLast?, Text.isBlank c = false := by
  induction slice using scan_induction generalizing offset text with
  | nil =>
    cases done
    simp
  | lone => cases done
  | pair c rest ih =>
    rw [unescapeFrom] at done
    split at done
    · rename_i special
      obtain ⟨tail, read, rfl⟩ := ok_of_map done
      apply Text.last_around [] tail c (escapable_solid special)
      refine ih read ?_
      intro d last
      exact solid d (by simp [List.getLast?_cons, Option.mem_def.mp last])
    · cases done
  | plain c rest plain ih =>
    rw [unescape_plain bare offset c rest plain] at done
    obtain ⟨tail, read, rfl⟩ := ok_of_map done
    cases rest with
    | nil =>
      cases read
      simpa using kept c (solid c rfl)
    | cons d rest =>
      have present := unescape_nonempty read (List.cons_ne_nil d rest)
      obtain ⟨e, others, rfl⟩ := List.exists_cons_of_ne_nil present
      rw [List.getLast?_cons_cons] at solid ⊢
      exact ih read solid

end

theorem braced_whole (c : Char) (other : c ≠ ';') : braced c ≠ ';' := by
  unfold braced
  split
  · decide
  · split
    · decide
    · exact other

theorem id_solid (c : Char) (solid : Text.isBlank c = false) : Text.isBlank (id c) = false := solid

theorem braced_solid (c : Char) (solid : Text.isBlank c = false) :
    Text.isBlank (braced c) = false := by
  unfold braced
  split
  · decide
  · split
    · decide
    · exact solid

theorem resolved_head {slice name : List Char} (named : Resolves id slice name)
    (first : ∀ c ∈ slice.head?, Text.isBlank c = false) :
    ∀ c ∈ (String.ofList name).toList.head?, Text.isBlank c = false := by
  rw [String.toList_ofList]
  exact unescape_head named id_solid first

theorem resolved_last {bare : Char → Char}
    (kept : ∀ c, Text.isBlank c = false → Text.isBlank (bare c) = false) {slice text : List Char}
    (given : Resolves bare slice text) (last : ∀ c ∈ slice.getLast?, Text.isBlank c = false) :
    ∀ c ∈ (String.ofList text).toList.getLast?, Text.isBlank c = false := by
  rw [String.toList_ofList]
  exact unescape_last given kept last

theorem pattern_text {text : String} {p : NamePattern} (valid : NamePattern.ofText text = .ok p) :
    p.text = text := by
  unfold NamePattern.ofText at valid
  split at valid
  · cases valid
  · split at valid
    · cases valid
    · cases valid
      rfl

theorem removal_read {text : String} {a : Arrangement} (done : removal text = .ok a) :
    text = "" ∧ a = .removal none ∨ ∃ p : NamePattern, p.text = text ∧ a = .removal (some p) := by
  unfold removal at done
  split at done
  · rename_i empty
    cases done
    exact Or.inl ⟨empty, rfl⟩
  · split at done
    · rename_i p valid
      cases done
      exact Or.inr ⟨p, pattern_text valid, rfl⟩
    · cases done

theorem word_read {segment name option : List Char} {a : Arrangement}
    (done : word [] segment name option = .ok a) :
    removal (String.ofList option) = .ok a ∨
      a = .preset (if String.ofList option = "" then none else some (String.ofList option)) := by
  unfold word at done
  dsimp only at done
  split at done
  · cases done
  · exact Or.inl done
  · exact Or.inl done
  · exact Or.inr (Except.ok.inj done).symm
  · cases done

theorem word_unseparated {segment name option : List Char} {a : Arrangement}
    (done : word [] segment name option = .ok a) : a.Unseparated ↔ ';' ∉ option := by
  have nothing (empty : String.ofList option = "") : ';' ∉ option := by
    obtain rfl : option = [] := by simpa using empty
    exact List.not_mem_nil
  rcases word_read done with made | rfl
  · rcases removal_read made with ⟨empty, rfl⟩ | ⟨p, same, rfl⟩
    · simpa [Arrangement.Unseparated] using nothing empty
    · simp [Arrangement.Unseparated, same]
  · split
    · rename_i empty
      simpa [Arrangement.Unseparated] using nothing empty
    · simp [Arrangement.Unseparated]

section

variable {kind : Char → Bool} {cs : List Char} {found : Found}
  (cut : findBare kind cs = some found)
include cut

theorem cut_whole (whole : ';' ∉ cs) : ';' ∉ found.head ∧ ';' ∉ found.rest := by
  rw [(find_splits cut).1] at whole
  simp only [List.mem_append, List.mem_cons, not_or] at whole
  exact ⟨whole.1, whole.2.2⟩

theorem cut_head (solid : ∀ c ∈ cs.head?, Text.isBlank c = false) :
    ∀ c ∈ found.head.head?, Text.isBlank c = false := by
  intro c first
  apply solid c
  rw [(find_splits cut).1, List.head?_append, Option.mem_def.mp first]
  rfl

theorem cut_last (solid : ∀ c ∈ cs.getLast?, Text.isBlank c = false) :
    ∀ c ∈ found.rest.getLast?, Text.isBlank c = false := by
  intro c last
  apply solid c
  rw [(find_splits cut).1]
  simp [List.getLast?_append, List.getLast?_cons, Option.mem_def.mp last]

end

theorem read_unseparated {nested : List Char → Except SpecError Arrangement} {segment : List Char}
    {a : Arrangement}
    (inside : ∀ cs b, ';' ∉ cs → nested cs = .ok b → b.Unseparated) (whole : ';' ∉ segment)
    (shape : ReadAs [] nested segment a) : a.Unseparated := by
  have resolved {slice text : List Char} (done : Resolves id slice text) (whole : ';' ∉ slice) :
      ';' ∉ (String.ofList text).toList := by
    rw [String.toList_ofList]
    exact unescape_whole done (fun c other => other) whole
  cases shape with
  | word cut named given made =>
    have argument := unescape_whole given (fun c other => other) (cut_whole cut whole).2
    exact (word_unseparated made).mpr argument
  | bare named =>
    have name := resolved named whole
    exact ⟨name, name, by simp⟩
  | conversion cut named given present =>
    obtain ⟨front, back⟩ := cut_whole cut whole
    exact ⟨resolved named front, resolved given back, by simp⟩
  | withOption cut again named given argument present =>
    obtain ⟨front, back⟩ := cut_whole cut whole
    obtain ⟨conversion, option⟩ := cut_whole again back
    exact ⟨resolved named front, resolved given conversion, by simpa using resolved argument option⟩
  | template cut named given =>
    obtain ⟨front, back⟩ := cut_whole cut whole
    refine ⟨resolved named front, ?_⟩
    rw [Source.Unseparated, String.toList_ofList]
    exact unescape_whole given braced_whole back
  | literal cut named given =>
    obtain ⟨front, back⟩ := cut_whole cut whole
    exact ⟨resolved named front, resolved given back⟩
  | nested cut named read =>
    obtain ⟨front, back⟩ := cut_whole cut whole
    rw [inner_whole back] at read
    exact ⟨resolved named front, inside _ _ back read⟩
  | group cut named read something other =>
    obtain ⟨front, back⟩ := cut_whole cut whole
    rw [inner_whole back] at read
    exact ⟨resolved named front, inside _ _ back read⟩

theorem inside_unseparated (levels : Nat) (cs : List Char) (a : Arrangement) (whole : ';' ∉ cs)
    (done : parseInner [] levels cs = .ok a) : a.Unseparated := by
  induction levels generalizing cs a with
  | zero =>
    cases done
    trivial
  | succ levels ih =>
    rcases of_list_read done with ⟨_, rfl⟩ | ⟨segment, single, read⟩ | ⟨several, _⟩
    · trivial
    · have member : segment ∈ segments cs := by simp [single]
      rw [← inner_whole whole] at member
      exact read_unseparated ih (inner_segments_whole cs segment member) (segment_read read)
    · rw [segments, pieces_whole whole] at several
      have few := List.length_filter_le (fun t : List Char => !t.isEmpty) [Text.trim cs]
      simp at several few
      omega

/-- Text without semicolons that is read as the arrangement, given levels enough. -/
structure Writes (text : List Char) (a : Arrangement) : Prop where
  whole : ';' ∉ text
  solid : Text.Solid text
  operator : (findBare isOperator text).isSome = true
  read : ∀ levels, text.length ≤ levels → parseSegment [] (parseInner [] levels) text = .ok a

theorem Writes.present {text : List Char} {a : Arrangement} (written : Writes text a) :
    text ≠ [] := by
  intro empty
  have operator := written.operator
  rw [empty] at operator
  cases operator

theorem Writes.inside {text : List Char} {a : Arrangement} (written : Writes text a) {levels : Nat}
    (enough : text.length < levels) : parseInner [] levels (innerText text) = .ok a := by
  have trimmed := Text.trim_of_solid text written.solid
  cases levels with
  | zero => exact absurd enough (Nat.not_lt_zero _)
  | succ levels =>
    rw [parseInner, inner_whole written.whole,
      segments_single (pieces_whole written.whole) (by rw [trimmed]; exact written.present),
      trimmed, read_single]
    exact written.read levels (Nat.le_of_lt_succ enough)

theorem escape_whole {cs : List Char} (whole : ';' ∉ cs) : ';' ∉ escape cs := by
  intro held
  obtain ⟨c, member, shown⟩ := List.mem_flatMap.mp held
  have other : c ≠ ';' := by
    intro same
    rw [same] at member
    exact whole member
  unfold escapeChar at shown
  split at shown
  · simp [Ne.symm other] at shown
  · simp [Ne.symm other] at shown

section

variable {name : String} (unindented : ∀ c ∈ name.toList.head?, Text.isBlank c = false)
  (named : ';' ∉ name.toList)
include unindented named

theorem writes_marked {mark : Char} {tail : List Char} {a : Arrangement}
    (operator : isOperator mark = true) (whole : ';' ∉ tail)
    (last : ∀ c ∈ tail.getLast?, Text.isBlank c = false)
    (read : ∀ levels, (escaped name ++ mark :: tail).length ≤ levels →
      parseSegment [] (parseInner [] levels) (escaped name ++ mark :: tail) = .ok a) :
    Writes (escaped name ++ mark :: tail) a where
  whole := by
    have other : mark ≠ ';' := by
      intro same
      rw [same] at operator
      cases operator
    simp only [List.mem_append, List.mem_cons, not_or]
    exact ⟨escape_whole named, Ne.symm other, whole⟩
  solid := by
    have special := List.contains_iff_mem.mpr (operator_special mark operator)
    exact Text.solid_around _ _ mark (escapable_solid special) (escaped_head name unindented) last
  operator := by
    have plain : mark ≠ '\\' := by
      intro same
      rw [same] at operator
      cases operator
    rw [escaped, find_at isOperator operator_special name.toList mark tail plain operator]
    rfl
  read := read

theorem writes_nested {text : List Char} {m : Member} (written : Writes text (.member m)) :
    Writes (escaped name ++ '=' :: text) (.member (.mk name (.nested m))) := by
  apply writes_marked unindented named (by decide) written.whole written.solid.2
  intro levels enough
  rw [List.length_append, List.length_cons] at enough
  exact parse_around_member [] name written.operator (written.inside (by omega))

theorem writes_group {text : List Char} {a : Arrangement} (written : Writes text a)
    (something : a ≠ .identity) (other : ∀ m, a ≠ .member m) :
    Writes (escaped name ++ '=' :: text) (.member (.mk name (.group a))) := by
  apply writes_marked unindented named (by decide) written.whole written.solid.2
  intro levels enough
  rw [List.length_append, List.length_cons] at enough
  exact parse_around_group [] name written.operator (written.inside (by omega)) something other

variable {text : String} (whole : ';' ∉ text.toList)
  (last : ∀ c ∈ text.toList.getLast?, Text.isBlank c = false)
include whole last

theorem writes_text {mark : Char} {a : Arrangement} (operator : isOperator mark = true)
    (read : ∀ nested, parseSegment [] nested (escaped name ++ mark :: escaped text) = .ok a) :
    Writes (escaped name ++ mark :: escaped text) a :=
  writes_marked unindented named operator (escape_whole whole) (escaped_last text last)
    fun _ _ => read _

theorem writes_option {conversion : String} (kind : ';' ∉ conversion.toList)
    (present : conversion ≠ "") :
    Writes (escaped name ++ '%' :: (escaped conversion ++ ':' :: escaped text))
      (.member (.mk name (.conversion conversion (some text)))) := by
  apply writes_marked unindented named (by decide)
  · simp only [List.mem_append, List.mem_cons, not_or]
    exact ⟨escape_whole kind, by decide, escape_whole whole⟩
  · exact Text.last_around _ _ ':' (by decide) (escaped_last text last)
  · intro levels _
    exact parse_percent_option [] _ name conversion text present

end

theorem word_rewritten {segment name option : List Char} {a : Arrangement}
    (done : word [] segment name option = .ok a) (whole : ';' ∉ option)
    (last : ∀ c ∈ option.getLast?, Text.isBlank c = false) : ∃ text, Writes text a := by
  rw [← String.toList_ofList (l := option)] at whole last
  rcases word_read done with made | rfl
  · have removes (nested : List Char → Except SpecError Arrangement) :
        parseSegment [] nested (removalWord ++ '!' :: escaped (String.ofList option)) = .ok a := by
      rw [parse_word [] nested removalWord _ (by decide)]
      simpa [word, removalWord] using made
    have first : ∀ c ∈ "REMOVE".toList.head?, Text.isBlank c = false :=
      Text.head_solid (c := 'R') rfl (by decide)
    exact ⟨_, writes_text first (by decide) whole last (by decide) removes⟩
  · have chooses (nested : List Char → Except SpecError Arrangement) :
        parseSegment [] nested (presetWord ++ '!' :: escaped (String.ofList option)) =
          .ok (.preset (if String.ofList option = "" then none
            else some (String.ofList option))) := by
      rw [parse_word [] nested presetWord _ (by decide)]
      simp [word, presetWord]
    have first : ∀ c ∈ "DEFAULT".toList.head?, Text.isBlank c = false :=
      Text.head_solid (c := 'D') rfl (by decide)
    exact ⟨_, writes_text first (by decide) whole last (by decide) chooses⟩

/-- What a segment is read as can be written without semicolons, unless it holds one itself. The
    ends of its texts are those of slices, which lets them stand at the ends of the new text. -/
theorem rewritten_of_read {nested : List Char → Except SpecError Arrangement} {segment : List Char}
    {a : Arrangement}
    (inside : ∀ cs b, nested cs = .ok b → b ≠ .identity → b.Unseparated → ∃ text, Writes text b)
    (solid : Text.Solid segment) (present : segment ≠ []) (shape : ReadAs [] nested segment a)
    (unseparated : a.Unseparated) : ∃ text, Writes text a := by
  have filled {text : List Char} (present : text ≠ []) : String.ofList text ≠ "" := by
    simpa using present
  obtain ⟨first, last⟩ := solid
  cases shape with
  | word cut named given made =>
    exact word_rewritten made ((word_unseparated made).mp unseparated)
      (unescape_last given id_solid (cut_last cut last))
  | bare named =>
    obtain ⟨name, kind, _⟩ := unseparated
    have nonempty := filled (unescape_nonempty named present)
    exact ⟨_, writes_text (resolved_head named first) name kind
      (resolved_last id_solid named last) (by decide)
      fun nested => parse_conversion [] nested _ _ nonempty⟩
  | conversion cut named given present =>
    obtain ⟨name, kind, _⟩ := unseparated
    exact ⟨_, writes_text (resolved_head named (cut_head cut first)) name kind
      (resolved_last id_solid given (cut_last cut last)) (by decide)
      fun nested => parse_conversion [] nested _ _ (filled present)⟩
  | withOption cut again named given argument present =>
    obtain ⟨name, kind, option⟩ := unseparated
    exact ⟨_, writes_option (resolved_head named (cut_head cut first)) name (option _ rfl)
      (resolved_last id_solid argument (cut_last again (cut_last cut last))) kind (filled present)⟩
  | template cut named given =>
    obtain ⟨name, text⟩ := unseparated
    exact ⟨_, writes_text (resolved_head named (cut_head cut first)) name text
      (resolved_last braced_solid given (cut_last cut last)) (by decide)
      fun nested => parse_template [] nested _ _⟩
  | literal cut named given =>
    obtain ⟨name, value⟩ := unseparated
    exact ⟨_, writes_text (resolved_head named (cut_head cut first)) name value
      (resolved_last id_solid given (cut_last cut last)) (by decide)
      fun nested => parse_literal [] nested _ _⟩
  | nested cut named read =>
    obtain ⟨name, within⟩ := unseparated
    obtain ⟨text, written⟩ := inside _ _ read (by simp) within
    exact ⟨_, writes_nested (resolved_head named (cut_head cut first)) name written⟩
  | group cut named read something other =>
    obtain ⟨name, within⟩ := unseparated
    obtain ⟨text, written⟩ := inside _ _ read something within
    exact ⟨_, writes_group (resolved_head named (cut_head cut first)) name written something other⟩

theorem inside_rewritten (levels : Nat) (cs : List Char) (a : Arrangement)
    (done : parseInner [] levels cs = .ok a) (something : a ≠ .identity)
    (unseparated : a.Unseparated) : ∃ text, Writes text a := by
  induction levels generalizing cs a with
  | zero =>
    cases done
    exact absurd rfl something
  | succ levels ih =>
    rcases of_list_read done with ⟨_, nothing⟩ | ⟨segment, single, read⟩ | ⟨_, as, several⟩
    · exact absurd nothing something
    · have member : segment ∈ segments cs := by simp [single]
      obtain ⟨solid, present⟩ := segment_solid member
      exact rewritten_of_read ih solid present (segment_read read) unseparated
    · rw [several] at unseparated
      exact unseparated.elim

theorem shorthand_solid {segment : List Char} (solid : Text.Solid segment)
    (present : segment ≠ []) :
    Text.Solid (shorthand segment) ∧ shorthand segment ≠ [] := by
  have known (word : String) (solid : Text.trim word.toList = word.toList)
      (present : word.toList ≠ []) : Text.Solid word.toList ∧ word.toList ≠ [] := by
    have trimmed := Text.trim_solid word.toList
    rw [solid] at trimmed
    exact ⟨trimmed, present⟩
  unfold shorthand
  split
  · exact known "DEFAULT!" (by decide) (by decide)
  · exact known "DEFAULT!" (by decide) (by decide)
  · exact known "DEFAULT!nxlog" (by decide) (by decide)
  · exact known "CLEAR!" (by decide) (by decide)
  · exact ⟨solid, present⟩

theorem word_no_member {segment name option : List Char} {m : Member} :
    word [] segment name option ≠ .ok (.member m) := by
  intro done
  rcases word_read done with made | chosen
  · rcases removal_read made with ⟨_, other⟩ | ⟨p, _, other⟩
    · cases other
    · cases other
  · cases chosen

theorem nested_read {nested : List Char → Except SpecError Arrangement} {segment : List Char}
    {name : String} {m : Member}
    (shape : ReadAs [] nested segment (.member (.mk name (.nested m)))) :
    ∃ rest, nested (innerText rest) = .ok (.member m) := by
  generalize shown : Arrangement.member (.mk name (.nested m)) = a at shape
  cases shape with
  | word cut named given made =>
    rw [← shown] at made
    exact absurd made word_no_member
  | nested cut named read =>
    cases shown
    exact ⟨_, read⟩
  | bare | conversion | withOption | template | literal | group => cases shown

theorem nested_unseparated {spec name : String} {m : Member}
    (read : parse [] spec = .ok (.member (.mk name (.nested m)))) : m.Unseparated := by
  obtain ⟨segment, _, done⟩ := member_read read
  obtain ⟨rest, inside⟩ := nested_read (segment_read done)
  cases shown : spec.toList.length with
  | zero =>
    rw [shown] at inside
    cases inside
  | succ levels =>
    rw [shown] at inside
    obtain ⟨text, single, inner⟩ := member_read inside
    have whole := inner_segments_whole rest text (by simp [single])
    exact read_unseparated (inside_unseparated levels) whole (segment_read inner)

theorem parse_around_written {name : String} {text : List Char} {m : Member}
    (unindented : ∀ c ∈ name.toList.head?, Text.isBlank c = false)
    (written : Writes text (.member m)) :
    parse [] (String.ofList (escaped name ++ '=' :: text)) =
      .ok (.member (.mk name (.nested m))) := by
  have whole : ';' ∉ '=' :: text := List.not_mem_cons_of_ne_of_not_mem (by decide) written.whole
  have single : pieces (escaped name ++ '=' :: text) = [escaped name ++ '=' :: text] := by
    rw [escaped, unsplit_escape name.toList, pieces_whole whole]
    rfl
  have trimmed : Text.trim (escaped name ++ '=' :: text) = escaped name ++ '=' :: text :=
    Text.trim_of_solid _ (Text.solid_around _ _ '=' (by decide) (escaped_head name unindented)
      written.solid.2)
  have equals : isOperator '=' = true := by decide
  rw [parse_single [] single equals (by simp [trimmed]), trimmed]
  apply parse_around_member [] name written.operator
  apply written.inside
  rw [List.length_append, List.length_cons]
  omega

/-- A member that can be written can be nested, under any name that does not begin with a blank, if
    and only if none of its texts has a semicolon and nothing in it is a group of several members:
    a semicolon separates one level in, whatever stands before it. -/
theorem nestable_iff_unseparated (spec name : String) (m : Member)
    (unindented : ∀ c ∈ name.toList.head?, Text.isBlank c = false)
    (read : parse [] spec = .ok (.member m)) :
    (∃ outer, parse [] outer = .ok (.member (.mk name (.nested m)))) ↔ m.Unseparated := by
  constructor
  · intro nests
    obtain ⟨outer, nested⟩ := nests
    exact nested_unseparated nested
  · intro unseparated
    -- The text itself may hold semicolons that separate nothing; what is nested is the member
    -- written anew.
    obtain ⟨segment, single, done⟩ := member_read read
    have member : segment ∈ segments spec.toList := by simp [single]
    obtain ⟨solid, present⟩ := segment_solid member
    obtain ⟨solid, present⟩ := shorthand_solid solid present
    obtain ⟨text, written⟩ := rewritten_of_read (inside_rewritten _) solid present
      (segment_read done) unseparated
    exact ⟨_, parse_around_written unindented written⟩

def layered : Member :=
  .mk "a" (.nested (.mk "b" (.group (.preset (some "|")))))

theorem preset_nests_again :
    ∃ outer, parse [] outer = .ok (.member (.mk "n;" (.nested layered))) := by
  have unindented : ∀ c ∈ "n;".toList.head?, Text.isBlank c = false :=
    Text.head_solid (c := 'n') rfl (by decide)
  have read : parse [] " a=b=DEFAULT!\\|\\;" = .ok (.member layered) := by rfl
  apply (nestable_iff_unseparated " a=b=DEFAULT!\\|\\;" "n;" layered unindented read).mpr
  simp [layered, Member.Unseparated, Source.Unseparated, Arrangement.Unseparated]

/-- A literal can have a semicolon, and then it cannot be nested. -/
theorem semicolon_never_nested :
    parse [] "a=x\\;y" = .ok (.member (.mk "a" (.literal "x;y"))) ∧
      ∀ outer, parse [] outer ≠
        .ok (.member (.mk "n" (.nested (.mk "a" (.literal "x;y"))))) := by
  refine ⟨by rfl, ?_⟩
  intro outer read
  have unseparated := nested_unseparated read
  simp [Member.Unseparated, Source.Unseparated] at unseparated

end Spec

end LogLayout
