import LogLayout.Proofs.Arrangement.Segments

/- Faulty escapes. In a text that is read every escape is complete and of a special character, at
   every level of nesting: cutting, trimming and the way inside change nothing about which
   characters are paired with which backslashes. A fault that is reported is the first one in the
   slice it is reported of. -/
namespace LogLayout.Spec

/-- Backslashes are paired from left to right with the characters after them, and each has one that
    may be escaped. -/
def wellEscaped : List Char → Bool
  | [] => true
  | ['\\'] => false
  | '\\' :: c :: rest => escapable.contains c && wellEscaped rest
  | _ :: rest => wellEscaped rest

/-- At the offset in bytes stands the first backslash that begins an escape and has no character
    after it or none that may be escaped. -/
def FirstFault (cs : List Char) (offset : Nat) : Prop :=
  ∃ front back, cs = front ++ '\\' :: back ∧ wellEscaped front = true ∧
    Text.Utf8.width front = offset ∧ ∀ c ∈ back.head?, c ∉ escapable

theorem well_escaped_plain (c : Char) (rest : List Char) (plain : c ≠ '\\') :
    wellEscaped (c :: rest) = wellEscaped rest := by
  rw [wellEscaped]
  all_goals (intros; exact plain ‹_›)

theorem well_escaped_cut {kind : Char → Bool} {cs : List Char} {f : Found}
    (cut : findBare kind cs = some f) :
    wellEscaped cs = (wellEscaped f.head && wellEscaped f.rest) := by
  induction cs using scan_induction generalizing f with
  | nil => cases cut
  | lone => cases cut
  | pair c rest ih =>
    rw [findBare] at cut
    obtain ⟨g, behind, rfl⟩ := Option.map_eq_some_iff.mp cut
    rw [wellEscaped, wellEscaped, ih behind, Bool.and_assoc]
  | plain c rest plain ih =>
    rw [find_plain kind c rest plain] at cut
    rw [well_escaped_plain c rest plain]
    split at cut
    · obtain rfl := Option.some.inj cut
      rfl
    · obtain ⟨g, behind, rfl⟩ := Option.map_eq_some_iff.mp cut
      rw [ih behind, well_escaped_plain c g.head plain]

theorem well_escaped_pieces (cs : List Char) :
    wellEscaped cs = (pieces cs).all wellEscaped := by
  have extended (front : List Char) (texts : List (List Char)) (present : texts ≠ [])
      (held : Bool) (same : ∀ piece, wellEscaped (front ++ piece) = (held && wellEscaped piece)) :
      (extendFirst front texts).all wellEscaped = (held && texts.all wellEscaped) := by
    cases texts with
    | nil => exact absurd rfl present
    | cons piece rest => rw [extendFirst, List.all_cons, List.all_cons, same, Bool.and_assoc]
  induction cs using scan_induction with
  | nil => rfl
  | lone => rfl
  | pair c rest ih =>
    rw [wellEscaped, pieces, ih, extended _ _ (pieces_nonempty rest) (escapable.contains c)]
    intro piece
    rfl
  | plain c rest plain ih =>
    rw [well_escaped_plain c rest plain, pieces_plain c rest plain, ih]
    split
    · rfl
    · rw [extended _ _ (pieces_nonempty rest) true]
      · rfl
      · intro piece
        exact well_escaped_plain c piece plain

theorem well_escaped_inner (cs : List Char) : wellEscaped (innerText cs) = wellEscaped cs := by
  induction cs using scan_induction with
  | nil => rfl
  | lone => rfl
  | pair c rest ih =>
    rw [innerText]
    split
    · rename_i separator
      rw [well_escaped_plain ';' _ (by decide), ih, wellEscaped, separator]
      rfl
    · rw [wellEscaped, wellEscaped, ih]
  | plain c rest plain ih =>
    rw [inner_plain c rest plain, well_escaped_plain c _ plain, ih, well_escaped_plain c rest plain]

/-- A character that may not be escaped makes no difference at the end: either it is plain, or the
    backslash before it has no other character to escape. -/
theorem well_escaped_concat (cs : List Char) (c : Char) (free : c ∉ escapable) :
    wellEscaped (cs ++ [c]) = wellEscaped cs := by
  induction cs using scan_induction with
  | nil => exact well_escaped_plain c [] (not_backslash free)
  | lone => simp [wellEscaped, free]
  | pair d rest ih =>
    rw [List.cons_append, List.cons_append, wellEscaped, wellEscaped, ih]
  | plain d rest plain ih =>
    rw [List.cons_append, well_escaped_plain d _ plain, well_escaped_plain d _ plain, ih]

theorem well_escaped_trim (cs : List Char) : wellEscaped (Text.trim cs) = wellEscaped cs := by
  rw [Text.trim, Text.trim_end_ignored wellEscaped, Text.trim_start_ignored wellEscaped]
  · intro text c blank
    exact well_escaped_plain c text (not_backslash (blank_not_special blank))
  · intro text c blank
    exact well_escaped_concat text c (blank_not_special blank)

theorem well_escaped_segments (cs : List Char) :
    wellEscaped cs = (segments cs).all wellEscaped := by
  have trimmed : (pieces cs).all wellEscaped = ((pieces cs).map Text.trim).all wellEscaped := by
    rw [List.all_map]
    congr 1
    funext piece
    exact (well_escaped_trim piece).symm
  rw [well_escaped_pieces, trimmed, segments, List.all_filter]
  congr 1
  funext segment
  cases segment with
  | nil => rfl
  | cons c rest => rfl

theorem well_escaped_shorthand (segment : List Char) :
    wellEscaped (shorthand segment) = wellEscaped segment := by
  have short (word : String) (same : String.ofList segment = word) : segment = word.toList := by
    rw [← same, String.toList_ofList]
  unfold shorthand
  split
  · rw [short _ ‹_›]
    decide
  · rw [short _ ‹_›]
    decide
  · rw [short _ ‹_›]
    decide
  · rw [short _ ‹_›]
    decide
  · rfl

theorem well_escaped_of_resolves {bare : Char → Char} {offset : Nat} {slice text : List Char}
    (done : unescapeFrom bare offset slice = .ok text) : wellEscaped slice = true := by
  induction slice using scan_induction generalizing offset text with
  | nil => rfl
  | lone => cases done
  | pair c rest ih =>
    rw [unescapeFrom] at done
    split at done
    · rename_i special
      obtain ⟨tail, behind, _⟩ := ok_of_map done
      rw [wellEscaped, special, ih behind]
      rfl
    · cases done
  | plain c rest plain ih =>
    rw [unescape_plain bare offset c rest plain] at done
    obtain ⟨tail, behind, _⟩ := ok_of_map done
    rw [well_escaped_plain c rest plain]
    exact ih behind

theorem first_fault_of_unescape {bare : Char → Char} {offset fault : Nat} {slice : List Char}
    (refused : unescapeFrom bare offset slice = .error fault) :
    ∃ place, fault = offset + place ∧ FirstFault slice place := by
  induction slice using scan_induction generalizing offset with
  | nil => cases refused
  | lone =>
    cases refused
    exact ⟨0, rfl, [], [], rfl, rfl, rfl, by simp⟩
  | pair c rest ih =>
    rw [unescapeFrom] at refused
    split at refused
    · rename_i special
      obtain ⟨place, same, front, back, rfl, well, wide, wrong⟩ := ih (map_error_iff.mp refused)
      refine ⟨1 + c.utf8Size + place, by omega, '\\' :: c :: front, back, rfl, ?_, ?_, wrong⟩
      · rw [wellEscaped, special, well]
        rfl
      · rw [← wide]
        simp only [Text.Utf8.width, List.foldr_cons]
        have one : ('\\' : Char).utf8Size = 1 := by decide
        omega
    · rename_i special
      cases refused
      refine ⟨0, rfl, [], c :: rest, rfl, rfl, rfl, ?_⟩
      simpa using special
  | plain c rest plain ih =>
    rw [unescape_plain bare offset c rest plain] at refused
    obtain ⟨place, same, front, back, rfl, well, wide, wrong⟩ := ih (map_error_iff.mp refused)
    refine ⟨c.utf8Size + place, by omega, c :: front, back, rfl, ?_, ?_, wrong⟩
    · rw [well_escaped_plain c front plain]
      exact well
    · rw [← wide]
      rfl

theorem fault_spoils {cs : List Char} {offset : Nat} (fault : FirstFault cs offset) :
    wellEscaped cs = false := by
  obtain ⟨front, back, rfl, well, -, wrong⟩ := fault
  have here : wellEscaped ('\\' :: back) = false := by
    cases back with
    | nil => rfl
    | cons c rest =>
      have free := wrong c rfl
      simp [wellEscaped, free]
  induction front using scan_induction with
  | nil => exact here
  | lone => cases well
  | pair c rest ih =>
    rw [wellEscaped, Bool.and_eq_true] at well
    rw [List.cons_append, List.cons_append, wellEscaped, ih well.2, Bool.and_false]
  | plain c rest plain ih =>
    rw [well_escaped_plain c rest plain] at well
    rw [List.cons_append, well_escaped_plain c _ plain]
    exact ih well

def TrueFault (cs : List Char) : SpecError → Prop
  | .invalidEscape slice offset => FirstFault slice.toList offset ∧ wellEscaped cs = false
  | _ => True

theorem true_fault_around {slice cs : List Char} {e : SpecError} (inside : TrueFault slice e)
    (kept : wellEscaped cs = true → wellEscaped slice = true) : TrueFault cs e := by
  cases e with
  | invalidEscape segment offset =>
    obtain ⟨fault, spoilt⟩ := inside
    refine ⟨fault, ?_⟩
    cases whole : wellEscaped cs with
    | false => rfl
    | true =>
      rw [kept whole] at spoilt
      cases spoilt
  | _ => trivial

theorem slice_refusal (bare : Char → Char) {slice cs : List Char}
    (kept : wellEscaped cs = true → wellEscaped slice = true) :
    Refuses (TrueFault cs)
      ((unescapeFrom bare 0 slice).mapError (.invalidEscape (String.ofList slice))) := by
  intro e refused
  cases read : unescapeFrom bare 0 slice with
  | ok text =>
    rw [read] at refused
    cases refused
  | error fault =>
    rw [read] at refused
    cases refused
    obtain ⟨place, same, first⟩ := first_fault_of_unescape read
    rw [Nat.zero_add] at same
    rw [same]
    have inside : TrueFault slice (.invalidEscape (String.ofList slice) place) := by
      refine ⟨?_, fault_spoils first⟩
      rw [String.toList_ofList]
      exact first
    exact true_fault_around inside kept

section

variable {factories : Factories} {nested : List Char → Except SpecError Arrangement}
  {segment head rest : List Char}

theorem removal_refusal (cs : List Char) (pattern : String) :
    Refuses (TrueFault cs) (removal pattern) := by
  unfold removal
  split
  · exact refuses_ok _
  · split
    · exact refuses_ok _
    · exact refuses_error trivial

theorem word_refusal (cs name option : List Char) :
    Refuses (TrueFault cs) (word factories segment name option) := by
  unfold word
  dsimp only
  split
  · exact refuses_error trivial
  · exact removal_refusal cs _
  · exact removal_refusal cs _
  · exact refuses_ok _
  · split
    · rename_i factory _
      intro e refused
      cases made : factory (String.ofList option) with
      | error message =>
        rw [made] at refused
        cases refused
        trivial
      | ok a =>
        rw [made] at refused
        cases refused
    · split
      · exact refuses_error trivial
      · exact refuses_error trivial

theorem named_conversion_refusal (left : wellEscaped segment = true → wellEscaped head = true)
    (right : wellEscaped segment = true → wellEscaped rest = true) :
    Refuses (TrueFault segment) (namedConversion segment head rest) := by
  unfold namedConversion
  split
  · exact refuses_error trivial
  · split
    · exact refuses_error trivial
    · refine refuses_bind (slice_refusal id left) ?_
      intro name
      refine refuses_bind (slice_refusal id right) ?_
      intro conversion
      exact refuses_ok _

theorem template_refusal (left : wellEscaped segment = true → wellEscaped head = true)
    (right : wellEscaped segment = true → wellEscaped rest = true) :
    Refuses (TrueFault segment) (templateMember head rest) := by
  refine refuses_bind (slice_refusal id left) ?_
  intro name
  refine refuses_bind (slice_refusal braced right) ?_
  intro template
  exact refuses_ok _

theorem conversion_with_option_refusal
    (left : wellEscaped segment = true → wellEscaped head = true)
    (right : wellEscaped segment = true → wellEscaped rest = true) :
    Refuses (TrueFault segment) (conversionWithOption segment head rest) := by
  have chosen {slice : List Char} (option : Option (List Char))
      (kept : wellEscaped segment = true → wellEscaped slice = true) :
      Refuses (TrueFault segment) (do
        let conversion ← unescape slice
        if conversion.isEmpty then
          .error (.unexpected (String.ofList segment) .missingConversionAfterPercent)
        else
          let name ← unescape head
          pure (conversionMember name conversion option)) := by
    refine refuses_bind (slice_refusal id kept) ?_
    intro conversion
    split
    · exact refuses_error trivial
    · refine refuses_bind (slice_refusal id left) ?_
      intro name
      exact refuses_ok _
  unfold conversionWithOption
  dsimp only
  split
  · rename_i tail again
    have cut := well_escaped_cut again
    refine refuses_bind (slice_refusal id ?_) ?_
    · intro whole
      rw [right whole] at cut
      exact (Bool.and_eq_true_iff.mp cut.symm).2
    · intro option
      refine chosen (some option) ?_
      intro whole
      rw [right whole] at cut
      exact (Bool.and_eq_true_iff.mp cut.symm).1
  · exact chosen none right

theorem assignment_refusal (inside : ∀ cs, Refuses (TrueFault cs) (nested cs))
    (left : wellEscaped segment = true → wellEscaped head = true)
    (right : wellEscaped segment = true → wellEscaped rest = true) :
    Refuses (TrueFault segment) (assignment nested segment head rest) := by
  unfold assignment
  refine refuses_bind (slice_refusal id left) ?_
  intro name
  dsimp only
  split
  · refine refuses_bind (slice_refusal id right) ?_
    intro value
    exact refuses_ok _
  · have deeper : Refuses (TrueFault segment) (nested (innerText rest)) := by
      refine refuses_weaken (inside _) ?_
      intro e held
      refine true_fault_around held ?_
      intro whole
      rw [well_escaped_inner]
      exact right whole
    refine refuses_bind deeper ?_
    intro inner
    split
    · exact refuses_ok _
    · exact refuses_error trivial
    · exact refuses_ok _

theorem segment_refusal (inside : ∀ cs, Refuses (TrueFault cs) (nested cs)) :
    Refuses (TrueFault segment) (parseSegment factories nested segment) := by
  have slices {kind : Char → Bool} {f : Found} (cut : findBare kind segment = some f)
      (whole : wellEscaped segment = true) :
      wellEscaped f.head = true ∧ wellEscaped f.rest = true := by
    rw [well_escaped_cut cut] at whole
    exact Bool.and_eq_true_iff.mp whole
  unfold parseSegment
  split
  · rename_i found led
    obtain ⟨cut, _⟩ := Option.filter_eq_some_iff.mp led
    refine refuses_bind (slice_refusal id fun whole => (slices cut whole).2) ?_
    intro option
    exact word_refusal _ _ _
  · split
    · refine refuses_bind (slice_refusal id fun whole => whole) ?_
      intro name
      exact refuses_ok _
    · rename_i head operator rest cut
      have left (whole : wellEscaped segment = true) := (slices cut whole).1
      have right (whole : wellEscaped segment = true) := (slices cut whole).2
      split
      · exact named_conversion_refusal left right
      · exact assignment_refusal inside left right
      · exact template_refusal left right
      · exact conversion_with_option_refusal left right
      · refine refuses_bind (slice_refusal id left) ?_
        intro name
        refine refuses_bind (slice_refusal id right) ?_
        intro option
        exact word_refusal _ _ _

theorem segments_refusal {read : List Char → Except SpecError Arrangement} (cs : List Char)
    (each : ∀ segment, Refuses (TrueFault segment) (read segment)) :
    Refuses (TrueFault cs) ((segments cs).mapM read) := by
  apply refuses_map_m
  intro segment member
  refine refuses_weaken (each segment) ?_
  intro e held
  refine true_fault_around held ?_
  intro whole
  rw [well_escaped_segments] at whole
  exact List.all_eq_true.mp whole segment member

theorem inner_refusal (factories : Factories) (levels : Nat) (cs : List Char) :
    Refuses (TrueFault cs) (parseInner factories levels cs) := by
  induction levels generalizing cs with
  | zero => exact refuses_ok _
  | succ levels ih =>
    rw [parseInner]
    apply refuses_map
    apply segments_refusal
    intro segment
    exact segment_refusal ih

theorem well_escaped_of_read {a : Arrangement} (done : ReadAs factories nested segment a)
    (inside : ∀ cs b, nested cs = .ok b → b ≠ .identity → wellEscaped cs = true) :
    wellEscaped segment = true := by
  have around {kind : Char → Bool} {f : Found} (cut : findBare kind segment = some f)
      (left : wellEscaped f.head = true) (right : wellEscaped f.rest = true) :
      wellEscaped segment = true := by
    rw [well_escaped_cut cut, left, right]
    rfl
  cases done with
  | bare named => exact well_escaped_of_resolves named
  | word cut named given _ | conversion cut named given _ | literal cut named given
  | template cut named given =>
    exact around cut (well_escaped_of_resolves named) (well_escaped_of_resolves given)
  | withOption cut again named given argument _ =>
    refine around cut (well_escaped_of_resolves named) ?_
    rw [well_escaped_cut again, well_escaped_of_resolves given, well_escaped_of_resolves argument]
    rfl
  | nested cut named read =>
    have deeper := inside _ _ read (by simp)
    rw [well_escaped_inner] at deeper
    exact around cut (well_escaped_of_resolves named) deeper
  | group cut named read something _ =>
    have deeper := inside _ _ read something
    rw [well_escaped_inner] at deeper
    exact around cut (well_escaped_of_resolves named) deeper

theorem well_escaped_of_segments {read : List Char → Except SpecError Arrangement} {cs : List Char}
    {as : List Arrangement} (done : (segments cs).mapM read = .ok as)
    (each : ∀ segment a, read segment = .ok a → wellEscaped segment = true) :
    wellEscaped cs = true := by
  rw [well_escaped_segments, List.all_eq_true]
  intro segment member
  have results := results_of_map_m done
  have held : read segment ∈ as.map .ok := by
    rw [← results]
    exact List.mem_map_of_mem member
  obtain ⟨a, _, same⟩ := List.mem_map.mp held
  exact each segment a same.symm

theorem well_escaped_of_inner (factories : Factories) (levels : Nat) (cs : List Char)
    (a : Arrangement) (done : parseInner factories levels cs = .ok a) (something : a ≠ .identity) :
    wellEscaped cs = true := by
  induction levels generalizing cs a with
  | zero =>
    cases done
    exact absurd rfl something
  | succ levels ih =>
    rw [parseInner] at done
    obtain ⟨as, read, _⟩ := ok_of_map done
    refine well_escaped_of_segments read ?_
    intro segment b segmentDone
    exact well_escaped_of_read (segment_read segmentDone) ih

end

/-- A text that is read has no faulty escape at any level of nesting. When an invalid escape is
    reported, the offset is that of the first fault in the slice that is shown with it, and the text
    has one. -/
theorem faulty_escapes_refused (factories : Factories) (spec : String) :
    (∀ a, parse factories spec = .ok a → wellEscaped spec.toList = true) ∧
      ∀ slice offset, parse factories spec = .error (.invalidEscape slice offset) →
        FirstFault slice.toList offset ∧ wellEscaped spec.toList = false := by
  constructor
  · intro a done
    obtain ⟨as, read, _⟩ := ok_of_map done
    refine well_escaped_of_segments read ?_
    intro segment b segmentDone
    rw [← well_escaped_shorthand]
    exact well_escaped_of_read (segment_read segmentDone) (well_escaped_of_inner factories _)
  · intro slice offset refused
    have refusal : Refuses (TrueFault spec.toList) (parse factories spec) := by
      apply refuses_map
      apply segments_refusal
      intro segment
      refine refuses_weaken (segment_refusal (inner_refusal factories _)) ?_
      intro e held
      refine true_fault_around held ?_
      intro whole
      rw [well_escaped_shorthand]
      exact whole
    exact refusal _ refused

/-- Two levels down an escaped parenthesis passes, and an escaped letter is found behind a character
    of two bytes. -/
theorem nested_fault_found :
    (∃ a, parse [] "g=a:b\\;h=é|é\\(" = .ok a) ∧ wellEscaped "g=a:b\\;h=é|é\\(".toList = true ∧
      parse [] "g=a:b\\;h=é|é\\q" = .error (.invalidEscape "é\\q" 2) ∧
      FirstFault "é\\q".toList 2 ∧ wellEscaped "g=a:b\\;h=é|é\\q".toList = false := by
  have accepted : ∃ a, parse [] "g=a:b\\;h=é|é\\(" = .ok a := ⟨_, rfl⟩
  have refused : parse [] "g=a:b\\;h=é|é\\q" = .error (.invalidEscape "é\\q" 2) := rfl
  obtain ⟨a, read⟩ := accepted
  obtain ⟨fault, spoilt⟩ := (faulty_escapes_refused [] _).2 _ _ refused
  exact ⟨⟨a, read⟩, (faulty_escapes_refused [] _).1 a read, refused, fault, spoilt⟩

end LogLayout.Spec
