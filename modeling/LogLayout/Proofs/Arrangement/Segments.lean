import LogLayout.Proofs.Arrangement.Scanning
import LogLayout.Proofs.Outcome

/- What a segment can be read as. A segment is cut at bare characters into slices; each slice is
   unescaped or, behind an equals sign, read as a text of its own. -/
namespace LogLayout.Spec

theorem find_splits {kind : Char → Bool} {cs : List Char} {f : Found}
    (found : findBare kind cs = some f) :
    cs = f.head ++ f.char :: f.rest ∧ kind f.char = true := by
  induction cs using scan_induction generalizing f with
  | nil => cases found
  | lone => cases found
  | pair c rest ih =>
    rw [findBare] at found
    obtain ⟨g, behind, rfl⟩ := Option.map_eq_some_iff.mp found
    obtain ⟨split, special⟩ := ih behind
    exact ⟨by rw [List.cons_append, List.cons_append, ← split], special⟩
  | plain c rest bare ih =>
    rw [find_plain kind c rest bare] at found
    split at found
    · rename_i special
      obtain rfl := Option.some.inj found
      exact ⟨rfl, special⟩
    · obtain ⟨g, behind, rfl⟩ := Option.map_eq_some_iff.mp found
      obtain ⟨split, special⟩ := ih behind
      exact ⟨by rw [List.cons_append, ← split], special⟩

theorem unescape_word (cs : List Char) (word : ∀ c ∈ cs, isWordChar c = true) :
    unescape cs = .ok cs := by
  have read (offset : Nat) : unescapeFrom id offset cs = .ok cs := by
    induction cs generalizing offset with
    | nil => rfl
    | cons c cs ih =>
      obtain ⟨plain, _, _⟩ := word_char_plain c (word c (List.mem_cons_self ..))
      have behind := ih fun d member => word d (List.mem_cons_of_mem _ member)
      rw [unescape_plain id offset c cs plain, behind]
      rfl
  rw [unescape, read]
  rfl

theorem read_single (read : List Char → Except SpecError Arrangement) (segment : List Char) :
    ([segment].mapM read).map Arrangement.ofList = read segment := by
  rw [List.mapM_cons]
  cases read segment with
  | error e => rfl
  | ok a => rfl

theorem pieces_unsplit {cs : List Char} (unsplit : Unsplit cs) : pieces cs = [cs] := by
  have whole := unsplit []
  rw [List.append_nil] at whole
  rw [whole]
  simp [pieces, extendFirst]

theorem segments_single {cs : List Char} (single : pieces cs = [cs]) (present : Text.trim cs ≠ []) :
    segments cs = [Text.trim cs] := by
  rw [segments, single]
  simp [present]

theorem parse_single (factories : Factories) {cs : List Char} {c : Char} (single : pieces cs = [cs])
    (operator : isOperator c = true) (held : c ∈ Text.trim cs) :
    parse factories (String.ofList cs) =
      parseSegment factories (parseInner factories cs.length) (Text.trim cs) := by
  rw [parse, String.toList_ofList, segments_single single (List.ne_nil_of_mem held),
    read_single, shorthand_of_operator _ c operator held]

section

variable (factories : Factories) {nested : List Char → Except SpecError Arrangement}

theorem find_equals (name : String) (rest : List Char) :
    leadingWord? (escaped name ++ '=' :: rest) = none ∧
      findBare isOperator (escaped name ++ '=' :: rest) = some ⟨escaped name, '=', rest⟩ := by
  constructor
  · rw [leadingWord?, escaped, find_behind_escape _ (mark_special '!' (by decide)),
      find_plain _ _ _ (by decide)]
    cases findBare (· == '!') rest with
    | none => rfl
    | some f =>
      have unworded : isWord (escape name.toList ++ '=' :: f.head) = false := by
        have equals : isWordChar '=' = false := by decide
        simp only [isWord, List.all_append, List.all_cons, equals, Bool.false_and, Bool.and_false]
      simp [unworded]
  · exact find_at isOperator operator_special name.toList '=' rest (by decide) (by decide)

theorem parse_around_member (name : String) {rest : List Char} {m : Member}
    (operator : (findBare isOperator rest).isSome = true)
    (read : nested (innerText rest) = .ok (.member m)) :
    parseSegment factories nested (escaped name ++ '=' :: rest) =
      .ok (.member (.mk name (.nested m))) := by
  obtain ⟨unled, found⟩ := find_equals name rest
  obtain ⟨f, first⟩ := Option.isSome_iff_exists.mp operator
  rw [parseSegment, unled, found]
  simp [assignment, unescape_escaped, first, read, bind, Except.bind, pure, Except.pure]

theorem parse_around_group (name : String) {rest : List Char} {a : Arrangement}
    (operator : (findBare isOperator rest).isSome = true)
    (read : nested (innerText rest) = .ok a) (something : a ≠ .identity)
    (other : ∀ m, a ≠ .member m) :
    parseSegment factories nested (escaped name ++ '=' :: rest) =
      .ok (.member (.mk name (.group a))) := by
  obtain ⟨unled, found⟩ := find_equals name rest
  obtain ⟨f, first⟩ := Option.isSome_iff_exists.mp operator
  rw [parseSegment, unled, found]
  simp [assignment, unescape_escaped, first, read, bind, Except.bind, pure, Except.pure]

end

def Resolves (bare : Char → Char) (slice text : List Char) : Prop :=
  unescapeFrom bare 0 slice = .ok text

theorem resolves_of_unescape {slice text : List Char} (done : unescape slice = .ok text) :
    Resolves id slice text :=
  ok_of_map_error done

theorem resolves_of_unescape_template {slice text : List Char}
    (done : unescapeTemplate slice = .ok text) : Resolves braced slice text :=
  ok_of_map_error done

theorem unescape_nonempty {bare : Char → Char} {offset : Nat} {slice text : List Char}
    (done : unescapeFrom bare offset slice = .ok text) (present : slice ≠ []) : text ≠ [] := by
  induction slice using scan_induction with
  | nil => exact absurd rfl present
  | lone => cases done
  | pair c rest ih =>
    rw [unescapeFrom] at done
    split at done
    · obtain ⟨tail, _, rfl⟩ := ok_of_map done
      exact List.cons_ne_nil _ _
    · cases done
  | plain c rest plain ih =>
    rw [unescape_plain bare offset c rest plain] at done
    obtain ⟨tail, _, rfl⟩ := ok_of_map done
    exact List.cons_ne_nil _ _

section

variable (factories : Factories) (nested : List Char → Except SpecError Arrangement)
  (segment : List Char)

/-- The shapes of a segment and what each is read as, given how the texts inside are. -/
inductive ReadAs : Arrangement → Prop
  | word {kind : Char → Bool} {found : Found} {name option : List Char} {a : Arrangement}
      (cut : findBare kind segment = some found) (named : Resolves id found.head name)
      (given : Resolves id found.rest option) (made : word factories segment name option = .ok a) :
      ReadAs a
  | bare {name : List Char} (named : Resolves id segment name) :
      ReadAs (conversionMember name name none)
  | conversion {kind : Char → Bool} {found : Found} {name conversion : List Char}
      (cut : findBare kind segment = some found) (named : Resolves id found.head name)
      (given : Resolves id found.rest conversion) (present : conversion ≠ []) :
      ReadAs (conversionMember name conversion none)
  | withOption {kind inside : Char → Bool} {found tail : Found}
      {name conversion option : List Char}
      (cut : findBare kind segment = some found) (again : findBare inside found.rest = some tail)
      (named : Resolves id found.head name) (given : Resolves id tail.head conversion)
      (argument : Resolves id tail.rest option) (present : conversion ≠ []) :
      ReadAs (conversionMember name conversion (some option))
  | template {kind : Char → Bool} {found : Found} {name template : List Char}
      (cut : findBare kind segment = some found) (named : Resolves id found.head name)
      (given : Resolves braced found.rest template) :
      ReadAs (.member (.mk (String.ofList name) (.template (String.ofList template))))
  | literal {kind : Char → Bool} {found : Found} {name value : List Char}
      (cut : findBare kind segment = some found) (named : Resolves id found.head name)
      (given : Resolves id found.rest value) :
      ReadAs (.member (.mk (String.ofList name) (.literal (String.ofList value))))
  | nested {kind : Char → Bool} {found : Found} {name : List Char} {inner : Member}
      (cut : findBare kind segment = some found) (named : Resolves id found.head name)
      (read : nested (innerText found.rest) = .ok (.member inner)) :
      ReadAs (.member (.mk (String.ofList name) (.nested inner)))
  | group {kind : Char → Bool} {found : Found} {name : List Char} {inner : Arrangement}
      (cut : findBare kind segment = some found) (named : Resolves id found.head name)
      (read : nested (innerText found.rest) = .ok inner) (something : inner ≠ .identity)
      (other : ∀ m, inner ≠ .member m) :
      ReadAs (.member (.mk (String.ofList name) (.group inner)))

end

section

variable {factories : Factories} {nested : List Char → Except SpecError Arrangement}
  {segment : List Char} {a : Arrangement} {kind : Char → Bool} {head rest : List Char} {mark : Char}

theorem named_conversion_read (cut : findBare kind segment = some ⟨head, mark, rest⟩)
    (done : namedConversion segment head rest = .ok a) : ReadAs factories nested segment a := by
  unfold namedConversion at done
  split at done
  · cases done
  · rename_i present
    split at done
    · cases done
    · obtain ⟨name, named, behind⟩ := ok_of_bind done
      obtain ⟨conversion, given, same⟩ := ok_of_bind behind
      cases same
      have filled : rest ≠ [] := by simpa using present
      exact .conversion cut (resolves_of_unescape named) (resolves_of_unescape given)
        (unescape_nonempty (resolves_of_unescape given) filled)

theorem template_read (cut : findBare kind segment = some ⟨head, mark, rest⟩)
    (done : templateMember head rest = .ok a) : ReadAs factories nested segment a := by
  obtain ⟨name, named, behind⟩ := ok_of_bind done
  obtain ⟨template, given, same⟩ := ok_of_bind behind
  cases same
  exact .template cut (resolves_of_unescape named) (resolves_of_unescape_template given)

theorem assignment_read (cut : findBare kind segment = some ⟨head, mark, rest⟩)
    (done : assignment nested segment head rest = .ok a) :
    ReadAs factories nested segment a := by
  obtain ⟨name, named, behind⟩ := ok_of_bind done
  dsimp only at behind
  split at behind
  · obtain ⟨value, given, same⟩ := ok_of_bind behind
    cases same
    exact .literal cut (resolves_of_unescape named) (resolves_of_unescape given)
  · obtain ⟨inner, read, same⟩ := ok_of_bind behind
    split at same
    · cases same
      exact .nested cut (resolves_of_unescape named) read
    · cases same
    · rename_i other something
      cases same
      exact .group cut (resolves_of_unescape named) read something other

theorem conversion_with_option_read (cut : findBare kind segment = some ⟨head, mark, rest⟩)
    (done : conversionWithOption segment head rest = .ok a) :
    ReadAs factories nested segment a := by
  have chosen {slice : List Char} {option : Option (List Char)}
      (done : (do let conversion ← unescape slice
                  if conversion.isEmpty then
                    .error (.unexpected (String.ofList segment) .missingConversionAfterPercent)
                  else
                    let name ← unescape head
                    pure (conversionMember name conversion option)) = .ok a) :
      ∃ name conversion, Resolves id head name ∧ Resolves id slice conversion ∧
        conversion ≠ [] ∧ a = conversionMember name conversion option := by
    obtain ⟨conversion, given, behind⟩ := ok_of_bind done
    split at behind
    · cases behind
    · rename_i present
      obtain ⟨name, named, same⟩ := ok_of_bind behind
      cases same
      exact ⟨name, conversion, resolves_of_unescape named, resolves_of_unescape given,
        by simpa using present, rfl⟩
  unfold conversionWithOption at done
  dsimp only at done
  split at done
  · rename_i tail again
    obtain ⟨option, argument, behind⟩ := ok_of_bind done
    obtain ⟨name, conversion, named, given, present, rfl⟩ := chosen behind
    exact .withOption cut again named given (resolves_of_unescape argument) present
  · obtain ⟨name, conversion, named, given, present, rfl⟩ := chosen done
    exact .conversion cut named given present

theorem segment_read (done : parseSegment factories nested segment = .ok a) :
    ReadAs factories nested segment a := by
  unfold parseSegment at done
  split at done
  · rename_i found led
    obtain ⟨cut, worded⟩ := Option.filter_eq_some_iff.mp led
    obtain ⟨option, given, made⟩ := ok_of_bind done
    have letters : ∀ c ∈ found.head, isWordChar c = true := by
      simpa using (Bool.and_eq_true_iff.mp worded).2
    exact .word cut (resolves_of_unescape (unescape_word found.head letters))
      (resolves_of_unescape given) made
  · split at done
    · obtain ⟨name, named, same⟩ := ok_of_bind done
      cases same
      exact .bare (resolves_of_unescape named)
    · rename_i head operator rest cut
      split at done
      · exact named_conversion_read cut done
      · exact assignment_read cut done
      · exact template_read cut done
      · exact conversion_with_option_read cut done
      · obtain ⟨name, named, behind⟩ := ok_of_bind done
        obtain ⟨option, given, made⟩ := ok_of_bind behind
        exact .word cut (resolves_of_unescape named) (resolves_of_unescape given) made

end

end LogLayout.Spec
