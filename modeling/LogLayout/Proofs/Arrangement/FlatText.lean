import Mathlib
import LogLayout.Proofs.Arrangement.Scanning
import LogLayout.Proofs.Outcome

/- Text without nesting. Each kind of segment is written with its names, values and options
   escaped; what is read from such segments, joined by semicolons, is what they were written for. -/
namespace LogLayout.Spec

inductive Item where
  | conversion (name kind : String)
  | literal (name value : String)
  | template (name body : String)
  | percent (name kind : String)
  | percentOption (name kind option : String)
  | removal (pattern : String)
  | preset (key : String)
  | made (factory option : String)
  deriving DecidableEq, Repr

def removalWord : List Char := ['R', 'E', 'M', 'O', 'V', 'E']

def presetWord : List Char := ['D', 'E', 'F', 'A', 'U', 'L', 'T']

namespace Item

def text : Item → List Char
  | .conversion name kind => escaped name ++ ':' :: escaped kind
  | .literal name value => escaped name ++ '=' :: escaped value
  | .template name body => escaped name ++ '|' :: escaped body
  | .percent name kind => escaped name ++ '%' :: escaped kind
  | .percentOption name kind option =>
    escaped name ++ '%' :: (escaped kind ++ ':' :: escaped option)
  | .removal pattern => removalWord ++ '!' :: escaped pattern
  | .preset key => presetWord ++ '!' :: escaped key
  | .made factory option => factory.toList ++ '!' :: escaped option

/-- What may be written: the parts that must not be empty are not, patterns are valid, and
    factories are known by words that are not reserved. -/
def Admissible (factories : Factories) : Item → Prop
  | .conversion _ kind | .percent _ kind => kind ≠ ""
  | .literal _ _ | .template _ _ | .percentOption _ _ _ => True
  | .removal pattern => pattern ≠ "" ∧ ∃ p, NamePattern.ofText pattern = .ok p
  | .preset key => key ≠ ""
  | .made factory _ => isWord factory.toList = true ∧
    factory ∉ ["CLEAR", "REMOVE", "DEFAULT"] ∧ (Keyed.get? factory factories).isSome = true

/-- A factory may refuse its option, and a conversion after a percent sign needs a name. -/
def Accepted (factories : Factories) : Item → Prop
  | .percentOption _ kind _ => kind ≠ ""
  | .made factory option =>
    ∃ make a, Keyed.get? factory factories = some make ∧ make option = .ok a
  | _ => True

def meaning? (factories : Factories) : Item → Option Arrangement
  | .conversion name kind | .percent name kind =>
    some (.member (.mk name (.conversion kind none)))
  | .percentOption name kind option =>
    some (.member (.mk name (.conversion kind (some option))))
  | .literal name value => some (.member (.mk name (.literal value)))
  | .template name body => some (.member (.mk name (.template body)))
  | .removal pattern => (NamePattern.ofText pattern).toOption.map fun p => .removal (some p)
  | .preset key => some (.preset (some key))
  | .made factory option =>
    (Keyed.get? factory factories).bind fun make => (make option).toOption

end Item

section
variable (factories : Factories) (nested : List Char → Except SpecError Arrangement)

theorem parse_conversion (name kind : String) (present : kind ≠ "") :
    parseSegment factories nested (escaped name ++ ':' :: escaped kind) =
      .ok (.member (.mk name (.conversion kind none))) := by
  obtain ⟨unled, found⟩ := find_operator name ':' (escaped kind) (by decide)
    (no_mark '!' (by decide) kind)
  have filled : (escaped kind).isEmpty = false := by
    rw [← Bool.not_eq_true, escaped_is_empty]
    exact present
  rw [parseSegment, unled, found]
  simp [namedConversion, filled, no_operator, unescape_escaped, bind, Except.bind, pure,
    Except.pure, conversionMember]

theorem parse_literal (name value : String) :
    parseSegment factories nested (escaped name ++ '=' :: escaped value) =
      .ok (.member (.mk name (.literal value))) := by
  obtain ⟨unled, found⟩ := find_operator name '=' (escaped value) (by decide)
    (no_mark '!' (by decide) value)
  rw [parseSegment, unled, found]
  simp [assignment, no_operator, unescape_escaped, bind, Except.bind, pure, Except.pure]

theorem parse_template (name body : String) :
    parseSegment factories nested (escaped name ++ '|' :: escaped body) =
      .ok (.member (.mk name (.template body))) := by
  obtain ⟨unled, found⟩ := find_operator name '|' (escaped body) (by decide)
    (no_mark '!' (by decide) body)
  rw [parseSegment, unled, found]
  simp [templateMember, unescape_escaped, unescape_template_escaped, bind, Except.bind, pure,
    Except.pure]

theorem parse_percent (name kind : String) (present : kind ≠ "") :
    parseSegment factories nested (escaped name ++ '%' :: escaped kind) =
      .ok (.member (.mk name (.conversion kind none))) := by
  obtain ⟨unled, found⟩ := find_operator name '%' (escaped kind) (by decide)
    (no_mark '!' (by decide) kind)
  rw [parseSegment, unled, found]
  simp [conversionWithOption, no_mark ':' (by decide), unescape_escaped, bind, Except.bind, pure,
    Except.pure, conversionMember, present]

theorem find_option (kind option : String) :
    findBare (· == ':') (escaped kind ++ ':' :: escaped option) =
      some ⟨escaped kind, ':', escaped option⟩ :=
  find_at _ (mark_special ':' (by decide)) kind.toList ':' (escaped option) (by decide) (by decide)

theorem no_mark_in_option (kind option : String) :
    findBare (· == '!') (escaped kind ++ ':' :: escaped option) = none := by
  rw [escaped, find_behind_escape _ (mark_special '!' (by decide)), find_plain _ _ _ (by decide)]
  simp [no_mark '!' (by decide)]

theorem parse_percent_option (name kind option : String) (present : kind ≠ "") :
    parseSegment factories nested
        (escaped name ++ '%' :: (escaped kind ++ ':' :: escaped option)) =
      .ok (.member (.mk name (.conversion kind (some option)))) := by
  obtain ⟨unled, found⟩ := find_operator name '%' (escaped kind ++ ':' :: escaped option)
    (by decide) (no_mark_in_option kind option)
  rw [parseSegment, unled, found]
  simp [conversionWithOption, find_option, unescape_escaped, bind, Except.bind, pure, Except.pure,
    conversionMember, present]

theorem parse_nameless_percent (name option : String) :
    parseSegment factories nested (escaped name ++ '%' :: (escaped "" ++ ':' :: escaped option)) =
      .error (.unexpected
        (String.ofList (escaped name ++ '%' :: (escaped "" ++ ':' :: escaped option)))
        .missingConversionAfterPercent) := by
  obtain ⟨unled, found⟩ := find_operator name '%' (escaped "" ++ ':' :: escaped option)
    (by decide) (no_mark_in_option "" option)
  rw [parseSegment, unled, found]
  simp [conversionWithOption, find_option, unescape_escaped, bind, Except.bind, pure, Except.pure]

theorem parse_word (name : List Char) (option : String) (named : isWord name = true) :
    parseSegment factories nested (name ++ '!' :: escaped option) =
      word factories (name ++ '!' :: escaped option) name option.toList := by
  rw [parseSegment, leading_word name (escaped option) named]
  simp [unescape_escaped, bind, Except.bind]

theorem parse_removal (pattern : String) (p : NamePattern) (present : pattern ≠ "")
    (valid : NamePattern.ofText pattern = .ok p) :
    parseSegment factories nested (removalWord ++ '!' :: escaped pattern) =
      .ok (.removal (some p)) := by
  rw [parse_word factories nested _ pattern (by decide)]
  simp [removalWord, word, removal, present, valid]

theorem parse_preset (key : String) (present : key ≠ "") :
    parseSegment factories nested (presetWord ++ '!' :: escaped key) =
      .ok (.preset (some key)) := by
  rw [parse_word factories nested _ key (by decide)]
  simp [presetWord, word, present]

theorem parse_made (factory option : String) (make : Factory)
    (named : isWord factory.toList = true) (free : factory ∉ ["CLEAR", "REMOVE", "DEFAULT"])
    (known : Keyed.get? factory factories = some make) :
    parseSegment factories nested (factory.toList ++ '!' :: escaped option) =
      (make option).mapError (.factory factory) := by
  have filled : factory ≠ "" := by
    rintro rfl
    cases named
  rw [parse_word factories nested _ option named, word]
  split <;> simp_all

theorem parse_item (item : Item) (admissible : item.Admissible factories)
    (accepted : item.Accepted factories) :
    ∃ a, item.meaning? factories = some a ∧ parseSegment factories nested item.text = .ok a := by
  cases item with
  | conversion name kind => exact ⟨_, rfl, parse_conversion factories nested name kind admissible⟩
  | literal name value => exact ⟨_, rfl, parse_literal factories nested name value⟩
  | template name body => exact ⟨_, rfl, parse_template factories nested name body⟩
  | percent name kind => exact ⟨_, rfl, parse_percent factories nested name kind admissible⟩
  | percentOption name kind option =>
    exact ⟨_, rfl, parse_percent_option factories nested name kind option accepted⟩
  | removal pattern =>
    simp only [Item.Admissible] at admissible
    obtain ⟨present, p, valid⟩ := admissible
    refine ⟨_, ?_, parse_removal factories nested pattern p present valid⟩
    simp [Item.meaning?, valid, Except.toOption]
  | preset key => exact ⟨_, rfl, parse_preset factories nested key admissible⟩
  | made factory option =>
    simp only [Item.Admissible] at admissible
    obtain ⟨named, free, _⟩ := admissible
    obtain ⟨make, a, known, made⟩ := accepted
    refine ⟨a, ?_, ?_⟩
    · simp [Item.meaning?, known, made, Except.toOption]
    · rw [Item.text, parse_made factories nested factory option make named free known, made]
      rfl

theorem parse_refused_item (item : Item) (admissible : item.Admissible factories)
    (refused : ¬item.Accepted factories) :
    ∃ failure, parseSegment factories nested item.text = .error failure := by
  cases item with
  | percentOption name kind option =>
    obtain rfl : kind = "" := Classical.not_not.mp refused
    exact ⟨_, parse_nameless_percent factories nested name option⟩
  | made factory option =>
    simp only [Item.Admissible] at admissible
    obtain ⟨named, free, registered⟩ := admissible
    obtain ⟨make, known⟩ := Option.isSome_iff_exists.mp registered
    rw [Item.text, parse_made factories nested factory option make named free known]
    cases made : make option with
    | error message => exact ⟨_, rfl⟩
    | ok a => exact absurd ⟨make, a, known, made⟩ refused
  | conversion | literal | template | percent | removal | preset => exact absurd trivial refused

end

theorem unsplit_word (cs : List Char) (word : ∀ c ∈ cs, isWordChar c = true) : Unsplit cs := by
  induction cs with
  | nil => exact unsplit_nothing
  | cons c cs ih =>
    obtain ⟨plain, _, inside⟩ := word_char_plain c (word c (by simp))
    exact unsplit_cons plain inside (ih fun d member => word d (by simp [member]))

theorem item_unsplit (factories : Factories) (item : Item) (admissible : item.Admissible factories) :
    Unsplit item.text := by
  have escaped_unsplit (s : String) : Unsplit (escaped s) := unsplit_escape s.toList
  have mark (c : Char) (plain : c ≠ '\\') (inside : c ≠ ';') {head tail : List Char}
      (left : Unsplit head) (right : Unsplit tail) : Unsplit (head ++ c :: tail) :=
    unsplit_append left (unsplit_cons plain inside right)
  cases item with
  | conversion | literal | template | percent =>
    exact mark _ (by decide) (by decide) (escaped_unsplit _) (escaped_unsplit _)
  | percentOption =>
    exact mark _ (by decide) (by decide) (escaped_unsplit _)
      (mark _ (by decide) (by decide) (escaped_unsplit _) (escaped_unsplit _))
  | removal | preset =>
    exact mark _ (by decide) (by decide) (unsplit_word _ (List.all_eq_true.mp (by decide)))
      (escaped_unsplit _)
  | made factory option =>
    simp only [Item.Admissible] at admissible
    obtain ⟨named, _⟩ := admissible
    have wordChars : ∀ c ∈ factory.toList, isWordChar c = true := by
      simpa using (Bool.and_eq_true_iff.mp named).2
    exact mark _ (by decide) (by decide) (unsplit_word _ wordChars) (escaped_unsplit _)

theorem item_operator (item : Item) : ∃ c ∈ item.text, isOperator c = true := by
  cases item with
  | conversion => exact ⟨':', by simp [Item.text], by decide⟩
  | literal => exact ⟨'=', by simp [Item.text], by decide⟩
  | template => exact ⟨'|', by simp [Item.text], by decide⟩
  | percent | percentOption => exact ⟨'%', by simp [Item.text], by decide⟩
  | removal | preset | made => exact ⟨'!', by simp [Item.text], by decide⟩

def flatText (items : List Item) : String := String.ofList (joined (items.map Item.text))

theorem parse_flat (factories : Factories) (items : List Item)
    (admissible : ∀ item ∈ items, item.Admissible factories)
    (solid : ∀ item ∈ items, Text.Solid item.text) :
    ∃ nested, parse factories (flatText items) =
      (items.mapM fun item => parseSegment factories nested item.text).map .ofList := by
  have unsplit : ∀ t ∈ items.map Item.text, Unsplit t := by
    intro t member
    obtain ⟨item, inside, rfl⟩ := List.mem_map.mp member
    exact item_unsplit factories item (admissible item inside)
  have solid_texts : ∀ t ∈ items.map Item.text, Text.Solid t := by
    intro t member
    obtain ⟨item, inside, rfl⟩ := List.mem_map.mp member
    exact solid item inside
  have present : ∀ t ∈ items.map Item.text, t ≠ [] := by
    intro t member
    obtain ⟨item, _, rfl⟩ := List.mem_map.mp member
    obtain ⟨c, inside, _⟩ := item_operator item
    exact List.ne_nil_of_mem inside
  have long (item : Item) : shorthand item.text = item.text := by
    obtain ⟨c, inside, operator⟩ := item_operator item
    exact shorthand_of_operator item.text c operator inside
  refine ⟨parseInner factories (joined (items.map Item.text)).length, ?_⟩
  rw [flatText, parse_joined factories _ unsplit solid_texts present, List.mapM_map]
  simp only [Function.comp_def, long]

theorem accepted_items (factories : Factories) (nested : List Char → Except SpecError Arrangement)
    (items : List Item) (admissible : ∀ item ∈ items, item.Admissible factories)
    (accepted : ∀ item ∈ items, item.Accepted factories) :
    ∃ as : List Arrangement, items.map (Item.meaning? factories) = as.map some ∧
      items.map (fun item => parseSegment factories nested item.text) = as.map .ok := by
  induction items with
  | nil => exact ⟨[], rfl, rfl⟩
  | cons item items ih =>
    obtain ⟨a, meaning, read⟩ := parse_item factories nested item (admissible item (by simp))
      (accepted item (by simp))
    obtain ⟨as, meanings, reads⟩ := ih (fun i member => admissible i (by simp [member]))
      (fun i member => accepted i (by simp [member]))
    exact ⟨a :: as, by simp [meaning, meanings], by simp [read, reads]⟩

/-- Reading undoes escaping. Text of admissible items that neither begin nor end with a blank is
    read unless a factory refuses its option or a conversion after a percent sign has no name, and
    stands for nothing, for the one item or for exactly these items in order. -/
theorem parse_of_flat_text (factories : Factories) (items : List Item)
    (admissible : ∀ item ∈ items, item.Admissible factories)
    (solid : ∀ item ∈ items, Text.Solid item.text) :
    ((∃ a, parse factories (flatText items) = .ok a) ↔ ∀ item ∈ items, item.Accepted factories) ∧
      ∀ a, parse factories (flatText items) = .ok a →
        ∃ as : List Arrangement, items.map (Item.meaning? factories) = as.map some ∧
          a = match as with
            | [] => .identity
            | [one] => one
            | several => .composite none several := by
  obtain ⟨nested, read⟩ := parse_flat factories items admissible solid
  rw [read]
  by_cases accepted : ∀ item ∈ items, item.Accepted factories
  · obtain ⟨as, meanings, reads⟩ := accepted_items factories nested items admissible accepted
    rw [map_m_ok reads]
    refine ⟨⟨fun _ => accepted, fun _ => ⟨_, rfl⟩⟩, ?_⟩
    rintro a same
    refine ⟨as, meanings, ?_⟩
    rw [← Except.ok.inj same]
    rcases as with _ | ⟨one, _ | ⟨two, others⟩⟩ <;> rfl
  · obtain ⟨item, member, refused⟩ : ∃ item ∈ items, ¬item.Accepted factories := by
      simpa using accepted
    obtain ⟨failure, failed⟩ := parse_refused_item factories nested item (admissible item member)
      refused
    obtain ⟨first, stopped⟩ := map_m_error
      (f := fun item => parseSegment factories nested item.text) member failed
    rw [stopped]
    refine ⟨⟨?_, fun all => absurd all accepted⟩, ?_⟩
    · rintro ⟨a, same⟩
      cases same
    · rintro a same
      cases same

/-- Every part of the item is as it may be, and yet its text is refused. -/
theorem nameless_conversion_refused :
    Item.Admissible [] (.percentOption "n" "" "o") ∧
      Text.Solid (Item.percentOption "n" "" "o").text ∧
      parse [] (flatText [.percentOption "n" "" "o"]) =
        .error (.unexpected "n%:o" .missingConversionAfterPercent) := by
  refine ⟨trivial, ?_, by rfl⟩
  simp [Item.text, escaped, escape, escapeChar, escapable, Text.Solid]
  decide

def tagFactory : Factories := [("app.Tag", fun option => .ok (.deferred option))]

def mixedItems : List Item :=
  [.percentOption "a;b" "c" "", .literal "\\" "(|)", .preset "x=y", .made "app.Tag" "!",
    .removal "^a"]

theorem mixed_text_read : ∃ a, parse tagFactory (flatText mixedItems) = .ok a := by
  have admissible : ∀ item ∈ mixedItems, item.Admissible tagFactory := by
    simp only [mixedItems, List.forall_mem_cons, Item.Admissible]
    refine ⟨trivial, trivial, by decide, ⟨by decide, by decide, rfl⟩, ⟨by decide, _, rfl⟩, by simp⟩
  have solid : ∀ item ∈ mixedItems, Text.Solid item.text := by
    simp [mixedItems, Item.text, escaped, escape, escapeChar, escapable, Text.Solid, removalWord,
      presetWord]
    decide
  have accepted : ∀ item ∈ mixedItems, item.Accepted tagFactory := by
    simp only [mixedItems, List.forall_mem_cons, Item.Accepted]
    refine ⟨by decide, trivial, trivial, ⟨_, _, rfl, rfl⟩, trivial, by simp⟩
  exact (parse_of_flat_text tagFactory mixedItems admissible solid).1.mpr accepted

end LogLayout.Spec
