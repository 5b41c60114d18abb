import LogLayout.Layout.Report
import LogLayout.Proofs.Normalize.Depth
import LogLayout.Proofs.Template.Meaning

/- Values without a text. A part whose text cannot be produced leaves a mapping or a sequence
   without one, however deep it lies. A template that is given such a value comes to a stop: it has
   neither a text nor an error for the event, and nothing is reported. The normaliser goes through
   the same parts and refuses the value. -/
namespace LogLayout

namespace Datum

/-- The values whose texts are parts of the text. An object has a text of its own. -/
def spelt : Datum → List Datum
  | .map entries => entries.map Prod.snd
  | .seq items => items
  | _ => []

/-- The text cannot be produced, be it of the value or of one inside its mappings and sequences. -/
def Textless (d : Datum) : Prop :=
  ∃ path description, NodeAt spelt d path (.unshowable description)

theorem textless_iff {d : Datum} : d.Textless ↔
    (∃ description, d = .unshowable description) ∨ ∃ part ∈ d.spelt, part.Textless := by
  constructor
  · intro textless
    obtain ⟨path, description, found⟩ := textless
    cases found with
    | root => exact Or.inl ⟨description, rfl⟩
    | within held inside =>
      exact Or.inr ⟨_, List.mem_of_getElem? held, _, description, inside⟩
  · intro cause
    rcases cause with ⟨description, rfl⟩ | ⟨part, member, path, description, inside⟩
    · exact ⟨[], description, .root⟩
    · obtain ⟨i, held⟩ := List.mem_iff_getElem?.mp member
      exact ⟨i :: path, description, .within held inside⟩

theorem both_or_none {x : Option α} {y : Option β} {f : α → β → γ} :
    (do
      let a ← x
      let b ← y
      pure (f a b)) = none ↔ x = none ∨ y = none := by
  cases x with
  | none => simp
  | some a => cases y <;> simp

mutual
theorem display_none_iff (d : Datum) : d.display = none ↔ d.Textless := by
  rw [textless_iff]
  match d with
  | .map entries =>
    simp [display, spelt, display_entries_none_iff entries]
  | .seq items =>
    simp [display, spelt, display_items_none_iff items]
  | .unshowable _ => simp [display]
  | .null | .enclosing _ | .text _ | .symbol _ | .uri _ | .shown _ | .moment _ | .span _ | .char _
  | .chars _ | .byte _ | .bytes _ | .int _ | .uint _ | .float _ | .bool _ | .uuid _ | .stack _
  | .object _ _ _ => simp [display, spelt]

theorem display_entries_none_iff (entries : List (String × Datum)) :
    displayEntries entries = none ↔ ∃ part ∈ entries.map Prod.snd, part.Textless := by
  match entries with
  | [] => simp [displayEntries]
  | (key, d) :: rest =>
    rw [displayEntries, both_or_none, display_none_iff d, display_entries_none_iff rest]
    simp

theorem display_items_none_iff (items : List Datum) :
    displayItems items = none ↔ ∃ part ∈ items, part.Textless := by
  match items with
  | [] => simp [displayItems]
  | d :: rest =>
    rw [displayItems, both_or_none, display_none_iff d, display_items_none_iff rest]
    simp
end

example (description : String) : display (.seq [.text "a", .unshowable description]) = none := rfl

theorem part_of_spelt {d part : Datum} {i : Nat} (held : d.spelt[i]? = some part) :
    d.parts[i]? = some part := by
  cases d with
  | map | seq => exact held
  | _ => cases held

theorem node_of_spelt {d x : Datum} {path : List Nat} (found : NodeAt spelt d path x) :
    NodeAt parts d path x := by
  induction found with
  | root => exact .root
  | within held inside ih => exact .within (part_of_spelt held) ih

end Datum

namespace Normalizer

theorem textless_refused (n : Normalizer) {d : Datum} (textless : d.Textless) :
    ∃ failure, n.normalize d = .error failure ∧
      ((∀ path x, NodeAt Datum.parts d path x → path.length ≤ n.maxDepth) →
        ∃ description, failure = .unshowable description) := by
  obtain ⟨path, description, found⟩ := textless
  cases done : n.levels (n.maxDepth + 1) d with
  | ok value =>
    have clear := levels_ok_iff.mp ⟨value, done⟩ path _ (Datum.node_of_spelt found)
    exact absurd (Or.inr ⟨description, rfl⟩) clear
  | error failure =>
    refine ⟨failure, by rw [normalize, map_error_iff, nested, done], ?_⟩
    intro flat
    obtain ⟨place, x, first, reports⟩ := first_offence_of_error done
    rcases reports with ⟨deep, _⟩ | ⟨_, described, _, same⟩
    · have := flat place x first.node
      omega
    · exact ⟨described, same⟩

end Normalizer

namespace Template

def Directive.Gives (conversions : Registry) (e : Event) (d : Directive) (value : Datum) : Prop :=
  ∃ conversion, conversions.get? (String.ofList d.name) = some conversion ∧
    conversion e (d.option.map String.ofList) = .ok (some value)

theorem fails_abort_iff {conversions : Registry} {e : Event} {d : Directive} :
    d.Fails conversions e .abort ↔ ∃ value, d.Gives conversions e value ∧ value.Textless := by
  constructor
  · intro fails
    cases fails with
    | textless held given textless =>
      exact ⟨_, ⟨_, held, given⟩, (Datum.display_none_iff _).mp textless⟩
  · intro stopped
    obtain ⟨value, ⟨conversion, held, given⟩, textless⟩ := stopped
    exact .textless held given ((Datum.display_none_iff value).mpr textless)

section

variable {conversions : Registry} {template : String} {pieces : List Piece} {get : Getter}

theorem get_abort_iff (done : compile template conversions = .ok get) (form : Form template pieces)
    (e : Event) :
    get e = .error .abort ↔ ∃ before d after value, pieces = before ++ .directive d :: after ∧
      (∀ g, .directive g ∈ before → ∃ text, g.Yields conversions e text) ∧
      d.Gives conversions e value ∧ value.Textless := by
  rw [get_error_iff done form]
  simp only [fails_abort_iff]
  constructor
  · intro stopped
    obtain ⟨before, d, after, whole, passed, value, given⟩ := stopped
    exact ⟨before, d, after, value, whole, passed, given⟩
  · intro stopped
    obtain ⟨before, d, after, value, whole, passed, given⟩ := stopped
    exact ⟨before, d, after, whole, passed, value, given⟩

theorem text_or_error (done : compile template conversions = .ok get) (e : Event) :
    (∃ text, get e = .ok (some (.text text))) ∨ ∃ error, get e = .error error := by
  obtain ⟨segments, _, rfl⟩ := ok_of_map done
  cases rendered : renderAll conversions e segments with
  | error error =>
    refine Or.inr ⟨error, ?_⟩
    simp only [rendered]
    rfl
  | ok text =>
    refine Or.inl ⟨String.ofList text, ?_⟩
    simp only [rendered]
    rfl

end

/-- A template stops at an event if the first directive that gives no text is given a value without
    one, and only then; otherwise it gives a text or the error of a conversion. A slot takes the
    text, or reports the error and goes on with the property of its name; when the template stops,
    it does neither. The normaliser gives an error for each such value. -/
theorem templates_stop_at_textless_values (template : String) (conversions : Registry)
    (pieces : List Piece) (get : Getter) (done : compile template conversions = .ok get)
    (form : Form template pieces) (e : Event) :
    (get e = .error .abort ↔ ∃ before d after value, pieces = before ++ .directive d :: after ∧
      (∀ g, .directive g ∈ before → ∃ text, g.Yields conversions e text) ∧
      d.Gives conversions e value ∧ value.Textless) ∧
    (get e = .error .abort ∨ (∃ text, get e = .ok (some (.text text))) ∨
      ∃ failure, get e = .error (.conversion failure)) ∧
    (∀ path name j,
      (get e = .error .abort → ((Slot.getter name get).watch e path).start j = (none, j)) ∧
      (∀ text, get e = .ok (some (.text text)) →
        ((Slot.getter name get).watch e path).start j = (some (some (.text text)), j)) ∧
      ∀ failure, get e = .error (.conversion failure) →
        ((Slot.getter name get).watch e path).start j =
          (some (propertyNamed e name), j.note (path, .failedRead name failure))) ∧
    ∀ (n : Normalizer) (value : Datum), value.Textless →
      ∃ failure, n.normalize value = .error failure ∧
        ((∀ path x, NodeAt Datum.parts value path x → path.length ≤ n.maxDepth) →
          ∃ description, failure = .unshowable description) := by
  refine ⟨get_abort_iff done form e, ?_, ?_, fun n value textless => n.textless_refused textless⟩
  · rcases text_or_error done e with text | ⟨error, refused⟩
    · exact Or.inr (Or.inl text)
    · cases error with
      | conversion failure => exact Or.inr (Or.inr ⟨failure, refused⟩)
      | abort => exact Or.inl refused
  · intro path name j
    refine ⟨?_, ?_, ?_⟩
    · intro stopped
      simp only [Slot.watch, stopped]
      rfl
    · intro text given
      simp only [Slot.watch, given]
      rfl
    · intro failure refused
      simp only [Slot.watch, refused]
      rfl

def objectAlone : List Piece := [.directive ⟨false, [], "messageobject".toList, none⟩]

def eventWith (object : Datum) : Event := { plainEvent with object := some object }

theorem object_alone_form : Form "%messageobject" objectAlone := ⟨by decide, by decide⟩

theorem object_given (object : Datum) :
    Directive.Gives (Conversion.builtins environment) (eventWith object)
      ⟨false, [], "messageobject".toList, none⟩ object := by
  refine ⟨Conversion.always fun e => some (e.object.getD (.text e.message)), ?_, rfl⟩
  simp [Conversion.builtins, Conversion.builtinNames, Registry.get_register]

theorem object_alone_compiles :
    ∃ get, compile "%messageobject" (Conversion.builtins environment) = .ok get := by
  refine ⟨_, compile_form object_alone_form ?_⟩
  intro p member
  obtain rfl := List.mem_singleton.mp member
  obtain ⟨conversion, held, _⟩ := object_given .null
  exact ⟨by decide, by rw [Registry.contains, held]; rfl⟩

theorem textless_entry_stops_the_slot :
    ∃ get, compile "%messageobject" (Conversion.builtins environment) = .ok get ∧
      ∀ j, ((Slot.getter "x" get).watch
        (eventWith (.map [("a", .seq [.null, .unshowable "Broken"])])) []).start j = (none, j) := by
  obtain ⟨get, done⟩ := object_alone_compiles
  refine ⟨get, done, fun j => ?_⟩
  obtain ⟨stops, _, slot, _⟩ := templates_stop_at_textless_values "%messageobject"
    (Conversion.builtins environment) objectAlone get done object_alone_form
    (eventWith (.map [("a", .seq [.null, .unshowable "Broken"])]))
  refine (slot [] "x" j).1 (stops.mpr ⟨[], _, [], _, rfl, by simp, object_given _, ?_⟩)
  exact ⟨[0, 1], "Broken", .within rfl (.within rfl .root)⟩

theorem unshowable_object_stops :
    ∃ get, compile "%messageobject" (Conversion.builtins environment) = .ok get ∧
      get (eventWith (.unshowable "Broken")) = .error .abort ∧
      ({} : Normalizer).normalize (.unshowable "Broken") = .error (.unshowable "Broken") := by
  obtain ⟨get, done⟩ := object_alone_compiles
  refine ⟨get, done, ?_, rfl⟩
  rw [get_abort_iff done object_alone_form]
  exact ⟨[], _, [], _, rfl, by simp, object_given _, [], "Broken", .root⟩

end Template

end LogLayout
