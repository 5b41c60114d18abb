import LogLayout.Conversion.Builtin
import LogLayout.Proofs.Template.Grammar

/- What a compiled template reads off an event: its characters as they are, a percent sign for each
   doubled one, and for each directive the text of its conversion, filled up with blanks. The first
   directive that gives no text decides about the error. -/
namespace LogLayout.Template

namespace Directive

inductive Yields (conversions : Registry) (e : Event) (d : Directive) : List Char → Prop
  | nothing {conversion : Conversion}
      (held : conversions.get? (String.ofList d.name) = some conversion)
      (given : conversion e (d.option.map String.ofList) = .ok none) : Yields conversions e d []
  | value {conversion : Conversion} {value : Datum} {text : String}
      (held : conversions.get? (String.ofList d.name) = some conversion)
      (given : conversion e (d.option.map String.ofList) = .ok (some value))
      (shown : value.display = some text) : Yields conversions e d text.toList

inductive Fails (conversions : Registry) (e : Event) (d : Directive) : ReadError → Prop
  | refused {conversion : Conversion} {failure : ConversionError}
      (held : conversions.get? (String.ofList d.name) = some conversion)
      (given : conversion e (d.option.map String.ofList) = .error failure) :
      Fails conversions e d (.conversion failure)
  | textless {conversion : Conversion} {value : Datum}
      (held : conversions.get? (String.ofList d.name) = some conversion)
      (given : conversion e (d.option.map String.ofList) = .ok (some value))
      (textless : value.display = none) : Fails conversions e d .abort

/-- Blanks make up for the width, on the right if the directive has a minus sign. -/
def padded (d : Directive) (text : List Char) : List Char :=
  let blanks := List.replicate (max d.width text.length - text.length) ' '
  if d.alignLeft then text ++ blanks else blanks ++ text

end Directive

def Piece.meaning (texts : Directive → List Char) : Piece → List Char
  | .char c => [c]
  | .percent => ['%']
  | .directive d => d.padded (texts d)

section

variable {conversions : Registry} {e : Event} {d : Directive}

theorem render_of_yields {text : List Char} (yields : d.Yields conversions e text) :
    d.field.render conversions e = .ok (d.padded text) := by
  have fill (cs : List Char) : d.field.pad cs = d.padded cs := by
    have blanks : d.width - cs.length = max d.width cs.length - cs.length := by omega
    simp [Field.pad, Directive.padded, Directive.field, blanks]
  cases yields with
  | nothing held given => simp [Field.render, Directive.field, held, given, ← fill]
  | value held given shown => simp [Field.render, Directive.field, held, given, shown, ← fill]

theorem render_of_fails {error : ReadError} (fails : d.Fails conversions e error) :
    d.field.render conversions e = .error error := by
  cases fails with
  | refused held given => simp [Field.render, Directive.field, held, given]
  | textless held given textless => simp [Field.render, Directive.field, held, given, textless]

theorem yields_or_fails (known : conversions.contains (String.ofList d.name) = true) (e : Event) :
    (∃ text, d.Yields conversions e text) ∨ ∃ error, d.Fails conversions e error := by
  obtain ⟨conversion, held⟩ := Option.isSome_iff_exists.mp known
  cases given : conversion e (d.option.map String.ofList) with
  | error failure => exact Or.inr ⟨_, .refused held given⟩
  | ok value =>
    cases value with
    | none => exact Or.inl ⟨_, .nothing held given⟩
    | some value =>
      cases shown : value.display with
      | none => exact Or.inr ⟨_, .textless held given shown⟩
      | some text => exact Or.inl ⟨_, .value held given shown⟩

theorem render_error_iff {p : Piece} (sound : p.Sound conversions.contains) {error : ReadError} :
    p.segment.render conversions e = .error error ↔
      ∃ d, p = .directive d ∧ d.Fails conversions e error := by
  cases p with
  | char c => exact ⟨by rintro ⟨⟩, by rintro ⟨_, ⟨⟩, _⟩⟩
  | percent => exact ⟨by rintro ⟨⟩, by rintro ⟨_, ⟨⟩, _⟩⟩
  | directive d =>
    constructor
    · intro refused
      rcases yields_or_fails sound.known e with ⟨text, yields⟩ | ⟨other, fails⟩
      · cases (render_of_yields yields).symm.trans refused
      · cases (render_of_fails fails).symm.trans refused
        exact ⟨d, rfl, fails⟩
    · rintro ⟨_, ⟨⟩, fails⟩
      exact render_of_fails fails

theorem render_ok_iff {p : Piece} (sound : p.Sound conversions.contains) :
    (∃ text, p.segment.render conversions e = .ok text) ↔
      ∀ d, p = .directive d → ∃ text, d.Yields conversions e text := by
  cases p with
  | char c => exact ⟨fun _ => nofun, fun _ => ⟨_, rfl⟩⟩
  | percent => exact ⟨fun _ => nofun, fun _ => ⟨_, rfl⟩⟩
  | directive d =>
    constructor
    · rintro ⟨text, read⟩ _ ⟨⟩
      rcases yields_or_fails sound.known e with yields | ⟨_, fails⟩
      · exact yields
      · cases (render_of_fails fails).symm.trans read
    · intro passes
      obtain ⟨text, yields⟩ := passes d rfl
      exact ⟨_, render_of_yields yields⟩

theorem not_fails_of_yields {text : List Char} {error : ReadError}
    (yields : d.Yields conversions e text) : ¬ d.Fails conversions e error := by
  intro fails
  cases (render_of_yields yields).symm.trans (render_of_fails fails)

theorem yields_unique {text other : List Char} (yields : d.Yields conversions e text)
    (again : d.Yields conversions e other) : text = other := by
  cases yields with
  | nothing held given =>
    cases again with
    | nothing => rfl
    | value held' given' =>
      cases held.symm.trans held'
      cases given.symm.trans given'
  | value held given shown =>
    cases again with
    | nothing held' given' =>
      cases held.symm.trans held'
      cases given.symm.trans given'
    | value held' given' shown' =>
      cases held.symm.trans held'
      cases given.symm.trans given'
      cases shown.symm.trans shown'
      rfl

end

section

variable {conversions : Registry} {template : String} {pieces : List Piece} {get : Getter}

theorem compile_form (form : Form template pieces)
    (sound : ∀ p ∈ pieces, p.Sound conversions.contains) :
    compile template conversions = .ok fun e =>
      (renderAll conversions e (pieces.map Piece.segment)).map fun cs =>
        some (.text (String.ofList cs)) := by
  rw [compile, read_form form sound]
  rfl

theorem form_of_compiled (done : compile template conversions = .ok get) :
    ∃ pieces, Form template pieces ∧ ∀ p ∈ pieces, p.Sound conversions.contains := by
  rcases written_or_faulty conversions.contains 0 template.toList with
    ⟨pieces, whole, stand, sound⟩ | ⟨error, fault⟩
  · exact ⟨pieces, ⟨stand, whole⟩, sound⟩
  · rw [compile, read, read_first_fault fault] at done
    cases done

theorem sound_of_compiled (done : compile template conversions = .ok get)
    (form : Form template pieces) : ∀ p ∈ pieces, p.Sound conversions.contains := by
  obtain ⟨others, written, sound⟩ := form_of_compiled done
  have same := written_unique form.stand written.stand (form.whole.symm.trans written.whole)
  rwa [same]

theorem compile_error_iff {error : TemplateError} :
    compile template conversions = .error error ↔
      FirstFault conversions.contains 0 template.toList error := by
  rw [compile, map_error_iff]
  constructor
  · intro refused
    rcases written_or_faulty conversions.contains 0 template.toList with
      ⟨pieces, whole, stand, sound⟩ | ⟨other, fault⟩
    · rw [read_form ⟨stand, whole⟩ sound] at refused
      cases refused
    · have found : read conversions.contains template = .error other := read_first_fault fault
      cases found.symm.trans refused
      exact fault
  · exact read_first_fault

theorem render_all_yields {e : Event} {texts : Directive → List Char}
    (yields : ∀ d, .directive d ∈ pieces → d.Yields conversions e (texts d)) :
    renderAll conversions e (pieces.map Piece.segment) =
      .ok (pieces.flatMap (Piece.meaning texts)) := by
  have each : (pieces.map Piece.segment).map (Segment.render conversions e) =
      (pieces.map (Piece.meaning texts)).map .ok := by
    rw [List.map_map, List.map_map, List.map_inj_left]
    intro p held
    cases p with
    | char c => rfl
    | percent => rfl
    | directive d => exact render_of_yields (yields d held)
  rw [renderAll, map_m_ok each]
  simp [Except.map, List.flatMap]

/-- A template refuses an event as the first directive does that gives no text. -/
theorem get_error_iff (done : compile template conversions = .ok get) (form : Form template pieces)
    (e : Event) (error : ReadError) :
    get e = .error error ↔ ∃ before d after, pieces = before ++ .directive d :: after ∧
      (∀ g, .directive g ∈ before → ∃ text, g.Yields conversions e text) ∧
      d.Fails conversions e error := by
  have sound := sound_of_compiled done form
  rw [compile_form form sound] at done
  cases done
  rw [map_error_iff, renderAll, map_error_iff, List.mapM_map, map_m_error_iff]
  constructor
  · rintro ⟨before, p, after, rfl, passed, refused⟩
    obtain ⟨d, rfl, fails⟩ := (render_error_iff (sound p (by simp))).mp refused
    refine ⟨before, d, after, rfl, fun g held => ?_, fails⟩
    exact (render_ok_iff (sound _ (List.mem_append_left _ held))).mp (passed _ held) g rfl
  · rintro ⟨before, d, after, rfl, passed, fails⟩
    refine ⟨before, .directive d, after, rfl, fun p held => ?_, render_of_fails fails⟩
    refine (render_ok_iff (sound p (List.mem_append_left _ held))).mpr ?_
    rintro g rfl
    exact passed g held

theorem get_yields (done : compile template conversions = .ok get) (form : Form template pieces)
    {e : Event} {texts : Directive → List Char}
    (yields : ∀ d, .directive d ∈ pieces → d.Yields conversions e (texts d)) :
    get e = .ok (some (.text (String.ofList (pieces.flatMap (Piece.meaning texts))))) := by
  rw [compile_form form (sound_of_compiled done form)] at done
  cases done
  exact congrArg _ (render_all_yields yields)

theorem meaning_congr {texts others : Directive → List Char}
    (same : ∀ d, .directive d ∈ pieces → texts d = others d) :
    pieces.flatMap (Piece.meaning texts) = pieces.flatMap (Piece.meaning others) := by
  refine congrArg List.flatten (List.map_inj_left.mpr ?_)
  intro p held
  cases p with
  | char c => rfl
  | percent => rfl
  | directive d => exact congrArg d.padded (same d held)

theorem texts_of_directives {e : Event} (sound : ∀ p ∈ pieces, p.Sound conversions.contains)
    (passes : ∀ d, .directive d ∈ pieces → ∀ error, ¬ d.Fails conversions e error) :
    ∃ texts : Directive → List Char, ∀ d, .directive d ∈ pieces →
      d.Yields conversions e (texts d) := by
  have each (d : Directive) :
      ∃ text, .directive d ∈ pieces → d.Yields conversions e text := by
    by_cases held : .directive d ∈ pieces
    · rcases yields_or_fails (sound (.directive d) held).known e with
        ⟨text, yields⟩ | ⟨error, fails⟩
      · exact ⟨text, fun _ => yields⟩
      · exact absurd fails (passes d held error)
    · exact ⟨[], fun among => absurd among held⟩
  exact ⟨fun d => (each d).choose, fun d => (each d).choose_spec⟩

end

/-- Templates mean what they say. A template compiles if it is written in pieces, with a known name
    and a permitted width in each directive, and only then; otherwise the first fault of the
    leftmost directive that has one is the error. At an event at which no directive fails, each
    gives a text, and the template gives the characters, the percent signs and the padded texts, in
    order. -/
theorem template_compiles_by_grammar (template : String) (conversions : Registry) :
    ((∃ get, compile template conversions = .ok get) ↔
      ∃ pieces, Form template pieces ∧ ∀ p ∈ pieces, p.Sound conversions.contains) ∧
    (∀ error, compile template conversions = .error error ↔
      FirstFault conversions.contains 0 template.toList error) ∧
    ∀ get pieces, compile template conversions = .ok get → Form template pieces →
      ∀ e : Event, (∀ d, .directive d ∈ pieces → ∀ error, ¬ d.Fails conversions e error) →
        ∃ texts : Directive → List Char,
          (∀ d, .directive d ∈ pieces → d.Yields conversions e (texts d)) ∧
          get e = .ok (some (.text (String.ofList (pieces.flatMap (Piece.meaning texts))))) := by
  refine ⟨?_, fun error => compile_error_iff, ?_⟩
  · constructor
    · intro compiled
      obtain ⟨get, done⟩ := compiled
      exact form_of_compiled done
    · intro formed
      obtain ⟨pieces, form, sound⟩ := formed
      exact ⟨_, compile_form form sound⟩
  · intro get pieces done form e passes
    obtain ⟨texts, yields⟩ := texts_of_directives (sound_of_compiled done form) passes
    exact ⟨texts, yields, get_yields done form yields⟩

def environment : Environment := ⟨[], "app", .utc⟩

def plainEvent : Event := .bare environment "hi" [] ⟨0, 0⟩ "INFO" "core" "main"

def paddedLevels : List Piece :=
  [.char 'é', .directive ⟨true, ['6'], "level".toList, none⟩, .char '|', .percent,
    .directive ⟨false, ['0', '0', '7'], "p".toList, some []⟩]

theorem padded_levels_rendered :
    ∃ get, compile "é%-6level|%%%007p\x7b\x7d" (Conversion.builtins environment) = .ok get ∧
      get plainEvent = .ok (some (.text "éINFO  |%   INFO")) := by
  have form : Form "é%-6level|%%%007p\x7b\x7d" paddedLevels := ⟨by decide, by decide⟩
  have held : ∀ name ∈ ["level", "p"], (Conversion.builtins environment).get? name =
      some (Conversion.always fun e => some (.text e.level)) := by
    simp [Conversion.builtins, Conversion.builtinNames, Registry.get_register]
  have directives : ∀ d, .directive d ∈ paddedLevels →
      d.width ≤ maxWidth ∧ String.ofList d.name ∈ ["level", "p"] := by
    simp [paddedLevels, Directive.width, maxWidth]
    decide
  have level : ∀ d, .directive d ∈ paddedLevels →
      d.Yields (Conversion.builtins environment) plainEvent "INFO".toList := by
    intro d member
    exact .value (held _ (directives d member).2) rfl rfl
  have sound : ∀ p ∈ paddedLevels, p.Sound (Conversion.builtins environment).contains := by
    intro p member
    cases p with
    | char c => trivial
    | percent => trivial
    | directive d =>
      obtain ⟨fits, among⟩ := directives d member
      exact ⟨fits, by rw [Registry.contains, held _ among]; rfl⟩
  obtain ⟨accepts, _, means⟩ :=
    template_compiles_by_grammar "é%-6level|%%%007p\x7b\x7d" (Conversion.builtins environment)
  obtain ⟨get, done⟩ := accepts.mpr ⟨paddedLevels, form, sound⟩
  refine ⟨get, done, ?_⟩
  obtain ⟨texts, yields, read⟩ := means get paddedLevels done form plainEvent
    fun d member error => not_fails_of_yields (level d member)
  have same : paddedLevels.flatMap (Piece.meaning texts) =
      paddedLevels.flatMap (Piece.meaning fun _ => "INFO".toList) := by
    refine meaning_congr ?_
    intro d member
    exact yields_unique (yields d member) (level d member)
  rw [read, same]
  rfl

end LogLayout.Template
