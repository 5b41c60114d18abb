import LogLayout.Proofs.Template.Meaning

/- Templates put one behind another. The seam changes nothing unless a name at the end of the first
   could go on, or take an option, in the second. Then the values are joined, and the first error in
   order counts. With percent signs doubled any text is a template for itself. -/
namespace LogLayout.Template

def Continues (cs : List Char) : Prop := ∃ c ∈ cs.head?, isNameChar c = true ∨ c = '\x7b'

def EndsOpen (template : String) : Prop :=
  ∃ pieces d, Form template (pieces ++ [.directive d]) ∧ d.option = none

/-- What two readings in a row come to: texts are joined, and the first error stands. -/
inductive InSequence : (first second whole : Except ReadError (Option Datum)) → Prop
  | joined {a b : String} :
      InSequence (.ok (some (.text a))) (.ok (some (.text b))) (.ok (some (.text (a ++ b))))
  | first {failure : ReadError} {second : Except ReadError (Option Datum)} :
      InSequence (.error failure) second (.error failure)
  | second {value : Option Datum} {failure : ReadError} :
      InSequence (.ok value) (.error failure) (.error failure)

theorem continues_append {cs : List Char} (filled : cs ≠ []) (more : List Char) :
    Continues (cs ++ more) ↔ Continues cs := by
  cases cs with
  | nil => exact absurd rfl filled
  | cons c rest => exact Iff.rfl

/-- Where a directive with an option stands does not matter, and one without an option stands
    before any text that does not continue it. -/
theorem stands_before {d : Directive} {behind after : List Char} (stands : d.Stands behind)
    (stops : d.option = none → ¬ Continues after) : d.Stands after where
  named := stands.named
  digits := stands.digits
  closed := stands.closed
  name := by
    refine ⟨stands.name.inside, ?_⟩
    intro c next
    cases given : d.option with
    | some option =>
      have boundary := stands.name.boundary c
      simp only [Directive.optionText, given, Option.elim] at boundary next
      exact boundary next
    | none =>
      have first : c ∈ after.head? := by simpa [Directive.optionText, given] using next
      cases part : isNameChar c with
      | false => rfl
      | true => exact absurd ⟨c, first, Or.inl part⟩ (stops given)
  unopened := by
    intro bare opened
    exact stops bare ⟨_, opened, Or.inr rfl⟩

theorem stops_of_stands {d : Directive} {behind : List Char} (stands : d.Stands behind)
    (bare : d.option = none) : ¬ Continues behind := by
  intro continues
  obtain ⟨c, first, part | rfl⟩ := continues
  · have next : c ∈ (d.optionText ++ behind).head? := by
      simpa [Directive.optionText, bare] using first
    have other := stands.name.boundary c next
    rw [part] at other
    cases other
  · exact stands.unopened bare first

theorem written_filled {p : Piece} {rest : List Piece} : written (p :: rest) ≠ [] := by
  rw [written_cons]
  exact List.append_ne_nil_of_left_ne_nil (text_filled p) _

theorem stand_before {pieces : List Piece} {behind : List Char} (stand : Stand pieces [])
    (stops : ∀ front d, pieces = front ++ [.directive d] → d.option = none → ¬ Continues behind) :
    Stand pieces behind := by
  induction pieces with
  | nil => trivial
  | cons p rest ih =>
    obtain ⟨stands, others⟩ := stand
    rw [List.append_nil] at stands
    refine ⟨?_, ih others ?_⟩
    · cases p with
      | char c => exact stands
      | percent => trivial
      | directive d =>
        refine stands_before stands ?_
        intro bare
        cases rest with
        | nil => exact stops [] d rfl bare
        | cons q more =>
          rw [continues_append written_filled]
          exact stops_of_stands stands bare
    · intro front d whole
      exact stops (p :: front) d (by rw [whole, List.cons_append])

theorem stand_append {front back : List Piece} {behind : List Char}
    (first : Stand front (written back ++ behind)) (second : Stand back behind) :
    Stand (front ++ back) behind := by
  induction front with
  | nil => exact second
  | cons p rest ih =>
    obtain ⟨stands, others⟩ := first
    refine ⟨?_, ih others⟩
    rwa [List.append_eq, written_append, List.append_assoc]

theorem form_append {s t : String} {front back : List Piece} (first : Form s front)
    (second : Form t back) (apart : ¬ EndsOpen s ∨ ¬ Continues t.toList) :
    Form (s ++ t) (front ++ back) where
  whole := by rw [String.toList_append, first.whole, second.whole, written_append]
  stand := by
    refine stand_append ?_ second.stand
    refine stand_before first.stand ?_
    intro before d ends bare
    rw [List.append_nil, ← second.whole]
    rcases apart with closed | stops
    · exact absurd ⟨before, d, ends ▸ first, bare⟩ closed
    · exact stops

theorem render_all_append (conversions : Registry) (e : Event) (front back : List Segment) :
    InSequence
      ((renderAll conversions e front).map fun cs => some (.text (String.ofList cs)))
      ((renderAll conversions e back).map fun cs => some (.text (String.ofList cs)))
      ((renderAll conversions e (front ++ back)).map fun cs =>
        some (.text (String.ofList cs))) := by
  unfold renderAll
  rw [List.mapM_append]
  cases front.mapM (Segment.render conversions e) with
  | error failure => exact .first
  | ok texts =>
    cases back.mapM (Segment.render conversions e) with
    | error failure => exact .second
    | ok others =>
      have same : String.ofList (texts ++ others).flatten =
          String.ofList texts.flatten ++ String.ofList others.flatten := by
        rw [List.flatten_append, String.ofList_append]
      change InSequence (.ok (some (.text _))) (.ok (some (.text _)))
        (.ok (some (.text (String.ofList (texts ++ others).flatten))))
      rw [same]
      exact .joined

theorem texts_in_sequence {a b : String} {whole : Except ReadError (Option Datum)}
    (read : InSequence (.ok (some (.text a))) (.ok (some (.text b))) whole) :
    whole = .ok (some (.text (a ++ b))) := by
  cases read
  rfl

def doubled (text : String) : String :=
  String.ofList (text.toList.flatMap fun c => if c = '%' then ['%', '%'] else [c])

def literal (c : Char) : Piece := if c = '%' then .percent else .char c

theorem literal_text (c : Char) : (literal c).text = if c = '%' then ['%', '%'] else [c] := by
  unfold literal
  split <;> rfl

theorem literal_stands (c : Char) (behind : List Char) : (literal c).Stands behind := by
  unfold literal
  split
  · trivial
  · assumption

theorem literal_meaning (texts : Directive → List Char) (c : Char) :
    (literal c).meaning texts = [c] := by
  unfold literal
  split
  · rename_i percent
    rw [percent]
    rfl
  · rfl

theorem literal_plain (c : Char) (d : Directive) : literal c ≠ .directive d := by
  unfold literal
  split <;> simp

theorem literal_sound (known : String → Bool) (c : Char) : (literal c).Sound known := by
  unfold literal
  split <;> trivial

theorem form_of_doubled (text : String) : Form (doubled text) (text.toList.map literal) where
  whole := by
    rw [doubled, String.toList_ofList, written, List.flatMap_map]
    congr 1
    funext c
    exact (literal_text c).symm
  stand := by
    induction text.toList with
    | nil => trivial
    | cons c rest ih => exact ⟨literal_stands c _, ih⟩

/-- Templates compose. Where the seam continues no directive, the joined text compiles when both
    parts do, and reads what they read in sequence. A text with its percent signs doubled reads as
    itself. -/
theorem templates_compose (conversions : Registry) :
    (∀ (s t : String) (first second : Getter), compile s conversions = .ok first →
      compile t conversions = .ok second → (¬ EndsOpen s ∨ ¬ Continues t.toList) →
        ∃ whole, compile (s ++ t) conversions = .ok whole ∧
          ∀ e, InSequence (first e) (second e) (whole e)) ∧
    ∀ text : String, ∃ get, compile (doubled text) conversions = .ok get ∧
      ∀ e, get e = .ok (some (.text text)) := by
  constructor
  · intro s t first second compiled others apart
    obtain ⟨front, form, sound⟩ := form_of_compiled compiled
    obtain ⟨back, form', sound'⟩ := form_of_compiled others
    rw [compile_form form sound] at compiled
    rw [compile_form form' sound'] at others
    cases compiled
    cases others
    have each : ∀ p ∈ front ++ back, p.Sound conversions.contains := by
      intro p held
      rcases List.mem_append.mp held with before | behind
      · exact sound p before
      · exact sound' p behind
    refine ⟨_, compile_form (form_append form form' apart) each, ?_⟩
    intro e
    rw [List.map_append]
    exact render_all_append conversions e _ _
  · intro text
    have form := form_of_doubled text
    have sound : ∀ p ∈ text.toList.map literal, p.Sound conversions.contains := by
      intro p held
      obtain ⟨c, _, rfl⟩ := List.mem_map.mp held
      exact literal_sound _ c
    have done := compile_form form sound
    refine ⟨_, done, ?_⟩
    intro e
    have yields : ∀ d, .directive d ∈ text.toList.map literal → d.Yields conversions e [] := by
      intro d held
      obtain ⟨c, _, same⟩ := List.mem_map.mp held
      exact absurd same (literal_plain c d)
    have read := get_yields done form yields
    rw [read, List.flatMap_map]
    simp [literal_meaning]

def levelAlone : Registry :=
  Registry.empty.register "level" (.always fun e => some (.text e.level))

def levelWithOption : List Piece := [.directive ⟨false, [], "level".toList, some []⟩]

/-- The braces end the directive, so the letters behind them are not part of its name. -/
theorem letters_behind_an_option :
    ∃ whole, compile ("%level\x7b\x7d" ++ "level%%") levelAlone = .ok whole ∧
      whole plainEvent = .ok (some (.text "INFOlevel%")) := by
  have form : Form "%level\x7b\x7d" levelWithOption := ⟨by decide, by decide⟩
  have sound : ∀ p ∈ levelWithOption, p.Sound levelAlone.contains := by
    intro p held
    obtain rfl := List.mem_singleton.mp held
    exact ⟨by decide, rfl⟩
  have closed : ¬ EndsOpen "%level\x7b\x7d" := by
    intro ends
    obtain ⟨front, d, other, bare⟩ := ends
    have same := written_unique other.stand form.stand (other.whole.symm.trans form.whole)
    have last := congrArg List.getLast? same
    rw [List.getLast?_concat] at last
    cases last
    cases bare
  obtain ⟨compose, doubles⟩ := templates_compose levelAlone
  obtain ⟨second, compiled, literally⟩ := doubles "level%"
  have twice : doubled "level%" = "level%%" := by decide
  rw [twice] at compiled
  obtain ⟨whole, done, each⟩ :=
    compose _ _ _ _ (compile_form form sound) compiled (Or.inl closed)
  refine ⟨whole, done, ?_⟩
  have yields : ∀ d, .directive d ∈ levelWithOption →
      d.Yields levelAlone plainEvent "INFO".toList := by
    intro d held
    cases List.mem_singleton.mp held
    exact .value rfl rfl rfl
  have level : levelWithOption.flatMap (Piece.meaning fun _ => "INFO".toList) = "INFO".toList := by
    decide
  have read := each plainEvent
  rw [render_all_yields yields, level, literally plainEvent] at read
  have joined : String.ofList "INFO".toList ++ "level%" = "INFOlevel%" := by decide
  rw [texts_in_sequence read, joined]

end LogLayout.Template
