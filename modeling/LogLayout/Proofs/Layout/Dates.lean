import LogLayout.Proofs.Layout.Getters

/- Date patterns that cannot be used. Building takes every pattern as it is, also in templates,
   groups and presets; a pattern is read when a moment is to be written with it, and it fails then,
   at each event anew. No built-in conversion fails for another reason. -/
namespace LogLayout

namespace Calendar

/-- The pattern is well formed and does not ask for the lenient offset. -/
def usable (pattern : String) : Bool :=
  match readPattern pattern with
  | some pieces => !pieces.contains .lenientOffset
  | none => false

theorem piece_written (m : Moment) (piece : Piece) :
    (m.piece piece).isSome = true ↔ ¬.lenientOffset = piece := by
  cases piece <;> simp [Moment.piece]

theorem pieces_written (m : Moment) (pieces : List Piece) :
    (pieces.mapM m.piece).isSome = true ↔ .lenientOffset ∉ pieces := by
  induction pieces with
  | nil => simp
  | cons piece rest ih =>
    have first := piece_written m piece
    rw [List.mapM_cons, List.mem_cons, not_or, ← ih, ← first]
    cases m.piece piece with
    | none => simp
    | some text => cases rest.mapM m.piece <;> simp

theorem written_iff_usable (m : Moment) (pattern : String) :
    (readPattern pattern >>= m.format?).isSome = true ↔ usable pattern = true := by
  unfold usable
  cases readPattern pattern with
  | none => simp
  | some pieces =>
    have written := pieces_written m pieces
    simp only [Option.bind_eq_bind, Option.bind_some, Moment.format?]
    simp [← written, Option.isSome_bind]

example : ["%H:%M", "%%", "%J", "%-A", "%#z"].map usable = [true, true, false, false, false] := by
  decide

end Calendar

namespace Conversion

def dateNames : List String := ["date", "d", "utcdate"]

def datePattern? (name : String) (option : Option String) : Option String :=
  if name ∈ dateNames then option.filter (· ≠ "") else none

theorem date_refuses (zone : Calendar.Zone) (e : Event) (option : Option String)
    (error : ConversionError) :
    date zone e option = .error error ↔ ∃ pattern, option.filter (· ≠ "") = some pattern ∧
      Calendar.usable pattern = false ∧ error = .invalidDateFormat pattern := by
  unfold date
  cases option.filter (· ≠ "") with
  | none => simp
  | some pattern =>
    have written := Calendar.written_iff_usable ⟨e.timestamp, zone⟩ pattern
    dsimp only
    generalize Calendar.readPattern pattern >>= Calendar.Moment.format? ⟨e.timestamp, zone⟩ = shown
      at written ⊢
    cases shown with
    | none =>
      have unusable : Calendar.usable pattern = false := by simpa using written
      constructor
      · intro refused
        cases refused
        exact ⟨pattern, rfl, unusable, rfl⟩
      · intro refused
        obtain ⟨_, same, _, rfl⟩ := refused
        cases same
        rfl
    | some text =>
      have usable : Calendar.usable pattern = true := by simpa using written
      simp [usable]

theorem registered_under {held conversion : Conversion} {name : String} {names : List String}
    {r : Registry}
    (found : (names.foldl (fun r name => r.register name held) r).get? name = some conversion) :
    name ∈ names ∧ held = conversion ∨ r.get? name = some conversion := by
  induction names generalizing r with
  | nil => exact Or.inr found
  | cons first rest ih =>
    rcases ih found with ⟨member, same⟩ | before
    · exact Or.inl ⟨List.mem_cons_of_mem _ member, same⟩
    · rw [Registry.get_register] at before
      split at before
      · rename_i same
        rw [same]
        exact Or.inl ⟨List.mem_cons_self .., Option.some.inj before⟩
      · exact Or.inr before

theorem registered_from {conversion : Conversion} {name : String}
    {entries : List (List String × Conversion)} {r : Registry}
    (found : (entries.foldl (fun r entry =>
      entry.1.foldl (fun r name => r.register name entry.2) r) r).get? name = some conversion) :
    (∃ entry ∈ entries, name ∈ entry.1 ∧ entry.2 = conversion) ∨
      r.get? name = some conversion := by
  induction entries generalizing r with
  | nil => exact Or.inr found
  | cons entry rest ih =>
    rcases ih found with ⟨later, member, same⟩ | before
    · exact Or.inl ⟨later, List.mem_cons_of_mem _ member, same⟩
    · rcases registered_under before with here | earlier
      · exact Or.inl ⟨entry, List.mem_cons_self .., here⟩
      · exact Or.inr earlier

theorem builtin_entry {env : Environment} {name : String} {conversion : Conversion}
    (found : (builtins env).get? name = some conversion) :
    ∃ entry ∈ builtinNames env, name ∈ entry.1 ∧ entry.2 = conversion := by
  rcases registered_from found with here | none
  · exact here
  · cases none

/-- A built-in conversion is one for dates or it never fails. -/
theorem builtin_kinds (env : Environment) : ∀ entry ∈ builtinNames env,
    (∃ zone, entry.2 = date zone ∧ ∀ name ∈ entry.1, name ∈ dateNames) ∨
      (∀ e option, ∃ value, entry.2 e option = .ok value) ∧ ∀ name ∈ entry.1, name ∉ dateNames := by
  have reads (read : Event → Option Datum) (e : Event) (option : Option String) :
      ∃ value, always read e option = .ok value := ⟨read e, rfl⟩
  have finds (e : Event) (option : Option String) : ∃ value, property e option = .ok value := by
    unfold property
    cases option.filter (· ≠ "") with
    | none => exact ⟨_, rfl⟩
    | some name => exact ⟨_, rfl⟩
  simp only [builtinNames, List.forall_mem_cons]
  refine ⟨Or.inl ⟨env.localZone, rfl, by decide⟩, Or.inl ⟨.utc, rfl, by decide⟩, ?_⟩
  and_intros
  all_goals first
    | exact Or.inr ⟨reads _, by decide⟩
    | exact Or.inr ⟨finds, by decide⟩
    | simp

theorem builtin_refuses {env : Environment} {name : String} {conversion : Conversion}
    (found : (builtins env).get? name = some conversion) (e : Event) (option : Option String)
    (error : ConversionError) :
    conversion e option = .error error ↔ ∃ pattern, datePattern? name option = some pattern ∧
      Calendar.usable pattern = false ∧ error = .invalidDateFormat pattern := by
  obtain ⟨entry, member, named, rfl⟩ := builtin_entry found
  unfold datePattern?
  rcases builtin_kinds env entry member with ⟨zone, same, dates⟩ | ⟨reads, others⟩
  · rw [same, if_pos (dates name named)]
    exact date_refuses zone e option error
  · obtain ⟨value, read⟩ := reads e option
    rw [read, if_neg (others name named)]
    simp

theorem date_known (env : Environment) {name : String} {option : Option String} {pattern : String}
    (asked : datePattern? name option = some pattern) :
    ∃ conversion, (builtins env).get? name = some conversion := by
  unfold datePattern? at asked
  split at asked
  · rename_i dates
    simp only [dateNames, List.mem_cons, List.not_mem_nil, or_false] at dates
    rcases dates with rfl | rfl | rfl
    · exact ⟨date env.localZone, by simp [builtins, builtinNames, Registry.get_register]⟩
    · exact ⟨date env.localZone, by simp [builtins, builtinNames, Registry.get_register]⟩
    · exact ⟨date .utc, by simp [builtins, builtinNames, Registry.get_register]⟩
  · cases asked

end Conversion

def Event.Shows (conversions : Registry) (e : Event) : Prop :=
  ∀ name conversion option value, conversions.get? name = some conversion →
    conversion e option = .ok (some value) → value.display ≠ none

namespace Template

def Segment.datePattern? : Segment → Option String
  | .char _ => none
  | .field f => Conversion.datePattern? f.name f.option

def datePatterns (known : String → Bool) (template : String) : List String :=
  match read known template with
  | .ok segments => segments.filterMap Segment.datePattern?
  | .error _ => []

section

variable {env : Environment} {e : Event} {segment : Segment}

theorem segment_error_iff {conversions : Registry} {error : ReadError} :
    segment.render conversions e = .error error ↔ ∃ f conversion, segment = .field f ∧
      conversions.get? f.name = some conversion ∧
      ((∃ failure, conversion e f.option = .error failure ∧ error = .conversion failure) ∨
        ∃ value, conversion e f.option = .ok (some value) ∧ value.display = none ∧
          error = .abort) := by
  cases segment with
  | char c => simp [Segment.render]
  | field f =>
    simp only [Segment.render, Field.render, Segment.field.injEq, exists_and_left, exists_eq_left']
    cases found : conversions.get? f.name with
    | none => simp
    | some conversion =>
      cases given : conversion e f.option with
      | error failure => simp [given, eq_comm]
      | ok value =>
        cases value with
        | none => simp [given]
        | some value => cases shown : value.display <;> simp [given, shown, eq_comm]

theorem segment_refuses {error : ReadError}
    (refused : segment.render (Conversion.builtins env) e = .error error) :
    error = .abort ∨ ∃ pattern, segment.datePattern? = some pattern ∧
      Calendar.usable pattern = false ∧ error = .conversion (.invalidDateFormat pattern) := by
  obtain ⟨f, conversion, rfl, found, ⟨failure, failed, rfl⟩ | ⟨value, _, _, rfl⟩⟩ :=
    segment_error_iff.mp refused
  · obtain ⟨pattern, asked, unusable, rfl⟩ :=
      (Conversion.builtin_refuses found e f.option failure).mp failed
    exact Or.inr ⟨pattern, asked, unusable, rfl⟩
  · exact Or.inl rfl

theorem segment_needs {pattern : String} (asked : segment.datePattern? = some pattern)
    (unusable : Calendar.usable pattern = false) :
    segment.render (Conversion.builtins env) e =
      .error (.conversion (.invalidDateFormat pattern)) := by
  cases segment with
  | char c => cases asked
  | field f =>
    obtain ⟨conversion, found⟩ := Conversion.date_known env asked
    have failed := (Conversion.builtin_refuses found e f.option _).mpr
      ⟨pattern, asked, unusable, rfl⟩
    simp [Segment.render, Field.render, found, failed]

theorem segment_shown {conversions : Registry} (shows : e.Shows conversions) :
    segment.render conversions e ≠ .error .abort := by
  intro refused
  obtain ⟨f, conversion, rfl, found, ⟨_, _, ⟨⟩⟩ | ⟨value, read, textless, _⟩⟩ :=
    segment_error_iff.mp refused
  exact shows f.name conversion f.option value found read textless

end

theorem compiled_reads {conversions : Registry} {template : String} {get : Getter}
    (done : compile template conversions = .ok get) :
    ∃ segments, read conversions.contains template = .ok segments ∧ ∀ e error,
      get e = .error error ↔ segments.mapM (Segment.render conversions e) = .error error := by
  obtain ⟨segments, parsed, rfl⟩ := ok_of_map done
  refine ⟨segments, parsed, ?_⟩
  intro e error
  rw [map_error_iff, renderAll, map_error_iff]

end Template

/-- The date patterns that a member asks for, or the one that it is nested around. -/
def Member.datePatterns (known : String → Bool) : Member → List String
  | .mk _ (.conversion name option) => (Conversion.datePattern? name option).toList
  | .mk _ (.template text) => Template.datePatterns known text
  | .mk _ (.nested inner) => inner.datePatterns known
  | _ => []

/-- The getter fails at an event because of a value without a text, if there is one, or because of
    one of the patterns. Patterns that cannot be used make it fail at every event. -/
structure FailsByDates (conversions : Registry) (get : Getter) (patterns : List String) : Prop where
  refuses : ∀ e error, get e = .error error → error = .abort ∨ ∃ pattern ∈ patterns,
    Calendar.usable pattern = false ∧ error = .conversion (.invalidDateFormat pattern)
  needs : ∀ pattern ∈ patterns, Calendar.usable pattern = false → ∀ e, ∃ error, get e = .error error
  shown : ∀ e : Event, e.Shows conversions → get e ≠ .error .abort

section

variable {env : Environment}

theorem conversion_fails_by_dates {name : String} {conversion : Conversion}
    (found : (Conversion.builtins env).get? name = some conversion) (option : Option String) :
    FailsByDates (Conversion.builtins env) (conversion.bind option)
      (Conversion.datePattern? name option).toList where
  refuses := by
    intro e error refused
    obtain ⟨failure, failed, rfl⟩ := error_of_map_error refused
    obtain ⟨pattern, asked, unusable, rfl⟩ :=
      (Conversion.builtin_refuses found e option failure).mp failed
    exact Or.inr ⟨pattern, by simp [asked], unusable, rfl⟩
  needs := by
    intro pattern asked unusable e
    have failed := (Conversion.builtin_refuses found e option _).mpr
      ⟨pattern, Option.mem_toList.mp asked, unusable, rfl⟩
    exact ⟨_, by rw [Conversion.bind, failed]; rfl⟩
  shown := by
    intro e _ refused
    obtain ⟨failure, _, other⟩ := error_of_map_error refused
    cases other

theorem template_fails_by_dates {template : String} {get : Getter}
    (compiled : Template.compile template (Conversion.builtins env) = .ok get) :
    FailsByDates (Conversion.builtins env) get
      (Template.datePatterns (Conversion.builtins env).contains template) := by
  obtain ⟨segments, parsed, reads⟩ := Template.compiled_reads compiled
  rw [Template.datePatterns, parsed]
  constructor
  · intro e error refused
    obtain ⟨before, segment, after, rfl, _, failed⟩ :=
      map_m_error_iff.mp ((reads e error).mp refused)
    rcases Template.segment_refuses failed with abort | ⟨pattern, asked, unusable, same⟩
    · exact Or.inl abort
    · refine Or.inr ⟨pattern, ?_, unusable, same⟩
      exact List.mem_filterMap.mpr ⟨segment, by simp, asked⟩
  · intro pattern asked unusable e
    obtain ⟨segment, member, given⟩ := List.mem_filterMap.mp asked
    obtain ⟨error, refused⟩ := map_m_error (f := Template.Segment.render _ e) member
      (Template.segment_needs given unusable)
    exact ⟨error, (reads e error).mpr refused⟩
  · intro e shows refused
    obtain ⟨before, segment, after, rfl, _, failed⟩ :=
      map_m_error_iff.mp ((reads e .abort).mp refused)
    exact Template.segment_shown shows failed

theorem property_never_fails (name : String) :
    FailsByDates (Conversion.builtins env) (propertyGetter name) [] where
  refuses := by
    intro e error refused
    cases refused
  needs := by simp
  shown := by
    intro e _ refused
    cases refused

variable {ctx : Context} (builtin : ctx.conversions = Conversion.builtins env)
  (engine : ctx.engine = Template.compile)
include builtin engine

theorem asking_has_getter {pattern : String} : (m : Member) →
    pattern ∈ m.datePatterns ctx.conversions.contains → ∃ get, m.getter? ctx = some get
  | .mk _ (.conversion name option), asked => by
    obtain ⟨conversion, found⟩ := Conversion.date_known env (Option.mem_toList.mp asked)
    exact ⟨conversion.bind option, by simp [Member.getter?, builtin, found]⟩
  | .mk _ (.template text), asked => by
    simp only [Member.datePatterns, Template.datePatterns] at asked
    split at asked
    · rename_i segments parsed
      simp [Member.getter?, engine, Template.compile, parsed, Except.map, Except.toOption]
    · cases asked
  | .mk _ (.nested inner), asked => asking_has_getter inner asked

theorem member_fails_by_dates {get : Getter} : (m : Member) → m.getter? ctx = some get →
    FailsByDates ctx.conversions get (m.datePatterns ctx.conversions.contains)
  | .mk _ (.conversion name option), own => by
    simp only [Member.getter?, builtin] at own
    rw [builtin]
    split at own
    · rename_i conversion found
      cases own
      exact conversion_fails_by_dates found option
    · rename_i unknown
      have unasked : Conversion.datePattern? name option = none := by
        cases asked : Conversion.datePattern? name option with
        | none => rfl
        | some pattern =>
          obtain ⟨conversion, found⟩ := Conversion.date_known env asked
          rw [unknown] at found
          cases found
      cases own
      rw [Member.datePatterns, unasked]
      exact property_never_fails name
  | .mk _ (.template text), own => by
    simp only [Member.getter?, engine, builtin] at own
    rw [builtin]
    cases compiled : Template.compile text (Conversion.builtins env) with
    | error e =>
      rw [compiled] at own
      cases own
    | ok held =>
      rw [compiled] at own
      cases own
      exact template_fails_by_dates compiled
  | .mk _ (.nested inner), own => member_fails_by_dates inner own

end

namespace Builder

/-- A member of the layout, or of a group in it, asks for the pattern. -/
def Asks (b : Builder) (shared : PresetTable) (pattern : String) : Prop :=
  ∃ m, InUse (b.context shared) (b.members shared) m ∧
    pattern ∈ m.datePatterns b.conversions.contains

end Builder

def Event.unknown : Event := .bare ⟨[], "", .utc⟩ "" [] ⟨0, 0⟩ "" "" ""

theorem unknown_shows (env : Environment) : Event.unknown.Shows (Conversion.builtins env) := by
  have text (s : String) : (Datum.text s).display ≠ none := by simp [Datum.display]
  have dates (zone : Calendar.Zone) (option : Option String) (value : Datum)
      (read : Conversion.date zone Event.unknown option = .ok (some value)) :
      value.display ≠ none := by
    unfold Conversion.date at read
    dsimp only at read
    split at read
    · cases read
      simp [Datum.display]
    · split at read
      · cases read
        exact text _
      · cases read
  have all : ∀ entry ∈ Conversion.builtinNames env, ∀ option value,
      entry.2 Event.unknown option = .ok (some value) → value.display ≠ none := by
    simp only [Conversion.builtinNames, List.forall_mem_cons]
    refine ⟨dates env.localZone, dates .utc, ?_⟩
    simp only [Conversion.always, Conversion.property, Event.unknown, Event.bare, Event.property?]
    simp [Keyed.get?, Datum.display, Datum.displayEntries]
    intro option value read
    split at read
    · cases read
    · cases read
      simp [Datum.display, Datum.displayEntries]
  intro name conversion option value found read
  obtain ⟨entry, member, _, rfl⟩ := Conversion.builtin_entry found
  exact all entry member option value read

namespace Builder

section

variable {b : Builder} {env : Environment} {shared : PresetTable} {p : Prepared Layout}
  (builtin : b.conversions = Conversion.builtins env) (engine : b.engine = Template.compile)
  (built : b.buildStrict shared = .ok (some p))
include builtin engine built

theorem failure_by_dates (e : Event) (failure : Failure)
    (told : failure ∈ (readSlots e [] 0 p.result.slots).2) :
    failure.error = .abort ∨ ∃ pattern, b.Asks shared pattern ∧
      Calendar.usable pattern = false ∧
      failure.error = .conversion (.invalidDateFormat pattern) := by
  obtain ⟨m, get, used, own, refused⟩ :=
    (b.failures_in_use shared built e failure.error).mp ⟨failure, told, rfl⟩
  have judged : FailsByDates b.conversions get (m.datePatterns b.conversions.contains) :=
    member_fails_by_dates builtin engine m own
  rcases judged.refuses e failure.error refused with abort | ⟨pattern, asked, unusable, same⟩
  · exact Or.inl abort
  · exact Or.inr ⟨pattern, ⟨m, used, asked⟩, unusable, same⟩

theorem unusable_pattern_fails {pattern : String} (asked : b.Asks shared pattern)
    (unusable : Calendar.usable pattern = false) (e : Event) :
    ∃ failure ∈ (readSlots e [] 0 p.result.slots).2,
      e.Shows b.conversions → failure.error ≠ .abort := by
  obtain ⟨m, used, given⟩ := asked
  obtain ⟨get, own⟩ : ∃ get, m.getter? (b.context shared) = some get :=
    asking_has_getter builtin engine m given
  have judged : FailsByDates b.conversions get (m.datePatterns b.conversions.contains) :=
    member_fails_by_dates builtin engine m own
  obtain ⟨error, refused⟩ := judged.needs pattern given unusable e
  obtain ⟨failure, told, same⟩ :=
    (b.failures_in_use shared built e error).mpr ⟨m, get, used, own, refused⟩
  refine ⟨failure, told, ?_⟩
  intro shows abort
  rw [← same, abort] at refused
  exact judged.shown e shows refused

end

/-- With the built-in conversions and templates, what fails when a strictly built layout is read
    are values without a text and date patterns that cannot be used. Such a pattern fails at every
    event, wherever in the configuration it stands, and so some event makes a conversion fail
    unless all patterns that are asked for can be used. -/
theorem conversions_fail_by_dates_alone (b : Builder) (env : Environment) (shared : PresetTable)
    (p : Prepared Layout) (builtin : b.conversions = Conversion.builtins env)
    (engine : b.engine = Template.compile) (built : b.buildStrict shared = .ok (some p)) :
    (∀ e, ∀ failure ∈ (readSlots e [] 0 p.result.slots).2, failure.error = .abort ∨
      ∃ pattern, b.Asks shared pattern ∧ Calendar.usable pattern = false ∧
        failure.error = .conversion (.invalidDateFormat pattern)) ∧
    (∀ pattern, b.Asks shared pattern → Calendar.usable pattern = false →
      ∀ e, (readSlots e [] 0 p.result.slots).2 ≠ []) ∧
    ((∀ e, ∀ failure ∈ (readSlots e [] 0 p.result.slots).2, ∀ error,
        failure.error ≠ .conversion error) ↔
      ∀ pattern, b.Asks shared pattern → Calendar.usable pattern = true) := by
  refine ⟨failure_by_dates builtin engine built, ?_, ?_⟩
  · intro pattern asked unusable e
    obtain ⟨failure, told, _⟩ := unusable_pattern_fails builtin engine built asked unusable e
    exact List.ne_nil_of_mem told
  · constructor
    · intro never pattern asked
      cases usable : Calendar.usable pattern with
      | true => rfl
      | false =>
        -- At an event without values nothing but a pattern can fail.
        obtain ⟨failure, told, shown⟩ :=
          unusable_pattern_fails builtin engine built asked usable .unknown
        rw [builtin] at shown
        rcases failure_by_dates builtin engine built _ failure told with
          abort | ⟨other, _, _, same⟩
        · exact absurd abort (shown (unknown_shows env))
        · exact absurd same (never _ failure told _)
    · intro all e failure told error same
      rcases failure_by_dates builtin engine built e failure told with
        abort | ⟨pattern, asked, unusable, _⟩
      · rw [abort] at same
        cases same
      · rw [all pattern asked] at unusable
        cases unusable

theorem single_built {b : Builder} (shared : PresetTable) {spec : String} {m : Member}
    (pieces : b.pieces = [.spec spec]) (read : Spec.parse b.factories spec = .ok (.member m)) :
    b.buildStrict shared = .ok (b.ready shared [m] []) ∧ b.members shared = [m] := by
  have configured : b.pieces ≠ [] := by simp [pieces]
  have reads : b.pieces.mapM (Piece.read b.factories) = .ok [.member m] := by
    apply map_m_ok
    simp [pieces, Piece.read, read]
  have readable : b.readable = [.member m] := by
    simp [Builder.readable, pieces, Piece.read, read, Except.toOption]
  constructor
  · rw [buildStrict, reads]
    exact congrArg Except.ok (b.assemble_pieces shared configured [.member m])
  · rw [members, if_neg configured, readable]
    rfl

def dated (spec : String) : Builder := (start ⟨[], "app", .utc⟩).addSpec spec

/-- The strict build takes a malformed pattern, and every event fails. -/
theorem malformed_pattern_built :
    ∃ p, (dated "when%date:%J").buildStrict .standard = .ok (some p) ∧
      ∀ e, (readSlots e [] 0 p.result.slots).2 =
        [⟨[0], "when", .conversion (.invalidDateFormat "%J")⟩] := by
  have read : Spec.parse [] "when%date:%J" =
      .ok (.member (.mk "when" (.conversion "date" (some "%J")))) := by rfl
  have held : (Conversion.builtins ⟨[], "app", .utc⟩).get? "date" =
      some (Conversion.date .utc) := by
    simp [Conversion.builtins, Conversion.builtinNames, Registry.get_register]
  obtain ⟨built, _⟩ := single_built (b := dated "when%date:%J") .standard rfl read
  refine ⟨⟨⟨[.getter "when" ((Conversion.date .utc).bind (some "%J"))], {}, .standard⟩, []⟩, ?_, ?_⟩
  · rw [built]
    simp [ready, prepareAll, Member.prepare, Member.prepareWith, Member.name, prepareConversion,
      context, dated, start, addSpec, addPiece, held]
  · intro e
    have failed : Conversion.date .utc e (some "%J") = .error (.invalidDateFormat "%J") :=
      (Conversion.date_refuses .utc e _ _).mpr ⟨"%J", by decide, by decide, rfl⟩
    simp [readSlots, Slot.read, Conversion.bind, failed, Except.mapError]

def datedGroup : Arrangement := .composite none
  [.member (.mk "when" (.conversion "d" (some "%#z"))),
    .member (.mk "level" (.conversion "level" none))]

theorem date_in_group_fails :
    ∃ p, (dated "g=when%d:%#z\\;level").buildStrict .standard = .ok (some p) ∧
      ∀ e, (readSlots e [] 0 p.result.slots).2 ≠ [] := by
  have read : Spec.parse [] "g=when%d:%#z\\;level" =
      .ok (.member (.mk "g" (.group datedGroup))) := by rfl
  obtain ⟨strict, members⟩ := single_built (b := dated "g=when%d:%#z\\;level") .standard rfl read
  have flat (ctx : Context) : (prepareGroup ctx 1 datedGroup).isSome = true := by
    rw [prepare_group_done]
    intro b opens
    obtain ⟨m, member, opened⟩ := opens
    have none : m.group? = none := by
      rcases List.mem_cons.mp member with rfl | later
      · rfl
      · obtain rfl := List.mem_singleton.mp later
        rfl
    rw [none] at opened
    cases opened
  have ready : ((dated "g=when%d:%#z\\;level").ready .standard
      [.mk "g" (.group datedGroup)] []).isSome = true := by
    rw [Builder.ready, Option.isSome_map, prepare_all_done]
    intro m member
    obtain rfl := List.mem_singleton.mp member
    rw [Member.prepare, prepare_with_done]
    intro a opened
    cases opened
    exact prepare_group_deeper _ (by decide) datedGroup (flat _)
  obtain ⟨p, made⟩ := Option.isSome_iff_exists.mp ready
  rw [made] at strict
  have asks : (dated "g=when%d:%#z\\;level").Asks .standard "%#z" := by
    refine ⟨.mk "when" (.conversion "d" (some "%#z")), ?_, by decide⟩
    rw [members]
    exact .inside (List.mem_singleton_self _) rfl (.listed (List.mem_cons_self ..))
  obtain ⟨_, needs, _⟩ := conversions_fail_by_dates_alone (dated "g=when%d:%#z\\;level")
    ⟨[], "app", .utc⟩ .standard p rfl rfl strict
  exact ⟨p, strict, needs "%#z" asks (by decide)⟩

end Builder

end LogLayout
