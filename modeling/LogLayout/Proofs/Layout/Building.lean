import LogLayout.Layout.Builder
import LogLayout.Proofs.Arrangement.Nesting
import LogLayout.Proofs.Outcome

/- Strict and lenient building of the same pieces. They differ in nothing as long as every piece can
   be read. Otherwise the strict one fails with the first error, and the lenient one reports each and
   goes on with the other pieces, of which there may be none. -/
namespace LogLayout

def Notice.isIgnoredPiece : Notice → Bool
  | .ignoredPiece _ => true
  | _ => false

def Unrelated (notices : List Notice) : Prop := ∀ n ∈ notices, n.isIgnoredPiece = false

theorem unrelated_nothing : Unrelated [] := by
  intro n told
  cases told

theorem unrelated_append {front back : List Notice} (first : Unrelated front)
    (second : Unrelated back) : Unrelated (front ++ back) := by
  intro n told
  rcases List.mem_append.mp told with before | after
  · exact first n before
  · exact second n after

theorem ignored_of_unrelated {notices : List Notice} (unrelated : Unrelated notices) :
    notices.filter Notice.isIgnoredPiece = [] := by
  rw [List.filter_eq_nil_iff]
  intro n told
  rw [unrelated n told]
  decide

theorem unrelated_expansion (ctx : Context) (a : Arrangement) : Unrelated (a.expand ctx).notices := by
  intro n told
  have shown := (expansion_to_levels (shown_notice n) maxNesting a).mp told
  rcases shown with ⟨_, c, _, _, own⟩ | ⟨_, _, _, _, _, _, deep⟩ | ⟨_, _, _, _, _, _, _, _, refused⟩
  · obtain ⟨p, rfl⟩ := own_notices ctx n c own
    rfl
  · obtain rfl := List.mem_singleton.mp deep
    rfl
  · obtain rfl := List.mem_singleton.mp refused
    rfl

theorem unrelated_conversion (ctx : Context) (member name : String) (option : Option String) :
    Unrelated (prepareConversion ctx member name option).notices := by
  unfold prepareConversion
  split
  · exact unrelated_nothing
  · intro n told
    obtain rfl := List.mem_singleton.mp told
    rfl

theorem unrelated_template (ctx : Context) (member template : String) :
    Unrelated (prepareTemplate ctx member template).notices := by
  unfold prepareTemplate
  split
  · exact unrelated_nothing
  · intro n told
    obtain rfl := List.mem_singleton.mp told
    rfl

theorem unrelated_member (ctx : Context) {group : Arrangement → Option (Prepared (List Slot))}
    (groups : ∀ a p, group a = some p → Unrelated p.notices) :
    (m : Member) → (p : Prepared Slot) → m.prepareWith ctx group = some p → Unrelated p.notices
  | .mk name .bare, p, done => by
    obtain rfl := Option.some.inj done
    exact unrelated_nothing
  | .mk name (.literal value), p, done => by
    obtain rfl := Option.some.inj done
    exact unrelated_nothing
  | .mk name (.conversion conversion option), p, done => by
    obtain rfl := Option.some.inj done
    exact unrelated_conversion ctx _ conversion option
  | .mk name (.template text), p, done => by
    obtain rfl := Option.some.inj done
    exact unrelated_template ctx _ text
  | .mk name (.group a), p, done => by
    simp only [Member.prepareWith] at done
    obtain ⟨inner, made, rfl⟩ := Option.map_eq_some_iff.mp done
    exact groups a inner made
  | .mk name (.nested inner), p, done => by
    simp only [Member.prepareWith] at done
    obtain ⟨held, made, rfl⟩ := Option.map_eq_some_iff.mp done
    exact unrelated_member ctx groups inner held made

theorem unrelated_members {prepare : Member → Option (Prepared Slot)}
    (each : ∀ m p, prepare m = some p → Unrelated p.notices) (members : List Member)
    (p : Prepared (List Slot)) (done : prepareAll prepare members = some p) :
    Unrelated p.notices := by
  induction members generalizing p with
  | nil =>
    obtain rfl := Option.some.inj done
    exact unrelated_nothing
  | cons m rest ih =>
    obtain ⟨q, r, first, others, rfl⟩ := prepare_all_cons done
    exact unrelated_append (each m q first) (ih r others)

theorem unrelated_group (ctx : Context) (depth : Nat) (a : Arrangement) (p : Prepared (List Slot))
    (done : prepareGroup ctx depth a = some p) : Unrelated p.notices := by
  induction depth generalizing a p with
  | zero => cases done
  | succ depth ih =>
    rw [prepareGroup] at done
    obtain ⟨all, prepared, rfl⟩ := Option.map_eq_some_iff.mp done
    exact unrelated_append (unrelated_expansion ctx a)
      (unrelated_members (unrelated_member ctx ih) _ all prepared)

namespace Builder

variable (b : Builder) (shared : PresetTable)

def refusals : List SpecError := b.pieces.filterMap fun piece =>
  match piece.read b.factories with
  | .ok _ => none
  | .error e => some e

def readable : List Arrangement := b.pieces.filterMap fun piece =>
  (piece.read b.factories).toOption

def ready (members : List Member) (said : List Notice) : Option (Prepared Layout) :=
  (prepareAll (Member.prepare (b.context shared)) members).map fun p =>
    ⟨⟨p.result, b.normalizer, b.table⟩, said ++ p.notices⟩

theorem reports_as_refusals : b.readPieces.filterMap ignored = b.refusals.map .ignoredPiece := by
  unfold readPieces refusals
  rw [List.filterMap_map, List.map_filterMap]
  congr 1
  funext piece
  simp only [Function.comp_apply]
  cases piece.read b.factories <;> rfl

theorem results_as_readable : b.readPieces.filterMap Except.toOption = b.readable := by
  unfold readPieces readable
  rw [List.filterMap_map]
  rfl

theorem run_all (ctx : Context) (as : List Arrangement) (held : List Member) :
    (expandAll ctx (expandText ctx maxNesting) as).run held =
      as.foldl (fun held a => a.apply ctx held) held := by
  induction as generalizing held with
  | nil => rfl
  | cons a rest ih =>
    rw [expandAll, Expansion.run_then, ih]
    rfl

theorem notices_of_all (ctx : Context) (as : List Arrangement) :
    (expandAll ctx (expandText ctx maxNesting) as).notices =
      as.flatMap fun a => (a.expand ctx).notices := by
  induction as with
  | nil => rfl
  | cons a rest ih =>
    rw [expandAll, List.flatMap_cons, ← ih]
    rfl

/-- The first piece that cannot be read is refused with this error. -/
def FirstRefused (e : SpecError) : Prop :=
  ∃ before spec after, b.pieces = before ++ .spec spec :: after ∧
    (∀ piece ∈ before, ∃ a, piece.read b.factories = .ok a) ∧ Spec.parse b.factories spec = .error e

theorem refused_text {factories : Factories} {piece : Piece} {e : SpecError}
    (refused : piece.read factories = .error e) :
    ∃ spec, piece = .spec spec ∧ Spec.parse factories spec = .error e := by
  cases piece with
  | spec text => exact ⟨text, rfl, refused⟩
  | arrangement a => cases refused

theorem strict_refusal (e : SpecError) : b.buildStrict shared = .error e ↔ b.FirstRefused e := by
  rw [buildStrict, map_error_iff, map_m_error_iff]
  constructor
  · rintro ⟨before, piece, after, held, passed, failed⟩
    obtain ⟨spec, rfl, refused⟩ := refused_text failed
    exact ⟨before, spec, after, held, passed, refused⟩
  · rintro ⟨before, spec, after, held, passed, refused⟩
    exact ⟨before, .spec spec, after, held, passed, refused⟩

theorem strict_refuses_iff : (∃ e, b.buildStrict shared = .error e) ↔
    ∃ spec, .spec spec ∈ b.pieces ∧ ∃ e, Spec.parse b.factories spec = .error e := by
  constructor
  · rintro ⟨e, failed⟩
    obtain ⟨before, spec, after, held, _, refused⟩ := (b.strict_refusal shared e).mp failed
    exact ⟨spec, by simp [held], e, refused⟩
  · rintro ⟨spec, held, e, refused⟩
    obtain ⟨failure, failed⟩ := map_m_error (f := Piece.read b.factories) held refused
    exact ⟨failure, by rw [buildStrict, failed]; rfl⟩

theorem build_of_strict {p : Option (Prepared Layout)} (done : b.buildStrict shared = .ok p) :
    b.build shared = p := by
  obtain ⟨as, read, rfl⟩ := ok_of_map done
  have reads : b.readPieces = as.map .ok := results_of_map_m read
  have results : b.readPieces.filterMap Except.toOption = as := by
    rw [reads, List.filterMap_map]
    exact List.filterMap_some
  have reports : b.readPieces.filterMap ignored = [] := by
    rw [reads, List.filterMap_map, List.filterMap_eq_nil_iff]
    intro a member
    rfl
  rw [build, results, reports]
  exact Option.map_id' ..

theorem assemble_pieces (configured : b.pieces ≠ []) (as : List Arrangement) :
    b.assemble shared as =
      b.ready shared (as.foldl (fun held a => a.apply (b.context shared) held) [])
        (as.flatMap fun a => (a.expand (b.context shared)).notices) := by
  have whole : b.pieces.isEmpty = false := by simpa using configured
  rw [← run_all, ← notices_of_all]
  unfold assemble
  rw [whole]
  rfl

theorem said_before (members : List Member) (first said : List Notice) :
    (b.ready shared members said).map (fun p => { p with notices := first ++ p.notices }) =
      b.ready shared members (first ++ said) := by
  simp [ready, Function.comp_def]

theorem build_of_pieces (configured : b.pieces ≠ []) :
    b.build shared =
      b.ready shared (b.readable.foldl (fun held a => a.apply (b.context shared) held) [])
        (b.refusals.map .ignoredPiece ++
          b.readable.flatMap fun a => (a.expand (b.context shared)).notices) := by
  rw [build, reports_as_refusals, results_as_readable, assemble_pieces b shared configured,
    said_before]

theorem build_of_nothing (bare : b.pieces = []) :
    b.build shared =
      b.ready shared ((Arrangement.preset none).members (b.context shared))
        ((Arrangement.preset none).expand (b.context shared)).notices := by
  have unread : b.readPieces = [] := by
    rw [readPieces, bare]
    rfl
  have assembled : b.assemble shared [] =
      b.ready shared ((Arrangement.preset none).members (b.context shared))
        ((Arrangement.preset none).expand (b.context shared)).notices := by
    unfold assemble
    rw [bare]
    rfl
  rw [build, unread, List.filterMap_nil, List.filterMap_nil, assembled]
  exact b.said_before shared _ [] _

theorem ignored_in_ready {members : List Member} {said : List Notice} {p : Prepared Layout}
    (done : b.ready shared members said = some p) :
    p.notices.filter Notice.isIgnoredPiece = said.filter Notice.isIgnoredPiece := by
  obtain ⟨all, prepared, rfl⟩ := Option.map_eq_some_iff.mp done
  have each := unrelated_member (b.context shared) (unrelated_group (b.context shared) maxGroups)
  have silent := unrelated_members each members all prepared
  rw [List.filter_append, ignored_of_unrelated silent, List.append_nil]

theorem reports_of_build {p : Prepared Layout} (done : b.build shared = some p) :
    p.notices.filter Notice.isIgnoredPiece = b.refusals.map .ignoredPiece := by
  by_cases bare : b.pieces = []
  · rw [build_of_nothing b shared bare] at done
    rw [b.ignored_in_ready shared done, ignored_of_unrelated (unrelated_expansion _ _), refusals, bare]
    rfl
  · rw [build_of_pieces b shared bare] at done
    have refused : (b.refusals.map Notice.ignoredPiece).filter Notice.isIgnoredPiece =
        b.refusals.map .ignoredPiece := by
      rw [List.filter_eq_self]
      intro n told
      obtain ⟨e, _, rfl⟩ := List.mem_map.mp told
      rfl
    have expanded : Unrelated
        (b.readable.flatMap fun a => (a.expand (b.context shared)).notices) := by
      intro n told
      obtain ⟨a, _, within⟩ := List.mem_flatMap.mp told
      exact unrelated_expansion _ a n within
    rw [b.ignored_in_ready shared done, List.filter_append, refused, ignored_of_unrelated expanded,
      List.append_nil]

/-- Nothing can be read and something is configured: the default preset is not used either. -/
theorem build_unreadable (configured : b.pieces ≠ [])
    (unreadable : ∀ piece ∈ b.pieces, ∃ e, piece.read b.factories = .error e) :
    b.build shared =
      some ⟨⟨[], b.normalizer, b.table⟩, b.refusals.map .ignoredPiece⟩ := by
  have none_readable : b.readable = [] := by
    rw [readable, List.filterMap_eq_nil_iff]
    intro piece held
    obtain ⟨e, refused⟩ := unreadable piece held
    rw [refused]
    rfl
  rw [build_of_pieces b shared configured, none_readable, List.flatMap_nil, List.append_nil, ready]
  simp [prepareAll]

/-- Building leniently and strictly. The strict build fails as the first piece that cannot be read;
    when it does not fail, the lenient one gives the same layout and the same reports. The lenient
    one reports each piece that cannot be read, in order, and applies the others in order to the
    empty list; the default preset takes the place of pieces only where none is configured. -/
theorem lenient_build_agrees_with_strict :
    ((∃ e, b.buildStrict shared = .error e) ↔
      ∃ spec, .spec spec ∈ b.pieces ∧ ∃ e, Spec.parse b.factories spec = .error e) ∧
    (∀ e, b.buildStrict shared = .error e ↔ b.FirstRefused e) ∧
    (∀ p, b.buildStrict shared = .ok p → b.build shared = p) ∧
    (∀ p, b.build shared = some p →
      p.notices.filter Notice.isIgnoredPiece = b.refusals.map .ignoredPiece) ∧
    (b.pieces ≠ [] → b.build shared =
      b.ready shared (b.readable.foldl (fun held a => a.apply (b.context shared) held) [])
        (b.refusals.map .ignoredPiece ++
          b.readable.flatMap fun a => (a.expand (b.context shared)).notices)) ∧
    (b.pieces = [] → b.build shared =
      b.ready shared ((Arrangement.preset none).members (b.context shared))
        ((Arrangement.preset none).expand (b.context shared)).notices) ∧
    (b.pieces ≠ [] → (∀ piece ∈ b.pieces, ∃ e, piece.read b.factories = .error e) →
      ∃ p, b.build shared = some p ∧ p.result.names = [] ∧
        p.notices = b.refusals.map .ignoredPiece ∧
        ∀ e, p.result.format e = ⟨.ok e.message, []⟩) := by
  refine ⟨b.strict_refuses_iff shared, b.strict_refusal shared, ?_, ?_, b.build_of_pieces shared,
    b.build_of_nothing shared, ?_⟩
  · intro p done
    exact b.build_of_strict shared done
  · intro p done
    exact b.reports_of_build shared done
  · intro configured unreadable
    refine ⟨_, b.build_unreadable shared configured unreadable, rfl, rfl, ?_⟩
    intro e
    exact Layout.format_without_slots _ e rfl

def misspelt : Builder := ((start ⟨[], "app", .utc⟩).addSpec "BOGUS!x").addSpec "bad\\x"

theorem misspelt_texts_leave_the_message : ∃ p, misspelt.build .standard = some p ∧
    p.result.names = [] ∧
    p.notices =
      [.ignoredPiece (.unknownWord "BOGUS"), .ignoredPiece (.invalidEscape "bad\\x" 3)] ∧
    ∀ e, p.result.format e = ⟨.ok e.message, []⟩ := by
  obtain ⟨_, _, _, _, _, _, unreadable⟩ := lenient_build_agrees_with_strict misspelt .standard
  have refused : ∀ piece ∈ misspelt.pieces, ∃ e, piece.read misspelt.factories = .error e := by
    intro piece held
    rcases List.mem_cons.mp held with rfl | later
    · exact ⟨.unknownWord "BOGUS", rfl⟩
    · obtain rfl := List.mem_singleton.mp later
      exact ⟨.invalidEscape "bad\\x" 3, rfl⟩
  obtain ⟨p, built, names, notices, written⟩ := unreadable (by decide) refused
  refine ⟨p, built, names, ?_, written⟩
  rw [notices]
  decide +kernel

/-- Between others a text that cannot be read is passed over, unless building is strict. -/
example :
    let b := (((start ⟨[], "app", .utc⟩).addSpec "a=1;b").addSpec "BOGUS!x").addSpec "REMOVE!^a;c"
    ((b.build .standard).map fun p => p.result.names) = some ["b", "c"] ∧
      (b.buildStrict .standard).isOk = false := by
  decide +kernel

end Builder

end LogLayout
