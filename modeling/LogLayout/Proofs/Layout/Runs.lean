import LogLayout.Proofs.Layout.Failures

/- Runs over events of any number. The flags that a run carries along never reach a result, and
   under each path there is one report at most: at the first event where the slot there fails. -/
namespace LogLayout

namespace Journal

/-- What has been said was said by slots that count as having reported, each of them once. -/
structure Consistent (j : Journal) : Prop where
  once : (j.said.map Prod.fst).Nodup
  marked : ∀ r ∈ j.said, r.1 ∈ j.reported

theorem consistent_start (reported : List (List Nat)) : Consistent ⟨reported, []⟩ :=
  ⟨List.nodup_nil, by simp⟩

theorem consistent_note {j : Journal} (consistent : j.Consistent) (r : Remark) :
    (j.note r).Consistent := by
  unfold note
  split
  · exact consistent
  · rename_i fresh
    have unsaid : r.1 ∉ j.said.map Prod.fst := by
      intro said
      obtain ⟨earlier, member, same⟩ := List.mem_map.mp said
      exact fresh (same ▸ consistent.marked earlier member)
    constructor
    · simp only [List.map_append, List.map_cons, List.map_nil]
      exact List.nodup_append.mpr ⟨consistent.once, by simp, by
        intro path said other single same
        obtain rfl : other = r.1 := by simpa using single
        exact unsaid (same ▸ said)⟩
    · intro s said
      rcases List.mem_append.mp said with old | new
      · exact List.mem_cons_of_mem _ (consistent.marked s old)
      · obtain rfl : s = r := by simpa using new
        exact List.mem_cons_self ..

theorem consistent_note_all {j : Journal} (consistent : j.Consistent) (rs : List Remark) :
    (j.noteAll rs).Consistent := by
  induction rs generalizing j with
  | nil => exact consistent
  | cons r rs ih => exact ih (consistent_note consistent r)

theorem reported_note (j : Journal) (r : Remark) (path : List Nat) :
    path ∈ (j.note r).reported ↔ path ∈ j.reported ∨ path = r.1 := by
  unfold note
  split
  · rename_i known
    constructor
    · exact Or.inl
    · rintro (old | rfl)
      · exact old
      · exact known
  · simp only [List.mem_cons]
    exact Or.comm

theorem reported_note_all (j : Journal) (rs : List Remark) (path : List Nat) :
    path ∈ (j.noteAll rs).reported ↔ path ∈ j.reported ∨ ∃ notice, (path, notice) ∈ rs := by
  induction rs generalizing j with
  | nil => simp [noteAll]
  | cons r rs ih =>
    change path ∈ ((j.note r).noteAll rs).reported ↔ _
    rw [ih, reported_note]
    constructor
    · rintro ((old | rfl) | ⟨notice, later⟩)
      · exact Or.inl old
      · exact Or.inr ⟨r.2, List.mem_cons_self ..⟩
      · exact Or.inr ⟨notice, List.mem_cons_of_mem _ later⟩
    · rintro (old | ⟨notice, member⟩)
      · exact Or.inl (Or.inl old)
      · rcases List.mem_cons.mp member with rfl | later
        · exact Or.inl (Or.inr rfl)
        · exact Or.inr ⟨notice, later⟩

theorem said_note (j : Journal) (first r : Remark) :
    r ∈ (j.note first).said ↔ r ∈ j.said ∨ first.1 ∉ j.reported ∧ r = first := by
  unfold note
  split <;> simp [*]

theorem said_note_all (j : Journal) (rs : List Remark) (r : Remark)
    (agree : ∀ s ∈ rs, ∀ t ∈ rs, s.1 = t.1 → s = t) :
    r ∈ (j.noteAll rs).said ↔ r ∈ j.said ∨ r.1 ∉ j.reported ∧ r ∈ rs := by
  induction rs generalizing j with
  | nil => simp [noteAll]
  | cons first rs ih =>
    have others : ∀ s ∈ rs, ∀ t ∈ rs, s.1 = t.1 → s = t := by
      intro s held t held'
      exact agree s (List.mem_cons_of_mem _ held) t (List.mem_cons_of_mem _ held')
    change r ∈ ((j.note first).noteAll rs).said ↔ _
    rw [ih _ others, reported_note, said_note, List.mem_cons, not_or]
    constructor
    · rintro ((old | ⟨fresh, rfl⟩) | ⟨⟨fresh, -⟩, later⟩)
      · exact Or.inl old
      · exact Or.inr ⟨fresh, Or.inl rfl⟩
      · exact Or.inr ⟨fresh, Or.inr later⟩
    · rintro (old | ⟨fresh, member⟩)
      · exact Or.inl (Or.inl old)
      · by_cases same : r.1 = first.1
        · obtain rfl : r = first := agree r (List.mem_cons.mpr member) first (List.mem_cons_self ..) same
          exact Or.inl (Or.inr ⟨fresh, rfl⟩)
        · have later : r ∈ rs := member.resolve_left fun equal => same (congrArg Prod.fst equal)
          exact Or.inr ⟨⟨fresh, same⟩, later⟩

end Journal

namespace Layout

/-- The result for an event when nothing has been reported yet. -/
def freshResult (l : Layout) (e : Event) : Option (Except FormatError String) :=
  if aborted (l.format e).failures then none else some (l.format e).result

def journalAfter (l : Layout) (reported : List (List Nat)) (e : Event) : Journal :=
  Journal.noteAll ⟨reported, []⟩ (remarks (l.format e).failures)

theorem run_cons (l : Layout) (reported : List (List Nat)) (e : Event) (rest : List Event) :
    l.run reported (e :: rest) =
      ⟨l.freshResult e, (l.journalAfter reported e).said⟩ ::
        l.run (l.journalAfter reported e).reported rest := by
  have watched := format_replays l e ⟨reported, []⟩
  rw [run, watched]
  rfl

def reportedAfter (l : Layout) (reported : List (List Nat)) (events : List Event) :
    List (List Nat) :=
  events.foldl (fun reported e => (l.journalAfter reported e).reported) reported

theorem run_append (l : Layout) (reported : List (List Nat)) (before rest : List Event) :
    l.run reported (before ++ rest) =
      l.run reported before ++ l.run (l.reportedAfter reported before) rest := by
  induction before generalizing reported with
  | nil => rfl
  | cons e before ih =>
    rw [List.cons_append, run_cons, run_cons, ih]
    rfl

theorem run_length (l : Layout) (reported : List (List Nat)) (events : List Event) :
    (l.run reported events).length = events.length := by
  induction events generalizing reported with
  | nil => rfl
  | cons e rest ih => rw [run_cons, List.length_cons, List.length_cons, ih]

theorem run_results (l : Layout) (reported : List (List Nat)) (events : List Event) :
    (l.run reported events).map Outcome.result = events.map l.freshResult := by
  induction events generalizing reported with
  | nil => rfl
  | cons e rest ih => rw [run_cons, List.map_cons, List.map_cons, ih]

theorem remarks_agree (l : Layout) (e : Event) :
    ∀ s ∈ remarks (l.format e).failures, ∀ t ∈ remarks (l.format e).failures,
      s.1 = t.1 → s = t := by
  intro s held t held' same
  obtain ⟨path, member, error, rfl, failed⟩ := (remarks_of_format l e s).mp held
  obtain ⟨path', member', error', rfl, failed'⟩ := (remarks_of_format l e t).mp held'
  obtain rfl : path = path' := same
  obtain ⟨rfl, rfl⟩ := layout_fails_unique failed failed'
  rfl

theorem said_at (l : Layout) (reported : List (List Nat)) (e : Event) (path : List Nat)
    (notice : Notice) :
    (path, notice) ∈ (l.journalAfter reported e).said ↔
      path ∉ reported ∧
        ∃ member error, notice = .failedRead member error ∧ l.Fails e path member error := by
  rw [journalAfter, Journal.said_note_all _ _ _ (remarks_agree l e), remarks_of_format]
  constructor
  · rintro (old | ⟨fresh, _, member, error, ⟨⟩, failed⟩)
    · cases old
    · exact ⟨fresh, member, error, rfl, failed⟩
  · rintro ⟨fresh, member, error, rfl, failed⟩
    exact Or.inr ⟨fresh, path, member, error, rfl, failed⟩

theorem reported_at (l : Layout) (reported : List (List Nat)) (e : Event) (path : List Nat) :
    path ∈ (l.journalAfter reported e).reported ↔
      path ∈ reported ∨ ∃ member error, l.Fails e path member error := by
  rw [journalAfter, Journal.reported_note_all]
  constructor
  · rintro (old | ⟨notice, remarked⟩)
    · exact Or.inl old
    · obtain ⟨_, member, error, ⟨⟩, failed⟩ := (remarks_of_format l e _).mp remarked
      exact Or.inr ⟨member, error, failed⟩
  · rintro (old | ⟨member, error, failed⟩)
    · exact Or.inl old
    · exact Or.inr ⟨_, (remarks_of_format l e _).mpr ⟨path, member, error, rfl, failed⟩⟩

theorem reported_after (l : Layout) (reported : List (List Nat)) (events : List Event)
    (path : List Nat) :
    path ∈ l.reportedAfter reported events ↔
      path ∈ reported ∨ ∃ e ∈ events, ∃ member error, l.Fails e path member error := by
  induction events generalizing reported with
  | nil => simp [reportedAfter]
  | cons e rest ih =>
    change path ∈ l.reportedAfter (l.journalAfter reported e).reported rest ↔ _
    rw [ih, reported_at]
    simp [or_assoc]

/-- What is said in a run is said by slots that had not reported before, and by each once. -/
theorem run_says_once (l : Layout) (reported : List (List Nat)) (events : List Event) :
    (((l.run reported events).flatMap Outcome.said).map Prod.fst).Nodup ∧
      ∀ path ∈ ((l.run reported events).flatMap Outcome.said).map Prod.fst, path ∉ reported := by
  induction events generalizing reported with
  | nil => simp [run]
  | cons e rest ih =>
    obtain ⟨once, fresh⟩ := ih (l.journalAfter reported e).reported
    have consistent : (l.journalAfter reported e).Consistent :=
      Journal.consistent_note_all (Journal.consistent_start reported) _
    rw [run_cons, List.flatMap_cons, List.map_append]
    constructor
    · refine List.nodup_append.mpr ⟨consistent.once, once, ?_⟩
      intro path now other later same
      subst same
      obtain ⟨r, said, rfl⟩ := List.mem_map.mp now
      exact fresh r.1 later (consistent.marked r said)
    · intro path said
      rcases List.mem_append.mp said with now | later
      · obtain ⟨⟨_, notice⟩, held, rfl⟩ := List.mem_map.mp now
        exact ((said_at l reported e _ notice).mp held).1
      · intro old
        exact fresh path later ((reported_at l reported e path).mpr (Or.inl old))

/-- In a run over events each result is the one of a fresh copy of the layout, each slot reports at
    most once, and it does so at the first event at which it is read and its getter is in error,
    with the error of that event. -/
theorem runs_without_memory (l : Layout) (events : List Event) :
    (l.run [] events).map Outcome.result =
        events.flatMap (fun e => (l.run [] [e]).map Outcome.result) ∧
      (((l.run [] events).flatMap Outcome.said).map Prod.fst).Nodup ∧
      ∀ before e after, events = before ++ e :: after →
        ∃ outcome, (l.run [] events)[before.length]? = some outcome ∧
          ∀ path notice, (path, notice) ∈ outcome.said ↔
            ∃ member error, notice = .failedRead member error ∧ l.Fails e path member error ∧
              ∀ earlier ∈ before, ¬ ∃ member error, l.Fails earlier path member error := by
  refine ⟨?_, (run_says_once l [] events).1, ?_⟩
  · rw [run_results, List.map_eq_flatMap]
    simp [run_results]
  · rintro before e after rfl
    rw [run_append, run_cons]
    have place : before.length = (l.run [] before).length := (run_length l [] before).symm
    refine ⟨⟨l.freshResult e, (l.journalAfter (l.reportedAfter [] before) e).said⟩, ?_, ?_⟩
    · rw [place, List.getElem?_append_right (Nat.le_refl _), Nat.sub_self]
      rfl
    · intro path notice
      rw [said_at, reported_after]
      constructor
      · rintro ⟨fresh, member, error, same, failed⟩
        refine ⟨member, error, same, failed, ?_⟩
        intro earlier held again
        exact fresh (Or.inr ⟨earlier, held, again⟩)
      · rintro ⟨member, error, same, failed, first⟩
        refine ⟨?_, member, error, same, failed⟩
        rintro (old | ⟨earlier, held, again⟩)
        · cases old
        · exact first earlier held again

def saying (message : String) : Event :=
  Event.bare ⟨[], "app", .utc⟩ message [] ⟨0, 0⟩ "INFO" "core" "main"

def flakyLayout : Layout :=
  ⟨[.bare "a", .group "g" [.nested "" (.getter "flaky" fun e =>
    if e.message = "bad" then .error (.conversion (.failed "boom")) else .ok none)]], {}, .standard⟩

theorem flaky_slot_reports_first_failure :
    ∃ outcome, (flakyLayout.run [] [saying "good", saying "bad", saying "bad"])[1]? = some outcome ∧
      ([1, 0], .failedRead "flaky" (.failed "boom")) ∈ outcome.said := by
  obtain ⟨outcome, second, said⟩ :=
    (runs_without_memory flakyLayout [saying "good", saying "bad", saying "bad"]).2.2
      [saying "good"] (saying "bad") [saying "bad"] rfl
  refine ⟨outcome, second, (said _ _).mpr ⟨"flaky", .failed "boom", rfl, ?_, ?_⟩⟩
  · refine ⟨_, rfl, ?_, .group rfl (by simp) (.nested (.getter rfl))⟩
    intro earlier held
    obtain rfl : earlier = .bare "a" := by simpa [flakyLayout] using held
    constructor
    · rintro ⟨⟩
    · intro value read
      obtain rfl : value = .text "a" := Option.some.inj read.symm
      exact ⟨.text "a", rfl⟩
  · rintro earlier held ⟨member, error, slot, found, _, failed⟩
    obtain rfl : earlier = saying "good" := by simpa using held
    obtain rfl := Option.some.inj found
    rcases failed with _ | ⟨held, _, failed⟩
    obtain rfl := Option.some.inj held
    rcases failed with _ | _ | ⟨⟨failed⟩⟩
    simp [saying, Event.bare] at failed

end Layout

end LogLayout
