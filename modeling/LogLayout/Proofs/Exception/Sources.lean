import LogLayout.Exception.Sources
import LogLayout.Proofs.Outcome

/- Captured exceptions keep all the sources. The links are found in the order of the sources, and
   tying them together from the last one makes each the cause of the one before it, so that order
   is the order of the causes. -/
namespace LogLayout

namespace Exception

theorem first_cause (x : Exception) : x.causes[0]? = x.cause := by
  match x with
  | ⟨_, _, _, none⟩ => rfl
  | ⟨_, _, _, some _⟩ => rfl

theorem next_cause {x link : Exception} {k : Nat} (held : x.causes[k]? = some link) :
    x.causes[k + 1]? = link.cause := by
  induction k generalizing x with
  | zero =>
    match x with
    | ⟨_, _, _, none⟩ => cases held
    | ⟨_, _, _, some cause⟩ =>
      obtain rfl := Option.some.inj held
      exact first_cause cause
  | succ k ih =>
    match x with
    | ⟨_, _, _, none⟩ => cases held
    | ⟨_, _, _, some cause⟩ => exact ih held

theorem last_cause {x last : Exception} (held : x.causes.getLast? = some last) :
    last.cause = none := by
  rw [List.getLast?_eq_getElem?] at held
  have inside : x.causes.length - 1 < x.causes.length := (List.getElem?_eq_some_iff.mp held).1
  rw [← next_cause held, List.getElem?_eq_none_iff]
  omega

theorem tie_cons (link : Exception) (links : List Exception) :
    tie (link :: links) = some { link with cause := tie links } := by
  rw [tie, List.reverse_cons, List.foldl_append]
  rfl

theorem tie_sources (messages : List String) : tie (messages.map ofSource) = ofCauses messages := by
  induction messages with
  | nil => rfl
  | cons message later ih =>
    rw [List.map_cons, tie_cons, ih]
    rfl

theorem causes_bare {kind message : String} {messages : List String} {link : Exception}
    (member : link ∈ (ofError kind message messages).causes) :
    link.kind = "Error" ∧ link.frames = [] := by
  induction messages generalizing kind message with
  | nil => cases member
  | cons first later ih =>
    rcases List.mem_cons.mp member with rfl | behind
    · exact ⟨rfl, rfl⟩
    · exact ih behind

end Exception

namespace Errors

variable {errors : Errors α} {e : α} {sources : List α}

inductive Sources (errors : Errors α) : α → List α → Prop where
  | last {e : α} (none : errors.source? e = none) : Sources errors e []
  | next {e source : α} {later : List α} (held : errors.source? e = some source)
      (rest : Sources errors source later) : Sources errors e (source :: later)

theorem Sources.ends (chain : errors.Sources e sources) : errors.Ends e := by
  induction chain with
  | last none =>
    refine Acc.intro _ fun error held => ?_
    cases none.symm.trans held
  | next held _ ih =>
    refine Acc.intro _ fun error again => ?_
    cases held.symm.trans again
    exact ih

theorem sources_of_ends (ends : errors.Ends e) : ∃ sources, errors.Sources e sources := by
  induction ends with
  | intro e _ ih =>
    cases held : errors.source? e with
    | none => exact ⟨[], .last held⟩
    | some source =>
      obtain ⟨later, rest⟩ := ih source held
      exact ⟨source :: later, .next held rest⟩

theorem sources_unique {others : List α} (chain : errors.Sources e sources)
    (again : errors.Sources e others) : sources = others := by
  induction chain generalizing others with
  | last none =>
    cases again with
    | last => rfl
    | next held => cases none.symm.trans held
  | next held _ ih =>
    cases again with
    | last none => cases held.symm.trans none
    | next same rest =>
      cases held.symm.trans same
      rw [ih rest]

/-- Following comes to an end just where the sources can be counted, and in one way only. -/
theorem ends_iff_finite : errors.Ends e ↔ ∃ sources, errors.Sources e sources ∧
    ∀ others, errors.Sources e others → others = sources := by
  constructor
  · intro ends
    obtain ⟨sources, chain⟩ := sources_of_ends ends
    exact ⟨sources, chain, fun _ again => sources_unique again chain⟩
  · rintro ⟨sources, chain, -⟩
    exact chain.ends

theorem spell_to_option (e : α) : (errors.spell e).toOption = errors.text? e := by
  rw [spell]
  cases errors.text? e <;> rfl

theorem spell_ok_iff {text : String} : errors.spell e = .ok text ↔ errors.text? e = some text := by
  rw [spell]
  cases errors.text? e <;> simp

theorem spell_error_iff {stuck : α} :
    errors.spell e = .error stuck ↔ errors.text? e = none ∧ e = stuck := by
  rw [spell]
  cases errors.text? e <;> simp

theorem has_text_iff : (∃ text, errors.spell e = .ok text) ↔ errors.text? e ≠ none := by
  simp only [spell_ok_iff, Option.ne_none_iff_exists']

theorem follow_last {links : List Exception} (ends : errors.Ends e)
    (none : errors.source? e = none) : errors.follow links e ends = .ok links := by
  rw [follow]
  split
  · rfl
  · rename_i held
    cases none.symm.trans held

theorem follow_next {links : List Exception} {source : α} (ends : errors.Ends e)
    (later : errors.Ends source) (held : errors.source? e = some source) :
    errors.follow links e ends = (do
      let message ← errors.spell source
      errors.follow (links ++ [.ofSource message]) source later) := by
  rw [follow]
  split
  · rename_i none
    cases held.symm.trans none
  · rename_i same
    cases held.symm.trans same
    cases errors.spell source <;> rfl

theorem follow_sources (chain : errors.Sources e sources) (links : List Exception) :
    errors.follow links e chain.ends = (sources.mapM errors.spell).map fun messages =>
      links ++ messages.map Exception.ofSource := by
  induction chain generalizing links with
  | last none =>
    rw [follow_last _ none, List.mapM_nil]
    simp [pure, Except.pure, Except.map]
  | @next _ source later held rest ih =>
    rw [follow_next _ rest.ends held, List.mapM_cons]
    cases errors.spell source with
    | error stuck => rfl
    | ok message =>
      refine (ih _).trans ?_
      cases later.mapM errors.spell with
      | error stuck => rfl
      | ok messages => simp [bind, Except.bind, pure, Except.pure, Except.map]

theorem capture_sources (kind : String) (chain : errors.Sources e sources) :
    errors.capture kind e chain.ends = (do
      let messages ← sources.mapM errors.spell
      let message ← errors.spell e
      return .ofError kind message messages) := by
  rw [capture, follow_sources chain]
  cases sources.mapM errors.spell with
  | error stuck => rfl
  | ok messages =>
    cases errors.spell e with
    | error stuck => rfl
    | ok message =>
      exact congrArg (fun cause => Except.ok (Exception.mk kind message [] cause))
        (Exception.tie_sources messages)

theorem captured_as {kind : String} {x : Exception} (chain : errors.Sources e sources)
    (done : errors.capture kind e chain.ends = .ok x) : ∃ message messages,
      x = .ofError kind message messages ∧ errors.text? e = some message ∧
        sources.map errors.text? = messages.map some := by
  rw [capture_sources kind chain] at done
  obtain ⟨messages, spelt, rest⟩ := ok_of_bind done
  obtain ⟨message, own, made⟩ := ok_of_bind rest
  refine ⟨message, messages, (Except.ok.inj made).symm, spell_ok_iff.mp own, ?_⟩
  have each := congrArg (List.map Except.toOption) (results_of_map_m spelt)
  simp only [List.map_map] at each
  exact (List.map_congr_left fun source _ => (spell_to_option source).symm).trans each

/-- The texts of the sources are asked for in their order, and that of the error behind them. The
    first that cannot be produced stops the capture. -/
theorem stops_iff (kind : String) (chain : errors.Sources e sources) (stuck : α) :
    errors.capture kind e chain.ends = .error stuck ↔ ∃ before after,
      sources ++ [e] = before ++ stuck :: after ∧
        (∀ error ∈ before, errors.text? error ≠ none) ∧ errors.text? stuck = none := by
  have asked : errors.capture kind e chain.ends = .error stuck ↔
      (sources ++ [e]).mapM errors.spell = .error stuck := by
    rw [capture_sources kind chain, List.mapM_append, List.mapM_cons, List.mapM_nil]
    cases sources.mapM errors.spell with
    | error first => simp [bind, Except.bind]
    | ok messages => cases errors.spell e <;> simp [bind, Except.bind, pure, Except.pure]
  rw [asked, map_m_error_iff]
  constructor
  · rintro ⟨before, error, after, split, passed, failed⟩
    obtain ⟨missing, rfl⟩ := spell_error_iff.mp failed
    exact ⟨before, after, split, fun y member => has_text_iff.mp (passed y member), missing⟩
  · rintro ⟨before, after, split, passed, missing⟩
    exact ⟨before, stuck, after, split, fun y member => has_text_iff.mpr (passed y member),
      spell_error_iff.mpr ⟨missing, rfl⟩⟩

theorem captured_iff (kind : String) (chain : errors.Sources e sources) :
    (∃ x, errors.capture kind e chain.ends = .ok x) ↔
      ∀ error ∈ e :: sources, errors.text? error ≠ none := by
  constructor
  · rintro ⟨x, done⟩
    obtain ⟨message, messages, -, own, each⟩ := captured_as chain done
    refine List.forall_mem_cons.mpr ⟨by simp [own], ?_⟩
    intro source member missing
    have listed : none ∈ messages.map some := by
      rw [← each, ← missing]
      exact List.mem_map_of_mem member
    simp at listed
  · intro texts
    cases done : errors.capture kind e chain.ends with
    | ok x => exact ⟨x, rfl⟩
    | error stuck =>
      obtain ⟨before, after, split, -, missing⟩ := (stops_iff kind chain stuck).mp done
      have member : stuck ∈ sources ++ [e] := split ▸ List.mem_append_right _ (List.mem_cons_self ..)
      rw [List.mem_append, List.mem_singleton, or_comm, ← List.mem_cons] at member
      exact absurd missing (texts stuck member)

/-- An error whose sources end, however many they are, is captured if all the texts are there. It
    has a cause for each source then, in the order of the sources: with the text of the source, the
    kind of all errors and no frames. Behind the last of them there is no other. -/
theorem sources_kept_in_order (errors : Errors α) (kind : String) {e : α} {sources : List α}
    (chain : errors.Sources e sources) :
    ((∃ x, errors.capture kind e chain.ends = .ok x) ↔
        ∀ error ∈ e :: sources, errors.text? error ≠ none) ∧
      ∀ x, errors.capture kind e chain.ends = .ok x →
        x.kind = kind ∧ errors.text? e = some x.message ∧ x.frames = [] ∧
          x.cause = x.causes[0]? ∧ x.causes.length = sources.length ∧
          (∀ k source, sources[k]? = some source → ∃ link, x.causes[k]? = some link ∧
            errors.text? source = some link.message ∧ link.kind = "Error" ∧ link.frames = [] ∧
            link.cause = x.causes[k + 1]?) ∧
          ∀ last, x.causes.getLast? = some last → last.cause = none := by
  refine ⟨captured_iff kind chain, ?_⟩
  intro x done
  obtain ⟨message, messages, rfl, own, texts⟩ := captured_as chain done
  have listed : sources.map errors.text? =
      (Exception.ofError kind message messages).causes.map (some ∘ Exception.message) := by
    rw [← List.map_map, Exception.causes_of_error]
    exact texts
  refine ⟨rfl, own, rfl, (Exception.first_cause _).symm, ?_, ?_, fun _ => Exception.last_cause⟩
  · simpa using (congrArg List.length listed).symm
  · intro k source held
    have told : some (errors.text? source) =
        ((Exception.ofError kind message messages).causes[k]?).map (some ∘ Exception.message) := by
      rw [← List.getElem?_map, ← listed, List.getElem?_map, held]
      rfl
    obtain ⟨link, found, text⟩ := Option.map_eq_some_iff.mp told.symm
    obtain ⟨general, frameless⟩ := Exception.causes_bare (List.mem_of_getElem? found)
    exact ⟨link, found, text.symm, general, frameless, (Exception.next_cause found).symm⟩

def unreadableConfig : List String := ["config unreadable", "disk gone", "bus reset", "cable cut"]

theorem unreadable_config_captured :
    told.Sources unreadableConfig
        [["disk gone", "bus reset", "cable cut"], ["bus reset", "cable cut"], ["cable cut"]] ∧
      ∃ x, told.capture "Outer" unreadableConfig (told_ends _) = .ok x ∧
        x.message = "config unreadable" ∧ x.causes.length = 3 ∧
        (∃ link, x.causes[0]? = some link ∧ link.message = "disk gone") ∧
        (∃ link, x.causes[2]? = some link ∧ link.message = "cable cut" ∧ link.cause = none) := by
  have chain : told.Sources unreadableConfig
      [["disk gone", "bus reset", "cable cut"], ["bus reset", "cable cut"], ["cable cut"]] :=
    .next rfl (.next rfl (.next rfl (.last rfl)))
  obtain ⟨captured, kept⟩ := sources_kept_in_order told "Outer" chain
  obtain ⟨x, done⟩ := captured.mpr (by decide)
  obtain ⟨-, own, -, -, count, links, -⟩ := kept x done
  obtain ⟨first, outer, text, -⟩ := links 0 _ rfl
  obtain ⟨last, inner, deepest, -, -, behind⟩ := links 2 _ rfl
  have nothing : x.causes[3]? = none := List.getElem?_eq_none_iff.mpr (Nat.le_of_eq count)
  exact ⟨chain, x, done, (Option.some.inj own).symm, count,
    ⟨first, outer, (Option.some.inj text).symm⟩,
    ⟨last, inner, (Option.some.inj deepest).symm, behind.trans nothing⟩⟩

end Errors

end LogLayout
