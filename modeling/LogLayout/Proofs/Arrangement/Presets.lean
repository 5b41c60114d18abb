import LogLayout.Notice
import LogLayout.Proofs.Outcome

/- Preset tables after any history. What a table gives, in which order and by which key a request is
   served can all be told from the updates that led to it. Updates are listed from the earliest on,
   and a table that does not begin empty has the insertions of its first presets in front. -/
namespace LogLayout.PresetTable

def Update.About (key : String) : Update → Prop
  | .insert k _ => k = key
  | .remove k => k = key
  | .makeDefault _ => False

/-- The text was inserted for the key, and nothing has been done about the key since. -/
def Holds (history : List Update) (key spec : String) : Prop :=
  ∃ before after, history = before ++ .insert key spec :: after ∧ ∀ u ∈ after, ¬u.About key

def Present (history : List Update) (key : String) : Prop := ∃ spec, Holds history key spec

/-- The key was absent before the update at this place, and has been present ever since. -/
def ArrivedAt (history : List Update) (key : String) (place : Nat) : Prop :=
  place < history.length ∧ ¬Present (history.take place) key ∧
    ∀ n, place < n → n ≤ history.length → Present (history.take n) key

/-- The default key is the one that was chosen last, and the canonical key before any choice. -/
def DefaultIs (history : List Update) (key : String) : Prop :=
  (key = canonicalKey ∧ ∀ k, .makeDefault k ∉ history) ∨
    ∃ before after, history = before ++ .makeDefault key :: after ∧ ∀ k, .makeDefault k ∉ after

section

variable {history : List Update} {u : Update} {key spec : String} {place : Nat}

theorem holds_nothing : ¬Holds [] key spec := by
  rintro ⟨before, after, split, _⟩
  simp at split

theorem holds_snoc : Holds (history ++ [u]) key spec ↔
    u = .insert key spec ∨ (¬u.About key ∧ Holds history key spec) := by
  constructor
  · rintro ⟨before, after, split, untouched⟩
    rcases List.eq_nil_or_concat after with rfl | ⟨front, last, rfl⟩
    · exact .inl (List.singleton_inj.mp (List.append_inj' split rfl).2)
    · rw [List.concat_eq_append] at split untouched
      have cut : history ++ [u] = (before ++ .insert key spec :: front) ++ [last] := by
        rw [split, List.append_assoc, List.cons_append]
      obtain ⟨earlier, same⟩ := List.append_inj' cut rfl
      obtain rfl := List.singleton_inj.mp same
      refine .inr ⟨untouched u (by simp), before, front, earlier, ?_⟩
      intro v within
      exact untouched v (List.mem_append_left _ within)
  · rintro (rfl | ⟨other, before, after, rfl, untouched⟩)
    · exact ⟨history, [], rfl, by simp⟩
    · refine ⟨before, after ++ [u], by simp, ?_⟩
      intro v within
      rcases List.mem_append.mp within with earlier | last
      · exact untouched v earlier
      · obtain rfl := List.mem_singleton.mp last
        exact other

theorem arrived_snoc (arrived : ArrivedAt history key place)
    (kept : Present (history ++ [u]) key) : ArrivedAt (history ++ [u]) key place := by
  obtain ⟨within, absent, since⟩ := arrived
  have before (n : Nat) (le : n ≤ history.length) : (history ++ [u]).take n = history.take n :=
    List.take_append_of_le_length le
  refine ⟨by simp; omega, ?_, ?_⟩
  · rwa [before place (by omega)]
  · intro n later le
    rcases Nat.lt_or_ge history.length n with last | earlier
    · rwa [List.take_of_length_le (by simp; omega)]
    · rw [before n earlier]
      exact since n later earlier

theorem arrived_now (absent : ¬Present history key) (now : Present (history ++ [u]) key) :
    ArrivedAt (history ++ [u]) key history.length := by
  refine ⟨by simp, by simpa using absent, ?_⟩
  intro n later le
  rwa [List.take_of_length_le (by simp; omega)]

theorem default_snoc_kept {chosen : String} (other : ∀ k, u ≠ .makeDefault k)
    (is : DefaultIs history chosen) : DefaultIs (history ++ [u]) chosen := by
  rcases is with ⟨canonical, never⟩ | ⟨before, after, rfl, last⟩
  · refine .inl ⟨canonical, fun k within => ?_⟩
    rcases List.mem_append.mp within with earlier | now
    · exact never k earlier
    · exact other k (List.mem_singleton.mp now).symm
  · refine .inr ⟨before, after ++ [u], by simp, fun k within => ?_⟩
    rcases List.mem_append.mp within with earlier | now
    · exact last k earlier
    · exact other k (List.mem_singleton.mp now).symm

end

/-- The table is what the history makes of an empty one. -/
structure Follows (t : PresetTable) (history : List Update) : Prop where
  distinct : t.keys.Nodup
  texts : ∀ key spec, t.get? key = some spec ↔ Holds history key spec
  arrivals : ∀ key ∈ t.keys, ∃ place, ArrivedAt history key place
  order : t.keys.Pairwise fun a b =>
    ∃ i j, i < j ∧ ArrivedAt history a i ∧ ArrivedAt history b j
  default : DefaultIs history t.defaultKey

section

variable {t : PresetTable} {history : List Update}

theorem mem_keys_iff_present (follows : t.Follows history) (key : String) :
    key ∈ t.keys ↔ Present history key := by
  unfold keys Present
  rw [Keyed.mem_keys_iff]
  exact exists_congr fun spec => follows.texts key spec

theorem follows_snoc (follows : t.Follows history) {u : Update} {next : PresetTable}
    {kept new : List String} (names : next.keys = kept ++ new) (stays : kept.Sublist t.keys)
    (single : new.length ≤ 1) (absent : ∀ key ∈ new, key ∉ t.keys)
    (texts : ∀ key spec, next.get? key = some spec ↔ Holds (history ++ [u]) key spec)
    (default : DefaultIs (history ++ [u]) next.defaultKey) : next.Follows (history ++ [u]) := by
  have present (key : String) (member : key ∈ next.keys) : Present (history ++ [u]) key := by
    obtain ⟨spec, held⟩ := (Keyed.mem_keys_iff key _).mp member
    exact ⟨spec, (texts key spec).mp held⟩
  have stayed (key : String) (member : key ∈ kept) (place : Nat)
      (arrived : ArrivedAt history key place) : ArrivedAt (history ++ [u]) key place :=
    arrived_snoc arrived (present key (names ▸ List.mem_append_left _ member))
  have came (key : String) (member : key ∈ new) :
      ArrivedAt (history ++ [u]) key history.length := by
    refine arrived_now ?_ (present key (names ▸ List.mem_append_right _ member))
    rw [← mem_keys_iff_present follows]
    exact absent key member
  -- Of the new keys there is at most one, so that nothing has to be shown about two of them.
  have lone : ∀ (R : String → String → Prop), new.Pairwise R := by
    intro R
    match new, single with
    | [], _ => exact .nil
    | [key], _ => exact List.pairwise_singleton R key
  refine ⟨?_, texts, ?_, ?_, default⟩
  · rw [names]
    refine List.nodup_append.mpr ⟨stays.nodup follows.distinct, lone _, ?_⟩
    rintro key member other fresh rfl
    exact absent key fresh (stays.subset member)
  · intro key member
    rw [names] at member
    rcases List.mem_append.mp member with old | fresh
    · obtain ⟨place, arrived⟩ := follows.arrivals key (stays.subset old)
      exact ⟨place, stayed key old place arrived⟩
    · exact ⟨_, came key fresh⟩
  · rw [names]
    refine List.pairwise_append.mpr ⟨?_, lone _, ?_⟩
    · refine (follows.order.sublist stays).imp_of_mem ?_
      rintro a b first second ⟨i, j, before, arrivedFirst, arrivedSecond⟩
      exact ⟨i, j, before, stayed a first i arrivedFirst, stayed b second j arrivedSecond⟩
    · intro a old b fresh
      obtain ⟨i, arrived⟩ := follows.arrivals a (stays.subset old)
      exact ⟨i, history.length, arrived.1, stayed a old i arrived, came b fresh⟩

theorem follows_update (follows : t.Follows history) (u : Update) :
    (t.update u).Follows (history ++ [u]) := by
  cases u with
  | insert key spec =>
    have texts (k s : String) : (t.insert key spec).get? k = some s ↔
        Holds (history ++ [.insert key spec]) k s := by
      rw [holds_snoc, ← follows.texts k s]
      by_cases same : key = k <;> simp [get?, insert, same, Update.About]
    have default := default_snoc_kept (u := .insert key spec) (by simp) follows.default
    have names : (t.insert key spec).keys = if key ∈ t.keys then t.keys else t.keys ++ [key] :=
      Keyed.keys_insert key spec t.entries
    by_cases held : key ∈ t.keys
    · rw [if_pos held] at names
      rw [← List.append_nil t.keys] at names
      exact follows_snoc follows names (.refl _) (by simp) (by simp) texts default
    · rw [if_neg held] at names
      exact follows_snoc follows names (.refl _) (by simp) (by simpa using held) texts default
  | remove key =>
    have texts (k s : String) : (t.erase key).get? k = some s ↔
        Holds (history ++ [.remove key]) k s := by
      rw [holds_snoc, ← follows.texts k s]
      unfold get? erase
      rw [Keyed.get_erase key k t.entries follows.distinct]
      by_cases same : key = k <;> simp [same, Update.About]
    have default := default_snoc_kept (u := .remove key) (by simp) follows.default
    have names : (t.erase key).keys = t.keys.erase key ++ [] := by
      rw [List.append_nil]
      exact Keyed.keys_erase key t.entries
    exact follows_snoc follows names List.erase_sublist (by simp) (by simp) texts default
  | makeDefault key =>
    have texts (k s : String) : t.get? k = some s ↔
        Holds (history ++ [.makeDefault key]) k s := by
      rw [holds_snoc, ← follows.texts k s]
      simp [Update.About]
    have names : (t.setDefault key).keys = t.keys ++ [] := (List.append_nil _).symm
    exact follows_snoc follows names (.refl _) (by simp) (by simp) texts
      (.inr ⟨history, [], rfl, by simp⟩)

theorem follows_run (follows : t.Follows history) (updates : List Update) :
    (t.run updates).Follows (history ++ updates) := by
  induction updates generalizing t history with
  | nil => simpa [run] using follows
  | cons u rest ih => simpa [run] using ih (follows_update follows u)

end

theorem follows_empty : empty.Follows [] where
  distinct := List.nodup_nil
  texts key spec := by simp [empty, get?, Keyed.get?, holds_nothing]
  arrivals key member := by cases member
  order := .nil
  default := .inl ⟨rfl, by simp⟩

def opening : List Update := standard.entries.map fun entry => .insert entry.1 entry.2

theorem follows_standard : standard.Follows opening := follows_run follows_empty opening

/-- The updates of the shared table since it was last set back to the standard one. -/
def sinceReset (history : List Update) : List Change → List Update
  | [] => history
  | .register key spec :: rest => sinceReset (history ++ [.insert key spec]) rest
  | .makeDefault key :: rest => sinceReset (history ++ [.makeDefault key]) rest
  | .reset :: rest => sinceReset opening rest

theorem follows_changes {t : PresetTable} {history : List Update} (follows : t.Follows history)
    (changes : List Change) : (t.runShared changes).Follows (sinceReset history changes) := by
  induction changes generalizing t history with
  | nil => exact follows
  | cons c rest ih =>
    cases c with
    | register key spec => exact ih (follows_update follows (.insert key spec))
    | makeDefault key => exact ih (follows_update follows (.makeDefault key))
    | reset => exact ih follows_standard

def wanted (t : PresetTable) (request : Option String) : String := request.getD t.defaultKey

def logged (t : PresetTable) (request : Option String) : List Severity :=
  (t.choose request).2.toList.map fun notice => (Notice.preset notice).severity

structure Serves (t : PresetTable) (history : List Update) (request : Option String) : Prop where
  direct : ∀ spec, Holds history (t.wanted request) spec →
    (t.choose request).1 = some (t.wanted request, spec) ∧ t.logged request = []
  canonical : ¬Present history (t.wanted request) → ∀ spec, Holds history canonicalKey spec →
    (t.choose request).1 = some (canonicalKey, spec) ∧ t.logged request = [.warn]
  first : ¬Present history (t.wanted request) → ¬Present history canonicalKey →
    ∀ key, t.keys.head? = some key → ∃ spec, Holds history key spec ∧
      (t.choose request).1 = some (key, spec) ∧ t.logged request = [.warn]
  nothing : (t.choose request).1 = none ↔ ∀ key, ¬Present history key
  reported : (t.choose request).1 = none → t.logged request = [.error]

section

variable {t : PresetTable} {history : List Update} (follows : t.Follows history)
  {request : Option String}
include follows

theorem absent_iff (key : String) : t.get? key = none ↔ ¬Present history key :=
  (none_iff_of_some_iff (follows.texts key)).trans not_exists.symm

theorem choose_direct {spec : String} (held : Holds history (t.wanted request) spec) :
    t.choose request = (some (t.wanted request, spec), none) := by
  have found : t.get? (request.getD t.defaultKey) = some spec := (follows.texts _ _).mpr held
  simp only [choose, found]
  rfl

theorem choose_canonical {spec : String} (missing : ¬Present history (t.wanted request))
    (held : Holds history canonicalKey spec) : t.choose request =
      (some (canonicalKey, spec), some (.replaced (t.wanted request) canonicalKey)) := by
  have absent : t.get? (request.getD t.defaultKey) = none := (absent_iff follows _).mpr missing
  have found : t.get? canonicalKey = some spec := (follows.texts _ _).mpr held
  simp only [choose, absent, found]
  rfl

theorem choose_first {key spec : String} {rest : List (String × String)}
    (missing : ¬Present history (t.wanted request)) (bare : ¬Present history canonicalKey)
    (entries : t.entries = (key, spec) :: rest) : t.choose request =
      (some (key, spec), some (.replaced (t.wanted request) key)) := by
  have absent : t.get? (request.getD t.defaultKey) = none := (absent_iff follows _).mpr missing
  have without : t.get? canonicalKey = none := (absent_iff follows _).mpr bare
  simp only [choose, absent, without, entries]
  rfl

end

theorem empty_iff {t : PresetTable} {history : List Update} (follows : t.Follows history) :
    t.entries = [] ↔ ∀ key, ¬Present history key := by
  have members (key : String) := mem_keys_iff_present follows key
  constructor
  · intro none_held key present
    simpa [keys, Keyed.keys, none_held] using (members key).mpr present
  · intro absent
    have none_named : t.keys = [] :=
      List.eq_nil_iff_forall_not_mem.mpr fun key member => absent key ((members key).mp member)
    simpa [keys, Keyed.keys] using none_named

theorem unserved_iff (t : PresetTable) (request : Option String) :
    (t.choose request).1 = none ↔ t.entries = [] := by
  constructor
  · intro unserved
    simp only [choose] at unserved
    split at unserved
    · cases unserved
    · split at unserved
      · cases unserved
      · cases unserved
      · rename_i none_held
        exact none_held
  · intro none_held
    rw [choose_empty t request none_held]

theorem serves_request {t : PresetTable} {history : List Update} (follows : t.Follows history)
    (request : Option String) : t.Serves history request := by
  have direct (spec : String) (held : Holds history (t.wanted request) spec) :=
    choose_direct follows held
  have canonical (missing : ¬Present history (t.wanted request)) (spec : String)
      (held : Holds history canonicalKey spec) := choose_canonical follows missing held
  refine ⟨?_, ?_, ?_, ?_, ?_⟩
  · intro spec held
    simp [logged, direct spec held]
  · intro missing spec held
    simp [logged, canonical missing spec held, Notice.severity]
  · intro missing bare key head
    obtain ⟨spec, rest, entries⟩ : ∃ spec rest, t.entries = (key, spec) :: rest := by
      cases held : t.entries with
      | nil => simp [keys, Keyed.keys, held] at head
      | cons entry rest =>
        obtain ⟨name, spec⟩ := entry
        obtain rfl : name = key := by simpa [keys, Keyed.keys, held] using head
        exact ⟨spec, rest, rfl⟩
    have own : Holds history key spec := by
      rw [← follows.texts]
      simp [get?, entries, Keyed.get?]
    have chosen := choose_first follows missing bare entries
    exact ⟨spec, own, by rw [chosen], by simp [logged, chosen, Notice.severity]⟩
  · exact (unserved_iff t request).trans (empty_iff follows)
  · intro unserved
    have none_held := (unserved_iff t request).mp unserved
    simp [logged, choose_empty t request none_held, Notice.severity]

/-- A table that is changed in any way from empty or standard, and the shared one whatever is
    registered in it and however often it is set back, follow their history: distinct keys in the
    order in which they arrived, each with the text that was inserted for it last. Every request is
    served by its own key or the default one, else by the canonical key, else by the first, with one
    warning about the replacement; only an empty table leaves it unserved, with one error. -/
theorem requests_served_by_history :
    (∀ updates, (empty.run updates).Follows updates ∧
      ∀ request, (empty.run updates).Serves updates request) ∧
    (∀ updates, (standard.run updates).Follows (opening ++ updates) ∧
      ∀ request, (standard.run updates).Serves (opening ++ updates) request) ∧
    ∀ changes, (standard.runShared changes).Follows (sinceReset opening changes) ∧
      ∀ request, (standard.runShared changes).Serves (sinceReset opening changes) request := by
  refine ⟨fun updates => ?_, fun updates => ?_, fun changes => ?_⟩
  · have follows := follows_run follows_empty updates
    exact ⟨follows, serves_request follows⟩
  · have follows := follows_run follows_standard updates
    exact ⟨follows, serves_request follows⟩
  · have follows := follows_changes follows_standard changes
    exact ⟨follows, serves_request follows⟩

/-- A key that comes back stands behind the others, and the default may name a key that is gone. -/
example :
    let t := empty.run [.insert "a" "1", .insert "b" "2", .makeDefault "a", .remove "a"]
    (t.run [.insert "a" "3"]).keys = ["b", "a"] ∧ t.choose none =
      (some ("b", "2"), some (.replaced "a" "b")) := by
  decide

end LogLayout.PresetTable
