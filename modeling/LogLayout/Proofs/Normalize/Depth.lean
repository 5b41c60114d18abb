import LogLayout.Proofs.Normalize.Parts

/- The depth limit. A value is a tree of nodes, each known by the positions that lead to it; an
   object that contains itself has nodes at every depth. Normalising visits the nodes depth first
   and from left to right, and the first one that lies too deep or has no text decides about the
   error. What it gives is no deeper than what goes in may be. -/
namespace LogLayout

/-- What is reached from a whole by going into its parts at these positions, outermost first. -/
inductive NodeAt (parts : α → List α) : α → List Nat → α → Prop
  | root {whole : α} : NodeAt parts whole [] whole
  | within {whole part node : α} {i : Nat} {path : List Nat} (held : (parts whole)[i]? = some part)
      (inside : NodeAt parts part path node) : NodeAt parts whole (i :: path) node

/-- Depth first and from left to right: a node comes before those inside it, and these come before
    the ones inside later parts. -/
inductive Before : List Nat → List Nat → Prop
  | outside {i : Nat} {path : List Nat} : Before [] (i :: path)
  | left {i j : Nat} {path other : List Nat} (lower : i < j) : Before (i :: path) (j :: other)
  | inside {i : Nat} {path other : List Nat} (before : Before path other) :
      Before (i :: path) (i :: other)

theorem before_total (path other : List Nat) :
    path = other ∨ Before path other ∨ Before other path := by
  induction path generalizing other with
  | nil =>
    cases other with
    | nil => exact Or.inl rfl
    | cons j other => exact Or.inr (Or.inl .outside)
  | cons i path ih =>
    cases other with
    | nil => exact Or.inr (Or.inr .outside)
    | cons j other =>
      rcases Nat.lt_trichotomy i j with lower | same | higher
      · exact Or.inr (Or.inl (.left lower))
      · subst same
        rcases ih other with same | before | behind
        · exact Or.inl (by rw [same])
        · exact Or.inr (Or.inl (.inside before))
        · exact Or.inr (Or.inr (.inside behind))
      · exact Or.inr (Or.inr (.left higher))

section

variable {parts : α → List α} {whole node : α}

theorem node_unique {other : α} {path : List Nat} (found : NodeAt parts whole path node)
    (again : NodeAt parts whole path other) : node = other := by
  induction found with
  | root =>
    cases again
    rfl
  | within held inside ih =>
    cases again with
    | within held' inside' =>
      cases held.symm.trans held'
      exact ih inside'

theorem node_of_scalar {path : List Nat} (none : parts whole = [])
    (found : NodeAt parts whole path node) : path = [] ∧ node = whole := by
  cases found with
  | root => exact ⟨rfl, rfl⟩
  | within held inside =>
    rw [none] at held
    cases held

end

/-- The values directly inside; those inside an object are its fields when it is opened. -/
def Datum.parts : Datum → List Datum
  | .map entries => entries.map Prod.snd
  | .seq items => items
  | .object kind form fields => (openFields kind form fields).map Prod.snd
  | _ => []

namespace Normalizer

/-- The node lies below the levels that are allowed, the value itself being the first of them, or it
    has no text. -/
def Offends (allowed : Nat) (path : List Nat) (x : Datum) : Prop :=
  allowed ≤ path.length ∨ ∃ description, x = .unshowable description

theorem not_offends_iff {limit : Nat} {path : List Nat} {x : Datum} :
    ¬ Offends (limit + 1) path x ↔
      path.length ≤ limit ∧ ∀ description, x ≠ .unshowable description := by
  rw [Offends, not_or, Nat.not_le, Nat.lt_succ_iff, not_exists]

structure FirstOffence (allowed : Nat) (d : Datum) (path : List Nat) (x : Datum) : Prop where
  node : NodeAt Datum.parts d path x
  offends : Offends allowed path x
  first : ∀ earlier y, NodeAt Datum.parts d earlier y → Before earlier path →
    ¬ Offends allowed earlier y

def Reports (n : Normalizer) (allowed : Nat) (path : List Nat) (x : Datum)
    (error : NormalizeError) : Prop :=
  (path.length = allowed ∧ error = .tooDeep n.maxDepth) ∨
    (path.length < allowed ∧ ∃ description, x = .unshowable description ∧
      error = .unshowable description)

theorem first_offence_unique {allowed : Nat} {d x y : Datum} {path other : List Nat}
    (found : FirstOffence allowed d path x) (again : FirstOffence allowed d other y) :
    path = other ∧ x = y := by
  rcases before_total path other with same | before | behind
  · subst same
    exact ⟨rfl, node_unique found.node again.node⟩
  · exact absurd found.offends (again.first path x found.node before)
  · exact absurd again.offends (found.first other y again.node behind)

theorem reports_unique {n : Normalizer} {allowed : Nat} {path : List Nat} {x : Datum}
    {error other : NormalizeError} (reported : n.Reports allowed path x error)
    (again : n.Reports allowed path x other) : error = other := by
  rcases reported with ⟨deep, rfl⟩ | ⟨within, description, rfl, rfl⟩
  · rcases again with ⟨_, rfl⟩ | ⟨within, _⟩
    · rfl
    · omega
  · rcases again with ⟨deep, _⟩ | ⟨_, _, same, rfl⟩
    · omega
    · cases same
      rfl

theorem offends_inside {allowed i : Nat} {path : List Nat} {x : Datum} :
    Offends (allowed + 1) (i :: path) x ↔ Offends allowed path x := by
  simp [Offends]

section

variable {below : Datum → Except NormalizeError Json} {error : NormalizeError}

theorem entries_with_error_iff (start : List (String × Json)) (entries : List (String × Datum)) :
    entriesWith below start entries = .error error ↔
      (entries.map Prod.snd).mapM below = .error error := by
  unfold entriesWith
  induction entries generalizing start with
  | nil =>
    constructor
    · intro refused
      cases refused
    · intro refused
      cases refused
  | cons entry rest ih =>
    rw [List.foldlM_cons, List.map_cons, List.mapM_cons]
    cases below entry.2 with
    | error failure =>
      constructor
      · intro refused
        cases refused
        rfl
      · intro refused
        cases refused
        rfl
    | ok value =>
      refine (ih (Keyed.insert entry.1 value start)).trans ?_
      cases (rest.map Prod.snd).mapM below with
      | error failure => exact Iff.rfl
      | ok values =>
        constructor
        · intro refused
          cases refused
        · intro refused
          cases refused

theorem level_error_iff (n : Normalizer) (d : Datum) :
    n.level below d = .error error ↔
      (∃ description, d = .unshowable description ∧ error = .unshowable description) ∨
        d.parts.mapM below = .error error := by
  cases d with
  | map entries => simp [level, Datum.parts, map_error_iff, entries_with_error_iff]
  | seq items => simp [level, Datum.parts, map_error_iff]
  | object kind form fields => simp [level, Datum.parts, map_error_iff, entries_with_error_iff]
  | unshowable description => simp [level, Datum.parts, pure, Except.pure, eq_comm]
  | null | enclosing | text | symbol | uri | shown | moment | span | char | chars | byte | bytes
  | int | uint | float | bool | uuid | stack => simp [level, Datum.parts, pure, Except.pure]

theorem ok_iff_no_error {x : Except ε α} : (∃ a, x = .ok a) ↔ ∀ e, x ≠ .error e := by
  cases x with
  | error e => simp
  | ok a => simp

end

section

variable {n : Normalizer} {allowed : Nat} {d : Datum} {error : NormalizeError}

theorem levels_ok_iff : (∃ value, n.levels allowed d = .ok value) ↔
    ∀ path x, NodeAt Datum.parts d path x → ¬ Offends allowed path x := by
  induction allowed generalizing d with
  | zero =>
    constructor
    · intro passed
      obtain ⟨value, done⟩ := passed
      cases done
    · intro clear
      exact absurd (Or.inl (Nat.zero_le _)) (clear [] d .root)
  | succ allowed ih =>
    rw [ok_iff_no_error]
    constructor
    · intro clear path x found offends
      cases found with
      | root =>
        rcases offends with deep | ⟨description, rfl⟩
        · exact Nat.not_succ_le_zero allowed deep
        · exact clear _ ((level_error_iff n _).mpr (Or.inl ⟨description, rfl, rfl⟩))
      | within held inside =>
        rename_i part i path
        have passed : ∃ value, n.levels allowed part = .ok value := by
          rw [ok_iff_no_error]
          intro failure refused
          obtain ⟨failure, whole⟩ := map_m_error (List.mem_of_getElem? held) refused
          exact clear _ ((level_error_iff n d).mpr (Or.inr whole))
        exact ih.mp passed path x inside (offends_inside.mp offends)
    · intro clear failure refused
      rcases (level_error_iff n d).mp refused with ⟨description, rfl, _⟩ | inside
      · exact clear [] _ .root (Or.inr ⟨description, rfl⟩)
      · obtain ⟨front, part, back, split, _, failed⟩ := map_m_error_iff.mp inside
        have held : d.parts[front.length]? = some part := by simp [split]
        have passed : ∃ value, n.levels allowed part = .ok value := by
          rw [ih]
          intro path x found offends
          exact clear _ x (.within held found) (offends_inside.mpr offends)
        exact ok_iff_no_error.mp passed failure failed

theorem first_offence_of_error (refused : n.levels allowed d = .error error) :
    ∃ path x, FirstOffence allowed d path x ∧ n.Reports allowed path x error := by
  induction allowed generalizing d with
  | zero =>
    cases refused
    refine ⟨[], d, ⟨.root, Or.inl (Nat.zero_le _), ?_⟩, Or.inl ⟨rfl, rfl⟩⟩
    intro earlier y found before
    cases before
  | succ allowed ih =>
    rcases (level_error_iff n d).mp refused with ⟨description, rfl, rfl⟩ | inside
    · refine ⟨[], _, ⟨.root, Or.inr ⟨description, rfl⟩, ?_⟩,
        Or.inr ⟨Nat.succ_pos allowed, description, rfl, rfl⟩⟩
      intro earlier y found before
      cases before
    · obtain ⟨front, part, back, split, passed, failed⟩ := map_m_error_iff.mp inside
      obtain ⟨path, x, first, reports⟩ := ih failed
      have held : d.parts[front.length]? = some part := by simp [split]
      refine ⟨front.length :: path, x,
        ⟨.within held first.node, offends_inside.mpr first.offends, ?_⟩, ?_⟩
      -- What comes earlier is the whole, or lies in a part that passed, or lies in the refused part
      -- before the offence there.
      · intro earlier y found before offends
        cases found with
        | root =>
          rcases offends with deep | ⟨description, rfl⟩
          · exact Nat.not_succ_le_zero allowed deep
          · cases held
        | within held' inside' =>
          have deeper := offends_inside.mp offends
          cases before with
          | left lower =>
            rename_i part' i other
            have among : part' ∈ front := by
              rw [split, List.getElem?_append_left lower] at held'
              exact List.mem_of_getElem? held'
            exact levels_ok_iff.mp (passed part' among) _ y inside' deeper
          | inside before =>
            cases held.symm.trans held'
            exact first.first _ y inside' before deeper
      · rcases reports with ⟨deep, same⟩ | ⟨within, shown⟩
        · exact Or.inl ⟨congrArg Nat.succ deep, same⟩
        · exact Or.inr ⟨Nat.succ_lt_succ within, shown⟩

theorem levels_error_iff : n.levels allowed d = .error error ↔
    ∃ path x, FirstOffence allowed d path x ∧ n.Reports allowed path x error := by
  constructor
  · exact first_offence_of_error
  · intro offending
    obtain ⟨path, x, first, reports⟩ := offending
    cases done : n.levels allowed d with
    | ok value =>
      exact absurd first.offends (levels_ok_iff.mp ⟨value, done⟩ path x first.node)
    | error other =>
      obtain ⟨path', x', first', reports'⟩ := first_offence_of_error done
      obtain ⟨rfl, rfl⟩ := first_offence_unique first first'
      rw [reports_unique reports reports']

end

end Normalizer

namespace Json

def isContainer : Json → Bool
  | .array _ | .object _ => true
  | _ => false

/-- All arrays and objects in the value, the value itself among them, lie within so many levels. -/
def Shallow (levels : Nat) (value : Json) : Prop :=
  ∀ path inner, NodeAt parts value path inner → inner.isContainer = true → path.length < levels

section

variable {levels : Nat} {value : Json}

theorem shallow_of_scalar (scalar : value.isContainer = false) : Shallow levels value := by
  intro path inner found container
  have none : value.parts = [] := by
    cases value with
    | array | object => cases scalar
    | null | text | int | float | bool => rfl
  obtain ⟨_, rfl⟩ := node_of_scalar none found
  rw [scalar] at container
  cases container

theorem shallow_of_parts (each : ∀ part ∈ value.parts, Shallow levels part) :
    Shallow (levels + 1) value := by
  intro path inner found container
  cases found with
  | root => exact Nat.succ_pos levels
  | within held inside =>
    exact Nat.succ_lt_succ (each _ (List.mem_of_getElem? held) _ inner inside container)

theorem parts_shallow (shallow : Shallow (levels + 1) value) :
    ∀ part ∈ value.parts, Shallow levels part := by
  intro part held path inner found container
  obtain ⟨i, place⟩ := List.mem_iff_getElem?.mp held
  exact Nat.lt_of_succ_lt_succ (shallow _ inner (.within place found) container)

theorem shallow_part (shallow : Shallow levels value) :
    ∀ part ∈ value.parts, Shallow levels part := by
  intro part held path inner found container
  obtain ⟨i, place⟩ := List.mem_iff_getElem?.mp held
  exact Nat.lt_of_succ_lt (shallow (i :: path) inner (.within place found) container)

end

end Json

namespace Normalizer

open Json

theorem levels_shallow (n : Normalizer) (allowed : Nat) (d : Datum) (value : Json)
    (done : n.levels allowed d = .ok value) : Shallow allowed value := by
  induction allowed generalizing d value with
  | zero => cases done
  | succ allowed ih =>
    -- what is injected are texts, which may lie one level further in than containers
    have text (s : String) : Shallow allowed (.text s) := shallow_of_scalar rfl
    exact shallow_of_parts (parts_of_level ih text n d value done)

theorem normalize_shallow (n : Normalizer) (d : Datum) (value : Json)
    (done : n.normalize d = .ok value) : Shallow (n.maxDepth + 1) value := by
  obtain ⟨whole, inner, rfl⟩ := ok_of_map done
  have shallow := n.levels_shallow _ d whole inner
  split
  · refine shallow_of_parts (List.forall_mem_map.mpr ?_)
    refine flattened_values (Shallow n.maxDepth) "" [] _ (fun _ => shallow_part) (by simp) ?_
    exact List.forall_mem_map.mp (parts_shallow shallow)
  · exact shallow

theorem normalize_ok_iff (n : Normalizer) (d : Datum) :
    (∃ value, n.normalize d = .ok value) ↔ ∃ value, n.levels (n.maxDepth + 1) d = .ok value := by
  rw [ok_iff_no_error, ok_iff_no_error]
  simp only [normalize, nested, ne_eq, map_error_iff]

/-- The depth limit is exact. A value can be normalised if no node of it lies deeper than the limit
    and all have the texts they need, and only then; the first node in the order of the visit for
    which this does not hold gives the error. What comes of the others has no array or object below
    the limit. -/
theorem depth_limit_exact (n : Normalizer) (d : Datum) :
    ((∃ value, n.normalize d = .ok value) ↔ ∀ path x, NodeAt Datum.parts d path x →
      path.length ≤ n.maxDepth ∧ ∀ description, x ≠ .unshowable description) ∧
    (∀ error, n.normalize d = .error error ↔ ∃ path x,
      FirstOffence (n.maxDepth + 1) d path x ∧ n.Reports (n.maxDepth + 1) path x error) ∧
    ∀ value, n.normalize d = .ok value → ∀ path inner, NodeAt Json.parts value path inner →
      inner.isContainer = true → path.length ≤ n.maxDepth := by
  refine ⟨?_, ?_, ?_⟩
  · rw [normalize_ok_iff, levels_ok_iff]
    simp only [not_offends_iff]
  · intro error
    rw [normalize, map_error_iff, nested, levels_error_iff]
  · intro value done path inner found container
    exact Nat.le_of_lt_succ (n.normalize_shallow d value done path inner found container)

def loopBeforeTextless : Datum :=
  .object "Loop" "Loop" [("me", .enclosing 0), ("bad", .unshowable "Bad")]

/-- The object is met again below the limit before the field that lies higher up. And a sequence may
    lie at the limit itself. -/
theorem loop_refused_before_textless :
    ({ maxDepth := 1 } : Normalizer).normalize loopBeforeTextless = .error (.tooDeep 1) ∧
      ∃ value, ({ maxDepth := 1 } : Normalizer).normalize (.seq [.seq []]) = .ok value ∧
        ∀ path inner, NodeAt Json.parts value path inner → inner.isContainer = true →
          path.length ≤ 1 := by
  constructor
  · rw [(depth_limit_exact _ _).2.1]
    have again : NodeAt Datum.parts loopBeforeTextless [0] loopBeforeTextless := .within rfl .root
    refine ⟨[0, 0], loopBeforeTextless, ⟨.within rfl again, Or.inl (by decide), ?_⟩,
      Or.inl ⟨rfl, rfl⟩⟩
    intro earlier y found before
    have same : y = loopBeforeTextless ∧ earlier.length ≤ 1 := by
      cases before with
      | outside => exact ⟨node_unique found .root, by decide⟩
      | left lower => exact absurd lower (Nat.not_lt_zero _)
      | inside before =>
        cases before with
        | outside => exact ⟨node_unique found again, by decide⟩
        | left lower => exact absurd lower (Nat.not_lt_zero _)
        | inside before => cases before
    obtain ⟨rfl, high⟩ := same
    exact not_offends_iff.mpr ⟨high, by simp [loopBeforeTextless]⟩
  · refine ⟨.array [.array []], rfl, ?_⟩
    exact (depth_limit_exact { maxDepth := 1 } (.seq [.seq []])).2.2 _ rfl

end Normalizer

end LogLayout
