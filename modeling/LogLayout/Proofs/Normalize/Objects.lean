import LogLayout.Proofs.Normalize.Gathering

/- Objects beside mappings. Without injected keys an object is normalised like the mapping of its
   fields, wherever it stands. With them, the type leads and the text closes the object that comes of
   it, unless fields of the same names get in the way: a field can take the value of the type and the
   place of the text. -/
namespace LogLayout

namespace Datum

mutual
def finite : Datum → Bool
  | .map entries => finiteEntries entries
  | .seq items => finiteItems items
  | .object _ _ fields => finiteEntries fields
  | .enclosing _ => false
  | _ => true

def finiteEntries : List (String × Datum) → Bool
  | [] => true
  | (_, d) :: rest => d.finite && finiteEntries rest

def finiteItems : List Datum → Bool
  | [] => true
  | d :: rest => d.finite && finiteItems rest
end

mutual
/-- The mapping of its fields in the place of every object. -/
def asMaps : Datum → Datum
  | .map entries => .map (asMapsEntries entries)
  | .seq items => .seq (asMapsItems items)
  | .object _ _ fields => .map (asMapsEntries fields)
  | d => d

def asMapsEntries : List (String × Datum) → List (String × Datum)
  | [] => []
  | (key, d) :: rest => (key, d.asMaps) :: asMapsEntries rest

def asMapsItems : List Datum → List Datum
  | [] => []
  | d :: rest => d.asMaps :: asMapsItems rest
end

theorem finite_entries_iff (entries : List (String × Datum)) :
    finiteEntries entries = true ↔ ∀ part ∈ entries.map Prod.snd, part.finite = true := by
  induction entries with
  | nil => simp [finiteEntries]
  | cons entry rest ih =>
    simp only [finiteEntries, Bool.and_eq_true, ih, List.map_cons, List.forall_mem_cons]

theorem finite_items_iff (items : List Datum) :
    finiteItems items = true ↔ ∀ part ∈ items, part.finite = true := by
  induction items with
  | nil => simp [finiteItems]
  | cons item rest ih => simp only [finiteItems, Bool.and_eq_true, ih, List.forall_mem_cons]

theorem as_maps_entries (entries : List (String × Datum)) :
    asMapsEntries entries = entries.map fun entry => (entry.1, entry.2.asMaps) := by
  induction entries with
  | nil => rfl
  | cons entry rest ih => rw [asMapsEntries, ih, List.map_cons]

theorem as_maps_items (items : List Datum) : asMapsItems items = items.map asMaps := by
  induction items with
  | nil => rfl
  | cons item rest ih => rw [asMapsItems, ih, List.map_cons]

mutual
theorem resolve_finite (whole : Datum) (level : Nat) (d : Datum) (finite : d.finite = true) :
    resolve whole level d = d := by
  match d with
  | .map entries => rw [resolve, resolve_entries_finite whole level entries finite]
  | .seq items => rw [resolve, resolve_items_finite whole level items finite]
  | .object _ _ fields => rw [resolve, resolve_entries_finite whole (level + 1) fields finite]
  | .enclosing _ => cases finite
  | .null | .text _ | .moment _ | .span _ | .char _ | .chars _ | .byte _ | .bytes _ | .int _
  | .uint _ | .float _ | .bool _ | .symbol _ | .uuid _ | .uri _ | .stack _ | .shown _
  | .unshowable _ => rfl

theorem resolve_entries_finite (whole : Datum) (level : Nat) (entries : List (String × Datum))
    (finite : finiteEntries entries = true) : resolveEntries whole level entries = entries := by
  match entries with
  | [] => rfl
  | (key, d) :: rest =>
    obtain ⟨first, others⟩ := Bool.and_eq_true_iff.mp finite
    rw [resolveEntries, resolve_finite whole level d first,
      resolve_entries_finite whole level rest others]

theorem resolve_items_finite (whole : Datum) (level : Nat) (items : List Datum)
    (finite : finiteItems items = true) : resolveItems whole level items = items := by
  match items with
  | [] => rfl
  | d :: rest =>
    obtain ⟨first, others⟩ := Bool.and_eq_true_iff.mp finite
    rw [resolveItems, resolve_finite whole level d first,
      resolve_items_finite whole level rest others]
end

theorem open_fields_finite (kind form : String) (fields : List (String × Datum))
    (finite : finiteEntries fields = true) : openFields kind form fields = fields :=
  resolve_entries_finite _ 0 fields finite

theorem finite_part (d : Datum) (finite : d.finite = true) : ∀ part ∈ d.parts, part.finite = true := by
  cases d with
  | map entries => exact (finite_entries_iff entries).mp finite
  | seq items => exact (finite_items_iff items).mp finite
  | object kind form fields =>
    rw [parts, open_fields_finite kind form fields finite]
    exact (finite_entries_iff fields).mp finite
  | null | text | moment | span | char | chars | byte | bytes | int | uint | float | bool | symbol
  | uuid | uri | stack | enclosing | shown | unshowable => simp [parts]

theorem parts_as_maps (d : Datum) (finite : d.finite = true) : d.asMaps.parts = d.parts.map asMaps := by
  cases d with
  | map entries => simp [asMaps, parts, as_maps_entries]
  | seq items => simp [asMaps, parts, as_maps_items]
  | object kind form fields =>
    simp [asMaps, parts, as_maps_entries, open_fields_finite kind form fields finite]
  | null | text | moment | span | char | chars | byte | bytes | int | uint | float | bool | symbol
  | uuid | uri | stack | enclosing | shown | unshowable => rfl

theorem nodes_as_maps (d : Datum) (finite : d.finite = true) (path : List Nat) (y : Datum) :
    NodeAt parts d.asMaps path y ↔ ∃ x, NodeAt parts d path x ∧ y = x.asMaps := by
  induction path generalizing d with
  | nil =>
    constructor
    · intro found
      cases found
      exact ⟨d, .root, rfl⟩
    · intro found
      obtain ⟨x, here, rfl⟩ := found
      cases here
      exact .root
  | cons i path ih =>
    constructor
    · intro found
      cases found with
      | within held inside =>
        rw [parts_as_maps d finite, List.getElem?_map] at held
        obtain ⟨part, place, rfl⟩ := Option.map_eq_some_iff.mp held
        have small := finite_part d finite part (List.mem_of_getElem? place)
        obtain ⟨x, found, same⟩ := (ih part small).mp inside
        exact ⟨x, .within place found, same⟩
    · intro found
      obtain ⟨x, found, same⟩ := found
      cases found with
      | within place inside =>
        have small := finite_part d finite _ (List.mem_of_getElem? place)
        refine .within ?_ ((ih _ small).mpr ⟨x, inside, same⟩)
        rw [parts_as_maps d finite, List.getElem?_map, place]
        rfl

theorem as_maps_no_object (d : Datum) (kind form : String) (fields : List (String × Datum)) :
    d.asMaps ≠ .object kind form fields := by
  intro same
  cases d <;> cases same

end Datum

namespace Normalizer

open Datum

section

variable {n : Normalizer} {below : Datum → Except NormalizeError Json}

theorem entries_with_as_maps (start : List (String × Json)) (entries : List (String × Datum))
    (each : ∀ part ∈ entries.map Prod.snd, below part.asMaps = below part) :
    entriesWith below start (asMapsEntries entries) = entriesWith below start entries := by
  unfold entriesWith
  induction entries generalizing start with
  | nil => rfl
  | cons entry rest ih =>
    obtain ⟨first, others⟩ := List.forall_mem_cons.mp each
    rw [asMapsEntries, List.foldlM_cons, List.foldlM_cons, first]
    cases below entry.2 with
    | error failure => rfl
    | ok value => exact ih _ others

theorem level_as_maps (untyped : n.typeKey = none) (unspelt : n.stringKey = none) (d : Datum)
    (finite : d.finite = true) (each : ∀ part ∈ d.parts, below part.asMaps = below part) :
    n.level below d.asMaps = n.level below d := by
  cases d with
  | map entries => rw [asMaps, level, level, entries_with_as_maps [] entries each]
  | seq items =>
    have same : (items.map asMaps).mapM below = items.mapM below := by
      rw [List.mapM_map]
      exact map_m_congr each
    rw [asMaps, level, level, as_maps_items, same]
  | object kind form fields =>
    have opened := open_fields_finite kind form fields finite
    rw [parts, opened] at each
    have bare : n.injectType kind = [] := by rw [injectType, untyped]
    have unmarked (out : List (String × Json)) : n.injectText form out = out := by
      rw [injectText, unspelt]
    rw [asMaps, level, level, entries_with_as_maps [] fields each, opened, bare]
    simp only [unmarked]
  | null | text | moment | span | char | chars | byte | bytes | int | uint | float | bool | symbol
  | uuid | uri | stack | enclosing | shown | unshowable => rfl

theorem levels_as_maps (untyped : n.typeKey = none) (unspelt : n.stringKey = none) (allowed : Nat)
    (d : Datum) (finite : d.finite = true) : n.levels allowed d.asMaps = n.levels allowed d := by
  induction allowed generalizing d with
  | zero => rfl
  | succ allowed ih =>
    refine level_as_maps untyped unspelt d finite ?_
    intro part member
    exact ih part (finite_part d finite part member)

end

/-- Without injected keys it makes no difference whether an object or the mapping of its fields is
    normalised, at any depth: the results are the same, and the errors. -/
theorem reflection_is_transparent (n : Normalizer) (untyped : n.typeKey = none)
    (unspelt : n.stringKey = none) (d : Datum) (finite : d.finite = true) :
    (∀ path y, NodeAt parts d.asMaps path y ↔ ∃ x, NodeAt parts d path x ∧ y = x.asMaps) ∧
      (∀ path kind form fields, ¬ NodeAt parts d.asMaps path (.object kind form fields)) ∧
      n.normalize d.asMaps = n.normalize d ∧
      ∀ key out, n.normalizeInto key d.asMaps out = n.normalizeInto key d out := by
  have same : n.nested d.asMaps = n.nested d := levels_as_maps untyped unspelt _ d finite
  refine ⟨nodes_as_maps d finite, ?_, ?_, ?_⟩
  · intro path kind form fields found
    obtain ⟨x, _, replaced⟩ := (nodes_as_maps d finite path _).mp found
    exact as_maps_no_object x kind form fields replaced.symm
  · rw [normalize, normalize, same]
  · intro key out
    rw [normalizeInto, normalizeInto, same]

def pointInside : Datum :=
  .seq [.object "Line" "a-b" [("end", .object "Point" "b" [("x", .int 1), ("x", .int 2)])]]

theorem point_as_mapping :
    ({ flatten := true, maxDepth := 2 } : Normalizer).normalizeInto "l" pointInside.asMaps [] =
        ({ flatten := true, maxDepth := 2 } : Normalizer).normalizeInto "l" pointInside [] ∧
      ({ flatten := true, maxDepth := 2 } : Normalizer).normalizeInto "l" pointInside [] =
        .error (.tooDeep 2) := by
  have transparent := reflection_is_transparent { flatten := true, maxDepth := 2 } rfl rfl pointInside
    (by decide)
  exact ⟨transparent.2.2.2 "l" [], rfl⟩

end Normalizer

end LogLayout
