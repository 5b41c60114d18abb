import LogLayout.Normalize

/- What flattening comes to: the leaves of an object are listed in order, each with the keys that
   lead to it, and inserted under these keys joined by dots. -/
namespace LogLayout.Json

mutual
/-- The leaves of a value, each with the keys that lead to it, outermost first. Objects and nulls
    are no leaves, arrays are. -/
def leaves : Json → List (List String × Json)
  | .object entries => leavesOfAll entries
  | .null => []
  | value => [([], value)]

def leavesOfAll : List (String × Json) → List (List String × Json)
  | [] => []
  | (key, value) :: rest =>
    (value.leaves.map fun leaf => (key :: leaf.1, leaf.2)) ++ leavesOfAll rest
end

/-- Keys joined by dots, without the empty ones in front. -/
def dotted (keys : List String) : String := ".".intercalate (keys.dropWhile fun key => key = "")

def oneLevel : Json → Json
  | .object entries =>
    .object (Keyed.ofList ((leavesOfAll entries).map fun leaf => (dotted leaf.1, leaf.2)))
  | value => value

def extendPath (path key : String) : String := if path = "" then key else path ++ "." ++ key

theorem extended_filled (path key : String) (filled : path ≠ "") : path ++ "." ++ key ≠ "" := by
  intro empty
  simp only [String.append_eq_empty_iff] at empty
  exact filled empty.1.1

theorem extended_from_path (path : String) (keys : List String) (filled : path ≠ "") :
    keys.foldl extendPath path = ".".intercalate (path :: keys) := by
  induction keys generalizing path with
  | nil => rfl
  | cons key rest ih =>
    rw [List.foldl_cons, extendPath, if_neg filled, ih _ (extended_filled path key filled)]
    rfl

theorem extended_from_top (keys : List String) : keys.foldl extendPath "" = dotted keys := by
  induction keys with
  | nil => rfl
  | cons key rest ih =>
    rw [List.foldl_cons, extendPath, if_pos rfl, dotted]
    by_cases empty : key = ""
    · rw [List.dropWhile_cons_of_pos (by simpa using empty), empty]
      exact ih
    · rw [List.dropWhile_cons_of_neg (by simpa using empty)]
      exact extended_from_path key rest empty

def placed (path : String) (leaves : List (List String × Json)) : List (String × Json) :=
  leaves.map fun leaf => (leaf.1.foldl extendPath path, leaf.2)

mutual
theorem flatten_into_leaves (path : String) (out : List (String × Json)) :
    (value : Json) → value.flattenInto path out = Keyed.insertAll out (placed path value.leaves)
  | .object entries => by
    simp only [flattenInto, leaves]
    exact flatten_entries_leaves path out entries
  | .null | .text _ | .int _ | .float _ | .bool _ | .array _ => rfl

theorem flatten_entries_leaves (path : String) (out : List (String × Json)) :
    (entries : List (String × Json)) →
      flattenEntries path out entries = Keyed.insertAll out (placed path (leavesOfAll entries))
  | [] => rfl
  | (key, value) :: rest => by
    have moved : placed path (value.leaves.map fun leaf => (key :: leaf.1, leaf.2)) =
        placed (extendPath path key) value.leaves := by
      simp [placed]
    have split (front back : List (List String × Json)) :
        placed path (front ++ back) = placed path front ++ placed path back := List.map_append ..
    simp only [flattenEntries, leavesOfAll, split, Keyed.insert_all_append, moved]
    rw [flatten_into_leaves _ out value, flatten_entries_leaves path _ rest]
    rfl
end

/-- The leaves of an object under their dotted paths. A path can come twice, since keys may be empty
    or have dots in them. -/
def dottedLeaves (entries : List (String × Json)) : List (String × Json) :=
  (leavesOfAll entries).map fun leaf => (dotted leaf.1, leaf.2)

theorem flattened_as_leaves (entries : List (String × Json)) :
    flattenEntries "" [] entries = Keyed.ofList (dottedLeaves entries) := by
  simp only [flatten_entries_leaves, placed, extended_from_top, dottedLeaves, Keyed.ofList]

theorem flattened_object (entries : List (String × Json)) :
    .object (flattenEntries "" [] entries) = (Json.object entries).oneLevel := by
  rw [flattened_as_leaves]
  rfl

theorem flatten_entries_append (path : String) (out front back : List (String × Json)) :
    flattenEntries path out (front ++ back) =
      flattenEntries path (flattenEntries path out front) back := by
  induction front generalizing out with
  | nil => rfl
  | cons entry rest ih =>
    obtain ⟨key, value⟩ := entry
    rw [List.cons_append, flattenEntries, flattenEntries, ih]

def isLeaf : Json → Bool
  | .object _ | .null => false
  | _ => true

/-- What is reached from a value by going through objects along these keys, outermost first. -/
inductive Reached : Json → List String → Json → Prop
  | here {value : Json} : Reached value [] value
  | within {entries : List (String × Json)} {key : String} {value inner : Json} {keys : List String}
      (held : (key, value) ∈ entries) (inside : Reached value keys inner) :
      Reached (.object entries) (key :: keys) inner

theorem reached_from_leaf {value inner : Json} {keys : List String} (leaf : value.isLeaf = true)
    (found : Reached value keys inner) : keys = [] ∧ inner = value := by
  cases found with
  | here => exact ⟨rfl, rfl⟩
  | within held inside => cases leaf

mutual
theorem mem_leaves_iff (keys : List String) (inner : Json) : (value : Json) →
    ((keys, inner) ∈ value.leaves ↔ Reached value keys inner ∧ inner.isLeaf = true)
  | .object entries => by
    rw [leaves, mem_all_leaves_iff keys inner entries]
    constructor
    · intro found
      obtain ⟨key, value, rest, rfl, held, inside, leaf⟩ := found
      exact ⟨.within held inside, leaf⟩
    · intro found
      obtain ⟨path, leaf⟩ := found
      cases path with
      | here => cases leaf
      | within held inside => exact ⟨_, _, _, rfl, held, inside, leaf⟩
  | .null => by
    constructor
    · intro found
      cases found
    · intro found
      obtain ⟨path, leaf⟩ := found
      cases path
      cases leaf
  | .text _ | .int _ | .float _ | .bool _ | .array _ => by
    constructor
    · intro found
      cases List.mem_singleton.mp found
      exact ⟨.here, rfl⟩
    · intro found
      obtain ⟨rfl, rfl⟩ := reached_from_leaf rfl found.1
      exact List.mem_singleton.mpr rfl

theorem mem_all_leaves_iff (keys : List String) (inner : Json) :
    (entries : List (String × Json)) → ((keys, inner) ∈ leavesOfAll entries ↔
      ∃ key value rest, keys = key :: rest ∧ (key, value) ∈ entries ∧ Reached value rest inner ∧
        inner.isLeaf = true)
  | [] => by simp [leavesOfAll]
  | (first, value) :: others => by
    rw [leavesOfAll, List.mem_append, mem_all_leaves_iff keys inner others]
    constructor
    · intro found
      rcases found with within | behind
      · obtain ⟨⟨rest, v⟩, member, same⟩ := List.mem_map.mp within
        cases same
        obtain ⟨inside, leaf⟩ := (mem_leaves_iff rest v value).mp member
        exact ⟨first, value, rest, rfl, List.mem_cons_self .., inside, leaf⟩
      · obtain ⟨key, v, rest, same, held, inside, leaf⟩ := behind
        exact ⟨key, v, rest, same, List.mem_cons_of_mem _ held, inside, leaf⟩
    · intro found
      obtain ⟨key, v, rest, rfl, held, inside, leaf⟩ := found
      rcases List.mem_cons.mp held with same | later
      · cases same
        have among := (mem_leaves_iff rest inner value).mpr ⟨inside, leaf⟩
        exact Or.inl (List.mem_map.mpr ⟨(rest, inner), among, rfl⟩)
      · exact Or.inr ⟨key, v, rest, rfl, later, inside, leaf⟩
end

theorem dotted_leaves_are_leaves (entries : List (String × Json)) :
    ∀ entry ∈ dottedLeaves entries, entry.2.isLeaf = true := by
  intro entry member
  obtain ⟨leaf, held, rfl⟩ := List.mem_map.mp member
  obtain ⟨_, _, _, _, _, _, kept⟩ := (mem_all_leaves_iff leaf.1 leaf.2 entries).mp held
  exact kept

theorem dotted_single (key : String) : dotted [key] = key := by
  unfold dotted
  by_cases empty : key = ""
  · rw [List.dropWhile_cons_of_pos (by simpa using empty), empty]
    rfl
  · rw [List.dropWhile_cons_of_neg (by simpa using empty)]
    simp

theorem dotted_leaves_of_leaves (entries : List (String × Json))
    (each : ∀ entry ∈ entries, entry.2.isLeaf = true) : dottedLeaves entries = entries := by
  induction entries with
  | nil => rfl
  | cons entry rest ih =>
    obtain ⟨key, value⟩ := entry
    obtain ⟨first, others⟩ := List.forall_mem_cons.mp each
    have single : value.leaves = [([], value)] := by
      cases value with
      | object | null => cases first
      | text | int | float | bool | array => rfl
    have behind := ih others
    unfold dottedLeaves at behind ⊢
    simp [leavesOfAll, single, dotted_single, behind]

/-- Flattening keeps the leaves and nothing else. They are inserted in the order in which they are
    met, so that a path that comes again keeps its place and takes the later leaf; paths that are
    all different are simply listed. What comes of it has nothing left to flatten. -/
theorem flattening_keeps_exactly_the_leaves (entries : List (String × Json)) :
    flattenEntries "" [] entries = Keyed.ofList (dottedLeaves entries) ∧
      (∀ keys leaf, (keys, leaf) ∈ leavesOfAll entries ↔
        Reached (.object entries) keys leaf ∧ leaf.isLeaf = true) ∧
      Keyed.keys (flattenEntries "" [] entries) =
        (Keyed.keys (dottedLeaves entries)).eraseDups ∧
      (∀ path, Keyed.get? path (flattenEntries "" [] entries) =
        Keyed.last? path (dottedLeaves entries)) ∧
      ((Keyed.keys (dottedLeaves entries)).Nodup →
        flattenEntries "" [] entries = dottedLeaves entries) ∧
      (∀ entry ∈ flattenEntries "" [] entries, entry.2.isLeaf = true) ∧
      flattenEntries "" [] (flattenEntries "" [] entries) = flattenEntries "" [] entries ∧
      ∀ (n : Normalizer) (d : Datum), n.flatten = true → n.nested d = .ok (.object entries) →
        n.normalize d = .ok (.object (flattenEntries "" [] entries)) := by
  rw [flattened_as_leaves entries]
  have kept : ∀ entry ∈ Keyed.ofList (dottedLeaves entries), entry.2.isLeaf = true :=
    Keyed.values_insert_all (fun v : Json => v.isLeaf = true) [] _ (by simp)
      (dotted_leaves_are_leaves entries)
  have distinct : (Keyed.keys (Keyed.ofList (dottedLeaves entries))).Nodup :=
    Keyed.keys_nodup_insert_all [] _ List.nodup_nil
  refine ⟨rfl, ?_, Keyed.keys_of_list _, fun path => Keyed.get_of_list path _,
    Keyed.of_list_distinct _, kept, ?_, ?_⟩
  · intro keys leaf
    rw [← mem_leaves_iff keys leaf (.object entries), leaves]
  · rw [flattened_as_leaves, dotted_leaves_of_leaves _ kept, Keyed.of_list_distinct _ distinct]
  · intro n d flatten done
    rw [Normalizer.normalize, done, flatten, ← flattened_as_leaves]
    rfl

def emptyKeysInside : List (String × Json) :=
  [("", .object [("", .object [("a", .int 1)]), ("n", .null)]),
    ("b", .object [("c", .array [.null, .object []]), ("", .text "x"), ("d", .object [])])]

theorem empty_keys_flattened :
    flattenEntries "" [] emptyKeysInside =
        [("a", .int 1), ("b.c", .array [.null, .object []]), ("b.", .text "x")] ∧
      (Json.text "x").isLeaf = true ∧
      ({ flatten := true } : Normalizer).normalize (.map [("b", .map [("", .text "x")])]) =
        .ok (.object (flattenEntries "" [] [("b", .object [("", .text "x")])])) := by
  obtain ⟨_, _, _, _, listed, leaves, _⟩ := flattening_keeps_exactly_the_leaves emptyKeysInside
  have flat := listed (by decide)
  refine ⟨flat, leaves ("b.", .text "x") ?_, ?_⟩
  · rw [flat]
    simp [dottedLeaves, emptyKeysInside, leavesOfAll, Json.leaves, dotted]
  · obtain ⟨_, _, _, _, _, _, _, normalized⟩ :=
      flattening_keeps_exactly_the_leaves [("b", .object [("", .text "x")])]
    exact normalized { flatten := true } _ rfl rfl

/-- Two ways to one path: the place of the first, the leaf of the last. -/
example :
    flattenEntries "" [] [("a.b", .int 1), ("c", .int 2), ("a", .object [("b", .int 3)])] =
      [("a.b", .int 3), ("c", .int 2)] := rfl

end LogLayout.Json
