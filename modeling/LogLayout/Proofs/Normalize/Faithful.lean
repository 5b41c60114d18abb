import LogLayout.Proofs.Normalize.FiniteNumbers
import LogLayout.Proofs.Normalize.Gathering

/- Nothing is lost and nothing changes places: mappings keep their keys, sequences their items, at any
   depth. A plain tree is its own normal form, so it is read back from the text that is written. -/
namespace LogLayout

namespace Datum

mutual
/-- The same tree as a JSON value, for values made of nulls, texts, truth values, integers, sequences
    and mappings without repeated keys. -/
def tree? : Datum → Option Json
  | .null => some .null
  | .text s => some (.text s)
  | .bool b => some (.bool b)
  | .int i => some (.int i)
  | .uint i => some (.int i)
  | .seq items => (treeItems? items).map .array
  | .map entries =>
    if (Keyed.keys entries).Nodup then (treeEntries? entries).map .object else none
  | _ => none

def treeEntries? : List (String × Datum) → Option (List (String × Json))
  | [] => some []
  | (key, d) :: rest => do
    let tree ← tree? d
    let others ← treeEntries? rest
    pure ((key, tree) :: others)

def treeItems? : List Datum → Option (List Json)
  | [] => some []
  | d :: rest => do
    let tree ← tree? d
    let others ← treeItems? rest
    pure (tree :: others)
end

theorem tree_entries_cons {entry : String × Datum} {rest : List (String × Datum)}
    {trees : List (String × Json)} (told : treeEntries? (entry :: rest) = some trees) :
    ∃ tree others, entry.2.tree? = some tree ∧ treeEntries? rest = some others ∧
      trees = (entry.1, tree) :: others := by
  obtain ⟨tree, here, remaining⟩ := Option.bind_eq_some_iff.mp told
  obtain ⟨others, behind, same⟩ := Option.bind_eq_some_iff.mp remaining
  exact ⟨tree, others, here, behind, (Option.some.inj same).symm⟩

theorem tree_items_cons {item : Datum} {rest : List Datum} {trees : List Json}
    (told : treeItems? (item :: rest) = some trees) :
    ∃ tree others, item.tree? = some tree ∧ treeItems? rest = some others ∧
      trees = tree :: others := by
  obtain ⟨tree, here, remaining⟩ := Option.bind_eq_some_iff.mp told
  obtain ⟨others, behind, same⟩ := Option.bind_eq_some_iff.mp remaining
  exact ⟨tree, others, here, behind, (Option.some.inj same).symm⟩

theorem tree_entries_keys (entries : List (String × Datum)) (trees : List (String × Json))
    (told : treeEntries? entries = some trees) : Keyed.keys trees = Keyed.keys entries := by
  induction entries generalizing trees with
  | nil =>
    cases told
    rfl
  | cons entry rest ih =>
    obtain ⟨tree, others, _, behind, rfl⟩ := tree_entries_cons told
    exact congrArg (entry.1 :: ·) (ih others behind)

end Datum

namespace Normalizer

open Datum

section

variable {below : Datum → Except NormalizeError Json}

theorem entries_with_trees (start trees : List (String × Json)) (entries : List (String × Datum))
    (each : ∀ part ∈ entries.map Prod.snd, ∀ tree, part.tree? = some tree → below part = .ok tree)
    (told : treeEntries? entries = some trees) :
    entriesWith below start entries = .ok (Keyed.insertAll start trees) := by
  unfold entriesWith
  induction entries generalizing start trees with
  | nil =>
    cases told
    rfl
  | cons entry rest ih =>
    obtain ⟨tree, others, here, behind, rfl⟩ := tree_entries_cons told
    obtain ⟨first, later⟩ := List.forall_mem_cons.mp each
    rw [List.foldlM_cons, first tree here]
    exact ih _ others later behind

theorem items_with_trees (trees : List Json) (items : List Datum)
    (each : ∀ part ∈ items, ∀ tree, part.tree? = some tree → below part = .ok tree)
    (told : treeItems? items = some trees) : items.mapM below = .ok trees := by
  induction items generalizing trees with
  | nil =>
    cases told
    rfl
  | cons item rest ih =>
    obtain ⟨tree, others, here, behind, rfl⟩ := tree_items_cons told
    obtain ⟨first, later⟩ := List.forall_mem_cons.mp each
    rw [List.mapM_cons, first tree here, ih others later behind]
    rfl

end

theorem levels_of_tree (n : Normalizer) (allowed : Nat) (d : Datum) (tree : Json)
    (told : d.tree? = some tree)
    (within : ∀ path x, NodeAt Datum.parts d path x → path.length < allowed) :
    n.levels allowed d = .ok tree := by
  induction allowed generalizing d tree with
  | zero => exact absurd (within [] d .root) (Nat.not_lt_zero _)
  | succ allowed ih =>
    have each : ∀ part ∈ d.parts, ∀ tree, part.tree? = some tree →
        n.levels allowed part = .ok tree := by
      intro part member tree told
      obtain ⟨i, held⟩ := List.mem_iff_getElem?.mp member
      refine ih part tree told ?_
      intro path x inside
      exact Nat.lt_of_succ_lt_succ (within (i :: path) x (.within held inside))
    cases d with
    | seq items =>
      obtain ⟨trees, inner, rfl⟩ := Option.map_eq_some_iff.mp told
      rw [levels, level, items_with_trees trees items each inner]
      rfl
    | map entries =>
      unfold tree? at told
      split at told
      · rename_i distinct
        obtain ⟨trees, inner, rfl⟩ := Option.map_eq_some_iff.mp told
        rw [levels, level, entries_with_trees [] trees entries each inner]
        have keys := tree_entries_keys entries trees inner
        exact congrArg (fun out => Except.ok (Json.object out))
          (Keyed.of_list_distinct trees (keys ▸ distinct))
      · cases told
    | null | text | bool | int | uint =>
      cases told
      rfl
    | moment | span | char | chars | byte | bytes | float | symbol | uuid | uri | stack | object
    | enclosing | shown | unshowable => cases told

/-- Every mapping and every sequence at any depth keeps its keys, its items and their order; what
    becomes of a part is found in the whole by the keys and positions of the part; and a plain tree
    within the depth limit is read back, entry by entry, from the text that is written for it. -/
theorem normal_form_keeps_everything (n : Normalizer) (structured : n.flatten = false) (d : Datum) :
    (∀ value, n.normalize d = .ok value →
      (∀ path x, NodeAt Datum.parts d path x → ∃ w, n.normalize x = .ok w ∧
        (∀ entries, x = .map entries → ∃ out, w = .object out ∧ Gathers n.normalize entries out) ∧
        ∀ items, x = .seq items → ∃ out, w = .array out ∧ items.map n.normalize = out.map .ok) ∧
      ∀ moves x, follow n.move? moves d = some x →
        ∃ w, follow Json.move? moves value = some w ∧ n.normalize x = .ok w) ∧
    ∀ tree, d.tree? = some tree →
      (∀ path x, NodeAt Datum.parts d path x → path.length ≤ n.maxDepth) →
        ∃ value, n.normalize d = .ok value ∧
          Json.decode (Json.encode .standard value) = some tree := by
  have plain : n.normalize = n.nested := funext (n.normalize_structured structured)
  rw [plain]
  refine ⟨?_, ?_⟩
  · intro value done
    refine ⟨?_, fun moves x found => followed done found⟩
    intro path x found
    obtain ⟨w, passed⟩ := nested_of_node done found
    refine ⟨w, passed, ?_, ?_⟩
    · intro entries same
      subst same
      obtain ⟨values, each, rfl⟩ := object_of_entries passed rfl
      exact ⟨_, rfl, gathers_of_each_gives each⟩
    · intro items same
      subst same
      exact array_of_items passed
  · intro tree told within
    have done : n.nested d = .ok tree := by
      refine n.levels_of_tree _ d tree told ?_
      intro path x found
      exact Nat.lt_succ_of_le (within path x found)
    have finite := n.levels_finite _ d tree done
    exact ⟨tree, done, (Json.decode_undoes_encode tree finite).1 _ Json.standard_table_sound⟩

def repeatedKeys : List (String × Datum) := [("k", .int 1), ("", .null), ("k", .seq [.uint 7])]

def plainTree : Datum := .map [("b", .seq [.uint 7, .null]), ("a", .text "<")]

theorem repeated_keys_gathered :
    (∃ out, ({} : Normalizer).normalize (.map repeatedKeys) = .ok (.object out) ∧
      Gathers ({} : Normalizer).normalize repeatedKeys out) ∧
    (∃ w, follow Json.move? [.item 0, .entry "k"]
        (.array [.object [("k", .array [.int 7]), ("", .null)]]) = some w ∧
      ({} : Normalizer).normalize (.seq [.uint 7]) = .ok w) ∧
    ∃ value, ({} : Normalizer).normalize plainTree = .ok value ∧
      Json.decode (Json.encode .standard value) =
        some (.object [("b", .array [.int 7, .null]), ("a", .text "<")]) := by
  obtain ⟨nodes, places⟩ :=
    (normal_form_keeps_everything {} rfl (.seq [.map repeatedKeys])).1 _ rfl
  have inside : NodeAt Datum.parts (.seq [.map repeatedKeys]) [0] (.map repeatedKeys) :=
    .within rfl .root
  obtain ⟨w, done, mapped, _⟩ := nodes _ _ inside
  obtain ⟨out, rfl, gathers⟩ := mapped repeatedKeys rfl
  refine ⟨⟨out, done, gathers⟩, places [.item 0, .entry "k"] (.seq [.uint 7]) rfl, ?_⟩
  refine (normal_form_keeps_everything {} rfl plainTree).2 _ rfl ?_
  have passed : ∃ value, ({} : Normalizer).levels 65 plainTree = .ok value := ⟨_, rfl⟩
  intro path x found
  exact (not_offends_iff.mp (levels_ok_iff.mp passed path x found)).1

end Normalizer

end LogLayout
