import LogLayout.Proofs.Normalize.Depth
import LogLayout.Proofs.Normalize.Levels

/- What mappings, sequences and objects become. The distinct keys of a mapping are gathered in the
   order in which they first come, each with what becomes of the last value under it, and the items of
   a sequence one by one. So what becomes of a part stands in the whole where keys and positions lead
   to it. -/
namespace LogLayout

theorem map_eq_map_of_each {f : α → γ} {g : β → γ} {f' : α → δ} {g' : β → δ} {xs : List α}
    {ys : List β} (each : ∀ x y, f x = g y → f' x = g' y) (same : xs.map f = ys.map g) :
    xs.map f' = ys.map g' := by
  induction xs generalizing ys with
  | nil =>
    cases ys with
    | nil => rfl
    | cons y ys => cases same
  | cons x xs ih =>
    cases ys with
    | nil => cases same
    | cons y ys =>
      obtain ⟨first, others⟩ := List.cons.inj same
      rw [List.map_cons, List.map_cons, each x y first, ih others]

namespace Normalizer

/-- The distinct keys in the order in which they first come, each with the value of its last
    entry. -/
structure Gathers (f : Datum → Except NormalizeError Json) (entries : List (String × Datum))
    (out : List (String × Json)) : Prop where
  keys : Keyed.keys out = (Keyed.keys entries).eraseDups
  last : ∀ key d, Keyed.last? key entries = some d →
    ∃ value, Keyed.get? key out = some value ∧ f d = .ok value

section

variable {f g : Datum → Except NormalizeError Json} {entries : List (String × Datum)}
  {values : List (String × Json)}

theorem each_gives_weaken (weaker : ∀ d value, f d = .ok value → g d = .ok value)
    (each : EachGives f entries values) : EachGives g entries values := by
  refine map_eq_map_of_each ?_ each
  intro entry value same
  obtain ⟨name, read⟩ := Prod.mk.inj same
  exact Prod.ext name (weaker _ _ read)

theorem keys_of_each_gives (each : EachGives f entries values) :
    Keyed.keys entries = Keyed.keys values := by
  refine map_eq_map_of_each ?_ each
  intro entry value same
  exact (Prod.mk.inj same).1

theorem last_of_each_gives (key : String) (each : EachGives f entries values) :
    (Keyed.last? key entries).map f = (Keyed.last? key values).map .ok := by
  unfold Keyed.last?
  rw [← Keyed.get_map, ← Keyed.get_map, List.map_reverse, List.map_reverse]
  exact congrArg (fun both => Keyed.get? key both.reverse) each

theorem gathers_of_each_gives (each : EachGives f entries values) :
    Gathers f entries (Keyed.ofList values) := by
  constructor
  · rw [Keyed.keys_of_list, keys_of_each_gives each]
  · intro key d found
    have read := last_of_each_gives key each
    rw [found, Option.map_some] at read
    obtain ⟨value, held, same⟩ := Option.map_eq_some_iff.mp read.symm
    exact ⟨value, (Keyed.get_of_list key values).trans held, same.symm⟩

end

def described (n : Normalizer) (kind form : String) (fields : List (String × Datum)) :
    List (String × Datum) :=
  (n.typeKey.map fun key => (key, Datum.text kind)).toList ++ Datum.openFields kind form fields ++
    (n.stringKey.map fun key => (key, Datum.text form)).toList

def entriesOf? (n : Normalizer) : Datum → Option (List (String × Datum))
  | .map entries => some entries
  | .object kind form fields => some (n.described kind form fields)
  | _ => none

section

variable {n : Normalizer} {d x : Datum} {value : Json}

theorem levels_keep {allowed : Nat} (done : n.levels allowed d = .ok value) :
    n.levels (allowed + 1) d = .ok value := by
  rw [n.levels_succ allowed d, done]
  intro deep
  obtain ⟨limit, refused⟩ := deep
  cases done.symm.trans refused

theorem injected_gives (key : Option String) (text : String) :
    EachGives n.nested (key.map fun key => (key, Datum.text text)).toList
      (key.map fun key => (key, Json.text text)).toList := by
  cases key with
  | none => rfl
  | some key => rfl

theorem inject_type_entries (n : Normalizer) (kind : String) : n.injectType kind =
    Keyed.ofList (n.typeKey.map fun key => (key, Json.text kind)).toList := by
  unfold injectType
  cases n.typeKey with
  | none => rfl
  | some key => rfl

theorem inject_text_entries (n : Normalizer) (form : String) (held : List (String × Json)) :
    n.injectText form held =
      Keyed.insertAll held (n.stringKey.map fun key => (key, Json.text form)).toList := by
  unfold injectText
  cases n.stringKey with
  | none => rfl
  | some key => rfl

theorem object_of_entries {entries : List (String × Datum)} (done : n.nested d = .ok value)
    (held : n.entriesOf? d = some entries) :
    ∃ values, EachGives n.nested entries values ∧ value = .object (Keyed.ofList values) := by
  have deeper : ∀ part w, n.levels n.maxDepth part = .ok w → n.nested part = .ok w :=
    fun part w inner => levels_keep inner
  cases d with
  | map own =>
    cases held
    obtain ⟨out, inner, rfl⟩ := ok_of_map done
    obtain ⟨values, each, rfl⟩ := each_gives_of_entries_with [] out inner
    exact ⟨values, each_gives_weaken deeper each, rfl⟩
  | object kind form fields =>
    cases held
    obtain ⟨out, inner, rfl⟩ := ok_of_map done
    obtain ⟨values, each, rfl⟩ := each_gives_of_entries_with _ out inner
    refine ⟨_, each_gives_append (each_gives_append (injected_gives n.typeKey kind)
      (each_gives_weaken deeper each)) (injected_gives n.stringKey form), ?_⟩
    rw [inject_text_entries, inject_type_entries, Keyed.ofList, Keyed.ofList,
      Keyed.insert_all_append, Keyed.insert_all_append]
  | null | text | moment | span | char | chars | byte | bytes | int | uint | float | bool | symbol
  | uuid | uri | stack | seq | enclosing | shown | unshowable => cases held

theorem array_of_items {items : List Datum} (done : n.nested (.seq items) = .ok value) :
    ∃ out, value = .array out ∧ items.map n.nested = out.map .ok := by
  obtain ⟨out, inner, rfl⟩ := ok_of_map done
  refine ⟨out, rfl, map_eq_map_of_each ?_ (results_of_map_m inner)⟩
  intro item w read
  exact levels_keep read

theorem nested_of_node {path : List Nat} (done : n.nested d = .ok value)
    (found : NodeAt Datum.parts d path x) : ∃ w, n.nested x = .ok w := by
  induction found generalizing value with
  | root => exact ⟨value, done⟩
  | within held inside ih =>
    rename_i whole part node i path
    have passed : ∃ w, n.levels n.maxDepth part = .ok w := by
      rw [ok_iff_no_error]
      intro failure refused
      obtain ⟨other, all⟩ := map_m_error (List.mem_of_getElem? held) refused
      have whole_refused := (level_error_iff n whole).mpr (Or.inr all)
      cases whole_refused.symm.trans done
    obtain ⟨w, inner⟩ := passed
    exact ih (levels_keep inner)

end

end Normalizer

inductive Move where
  | entry (key : String)
  | item (i : Nat)
  deriving DecidableEq, Repr

def follow (move : Move → α → Option α) : List Move → α → Option α
  | [], whole => some whole
  | next :: rest, whole => (move next whole).bind (follow move rest)

def Json.move? : Move → Json → Option Json
  | .entry key, .object entries => Keyed.get? key entries
  | .item i, .array items => items[i]?
  | _, _ => none

namespace Normalizer

/-- Of several entries with a key the last one counts. -/
def move? (n : Normalizer) : Move → Datum → Option Datum
  | .entry key, d => (n.entriesOf? d).bind (Keyed.last? key)
  | .item i, .seq items => items[i]?
  | .item _, _ => none

section

variable {n : Normalizer} {d x : Datum} {value : Json}

theorem moved {next : Move} (done : n.nested d = .ok value) (found : n.move? next d = some x) :
    ∃ w, value.move? next = some w ∧ n.nested x = .ok w := by
  cases next with
  | entry key =>
    obtain ⟨entries, held, last⟩ := Option.bind_eq_some_iff.mp found
    obtain ⟨values, each, rfl⟩ := object_of_entries done held
    exact (gathers_of_each_gives each).last key x last
  | item i =>
    cases d with
    | seq items =>
      obtain ⟨out, rfl, each⟩ := array_of_items done
      have read : (items.map n.nested)[i]? = some (n.nested x) := by
        rw [List.getElem?_map]
        exact congrArg (Option.map n.nested) found
      rw [each, List.getElem?_map] at read
      obtain ⟨w, held, same⟩ := Option.map_eq_some_iff.mp read
      exact ⟨w, held, same.symm⟩
    | null | text | moment | span | char | chars | byte | bytes | int | uint | float | bool | symbol
    | uuid | uri | stack | map | object | enclosing | shown | unshowable => cases found

theorem followed {moves : List Move} (done : n.nested d = .ok value)
    (found : follow n.move? moves d = some x) :
    ∃ w, follow Json.move? moves value = some w ∧ n.nested x = .ok w := by
  induction moves generalizing d value with
  | nil =>
    cases found
    exact ⟨value, rfl, done⟩
  | cons next rest ih =>
    obtain ⟨part, first, later⟩ := Option.bind_eq_some_iff.mp found
    obtain ⟨inner, held, read⟩ := moved done first
    obtain ⟨w, reached, same⟩ := ih read later
    refine ⟨w, ?_, same⟩
    rw [follow, held]
    exact reached

end

end Normalizer

end LogLayout
