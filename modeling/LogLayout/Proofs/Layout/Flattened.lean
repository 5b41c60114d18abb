import LogLayout.Layout.Basic
import LogLayout.Proofs.Normalize.Flattening

/- Flattening slot by slot, while a document is collected, against flattening the document that has
   been collected without it. Each slot hands over entries; as long as no key comes twice, the
   document is these entries in a row, and it makes no difference when they are flattened. -/
namespace LogLayout

/-- The entries that a value stands for under a key: under the empty key those of an object. -/
def Json.spread (key : String) : Json → List (String × Json)
  | .object entries => if key = "" then entries else [(key, .object entries)]
  | value => [(key, value)]

namespace Normalizer

def flattening (n : Normalizer) (on : Bool) : Normalizer := { n with flatten := on }

theorem nested_flattening (n : Normalizer) (on : Bool) (d : Datum) :
    (n.flattening on).nested d = n.nested d := by
  have levels (allowed : Nat) : (n.flattening on).levels allowed = n.levels allowed := by
    induction allowed with
    | zero => rfl
    | succ allowed ih =>
      funext d
      simp only [Normalizer.levels, ih]
      cases d <;> rfl
  exact congrFun (levels _) d

theorem store_flat (n : Normalizer) (key : String) (out : List (String × Json)) (value : Json) :
    (n.flattening true).store key out value = Json.flattenEntries "" out (value.spread key) := by
  have single : value.flattenInto key out = Json.flattenEntries "" out [(key, value)] := by
    simp [Json.flattenEntries]
  cases value with
  | object entries =>
    by_cases unnamed : key = ""
    · simp only [Json.spread, if_pos unnamed]
      simp [store, flattening, unnamed, Json.flattenInto]
    · simp only [Json.spread, if_neg unnamed]
      exact single
  | null | text | int | float | bool | array => exact single

theorem store_structured (n : Normalizer) (key : String) (out : List (String × Json))
    (value : Json) :
    (n.flattening false).store key out value = Keyed.insertAll out (value.spread key) := by
  cases value with
  | object entries =>
    by_cases unnamed : key = ""
    · simp [store, flattening, Json.spread, unnamed]
    · simp [store, flattening, Json.spread, unnamed, Keyed.insertAll]
  | null | text | int | float | bool | array => rfl

theorem normalize_structured_first (n : Normalizer) (d : Datum) :
    (n.flattening true).normalize d =
      ((n.flattening false).normalize d).map Json.oneLevel := by
  unfold normalize
  rw [nested_flattening, nested_flattening]
  cases n.nested d with
  | error failure => rfl
  | ok value =>
    cases value with
    | object entries => exact congrArg Except.ok (Json.flattened_object entries)
    | null | text | int | float | bool | array => rfl

end Normalizer

def Slot.contribution (n : Normalizer) (e : Event) (slot : Slot) : List (String × Json) :=
  match slot.value e with
  | none => []
  | some d => ((n.nested d).toOption.map (Json.spread slot.name)).getD []

/-- Names of the slots with a value; for the unnamed ones the keys of their objects instead. -/
def contributedKeys (n : Normalizer) (e : Event) (slots : List Slot) : List String :=
  slots.flatMap fun slot => Keyed.keys (slot.contribution n e)

def Slot.storeIn (n : Normalizer) (e : Event) (slot : Slot) (out : List (String × Json)) :
    Except NormalizeError (List (String × Json)) :=
  (slot.value e).elim (.ok out) fun value => n.normalizeInto slot.name value out

theorem collect_cons (n : Normalizer) (e : Event) (i : Nat) (out : List (String × Json))
    (slot : Slot) (rest : List Slot) :
    collect n e i out (slot :: rest) =
      match slot.storeIn n e out with
      | .error failure => ⟨.error failure, (slot.read e [i]).failures⟩
      | .ok next => ⟨(collect n e (i + 1) next rest).result,
          (slot.read e [i]).failures ++ (collect n e (i + 1) next rest).failures⟩ := by
  rw [collect, value_anywhere e [i] [] slot]
  rfl

theorem store_in_either (n : Normalizer) (e : Event) (slot : Slot) :
    (∃ failure, ∀ on out, slot.storeIn (n.flattening on) e out = .error failure) ∨
      (∀ out, slot.storeIn (n.flattening true) e out =
        .ok (Json.flattenEntries "" out (slot.contribution n e))) ∧
      ∀ out, slot.storeIn (n.flattening false) e out =
        .ok (Keyed.insertAll out (slot.contribution n e)) := by
  unfold Slot.storeIn Slot.contribution
  cases slot.value e with
  | none => exact Or.inr ⟨fun _ => rfl, fun _ => rfl⟩
  | some d =>
    simp only [Option.elim_some, Normalizer.normalizeInto, Normalizer.nested_flattening]
    cases n.nested d with
    | error failure => exact Or.inl ⟨failure, fun _ _ => rfl⟩
    | ok value =>
      refine Or.inr ⟨?_, ?_⟩
      · intro out
        exact congrArg Except.ok (n.store_flat slot.name out value)
      · intro out
        exact congrArg Except.ok (n.store_structured slot.name out value)

theorem collect_flattening (n : Normalizer) (e : Event) (i : Nat) (out : List (String × Json))
    (slots : List Slot) (distinct : (Keyed.keys out ++ contributedKeys n e slots).Nodup) :
    collect (n.flattening true) e i (Json.flattenEntries "" [] out) slots =
      (collect (n.flattening false) e i out slots).map
        (Except.map fun entries => Json.flattenEntries "" [] entries) := by
  induction slots generalizing i out with
  | nil => rfl
  | cons slot rest ih =>
    rw [collect_cons, collect_cons]
    rcases store_in_either n e slot with ⟨failure, refused⟩ | ⟨flat, structured⟩
    · rw [refused, refused]
      rfl
    · rw [flat, structured]
      have here : (Keyed.keys out ++ Keyed.keys (slot.contribution n e)).Nodup := by
        rw [contributedKeys, List.flatMap_cons, ← List.append_assoc] at distinct
        exact (List.nodup_append.mp distinct).1
      have later : (Keyed.keys (out ++ slot.contribution n e) ++ contributedKeys n e rest).Nodup := by
        rw [contributedKeys, List.flatMap_cons, ← List.append_assoc] at distinct
        simpa [Keyed.keys, contributedKeys] using distinct
      rw [Keyed.insert_all_fresh _ _ here, ← Json.flatten_entries_append]
      simp only [ih (i + 1) _ later]
      rfl

namespace Layout

def flattening (l : Layout) (on : Bool) : Layout :=
  { l with normalizer := l.normalizer.flattening on }

/-- As long as the slots contribute no key twice, a layout that flattens gives what flattening makes
    of the document that it would give without, the same errors and the same failures. -/
theorem flattening_commutes_with_collecting (l : Layout) (e : Event)
    (distinct : (contributedKeys l.normalizer e l.slots).Nodup) :
    (l.flattening true).document e =
      ((l.flattening false).document e).map (Except.map Json.oneLevel) := by
  have collected : (collect (l.normalizer.flattening true) e 0 [] l.slots).map
      (Except.map Json.object) = ((collect (l.normalizer.flattening false) e 0 [] l.slots).map
        (Except.map Json.object)).map (Except.map Json.oneLevel) := by
    have flat := collect_flattening l.normalizer e 0 [] l.slots (by simpa [Keyed.keys] using distinct)
    simp only [Json.flattenEntries] at flat
    rw [flat]
    generalize collect (l.normalizer.flattening false) e 0 [] l.slots = reading
    obtain ⟨result, failures⟩ := reading
    cases result with
    | error failure => rfl
    | ok entries =>
      simp only [Reading.map, Except.map, Json.flattened_object]
  obtain ⟨slots, n, table⟩ := l
  rcases slots with _ | ⟨slot, _ | ⟨other, rest⟩⟩
  · rfl
  · by_cases unnamed : slot.name = ""
    · simp only [document, flattening, unnamed, if_true, Reading.map]
      cases (slot.read e [0]).value with
      | none => rfl
      | some value => simp only [n.normalize_structured_first value]
    · simp only [document, flattening, unnamed, if_false]
      exact collected
  · exact collected

def nestedEvent : Event :=
  Event.bare ⟨[], "app", .utc⟩ "m"
    [("a", .map [("b", .int 1), ("", .map [("c", .null)]), ("d", .map [])])] ⟨0, 0⟩ "INFO" "core" "main"

def collidingLayout : Layout where
  slots := [.bare "a", .literal "a.b" "x",
    .getter "" fun _ => .ok (some (.map [("", .map [("z", .bool true)])]))]
  normalizer := {}
  table := .standard

theorem colliding_path_flattened :
    (collidingLayout.flattening true).document nestedEvent =
        ((collidingLayout.flattening false).document nestedEvent).map (Except.map Json.oneLevel) ∧
      ((((collidingLayout.flattening true).document nestedEvent).result.toOption.bind
        Json.entries?).map Keyed.keys) = some ["a.b", "z"] := by
  have distinct : (contributedKeys collidingLayout.normalizer nestedEvent
      collidingLayout.slots).Nodup := by decide
  exact ⟨flattening_commutes_with_collecting collidingLayout nestedEvent distinct, by decide⟩

/-- Of two slots with one name, the first leaves something behind only where it is flattened. -/
example :
    let l : Layout :=
      { collidingLayout with slots := [.bare "a", .getter "a" fun _ => .ok (some (.text "y"))] }
    let keys (on : Bool) : Option (List String) :=
      ((((l.flattening on).document nestedEvent).result.map Json.oneLevel).toOption.bind
        Json.entries?).map Keyed.keys
    keys true = some ["a.b", "a"] ∧ keys false = some ["a"] := by
  decide

end Layout

end LogLayout
