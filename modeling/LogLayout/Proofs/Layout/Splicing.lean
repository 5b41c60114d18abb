import LogLayout.Layout.Basic
import LogLayout.Proofs.Normalize.Levels

/- The same slots in a group and in a layout. A group splices the mapping of an unnamed slot before
   it is normalised, a layout splices the object that comes of it. The two documents are the same as
   long as no unnamed slot holds an object, which only the layout splices. -/
namespace LogLayout

open Normalizer

def entriesOf (e : Event) (slots : List Slot) : List (String × Datum) := (readSlots e [] 0 slots).1

theorem entries_of_cons (e : Event) (slot : Slot) (rest : List Slot) :
    entriesOf e (slot :: rest) = groupEntries slot.name (slot.value e) ++ entriesOf e rest := by
  simp only [entriesOf, readSlots, Slot.value]
  rw [value_anywhere e ([] ++ [0]) [] slot, entries_anywhere e [] [] (0 + 1) 0 rest]

def Slot.Spliceable (e : Event) (slot : Slot) : Prop :=
  slot.name = "" → ∀ kind form fields, slot.value e ≠ some (.object kind form fields)

/-- The slot has a value, and it is not an empty mapping to be spliced. -/
def Slot.Contributes (e : Event) (slot : Slot) : Prop :=
  ∃ value, slot.value e = some value ∧ ¬ (slot.name = "" ∧ value = .map [])

theorem entries_of_contribution (e : Event) (slots : List Slot)
    (filled : ∃ slot ∈ slots, slot.Contributes e) : entriesOf e slots ≠ [] := by
  induction slots with
  | nil => simp at filled
  | cons slot rest ih =>
    rw [entries_of_cons]
    intro empty
    obtain ⟨none_here, none_later⟩ := List.append_eq_nil_iff.mp empty
    obtain ⟨found, member, value, read, solid⟩ := filled
    rcases List.mem_cons.mp member with rfl | later
    · rw [read] at none_here
      cases value with
      | map inner =>
        simp only [groupEntries] at none_here
        split at none_here
        · rename_i unnamed
          subst none_here
          exact solid ⟨unnamed, rfl⟩
        · cases none_here
      | _ => cases none_here
    · exact ih ⟨found, later, value, read, solid⟩ none_later

section

variable (n : Normalizer) (structured : n.flatten = false)
include structured

theorem splice_mapping (inner : List (String × Datum)) (out : List (String × Json)) :
    n.normalizeInto "" (.map inner) out = entriesWith (n.levels n.maxDepth) out inner := by
  have apart := entries_with_apart (n.levels n.maxDepth) out [] inner List.nodup_nil
  have level : n.nested (.map inner) =
      (entriesWith (n.levels n.maxDepth) [] inner).map .object := rfl
  rw [normalizeInto, level]
  rw [show entriesWith (n.levels n.maxDepth) out inner = _ from apart]
  cases entriesWith (n.levels n.maxDepth) [] inner with
  | error failure => rfl
  | ok entries => simp [Except.map, store, structured]

theorem store_single (key : String) (value : Datum) (out : List (String × Json))
    (single : key ≠ "" ∨ ∀ entries, n.nested value ≠ .ok (.object entries))
    (within : ¬ TooDeep (entriesWith (n.levels n.maxDepth) out [(key, value)])) :
    n.normalizeInto key value out = entriesWith (n.levels n.maxDepth) out [(key, value)] := by
  have inner : ¬ TooDeep (n.levels n.maxDepth value) := by
    intro deep
    exact within (too_deep_bind (too_deep_bind deep))
  have same : n.nested value = n.levels n.maxDepth value := n.levels_succ n.maxDepth value inner
  have one : entriesWith (n.levels n.maxDepth) out [(key, value)] =
      (n.levels n.maxDepth value).map fun json => Keyed.insert key json out := by
    unfold entriesWith
    rw [List.foldlM_cons]
    cases n.levels n.maxDepth value <;> rfl
  rw [one, normalizeInto, ← same]
  cases read : n.nested value with
  | error failure => rfl
  | ok json =>
    rcases single with named | plain
    · cases json <;> simp [Except.map, store, structured, named]
    · cases json with
      | object entries => exact absurd read (plain entries)
      | _ => simp [Except.map, store, structured]

theorem store_group_entries (e : Event) (slot : Slot) (out : List (String × Json))
    (spliceable : slot.Spliceable e)
    (within : ¬ TooDeep (entriesWith (n.levels n.maxDepth) out
      (groupEntries slot.name (slot.value e)))) :
    (slot.value e).elim (.ok out) (fun value => n.normalizeInto slot.name value out) =
      entriesWith (n.levels n.maxDepth) out (groupEntries slot.name (slot.value e)) := by
  unfold Slot.Spliceable at spliceable
  cases read : slot.value e with
  | none => rfl
  | some value =>
    rw [read] at within spliceable
    simp only [Option.elim_some]
    by_cases unnamed : slot.name = ""
    · cases value with
      | map inner =>
        simp only [groupEntries, unnamed, if_true] at within ⊢
        exact splice_mapping n structured inner out
      | object kind form fields => exact absurd rfl (spliceable unnamed kind form fields)
      | _ =>
        refine store_single n structured slot.name _ out (Or.inr ?_) within
        intro entries nested
        rcases n.object_of_nested _ entries nested with ⟨_, ⟨⟩⟩ | ⟨_, _, _, ⟨⟩⟩
    · cases value with
      | map inner =>
        simp only [groupEntries, unnamed, if_false] at within ⊢
        exact store_single n structured slot.name _ out (Or.inl unnamed) within
      | _ => exact store_single n structured slot.name _ out (Or.inl unnamed) within

theorem collect_group_entries (e : Event) (i : Nat) (out : List (String × Json))
    (slots : List Slot) (spliceable : ∀ slot ∈ slots, slot.Spliceable e)
    (within : ¬ TooDeep (entriesWith (n.levels n.maxDepth) out (entriesOf e slots))) :
    (collect n e i out slots).result =
      entriesWith (n.levels n.maxDepth) out (entriesOf e slots) := by
  induction slots generalizing i out with
  | nil => rfl
  | cons slot rest ih =>
    rw [entries_of_cons, entries_with_append] at within ⊢
    have stored := store_group_entries n structured e slot out
      (spliceable slot (List.mem_cons_self ..)) (fun deep => within (too_deep_bind deep))
    have value : (slot.read e [i]).value = slot.value e := value_anywhere e [i] [] slot
    unfold collect
    simp only [value, stored]
    cases first : entriesWith (n.levels n.maxDepth) out
        (groupEntries slot.name (slot.value e)) with
    | error failure => rfl
    | ok next =>
      rw [first] at within
      exact ih (i + 1) next (fun other member => spliceable other (List.mem_cons_of_mem _ member))
        within

end

theorem document_of_several (n : Normalizer) (table : Json.EscapeTable) (e : Event)
    (slots : List Slot) (several : 2 ≤ slots.length) :
    ((Layout.mk slots n table).document e).result =
      (collect n e 0 [] slots).result.map .object := by
  rcases slots with _ | ⟨slot, _ | ⟨other, rest⟩⟩
  · simp at several
  · simp at several
  · rfl

/-- The mapping of a group, unless it is too deep by the one level that it adds, is normalised to
    the document of the layout that has the same slots. -/
theorem group_renders_as_document (n : Normalizer) (table : Json.EscapeTable) (e : Event)
    (slots : List Slot) (several : 2 ≤ slots.length) (structured : n.flatten = false)
    (spliceable : ∀ slot ∈ slots, slot.Spliceable e)
    (filled : ∃ slot ∈ slots, slot.Contributes e) :
    ∃ mapping, groupValue (readSlots e [] 0 slots).1 = some mapping ∧
      (¬ TooDeep (n.normalize mapping) →
        n.normalize mapping = ((Layout.mk slots n table).document e).result) := by
  have held := entries_of_contribution e slots filled
  refine ⟨.map (entriesOf e slots), ?_, ?_⟩
  · unfold groupValue
    rw [if_neg (by simpa [entriesOf] using held)]
    rfl
  · intro within
    have level : n.nested (.map (entriesOf e slots)) =
        (entriesWith (n.levels n.maxDepth) [] (entriesOf e slots)).map .object := rfl
    rw [normalize_structured n structured, level] at within ⊢
    rw [too_deep_map] at within
    rw [document_of_several n table e slots several,
      collect_group_entries n structured e 0 [] slots spliceable within]

def failingEvent : Event :=
  { Event.bare ⟨[], "app", .utc⟩ "m" [("user", .null), ("at", .map [("z", .int 1)])] ⟨0, 0⟩ "INFO"
      "core" "main" with exception := some ⟨"IOError", "disk full", [], none⟩ }

theorem properties_spliced_alike :
    ∃ mapping, groupValue (readSlots failingEvent [] 0
        [.bare "at", .getter "" fun e => .ok (some (.map e.properties)), .literal "at" "x"]).1 =
          some mapping ∧
      ({} : Normalizer).normalize mapping =
        ((Layout.mk [.bare "at", .getter "" fun e => .ok (some (.map e.properties)),
          .literal "at" "x"] {} .standard).document failingEvent).result := by
  have spliceable : ∀ slot ∈ ([.bare "at", .getter "" fun e => .ok (some (.map e.properties)),
      .literal "at" "x"] : List Slot), slot.Spliceable failingEvent := by
    simp only [List.forall_mem_cons]
    refine ⟨?_, ?_, ?_, by simp⟩
    · intro unnamed
      exact absurd unnamed (by decide)
    · rintro _ kind form fields ⟨⟩
    · intro unnamed
      exact absurd unnamed (by decide)
  obtain ⟨mapping, built, same⟩ := group_renders_as_document {} .standard failingEvent _ (by decide)
    rfl spliceable ⟨.bare "at", List.mem_cons_self .., _, rfl, by simp [Slot.name]⟩
  refine ⟨mapping, built, same ?_⟩
  obtain rfl := Option.some.inj built
  rintro ⟨limit, ⟨⟩⟩

/-- An unnamed exception is an entry of its own in a group, but not in a layout. -/
theorem exception_not_spliced_in_group :
    let slots : List Slot := [.getter "level" fun e => .ok (some (.text e.level)),
      .getter "" fun e => .ok (e.exception.map Exception.datum)]
    let keys (result : Except NormalizeError Json) : Option (List String) :=
      (result.toOption.bind Json.entries?).map Keyed.keys
    (groupValue (readSlots failingEvent [] 0 slots).1).bind
        (fun mapping => keys (({} : Normalizer).normalize mapping)) = some ["level", ""] ∧
      keys ((Layout.mk slots {} .standard).document failingEvent).result =
        some ["level", "type", "message"] := by
  decide

/-- An empty mapping without a name makes a document, but not a group. -/
example :
    let slots : List Slot :=
      [.getter "" fun _ => .ok (some (.map [])), .getter "x" fun _ => .ok none]
    (groupValue (readSlots failingEvent [] 0 slots).1).isNone = true ∧
      (((Layout.mk slots {} .standard).document failingEvent).result.toOption.bind
        Json.entries?).map Keyed.keys = some [] := by
  decide

end LogLayout
