import Mathlib.Data.List.Nodup
import LogLayout.Json.Value
import LogLayout.Keyed.Indexed

/- Mappings with an index come to the same as mappings that are searched. Every change keeps the
   index in step with the entries, so no place that it gives is ever at fault; and whatever has
   happened before, a mapping holds what was inserted since it was last cleared. -/
namespace LogLayout

namespace Keyed

section

variable {α : Type} {entries : List (String × α)} {place : Nat} {key : String} {value : α}

theorem first_key_apart {name : String} {first : α}
    (distinct : (keys ((name, first) :: entries)).Nodup)
    (held : entries[place]? = some (key, value)) : name ≠ key ∧ (keys entries).Nodup := by
  obtain ⟨absent, others⟩ := List.nodup_cons.mp distinct
  have later : key ∈ keys entries := List.mem_map_of_mem (List.mem_of_getElem? held)
  exact ⟨fun same => absent (same ▸ later), others⟩

variable (distinct : (keys entries).Nodup) (held : entries[place]? = some (key, value))
include distinct held

theorem get_of_place : get? key entries = some value := by
  induction entries generalizing place with
  | nil => simp at held
  | cons entry rest ih =>
    obtain ⟨name, first⟩ := entry
    cases place with
    | zero =>
      cases held
      simp [get?]
    | succ place =>
      rw [List.getElem?_cons_succ] at held
      obtain ⟨other, others⟩ := first_key_apart distinct held
      rw [get?, if_neg other]
      exact ih others held

theorem insert_at_place (new : α) : insert key new entries = entries.set place (key, new) := by
  induction entries generalizing place with
  | nil => simp at held
  | cons entry rest ih =>
    obtain ⟨name, first⟩ := entry
    cases place with
    | zero =>
      cases held
      simp [insert]
    | succ place =>
      rw [List.getElem?_cons_succ] at held
      obtain ⟨other, others⟩ := first_key_apart distinct held
      rw [insert, if_neg other, List.set_cons_succ, ih others held]

end

end Keyed

namespace Indexed

variable {α : Type} {m : Indexed α}

/-- The index gives a place for a key if and only if the entry at the place has the key. -/
def InStep (m : Indexed α) : Prop :=
  ∀ (key : String) (place : Nat), m.placeOf key = some place ↔
    (m.entries[place]?).map Prod.fst = some key

theorem in_step_empty : (empty : Indexed α).InStep := by
  intro key place
  simp [placeOf, empty]

theorem place_of_append (m : Indexed α) (key name : String) (value : α) :
    (m.append key value).placeOf name =
      if key = name then some m.entries.size else m.placeOf name := by
  simp [placeOf, append, Std.ExtHashMap.getElem?_insert]

theorem place_of_kept (entries : Array (String × α)) (name : String) :
    ({ m with entries := entries } : Indexed α).placeOf name = m.placeOf name := rfl

theorem keys_nodup (inStep : m.InStep) : (Keyed.keys m.entries.toList).Nodup := by
  rw [List.nodup_iff_getElem?_ne_getElem?]
  intro i j before within same
  obtain ⟨key, last⟩ : ∃ key, (Keyed.keys m.entries.toList)[j]? = some key :=
    ⟨_, List.getElem?_eq_getElem within⟩
  have first := same.trans last
  simp only [Keyed.keys, List.getElem?_map, Array.getElem?_toList] at first last
  have place := ((inStep key i).mpr first).symm.trans ((inStep key j).mpr last)
  have one : i = j := Option.some.inj place
  omega

theorem entry_of_place {key : String} {place : Nat} (inStep : m.InStep)
    (given : m.placeOf key = some place) :
    ∃ value, m.entryAt place = .ok (key, value) ∧
      m.entries.toList[place]? = some (key, value) := by
  obtain ⟨⟨name, value⟩, held, same⟩ := Option.map_eq_some_iff.mp ((inStep key place).mp given)
  obtain rfl : name = key := same
  exact ⟨value, by rw [entryAt, held], by rwa [Array.getElem?_toList]⟩

theorem absent_of_no_place {key : String} (inStep : m.InStep) (none : m.placeOf key = none) :
    key ∉ Keyed.keys m.entries.toList := by
  intro member
  obtain ⟨place, held⟩ := List.mem_iff_getElem?.mp member
  simp only [Keyed.keys, List.getElem?_map, Array.getElem?_toList] at held
  have given := (inStep key place).mpr held
  rw [none] at given
  cases given

theorem get_in_step (inStep : m.InStep) (key : String) :
    m.get? key = .ok (Keyed.get? key m.entries.toList) := by
  rw [get?]
  cases given : m.placeOf key with
  | none => rw [Keyed.get_absent key _ (absent_of_no_place inStep given)]
  | some place =>
    obtain ⟨value, read, held⟩ := entry_of_place inStep given
    rw [Keyed.get_of_place (keys_nodup inStep) held]
    simp only [read]
    rfl

theorem append_in_step (inStep : m.InStep) {key : String} (none : m.placeOf key = none)
    (value : α) : (m.append key value).InStep := by
  intro name place
  rw [place_of_append, append, Array.getElem?_push]
  by_cases same : key = name
  · subst same
    by_cases last : place = m.entries.size
    · simp [last]
    · have unknown : (m.entries[place]?).map Prod.fst ≠ some key := by
        intro held
        have old := (inStep key place).mpr held
        rw [none] at old
        cases old
      simp [last, unknown, Ne.symm last]
  · by_cases last : place = m.entries.size
    · subst last
      have behind := inStep name m.entries.size
      simp only [Array.getElem?_size, Option.map_none] at behind
      simp [same, behind]
    · simp [same, last, inStep name place]

theorem replace_in_step (inStep : m.InStep) {key : String} {place : Nat} {earlier : α}
    (held : m.entries[place]? = some (key, earlier)) (value : α) :
    ({ m with entries := m.entries.setIfInBounds place (key, value) } : Indexed α).InStep := by
  intro name other
  rw [place_of_kept, inStep name other, Array.getElem?_setIfInBounds]
  by_cases same : place = other
  · subst same
    obtain ⟨within, _⟩ := Array.getElem?_eq_some_iff.mp held
    rw [if_pos rfl, if_pos within, held]
    rfl
  · simp [same]

theorem insert_in_step (inStep : m.InStep) (key : String) (value : α) :
    ∃ next, m.insert key value = .ok (next, Keyed.get? key m.entries.toList) ∧ next.InStep ∧
      next.entries.toList = Keyed.insert key value m.entries.toList := by
  rw [insert]
  cases given : m.placeOf key with
  | none =>
    have absent := absent_of_no_place inStep given
    refine ⟨m.append key value, ?_, append_in_step inStep given value, ?_⟩
    · rw [Keyed.get_absent key _ absent]
    · rw [append, Array.toList_push, Keyed.insert_fresh value _ absent]
  | some place =>
    obtain ⟨earlier, read, held⟩ := entry_of_place inStep given
    have standing : m.entries[place]? = some (key, earlier) := by rwa [← Array.getElem?_toList]
    refine ⟨{ m with entries := m.entries.setIfInBounds place (key, value) }, ?_,
      replace_in_step inStep standing value, ?_⟩
    · rw [Keyed.get_of_place (keys_nodup inStep) held]
      simp only [read]
      rfl
    · rw [Array.toList_setIfInBounds, Keyed.insert_at_place (keys_nodup inStep) held]

/-- What has been inserted since the mapping was last cleared, in order. -/
def sinceCleared (inserted : List (String × α)) : List (Change α) → List (String × α)
  | [] => inserted
  | .insert key value :: rest => sinceCleared (inserted ++ [(key, value)]) rest
  | .clear :: rest => sinceCleared [] rest

theorem since_cleared_inserts (inserted entries : List (String × α)) :
    sinceCleared inserted (entries.map fun entry => .insert entry.1 entry.2) =
      inserted ++ entries := by
  induction entries generalizing inserted with
  | nil => simp [sinceCleared]
  | cons entry rest ih => simp [sinceCleared, ih]

structure Holds (m : Indexed α) (inserted : List (String × α)) : Prop where
  inStep : m.InStep
  entries : m.entries.toList = Keyed.ofList inserted

section

variable {inserted : List (String × α)}

theorem holds_get (holds : m.Holds inserted) (key : String) :
    m.get? key = .ok (Keyed.last? key inserted) := by
  rw [get_in_step holds.inStep, holds.entries, Keyed.get_of_list]

theorem holds_insert (holds : m.Holds inserted) (key : String) (value : α) :
    ∃ next, m.insert key value = .ok (next, Keyed.last? key inserted) ∧
      next.Holds (inserted ++ [(key, value)]) := by
  obtain ⟨next, done, inStep, entries⟩ := insert_in_step holds.inStep key value
  rw [holds.entries] at done entries
  rw [Keyed.get_of_list] at done
  refine ⟨next, done, inStep, ?_⟩
  rw [entries, Keyed.ofList, Keyed.ofList, Keyed.insert_all_append]
  rfl

theorem holds_change (holds : m.Holds inserted) (c : Change α) :
    ∃ next replaced, m.change c = .ok (next, replaced) ∧
      next.Holds (sinceCleared inserted [c]) := by
  cases c with
  | insert key value =>
    obtain ⟨next, done, held⟩ := holds_insert holds key value
    exact ⟨next, _, done, held⟩
  | clear => exact ⟨empty, none, rfl, in_step_empty, rfl⟩

theorem since_cleared_cons (c : Change α) (rest : List (Change α)) :
    sinceCleared inserted (c :: rest) = sinceCleared (sinceCleared inserted [c]) rest := by
  cases c <;> rfl

theorem holds_run (holds : m.Holds inserted) (changes : List (Change α)) :
    ∃ last, m.run changes = .ok last ∧ last.Holds (sinceCleared inserted changes) := by
  induction changes generalizing m inserted with
  | nil => exact ⟨m, rfl, holds⟩
  | cons c rest ih =>
    obtain ⟨next, replaced, done, held⟩ := holds_change holds c
    obtain ⟨last, others, kept⟩ := ih held
    rw [since_cleared_cons]
    refine ⟨last, ?_, kept⟩
    rw [run, List.foldlM_cons, done]
    exact others

end

theorem holds_of_list (entries : List (String × α)) :
    ∃ first, ofList entries = .ok first ∧ first.Holds entries := by
  have nothing : (empty : Indexed α).Holds [] := ⟨in_step_empty, rfl⟩
  obtain ⟨first, done, held⟩ := holds_run nothing (entries.map fun e => .insert e.1 e.2)
  rw [since_cleared_inserts] at held
  exact ⟨first, done, held⟩

theorem eq_of_entries {other : Indexed α} (inStep : m.InStep) (otherInStep : other.InStep)
    (same : m.entries = other.entries) : m = other := by
  obtain ⟨entries, places⟩ := m
  obtain ⟨entries', places'⟩ := other
  obtain rfl : entries = entries' := same
  have agree : places = places' := by
    apply Std.ExtHashMap.ext_getElem?
    intro key
    ext place
    exact (inStep key place).trans (otherInStep key place).symm
  rw [agree]

theorem same_iff (alike : α → α → Bool) (m other : Indexed α) :
    m.same alike other = true ↔ List.Forall₂ (fun a b => a.1 = b.1 ∧ alike a.2 b.2 = true)
      m.entries.toList other.entries.toList := by
  rw [same, Array.isEqv_eq_decide, List.forall₂_iff_get]
  split
  · rename_i sizes
    simp only [decide_eq_true_eq, Bool.and_eq_true, beq_iff_eq, Array.length_toList,
      List.get_eq_getElem, Array.getElem_toList]
    exact ⟨fun each => ⟨sizes, fun i h _ => each i h⟩, fun each i h => each.2 i h (sizes ▸ h)⟩
  · rename_i sizes
    simp [sizes]

/-- Whatever is inserted into a mapping and however often it is cleared, no place in the index is at
    fault: each key has the place of its one entry. A look-up gives the value that was inserted last
    since the mapping was cleared, an insertion gives back the value it replaces, and the keys come
    in the order in which they were first inserted. The entries alone make out which mappings are
    equal, since the index is known from them. -/
theorem ordered_in_every_state (start : List (String × α)) (changes : List (Change α)) :
    ∃ first m, ofList start = .ok first ∧ first.run changes = .ok m ∧
      (Keyed.keys m.entries.toList).Nodup ∧
      (∀ (key : String) (place : Nat), m.placeOf key = some place ↔
        (m.entries[place]?).map Prod.fst = some key) ∧
      (∀ key, m.get? key = .ok (Keyed.last? key (sinceCleared start changes))) ∧
      (∀ key value, ∃ next,
        m.insert key value = .ok (next, Keyed.last? key (sinceCleared start changes))) ∧
      Keyed.keys m.entries.toList = (Keyed.keys (sinceCleared start changes)).eraseDups ∧
      ∀ start' changes', ∃ first' m', ofList start' = .ok first' ∧ first'.run changes' = .ok m' ∧
        (m = m' ↔ m.entries = m'.entries) ∧
        ∀ alike : α → α → Bool, m.same alike m' = true ↔
          List.Forall₂ (fun a b => a.1 = b.1 ∧ alike a.2 b.2 = true)
            m.entries.toList m'.entries.toList := by
  obtain ⟨first, begun, held⟩ := holds_of_list start
  obtain ⟨m, done, holds⟩ := holds_run held changes
  refine ⟨first, m, begun, done, keys_nodup holds.inStep, holds.inStep, holds_get holds, ?_, ?_, ?_⟩
  · intro key value
    obtain ⟨next, inserted, _⟩ := holds_insert holds key value
    exact ⟨next, inserted⟩
  · rw [holds.entries, Keyed.keys_of_list]
  · intro start' changes'
    obtain ⟨first', begun', held'⟩ := holds_of_list start'
    obtain ⟨m', done', holds'⟩ := holds_run held' changes'
    refine ⟨first', m', begun', done', ?_, fun alike => same_iff alike m m'⟩
    constructor
    · intro equal
      rw [equal]
    · exact eq_of_entries holds.inStep holds'.inStep

end Indexed

end LogLayout
