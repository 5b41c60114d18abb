import LogLayout.Json.Slots
import LogLayout.Proofs.Keyed.Ascending

/- Escape tables known by their contents. The slots stay as many as they were and the mapping stays
   ascending and free of ASCII, so no character is at fault, and tables that give the same
   replacements are the same, whatever was done to them. -/
namespace LogLayout.Json

theorem named_injective : Function.Injective named := by
  refine List.map_injective_iff.mpr ?_
  rintro ⟨c, text⟩ ⟨d, other⟩ same
  simpa using same

theorem get_named (c : Char) (entries : List (Char × String)) :
    Keyed.get? (String.singleton c) (named entries) = lookupEntry c entries := by
  induction entries with
  | nil => rfl
  | cons entry rest ih =>
    obtain ⟨held, text⟩ := entry
    simp only [named, List.map_cons, Keyed.get?, lookupEntry, String.singleton_inj] at ih ⊢
    rw [ih]

theorem get_unnamed {key : String} (unnamed : ¬ ∃ c, key = String.singleton c)
    (entries : List (Char × String)) : Keyed.get? key (named entries) = none := by
  refine Keyed.get_absent _ _ fun member => unnamed ?_
  obtain ⟨pair, inside, rfl⟩ := List.mem_map.mp member
  obtain ⟨entry, -, rfl⟩ := List.mem_map.mp inside
  exact ⟨entry.1, rfl⟩

namespace EscapeTable

def Change.target : Change → Char
  | .set c _ => c
  | .unset c => c

def Change.held : Change → Option String
  | .set _ replacement => some replacement
  | .unset _ => none

/-- What the last change about the character leaves it with. -/
def lastHeld (c : Char) (changes : List Change) : Option (Option String) :=
  changes.reverse.findSome? fun u => if u.target = c then some u.held else none

theorem get_change (t : EscapeTable) (u : Change) (c : Char) :
    (t.change u).get? c = if u.target = c then u.held else t.get? c := by
  cases u with
  | set d replacement => exact lookup_insert d c replacement t.entries
  | unset d => exact lookup_filter d c t.entries

theorem get_run (t : EscapeTable) (changes : List Change) (c : Char) :
    (t.run changes).get? c = (lastHeld c changes).getD (t.get? c) := by
  induction changes generalizing t with
  | nil => rfl
  | cons u rest ih =>
    have last : lastHeld c (u :: rest) =
        (lastHeld c rest).or (if u.target = c then some u.held else none) := by
      simp [lastHeld, List.findSome?_append]
    calc (t.run (u :: rest)).get? c
        = (lastHeld c rest).getD ((t.change u).get? c) := ih (t.change u)
      _ = (lastHeld c (u :: rest)).getD (t.get? c) := by
          rw [get_change, last]
          cases lastHeld c rest <;> split <;> rfl

theorem eq_of_same_replacements {t u : EscapeTable} (same : ∀ c, t.get? c = u.get? c) : t = u := by
  have entries : t.entries = u.entries := by
    refine named_injective (Keyed.eq_of_same_lookups (ascending_named.mpr t.ascending)
      (ascending_named.mpr u.ascending) fun key => ?_)
    by_cases letter : ∃ c, key = String.singleton c
    · obtain ⟨c, rfl⟩ := letter
      rw [get_named, get_named]
      exact same c
    · rw [get_unnamed letter, get_unnamed letter]
  cases t
  cases u
  cases entries
  rfl

theorem standard_changes : empty.run SlotTable.standardChanges = standard := by
  simp only [run, SlotTable.standardChanges, List.foldl_append, List.foldl_map]
  rfl

end EscapeTable

namespace SlotTable

open EscapeTable (Change lastHeld)

section

variable {m : SlotTable}

theorem slot_at (code : Nat) (inside : code < m.slots.size) :
    m.slotAt code = .ok m.slots[code] := by
  simp [slotAt, inside]

theorem slot_at_written {written : Nat} (inside : written < m.slots.size) (held : Option String)
    (code : Nat) :
    SlotTable.slotAt ⟨m.slots.setIfInBounds written held, m.beyond⟩ code =
      if written = code then .ok held else m.slotAt code := by
  by_cases same : written = code
  · subst same
    simp [slotAt, inside]
  · simp [slotAt, Array.getElem?_setIfInBounds_ne same, same]

theorem slot_of_ascii {c : Char} (ascii : c.toNat < asciiCount) : slotOf? c = some c.toNat :=
  if_pos ascii

theorem slot_of_other {c : Char} (other : ¬ c.toNat < asciiCount) : slotOf? c = none :=
  if_neg other

theorem get_ascii {c : Char} (ascii : c.toNat < asciiCount) : m.get? c = m.slotAt c.toNat := by
  rw [get?, slot_of_ascii ascii]

theorem get_other {c : Char} (other : ¬ c.toNat < asciiCount) :
    m.get? c = .ok (m.beyond.get? c) := by
  rw [get?, slot_of_other other]

theorem change_ascii (u : Change) (ascii : u.target.toNat < asciiCount) :
    m.change u = m.writeSlot u.target.toNat u.held := by
  cases u with
  | set c replacement => rw [change, set, show slotOf? c = _ from slot_of_ascii ascii]; rfl
  | unset c => rw [change, unset, show slotOf? c = _ from slot_of_ascii ascii]; rfl

theorem change_other (u : Change) (other : ¬ u.target.toNat < asciiCount) :
    m.change u = .ok { m with beyond := m.beyond.change u } := by
  cases u with
  | set c replacement => rw [change, set, show slotOf? c = _ from slot_of_other other]; rfl
  | unset c => rw [change, unset, show slotOf? c = _ from slot_of_other other]; rfl

end

theorem code_of_ascii : ∀ code < asciiCount, (Char.ofNat code).toNat = code := by decide

/-- The two-part table has a slot for every ASCII character, none of these in its mapping, and what
    the other table gives. -/
structure Mirrors (m : SlotTable) (t : EscapeTable) : Prop where
  full : m.slots.size = asciiCount
  outside : ∀ c : Char, c.toNat < asciiCount → m.beyond.get? c = none
  agree : ∀ c, m.get? c = .ok (t.get? c)

theorem mirrors_empty : Mirrors empty .empty where
  full := by simp [empty]
  outside _ _ := rfl
  agree c := by
    by_cases ascii : c.toNat < asciiCount
    · rw [get_ascii ascii, slot_at _ (by simpa [empty] using ascii)]
      simp [empty, EscapeTable.empty, EscapeTable.get?, lookupEntry]
    · exact get_other ascii

section

variable {m : SlotTable} {t : EscapeTable} (mirrors : Mirrors m t)
include mirrors

theorem mirrors_ascii (u : Change) (ascii : u.target.toNat < asciiCount) :
    Mirrors ⟨m.slots.setIfInBounds u.target.toNat u.held, m.beyond⟩ (t.change u) where
  full := by simpa using mirrors.full
  outside := mirrors.outside
  agree c := by
    have inside : u.target.toNat < m.slots.size := mirrors.full ▸ ascii
    rw [EscapeTable.get_change]
    by_cases low : c.toNat < asciiCount
    · have before : m.slotAt c.toNat = .ok (t.get? c) := get_ascii low ▸ mirrors.agree c
      rw [get_ascii low, slot_at_written inside, before]
      simp only [Char.toNat_inj]
      split <;> rfl
    · have different : u.target ≠ c := fun same => low (same ▸ ascii)
      rw [if_neg different, get_other low, ← mirrors.agree c, get_other low]

theorem mirrors_other (u : Change) (other : ¬ u.target.toNat < asciiCount) :
    Mirrors ⟨m.slots, m.beyond.change u⟩ (t.change u) where
  full := mirrors.full
  outside c low := by
    have different : u.target ≠ c := fun same => other (same ▸ low)
    rw [EscapeTable.get_change, if_neg different, mirrors.outside c low]
  agree c := by
    rw [EscapeTable.get_change]
    by_cases low : c.toNat < asciiCount
    · have different : u.target ≠ c := fun same => other (same ▸ low)
      rw [if_neg different, ← mirrors.agree c, get_ascii low, get_ascii low]
      rfl
    · have held : m.beyond.get? c = t.get? c := Except.ok.inj (get_other low ▸ mirrors.agree c)
      rw [get_other low, ← held, EscapeTable.get_change]

theorem mirrors_change (u : Change) :
    ∃ next, m.change u = .ok next ∧ Mirrors next (t.change u) := by
  by_cases ascii : u.target.toNat < asciiCount
  · have inside : u.target.toNat < m.slots.size := mirrors.full ▸ ascii
    refine ⟨_, ?_, mirrors_ascii mirrors u ascii⟩
    simp [change_ascii u ascii, writeSlot, slot_at _ inside, Except.map]
  · exact ⟨_, change_other u ascii, mirrors_other mirrors u ascii⟩

theorem mirrors_run (changes : List Change) :
    ∃ last, m.run changes = .ok last ∧ Mirrors last (t.run changes) := by
  induction changes generalizing m t with
  | nil => exact ⟨m, rfl, mirrors⟩
  | cons u rest ih =>
    obtain ⟨next, changed, kept⟩ := mirrors_change mirrors u
    obtain ⟨last, ran, kept'⟩ := ih kept
    refine ⟨last, ?_, kept'⟩
    rw [run, List.foldlM_cons, changed]
    exact ran

theorem mirrors_eq_iff {other : SlotTable} {u : EscapeTable} (mirrors' : Mirrors other u) :
    m = other ↔ ∀ c, m.get? c = other.get? c := by
  refine ⟨fun same c => same ▸ rfl, fun same => ?_⟩
  have slots : m.slots = other.slots := by
    refine Array.ext (mirrors.full.trans mirrors'.full.symm) ?_
    intro code inside inside'
    have low : code < asciiCount := mirrors.full ▸ inside
    -- Every slot is shown by the look-up of its character.
    have letter := code_of_ascii code low
    have ascii : (Char.ofNat code).toNat < asciiCount := letter.symm ▸ low
    have lookups := same (Char.ofNat code)
    rw [get_ascii ascii, get_ascii ascii, letter, slot_at _ inside, slot_at _ inside'] at lookups
    exact Except.ok.inj lookups
  have beyond : m.beyond = other.beyond := by
    refine EscapeTable.eq_of_same_replacements fun c => ?_
    by_cases ascii : c.toNat < asciiCount
    · rw [mirrors.outside c ascii, mirrors'.outside c ascii]
    · exact Except.ok.inj (get_other ascii ▸ get_other ascii ▸ same c)
  calc m = ⟨m.slots, m.beyond⟩ := rfl
    _ = other := by rw [slots, beyond]

end

theorem mirrors_reach (start : Start) (changes : List Change) :
    ∃ m, reach changes start = .ok m ∧ Mirrors m (start.table.run changes) := by
  cases start with
  | empty => exact mirrors_run mirrors_empty changes
  | standard =>
    obtain ⟨standard, reached, kept⟩ := mirrors_run mirrors_empty standardChanges
    rw [EscapeTable.standard_changes] at kept
    obtain ⟨m, ran, kept'⟩ := mirrors_run kept changes
    refine ⟨m, ?_, kept'⟩
    rw [reach, reached]
    exact ran

/-- Every run of settings and removals ends in a table with all its slots, in which a character has
    what the last change about it left there. Tables with the same replacements are the same. -/
theorem tables_known_by_content (start : Start) (changes : List Change) :
    ∃ m, reach changes start = .ok m ∧ m.slots.size = 128 ∧
      (∀ c, m.get? c = .ok ((lastHeld c changes).getD (start.table.get? c))) ∧
      (∀ c, m.get? c = .ok ((start.table.run changes).get? c)) ∧
      (∀ u, ∃ next, m.change u = .ok next ∧
        ∀ c, next.get? c = if u.target = c then .ok u.held else m.get? c) ∧
      ∀ start' changes', ∃ m', reach changes' start' = .ok m' ∧
        (m = m' ↔ ∀ c, m.get? c = m'.get? c) ∧
        (start.table.run changes = start'.table.run changes' ↔
          ∀ c, (start.table.run changes).get? c = (start'.table.run changes').get? c) := by
  obtain ⟨m, reached, mirrors⟩ := mirrors_reach start changes
  refine ⟨m, reached, mirrors.full, ?_, mirrors.agree, ?_, ?_⟩
  · intro c
    rw [mirrors.agree, EscapeTable.get_run]
  · intro u
    obtain ⟨next, changed, kept⟩ := mirrors_change mirrors u
    refine ⟨next, changed, fun c => ?_⟩
    rw [kept.agree, mirrors.agree, EscapeTable.get_change]
    split <;> rfl
  · intro start' changes'
    obtain ⟨m', reached', mirrors'⟩ := mirrors_reach start' changes'
    exact ⟨m', reached', mirrors_eq_iff mirrors mirrors', fun same c => same ▸ rfl,
      EscapeTable.eq_of_same_replacements⟩

end SlotTable

end LogLayout.Json
