import Mathlib.Data.List.Sort
import Mathlib.Data.String.Basic
import LogLayout.Keyed

/- Mappings whose keys stand in ascending order. Nothing of the order in which their entries came is
   left in them, and they differ only if a look-up does. -/
namespace LogLayout.Keyed

variable {α : Type}

section

variable {entries : List (String × α)}

theorem ascending_keys_nodup (ascending : Ascending entries) : (keys entries).Nodup :=
  List.pairwise_map.mpr (ascending.imp ne_of_lt)

theorem mem_iff_get (distinct : (keys entries).Nodup) (key : String) (value : α) :
    (key, value) ∈ entries ↔ get? key entries = some value := by
  induction entries with
  | nil => simp [get?]
  | cons entry rest ih =>
    obtain ⟨held, v⟩ := entry
    obtain ⟨single, others⟩ := List.nodup_cons.mp distinct
    by_cases same : held = key
    · subst same
      have gone : (held, value) ∉ rest := by
        intro member
        exact single (List.mem_map.mpr ⟨_, member, rfl⟩)
      simp [get?, gone, eq_comm]
    · have other : key ≠ held := fun eq => same eq.symm
      simp [get?, same, other, ih others]

theorem eq_of_same_lookups {other : List (String × α)} (ascending : Ascending entries)
    (otherAscending : Ascending other) (same : ∀ key, get? key entries = get? key other) :
    entries = other := by
  have irreflexive : Std.Irrefl fun a b : String × α => a.1 < b.1 := ⟨fun a => lt_irrefl a.1⟩
  have antisymmetric : Std.Antisymm fun a b : String × α => a.1 < b.1 :=
    ⟨fun _ _ before behind => absurd before behind.not_gt⟩
  refine List.Pairwise.eq_of_mem_iff ascending otherAscending ?_
  rintro ⟨key, value⟩
  rw [mem_iff_get (ascending_keys_nodup ascending),
    mem_iff_get (ascending_keys_nodup otherAscending), same]

end

end LogLayout.Keyed
