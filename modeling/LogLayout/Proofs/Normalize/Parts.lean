import LogLayout.Proofs.Normalize.Flattening
import LogLayout.Proofs.Outcome

/- What one level of normalising gives is made of what the levels below give, and of the texts that
   are injected; flattening takes it apart again. So what holds of the parts is carried on. -/
namespace LogLayout

namespace Json

def parts : Json → List Json
  | .array items => items
  | .object entries => entries.map Prod.snd
  | _ => []

theorem parts_of_float (x : Number.Binary64) : (ofFloat x).parts = [] := by
  unfold ofFloat
  split <;> rfl

section

variable (kind : Json → Prop)

mutual
theorem leaves_inherit (inherited : ∀ value, kind value → ∀ part ∈ value.parts, kind part)
    (value : Json) (held : kind value) : ∀ leaf ∈ value.leaves, kind leaf.2 := by
  match value with
  | .object entries =>
    have each := List.forall_mem_map.mp (inherited _ held)
    exact all_leaves_inherit inherited entries each
  | .null => simp [leaves]
  | .text _ | .int _ | .float _ | .bool _ | .array _ =>
    intro leaf among
    obtain rfl := List.mem_singleton.mp among
    exact held

theorem all_leaves_inherit (inherited : ∀ value, kind value → ∀ part ∈ value.parts, kind part)
    (entries : List (String × Json)) (each : ∀ entry ∈ entries, kind entry.2) :
    ∀ leaf ∈ leavesOfAll entries, kind leaf.2 := by
  match entries with
  | [] => simp [leavesOfAll]
  | (key, value) :: rest =>
    obtain ⟨first, others⟩ := List.forall_mem_cons.mp each
    intro leaf among
    rcases List.mem_append.mp among with within | behind
    · obtain ⟨inner, member, rfl⟩ := List.mem_map.mp within
      exact leaves_inherit inherited value first inner member
    · exact all_leaves_inherit inherited rest others leaf behind
end

theorem flattened_values (path : String) (out entries : List (String × Json))
    (inherited : ∀ value, kind value → ∀ part ∈ value.parts, kind part)
    (held : ∀ entry ∈ out, kind entry.2) (each : ∀ entry ∈ entries, kind entry.2) :
    ∀ entry ∈ flattenEntries path out entries, kind entry.2 := by
  rw [flatten_entries_leaves]
  refine Keyed.values_insert_all kind out _ held ?_
  refine List.forall_mem_map.mpr ?_
  exact all_leaves_inherit kind inherited entries each

end

end Json

namespace Normalizer

def EachGives (f : Datum → Except NormalizeError Json) (entries : List (String × Datum))
    (values : List (String × Json)) : Prop :=
  (entries.map fun entry => (entry.1, f entry.2)) = values.map fun entry => (entry.1, .ok entry.2)

section

variable {f : Datum → Except NormalizeError Json} {entries : List (String × Datum)}
  {values : List (String × Json)}

theorem each_gives_append {more : List (String × Datum)} {others : List (String × Json)}
    (each : EachGives f entries values) (behind : EachGives f more others) :
    EachGives f (entries ++ more) (values ++ others) := by
  unfold EachGives at each behind ⊢
  rw [List.map_append, List.map_append, each, behind]

theorem each_gives_of_entries_with (start out : List (String × Json))
    (done : entriesWith f start entries = .ok out) :
    ∃ values, EachGives f entries values ∧ out = Keyed.insertAll start values := by
  unfold entriesWith at done
  induction entries generalizing start with
  | nil =>
    cases done
    exact ⟨[], rfl, rfl⟩
  | cons entry rest ih =>
    rw [List.foldlM_cons] at done
    obtain ⟨next, stored, others⟩ := ok_of_bind done
    obtain ⟨value, first, same⟩ := ok_of_bind stored
    cases same
    obtain ⟨values, each, rfl⟩ := ih _ others
    refine ⟨(entry.1, value) :: values, ?_, rfl⟩
    have front : EachGives f [entry] [(entry.1, value)] := by simp [EachGives, first]
    exact each_gives_append front each

end

section

variable {below : Datum → Except NormalizeError Json} {kind : Json → Prop}
  (each : ∀ d value, below d = .ok value → kind value)
include each

theorem entries_with_values (start : List (String × Json)) (entries : List (String × Datum))
    (held : ∀ entry ∈ start, kind entry.2) (out : List (String × Json))
    (done : entriesWith below start entries = .ok out) : ∀ entry ∈ out, kind entry.2 := by
  obtain ⟨values, gives, rfl⟩ := each_gives_of_entries_with start out done
  refine Keyed.values_insert_all kind start values held ?_
  intro entry member
  have among : (entry.1, Except.ok entry.2) ∈ entries.map fun entry => (entry.1, below entry.2) := by
    rw [gives]
    exact List.mem_map_of_mem member
  obtain ⟨source, _, same⟩ := List.mem_map.mp among
  exact each source.2 entry.2 (Prod.mk.inj same).2

theorem items_values (items : List Datum) (values : List Json)
    (done : items.mapM below = .ok values) : ∀ value ∈ values, kind value := by
  intro value held
  have results := results_of_map_m done
  have among : Except.ok value ∈ items.map below := by
    rw [results]
    exact List.mem_map_of_mem held
  obtain ⟨d, _, read⟩ := List.mem_map.mp among
  exact each d value read

theorem parts_of_level (text : ∀ s, kind (.text s)) (n : Normalizer) (d : Datum) (value : Json)
    (done : n.level below d = .ok value) : ∀ part ∈ value.parts, kind part := by
  cases d with
  | map entries =>
    obtain ⟨out, inner, rfl⟩ := ok_of_map done
    exact List.forall_mem_map.mpr (entries_with_values each [] entries (by simp) out inner)
  | seq items =>
    obtain ⟨values, inner, rfl⟩ := ok_of_map done
    exact items_values each items values inner
  | object name form fields =>
    obtain ⟨out, inner, rfl⟩ := ok_of_map done
    have typed : ∀ entry ∈ n.injectType name, kind entry.2 := by
      unfold injectType
      split
      · simpa using text name
      · simp
    have held := entries_with_values each _ _ typed out inner
    refine List.forall_mem_map.mpr ?_
    unfold injectText
    split
    · exact Keyed.values_insert kind _ _ out held (text form)
    · exact held
  | span d =>
    cases done
    simp [Json.parts_of_float]
  | float x =>
    cases done
    simp [Json.parts_of_float]
  | unshowable description => cases done
  | null | enclosing | text | symbol | uri | shown | moment | char | chars | byte | bytes | int
  | uint | bool | uuid | stack =>
    cases done
    simp [Json.parts]

end

end Normalizer

end LogLayout
