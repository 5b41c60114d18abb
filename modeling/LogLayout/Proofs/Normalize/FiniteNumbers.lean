import LogLayout.Proofs.Json.RoundTrip
import LogLayout.Proofs.Normalize.Parts

/- Every number in a normalised value is finite, at any depth, with or without flattening. So what
   a normaliser gives can always be written as JSON and read back. -/
namespace LogLayout

namespace Json

theorem finite_entries_iff (entries : List (String × Json)) :
    finiteEntries entries = true ↔ ∀ entry ∈ entries, entry.2.finite = true := by
  induction entries with
  | nil => simp [finiteEntries]
  | cons entry rest ih => simp only [finiteEntries, Bool.and_eq_true, ih, List.forall_mem_cons]

theorem finite_items_iff (items : List Json) :
    finiteItems items = true ↔ ∀ item ∈ items, item.finite = true := by
  induction items with
  | nil => simp [finiteItems]
  | cons item rest ih => simp only [finiteItems, Bool.and_eq_true, ih, List.forall_mem_cons]

theorem finite_part (value : Json) (finite : value.finite = true) :
    ∀ part ∈ value.parts, part.finite = true := by
  cases value with
  | array items => exact (finite_items_iff items).mp finite
  | object entries => exact List.forall_mem_map.mpr ((finite_entries_iff entries).mp finite)
  | null | text | int | float | bool => simp [parts]

theorem insert_finite (key : String) (value : Json) (finite : value.finite = true)
    (out : List (String × Json)) (held : finiteEntries out = true) :
    finiteEntries (Keyed.insert key value out) = true := by
  rw [finite_entries_iff] at held ⊢
  exact Keyed.values_insert (fun v => v.finite = true) key value out held finite

theorem insert_all_finite (into entries : List (String × Json)) (held : finiteEntries into = true)
    (finite : finiteEntries entries = true) :
    finiteEntries (Keyed.insertAll into entries) = true := by
  rw [finite_entries_iff] at held finite ⊢
  exact Keyed.values_insert_all (fun v => v.finite = true) into entries held finite

theorem flatten_entries_finite (path : String) (out entries : List (String × Json))
    (held : finiteEntries out = true) (finite : finiteEntries entries = true) :
    finiteEntries (flattenEntries path out entries) = true := by
  rw [finite_entries_iff] at held finite ⊢
  exact flattened_values (fun v => v.finite = true) path out entries finite_part held finite

theorem flatten_into_finite (path : String) (out : List (String × Json)) (value : Json)
    (held : finiteEntries out = true) (finite : value.finite = true) :
    finiteEntries (value.flattenInto path out) = true := by
  cases value with
  | object entries => exact flatten_entries_finite path out entries held finite
  | null => exact held
  | text | int | float | bool | array => exact insert_finite path _ finite out held

theorem of_float_finite (x : Number.Binary64) : (ofFloat x).finite = true := by
  unfold ofFloat
  split
  · rename_i finite
    exact finite
  · rfl

end Json

namespace Normalizer

open Json

theorem float_of_level (n : Normalizer) (below : Datum → Except NormalizeError Json) (d : Datum)
    (x : Number.Binary64) (done : n.level below d = .ok (.float x)) : x.isFinite = true := by
  have kept (y : Number.Binary64) (same : ofFloat y = .float x) : x.isFinite = true := by
    have finite := of_float_finite y
    rwa [same] at finite
  cases d with
  | span d => exact kept _ (Except.ok.inj done)
  | float y => exact kept y (Except.ok.inj done)
  | map | seq | object =>
    obtain ⟨_, _, same⟩ := ok_of_map done
    cases same
  | null | enclosing | text | symbol | uri | shown | moment | char | chars | byte | bytes | int
  | uint | bool | uuid | stack | unshowable => cases done

theorem level_finite {below : Datum → Except NormalizeError Json}
    (finite : ∀ d value, below d = .ok value → value.finite = true) (n : Normalizer) (d : Datum)
    (value : Json) (done : n.level below d = .ok value) : value.finite = true := by
  have inside := parts_of_level finite (fun _ => rfl) n d value done
  cases value with
  | array items => exact (finite_items_iff items).mpr inside
  | object entries => exact (finite_entries_iff entries).mpr (List.forall_mem_map.mp inside)
  | float x => exact n.float_of_level below d x done
  | null | text | int | bool => rfl

theorem levels_finite (n : Normalizer) (allowed : Nat) (d : Datum) (value : Json)
    (done : n.levels allowed d = .ok value) : value.finite = true := by
  induction allowed generalizing d value with
  | zero => cases done
  | succ allowed ih => exact level_finite ih n d value done

theorem store_finite (n : Normalizer) (key : String) (out : List (String × Json)) (value : Json)
    (held : finiteEntries out = true) (finite : value.finite = true) :
    finiteEntries (n.store key out value) = true := by
  unfold store
  split
  · exact flatten_into_finite key out value held finite
  · split
    · split
      · exact insert_all_finite out _ held finite
      · exact insert_finite key _ finite out held
    · exact insert_finite key _ finite out held

theorem normalize_into_finite (n : Normalizer) (key : String) (d : Datum)
    (out stored : List (String × Json)) (held : finiteEntries out = true)
    (done : n.normalizeInto key d out = .ok stored) : finiteEntries stored = true := by
  obtain ⟨value, inner, rfl⟩ := ok_of_map done
  exact store_finite n key out value held (levels_finite n _ d value inner)

/-- Whatever goes in, only finite numbers come out. -/
theorem normalize_finite (n : Normalizer) (d : Datum) (value : Json)
    (done : n.normalize d = .ok value) : value.finite = true := by
  obtain ⟨whole, inner, rfl⟩ := ok_of_map done
  have finite := levels_finite n _ d whole inner
  split
  · exact flatten_entries_finite "" [] _ rfl finite
  · exact finite

end Normalizer

end LogLayout
