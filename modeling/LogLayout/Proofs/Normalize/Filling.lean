import LogLayout.Normalize.Filling
import LogLayout.Proofs.Normalize.Depth
import LogLayout.Proofs.Normalize.Levels

/- Filling a mapping step by step. A step either leaves the mapping as it was or writes all that it
   has to write, whatever it is that is spliced in or flattened. Which steps fail depends on their
   values alone; so those that fail may be left out, and without them the mapping is the one that
   all the steps together become as one value. -/
namespace LogLayout

namespace Filling

variable {out : List (String × Json)}

theorem on_bind (w : Filling α) (f : α → Filling β) :
    (w >>= f).on out =
      match w.on out with
      | (.ok a, next) => (f a).on next
      | (.error failure, next) => (.error failure, next) := by
  unfold on
  rw [ExceptT.run_bind, StateT.run_bind]
  generalize w.run.run out = ended
  obtain ⟨_ | a, next⟩ := ended <;> rfl

theorem on_of_except (x : Except NormalizeError α) :
    (MonadExcept.ofExcept x : Filling α).on out = (x, out) := by
  cases x <;> rfl

theorem on_put (key : String) (value : Json) :
    (put key value).on out = (.ok (), Keyed.insert key value out) := rfl

theorem on_splice (entries : List (String × Json)) :
    (entries.forM fun entry => put entry.1 entry.2 : Filling Unit).on out =
      (.ok (), Keyed.insertAll out entries) := by
  induction entries generalizing out with
  | nil => rfl
  | cons entry rest ih => exact (on_bind _ _).trans ih

end Filling

open Filling

mutual
theorem on_fill (path : String) (out : List (String × Json)) :
    (value : Json) → (value.fill path).on out = (.ok (), value.flattenInto path out)
  | .object entries => by
    rw [Json.fill, Json.flattenInto]
    exact on_fill_entries path out entries
  | .null => by
    rw [Json.fill, Json.flattenInto]
    rfl
  | .text _ | .int _ | .float _ | .bool _ | .array _ => by
    rw [Json.fill, Json.flattenInto, on_put]

theorem on_fill_entries (path : String) (out : List (String × Json)) :
    (entries : List (String × Json)) →
      (Json.fillEntries path entries).on out = (.ok (), Json.flattenEntries path out entries)
  | [] => by
    rw [Json.fillEntries, Json.flattenEntries]
    rfl
  | (key, value) :: rest => by
    rw [Json.fillEntries, Json.flattenEntries, on_bind, on_fill]
    exact on_fill_entries path _ rest
end

namespace Normalizer

theorem fill_all_or_nothing (n : Normalizer) (key : String) (d : Datum)
    (out : List (String × Json)) :
    (n.fill key d).on out =
      match n.normalizeInto key d out with
      | .ok next => (.ok (), next)
      | .error failure => (.error failure, out) := by
  rw [fill, on_bind, on_of_except, normalizeInto]
  cases n.nested d with
  | error failure => rfl
  | ok value =>
    simp only [Except.map, store]
    split
    · exact on_fill key out value
    · cases value with
      | object entries =>
        simp only
        split
        · exact on_splice entries
        · rfl
      | null | text | int | float | bool | array => rfl

section

variable {n : Normalizer}

theorem fill_ok {key : String} {d : Datum} {value : Json} (done : n.nested d = .ok value)
    (out : List (String × Json)) : (n.fill key d).on out = (.ok (), n.store key out value) := by
  rw [fill_all_or_nothing, normalizeInto, done]
  rfl

theorem fill_error {key : String} {d : Datum} {failure : NormalizeError}
    (refused : n.nested d = .error failure) (out : List (String × Json)) :
    (n.fill key d).on out = (.error failure, out) := by
  rw [fill_all_or_nothing, normalizeInto, refused]
  rfl

theorem answers_known (out : List (String × Json)) (steps : List (String × Datum)) :
    (n.fillAll out steps).1 = steps.map fun step => (n.nested step.2).map fun _ => () := by
  induction steps generalizing out with
  | nil => rfl
  | cons step rest ih =>
    obtain ⟨key, d⟩ := step
    rw [fillAll, List.map_cons]
    cases read : n.nested d with
    | error failure =>
      rw [fill_error read]
      exact congrArg _ (ih out)
    | ok value =>
      rw [fill_ok read]
      exact congrArg _ (ih _)

def passing (n : Normalizer) (out : List (String × Json)) (steps : List (String × Datum)) :
    List (String × Datum) :=
  ((steps.zip (n.fillAll out steps).1).filter fun step => step.2.isOk).map Prod.fst

theorem fill_passing (out : List (String × Json)) (steps : List (String × Datum)) :
    n.fillAll out (n.passing out steps) =
      ((n.passing out steps).map fun _ => .ok (), (n.fillAll out steps).2) := by
  induction steps generalizing out with
  | nil => rfl
  | cons step rest ih =>
    obtain ⟨key, d⟩ := step
    cases read : n.nested d with
    | error failure =>
      have all : n.fillAll out ((key, d) :: rest) =
          (.error failure :: (n.fillAll out rest).1, (n.fillAll out rest).2) := by
        rw [fillAll, fill_error read]
      have others : n.passing out ((key, d) :: rest) = n.passing out rest := by
        rw [passing, all]
        rfl
      rw [others, all]
      exact ih out
    | ok value =>
      have all : n.fillAll out ((key, d) :: rest) =
          (.ok () :: (n.fillAll (n.store key out value) rest).1,
            (n.fillAll (n.store key out value) rest).2) := by
        rw [fillAll, fill_ok read]
      have kept : n.passing out ((key, d) :: rest) =
          (key, d) :: n.passing (n.store key out value) rest := by
        rw [passing, all]
        rfl
      rw [kept, all, fillAll, fill_ok read]
      simp only [ih, List.map_cons]

end

end Normalizer

def NormalizeError.withLimit (limit : Nat) : NormalizeError → NormalizeError
  | .tooDeep _ => .tooDeep limit
  | .unshowable description => .unshowable description

namespace Normalizer

theorem entries_with_map_error {below : Datum → Except NormalizeError Json}
    (g : NormalizeError → NormalizeError) (start : List (String × Json))
    (entries : List (String × Datum)) :
    entriesWith (fun d => (below d).mapError g) start entries =
      (entriesWith below start entries).mapError g := by
  unfold entriesWith
  induction entries generalizing start with
  | nil => rfl
  | cons entry rest ih =>
    rw [List.foldlM_cons, List.foldlM_cons]
    dsimp only
    cases below entry.2 with
    | error failure => rfl
    | ok value => exact ih _

/-- Another limit is told in the errors; the levels that are allowed are counted apart. -/
theorem levels_with_limit (n : Normalizer) (limit allowed : Nat) (d : Datum) :
    levels { n with maxDepth := limit } allowed d =
      (n.levels allowed d).mapError (.withLimit limit) := by
  induction allowed generalizing d with
  | zero => rfl
  | succ allowed ih =>
    have below : levels { n with maxDepth := limit } allowed =
        fun part => (n.levels allowed part).mapError (.withLimit limit) := funext ih
    rw [levels, levels, below]
    cases d with
    | map entries => simp only [level, entries_with_map_error, map_error_map]
    | seq items => simp only [level, map_m_map_error, map_error_map]
    | object kind form fields =>
      simp only [level, entries_with_map_error]
      exact map_error_map _ _ _
    | null | enclosing | text | symbol | uri | shown | moment | span | char | chars | byte | bytes
    | int | uint | float | bool | uuid | stack | unshowable => rfl

section

variable {n : Normalizer} (structured : n.flatten = false)
include structured

theorem batch_of_entries (steps : List (String × Datum)) :
    normalize { n with maxDepth := n.maxDepth + 1 } (.map steps) =
      ((entriesWith n.nested [] steps).map .object).mapError (.withLimit (n.maxDepth + 1)) := by
  have below : levels { n with maxDepth := n.maxDepth + 1 } (n.maxDepth + 1) =
      fun d => (n.nested d).mapError (.withLimit (n.maxDepth + 1)) :=
    funext (n.levels_with_limit (n.maxDepth + 1) (n.maxDepth + 1))
  rw [normalize_structured { n with maxDepth := n.maxDepth + 1 } structured, nested, levels, below]
  simp only [level, entries_with_map_error, map_error_map]

theorem entries_of_fill (out : List (String × Json)) (steps : List (String × Datum))
    (named : ∀ step ∈ steps, step.1 ≠ "")
    (passed : ∀ failure, .error failure ∉ (n.fillAll out steps).1) :
    entriesWith n.nested out steps = .ok (n.fillAll out steps).2 := by
  induction steps generalizing out with
  | nil => rfl
  | cons step rest ih =>
    obtain ⟨key, d⟩ := step
    obtain ⟨name, others⟩ := List.forall_mem_cons.mp named
    unfold entriesWith
    rw [List.foldlM_cons]
    rw [fillAll] at passed ⊢
    cases read : n.nested d with
    | error failure =>
      rw [fill_error read] at passed
      exact absurd (List.mem_cons_self ..) (passed failure)
    | ok value =>
      have stored : n.store key out value = Keyed.insert key value out := by
        cases value <;> simp [store, structured, name]
      rw [fill_ok read, stored] at passed ⊢
      exact ih _ others fun failure later => passed failure (List.mem_cons_of_mem _ later)

end

theorem failing_step_iff (n : Normalizer) (out : List (String × Json))
    (steps : List (String × Datum)) :
    (∃ failure, .error failure ∈ (n.fillAll out steps).1) ↔
      ∃ failure, entriesWith n.nested out steps = .error failure := by
  simp only [entries_with_error_iff]
  rw [answers_known]
  constructor
  · rintro ⟨failure, member⟩
    obtain ⟨step, held, refused⟩ := List.mem_map.mp member
    exact map_m_error (List.mem_map_of_mem held) (map_error_iff.mp refused)
  · rintro ⟨failure, refused⟩
    obtain ⟨front, d, back, split, _, failed⟩ := map_m_error_iff.mp refused
    have held : d ∈ steps.map Prod.snd := by simp [split]
    obtain ⟨step, member, rfl⟩ := List.mem_map.mp held
    exact ⟨failure, List.mem_map.mpr ⟨step, member, map_error_iff.mpr failed⟩⟩

/-- Every step leaves the mapping as it was or writes all it has to write, so the steps that fail
    may as well not be there. And when objects are not flattened, and none is spliced in, the steps
    fill a mapping as the mapping of all their values is normalised that may be one level deeper. -/
theorem filling_atomic_and_streaming (n : Normalizer) :
    (∀ key d out, (n.fill key d).on out =
      match n.normalizeInto key d out with
      | .ok next => (.ok (), next)
      | .error failure => (.error failure, out)) ∧
    (∀ out steps, n.fillAll out (n.passing out steps) =
      ((n.passing out steps).map fun _ => .ok (), (n.fillAll out steps).2)) ∧
    (n.flatten = false → ∀ steps : List (String × Datum), (∀ step ∈ steps, step.1 ≠ "") →
      ((∃ failure, .error failure ∈ (n.fillAll [] steps).1) ↔
        ∃ failure, normalize { n with maxDepth := n.maxDepth + 1 } (.map steps) = .error failure) ∧
      ((∀ failure, .error failure ∉ (n.fillAll [] steps).1) →
        normalize { n with maxDepth := n.maxDepth + 1 } (.map steps) =
          .ok (.object (n.fillAll [] steps).2))) := by
  refine ⟨n.fill_all_or_nothing, fill_passing, ?_⟩
  intro structured steps named
  rw [batch_of_entries structured]
  constructor
  · simp only [failing_step_iff, map_error_fails_iff, map_error_iff]
  · intro passed
    rw [entries_of_fill structured [] steps named passed]
    rfl

def mixedSteps : List (String × Datum) :=
  [("a", .int 1), ("b", .seq [.int 2]), ("c", .int 3), ("d", .unshowable "D"), ("a", .int 4)]

theorem mixed_steps_stream :
    ({ maxDepth := 0 } : Normalizer).fillAll [] mixedSteps =
      ([.ok (), .error (.tooDeep 0), .ok (), .error (.unshowable "D"), .ok ()],
        [("a", .int 4), ("c", .int 3)]) ∧
      (∃ failure, ({ maxDepth := 1 } : Normalizer).normalize (.map mixedSteps) =
        .error failure) ∧
      ({ maxDepth := 1 } : Normalizer).normalize
        (.map (({ maxDepth := 0 } : Normalizer).passing [] mixedSteps)) =
          .ok (.object [("a", .int 4), ("c", .int 3)]) := by
  obtain ⟨_, passing, streams⟩ := filling_atomic_and_streaming { maxDepth := 0 }
  have named : ∀ step ∈ mixedSteps, step.1 ≠ "" := by decide
  refine ⟨rfl, ?_, ?_⟩
  · have second : .error (.tooDeep 0) ∈ (fillAll { maxDepth := 0 } [] mixedSteps).1 :=
      List.mem_cons_of_mem _ (List.mem_cons_self ..)
    exact (streams rfl mixedSteps named).1.mp ⟨.tooDeep 0, second⟩
  · have kept : ∀ step ∈ ({ maxDepth := 0 } : Normalizer).passing [] mixedSteps, step.1 ≠ "" := by
      decide
    have filled := (streams rfl _ kept).2
    rw [passing [] mixedSteps] at filled
    exact filled (by simp)

end Normalizer

end LogLayout
