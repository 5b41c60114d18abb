import LogLayout.Normalize
import LogLayout.Proofs.Outcome

/- What one more level of depth changes: nothing, unless the depth was exceeded. And what becomes of
   entries that are normalised in several portions: they may be spliced in before or after. -/
namespace LogLayout.Normalizer

def TooDeep (r : Except NormalizeError α) : Prop := ∃ limit, r = .error (.tooDeep limit)

theorem too_deep_bind {x : Except NormalizeError α} {f : α → Except NormalizeError β}
    (deep : TooDeep x) : TooDeep (x >>= f) := by
  obtain ⟨limit, rfl⟩ := deep
  exact ⟨limit, rfl⟩

theorem too_deep_map {x : Except NormalizeError α} {f : α → β} :
    TooDeep (x.map f) ↔ TooDeep x := by
  cases x with
  | error failure => simp [TooDeep, Except.map]
  | ok a => simp [TooDeep, Except.map]

section

variable {below deeper : Datum → Except NormalizeError Json}
  (agree : ∀ d, ¬ TooDeep (below d) → deeper d = below d)
include agree

theorem entries_with_agree (start : List (String × Json)) (entries : List (String × Datum))
    (within : ¬ TooDeep (entriesWith below start entries)) :
    entriesWith deeper start entries = entriesWith below start entries := by
  unfold entriesWith at within ⊢
  induction entries generalizing start with
  | nil => rfl
  | cons entry rest ih =>
    rw [List.foldlM_cons] at within
    rw [List.foldlM_cons, List.foldlM_cons]
    have first : deeper entry.2 = below entry.2 := by
      apply agree
      intro deep
      exact within (too_deep_bind (too_deep_bind deep))
    rw [first]
    cases read : below entry.2 with
    | error failure => rfl
    | ok value =>
      rw [read] at within
      exact ih _ within

theorem items_agree (items : List Datum) (within : ¬ TooDeep (items.mapM below)) :
    items.mapM deeper = items.mapM below := by
  induction items with
  | nil => rfl
  | cons d rest ih =>
    rw [List.mapM_cons] at within
    rw [List.mapM_cons, List.mapM_cons]
    have first : deeper d = below d := by
      apply agree
      intro deep
      exact within (too_deep_bind deep)
    rw [first]
    cases read : below d with
    | error failure => rfl
    | ok value =>
      rw [read] at within
      have others : ¬ TooDeep (rest.mapM below) := by
        intro deep
        exact within (too_deep_bind (f := fun values => pure (value :: values)) deep)
      change (rest.mapM deeper >>= fun values => pure (value :: values)) =
        (rest.mapM below >>= fun values => pure (value :: values))
      rw [ih others]

theorem level_agree (n : Normalizer) (d : Datum) (within : ¬ TooDeep (n.level below d)) :
    n.level deeper d = n.level below d := by
  cases d with
  | map entries =>
    simp only [level, too_deep_map] at within ⊢
    rw [entries_with_agree agree [] entries within]
  | seq items =>
    simp only [level, too_deep_map] at within ⊢
    rw [items_agree agree items within]
  | object kind form fields =>
    simp only [level, too_deep_map] at within ⊢
    rw [entries_with_agree agree _ _ within]
  | null | enclosing | text | symbol | uri | shown | moment | span | char | chars | byte | bytes
  | int | uint | float | bool | uuid | stack | unshowable => rfl

end

theorem levels_succ (n : Normalizer) (allowed : Nat) (d : Datum)
    (within : ¬ TooDeep (n.levels allowed d)) : n.levels (allowed + 1) d = n.levels allowed d := by
  induction allowed generalizing d with
  | zero => exact absurd ⟨n.maxDepth, rfl⟩ within
  | succ allowed ih => exact level_agree ih n d within

theorem entries_with_append (below : Datum → Except NormalizeError Json)
    (start : List (String × Json)) (xs ys : List (String × Datum)) :
    entriesWith below start (xs ++ ys) =
      entriesWith below start xs >>= fun out => entriesWith below out ys := List.foldlM_append ..

theorem entries_with_apart (below : Datum → Except NormalizeError Json)
    (out held : List (String × Json)) (entries : List (String × Datum))
    (distinct : (Keyed.keys held).Nodup) :
    entriesWith below (Keyed.insertAll out held) entries =
      (entriesWith below held entries).map (Keyed.insertAll out) := by
  unfold entriesWith
  induction entries generalizing held with
  | nil => rfl
  | cons entry rest ih =>
    rw [List.foldlM_cons, List.foldlM_cons]
    cases below entry.2 with
    | error failure => rfl
    | ok value =>
      have joined := Keyed.insert_all_insert entry.1 value out held distinct
      have next := ih _ (Keyed.keys_nodup_insert entry.1 value held distinct)
      rw [joined] at next
      exact next

theorem normalize_structured (n : Normalizer) (structured : n.flatten = false) (d : Datum) :
    n.normalize d = n.nested d := by
  unfold normalize
  rw [structured]
  cases n.nested d <;> rfl

theorem object_of_level (n : Normalizer) (below : Datum → Except NormalizeError Json) (d : Datum)
    (entries : List (String × Json)) (done : n.level below d = .ok (.object entries)) :
    (∃ held, d = .map held) ∨ ∃ kind form fields, d = .object kind form fields := by
  cases d with
  | map held => exact Or.inl ⟨held, rfl⟩
  | object kind form fields => exact Or.inr ⟨kind, form, fields, rfl⟩
  | seq items =>
    obtain ⟨values, _, same⟩ := ok_of_map done
    cases same
  | span d =>
    simp only [level, Json.ofFloat] at done
    split at done <;> cases done
  | float x =>
    simp only [level, Json.ofFloat] at done
    split at done <;> cases done
  | null | enclosing | text | symbol | uri | shown | moment | char | chars | byte | bytes | int
  | uint | bool | uuid | stack | unshowable => cases done

theorem object_of_nested (n : Normalizer) (d : Datum) (entries : List (String × Json))
    (done : n.nested d = .ok (.object entries)) :
    (∃ held, d = .map held) ∨ ∃ kind form fields, d = .object kind form fields :=
  n.object_of_level (n.levels n.maxDepth) d entries done

end LogLayout.Normalizer
