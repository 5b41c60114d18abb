/- Steps that give a result or a refusal: a whole is a result only when its parts are, and one
   refusal among the parts refuses the whole. -/
namespace LogLayout

theorem none_iff_of_some_iff {found : Option α} {p : α → Prop} (some_iff : ∀ a, found = some a ↔ p a) :
    found = none ↔ ∀ a, ¬p a := by
  rw [Option.eq_none_iff_forall_ne_some]
  exact forall_congr' fun a => not_congr (some_iff a)

theorem ok_of_map {f : α → β} {x : Except ε α} {y : β} (done : x.map f = .ok y) :
    ∃ a, x = .ok a ∧ f a = y := by
  cases x with
  | error failure => cases done
  | ok a => exact ⟨a, rfl, Except.ok.inj done⟩

theorem map_error_iff {f : α → β} {x : Except ε α} {failure : ε} :
    x.map f = .error failure ↔ x = .error failure := by
  cases x with
  | error e =>
    constructor
    · rintro ⟨⟩
      rfl
    · rintro ⟨⟩
      rfl
  | ok a =>
    constructor
    · rintro ⟨⟩
    · rintro ⟨⟩

theorem ok_of_bind {x : Except ε α} {f : α → Except ε β} {y : β} (done : x >>= f = .ok y) :
    ∃ a, x = .ok a ∧ f a = .ok y := by
  cases x with
  | error failure => cases done
  | ok a => exact ⟨a, rfl, done⟩

theorem ok_of_map_error {f : ε → ε'} {x : Except ε α} {a : α} (done : x.mapError f = .ok a) :
    x = .ok a := by
  cases x with
  | error failure => cases done
  | ok b =>
    cases done
    rfl

theorem error_of_map_error {f : ε → ε'} {x : Except ε α} {failure : ε'}
    (refused : x.mapError f = .error failure) : ∃ e, x = .error e ∧ f e = failure := by
  cases x with
  | error e => exact ⟨e, rfl, Except.error.inj refused⟩
  | ok a => cases refused

theorem map_error_fails_iff {f : ε → ε'} {x : Except ε α} :
    (∃ failure, x.mapError f = .error failure) ↔ ∃ failure, x = .error failure := by
  constructor
  · rintro ⟨_, refused⟩
    obtain ⟨e, failed, _⟩ := error_of_map_error refused
    exact ⟨e, failed⟩
  · rintro ⟨e, rfl⟩
    exact ⟨f e, rfl⟩

theorem map_error_map (f : ε → ε') (g : α → β) (x : Except ε α) :
    (x.mapError f).map g = (x.map g).mapError f := by
  cases x <;> rfl

theorem map_m_map_error (g : ε → ε') (f : α → Except ε β) (xs : List α) :
    xs.mapM (fun x => (f x).mapError g) = (xs.mapM f).mapError g := by
  induction xs with
  | nil => rfl
  | cons x xs ih =>
    rw [List.mapM_cons, List.mapM_cons, ih]
    cases f x with
    | error failure => rfl
    | ok b => cases xs.mapM f <;> rfl

theorem map_m_ok {f : α → Except ε β} {xs : List α} {ys : List β}
    (each : xs.map f = ys.map .ok) : xs.mapM f = .ok ys := by
  induction xs generalizing ys with
  | nil =>
    cases ys with
    | nil => rfl
    | cons y ys => cases each
  | cons x xs ih =>
    cases ys with
    | nil => cases each
    | cons y ys =>
      obtain ⟨first, others⟩ := List.cons.inj each
      rw [List.mapM_cons, first, ih others]
      rfl

theorem map_m_error {f : α → Except ε β} {xs : List α} {x : α} {failure : ε} (member : x ∈ xs)
    (refused : f x = .error failure) : ∃ failure, xs.mapM f = .error failure := by
  induction xs with
  | nil => cases member
  | cons y xs ih =>
    rw [List.mapM_cons]
    cases first : f y with
    | error failure => exact ⟨failure, rfl⟩
    | ok value =>
      rcases List.mem_cons.mp member with rfl | later
      · rw [refused] at first
        cases first
      · obtain ⟨failure, others⟩ := ih later
        rw [others]
        exact ⟨failure, rfl⟩

theorem map_m_congr {f g : α → Except ε β} {xs : List α} (same : ∀ x ∈ xs, f x = g x) :
    xs.mapM f = xs.mapM g := by
  induction xs with
  | nil => rfl
  | cons x xs ih =>
    rw [List.mapM_cons, List.mapM_cons, same x (List.mem_cons_self ..),
      ih fun y member => same y (List.mem_cons_of_mem _ member)]

theorem results_of_map_m {f : α → Except ε β} {xs : List α} {ys : List β}
    (done : xs.mapM f = .ok ys) : xs.map f = ys.map .ok := by
  induction xs generalizing ys with
  | nil =>
    cases done
    rfl
  | cons x xs ih =>
    rw [List.mapM_cons] at done
    obtain ⟨y, first, rest⟩ := ok_of_bind done
    obtain ⟨others, read, same⟩ := ok_of_bind rest
    cases same
    rw [List.map_cons, List.map_cons, first, ih read]

theorem map_m_cons_error_iff {f : α → Except ε β} {x : α} {xs : List α} {failure : ε} :
    (x :: xs).mapM f = .error failure ↔
      f x = .error failure ∨ (∃ y, f x = .ok y) ∧ xs.mapM f = .error failure := by
  rw [List.mapM_cons]
  cases f x with
  | error e => simp [bind, Except.bind]
  | ok y => cases xs.mapM f <;> simp [bind, Except.bind, pure, Except.pure]

/-- The whole is refused as the first of its parts that is refused. -/
theorem map_m_error_iff {f : α → Except ε β} {xs : List α} {failure : ε} :
    xs.mapM f = .error failure ↔ ∃ before x after, xs = before ++ x :: after ∧
      (∀ y ∈ before, ∃ b, f y = .ok b) ∧ f x = .error failure := by
  induction xs with
  | nil =>
    constructor
    · rintro ⟨⟩
    · rintro ⟨before, x, after, none, _⟩
      cases before <;> cases none
  | cons x xs ih =>
    rw [map_m_cons_error_iff, ih]
    constructor
    · rintro (refused | ⟨first, before, y, after, rfl, passed, refused⟩)
      · exact ⟨[], x, xs, rfl, by simp, refused⟩
      · exact ⟨x :: before, y, after, rfl, List.forall_mem_cons.mpr ⟨first, passed⟩, refused⟩
    · rintro ⟨before, y, after, same, passed, refused⟩
      cases before with
      | nil =>
        cases same
        exact Or.inl refused
      | cons z before =>
        cases same
        obtain ⟨first, others⟩ := List.forall_mem_cons.mp passed
        exact Or.inr ⟨first, before, y, after, rfl, others, refused⟩

def Refuses (kind : ε → Prop) (x : Except ε α) : Prop := ∀ failure, x = .error failure → kind failure

section

variable {kind : ε → Prop}

theorem refuses_ok (a : α) : Refuses kind (.ok a) := by
  intro failure refused
  cases refused

theorem refuses_error {failure : ε} (held : kind failure) :
    Refuses kind (.error failure : Except ε α) := by
  intro other refused
  cases refused
  exact held

theorem refuses_bind {x : Except ε α} {f : α → Except ε β} (first : Refuses kind x)
    (second : ∀ a, Refuses kind (f a)) : Refuses kind (x >>= f) := by
  cases x with
  | error failure => exact refuses_error (first failure rfl)
  | ok a => exact second a

theorem refuses_map {f : α → β} {x : Except ε α} (held : Refuses kind x) :
    Refuses kind (x.map f) := by
  intro failure refused
  exact held failure (map_error_iff.mp refused)

theorem refuses_map_m {f : α → Except ε β} {xs : List α} (each : ∀ x ∈ xs, Refuses kind (f x)) :
    Refuses kind (xs.mapM f) := by
  intro failure refused
  obtain ⟨before, x, after, rfl, _, failed⟩ := map_m_error_iff.mp refused
  exact each x (by simp) failure failed

theorem refuses_weaken {other : ε → Prop} {x : Except ε α} (held : Refuses kind x)
    (weaker : ∀ failure, kind failure → other failure) : Refuses other x := by
  intro failure refused
  exact weaker failure (held failure refused)

end

end LogLayout
