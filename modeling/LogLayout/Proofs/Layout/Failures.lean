import LogLayout.Proofs.Layout.Watching

/- Which slots fail at an event, and when they report it. A slot fails if it is read and its getter
   is in error; it is read unless the work on the event has stopped before it, at a value without a
   text or, between the slots of the layout, at a value that cannot be normalised. Over a run each
   slot reports its first failure and nothing else. -/
namespace LogLayout

inductive Slot.Ends (e : Event) : Slot → Prop
  | getter {name : String} {get : Getter} (ended : get e = .error .abort) :
      Ends e (.getter name get)
  | group {name : String} {slots : List Slot} {slot : Slot} (held : slot ∈ slots)
      (ended : Ends e slot) : Ends e (.group name slots)
  | nested {name : String} {inner : Slot} (ended : Ends e inner) : Ends e (.nested name inner)

/-- When the slot is read, the one reached by the path is read as well, and in error. -/
inductive Slot.Fails (e : Event) : Slot → List Nat → String → ConversionError → Prop
  | getter {name : String} {get : Getter} {error : ConversionError}
      (failed : get e = .error (.conversion error)) : Fails e (.getter name get) [] name error
  | group {name member : String} {slots : List Slot} {k : Nat} {slot : Slot} {path : List Nat}
      {error : ConversionError} (held : slots[k]? = some slot)
      (reached : ∀ earlier ∈ slots.take k, ¬ earlier.Ends e)
      (failed : Fails e slot path member error) :
      Fails e (.group name slots) (k :: path) member error
  | nested {name member : String} {inner : Slot} {path : List Nat} {error : ConversionError}
      (failed : Fails e inner path member error) : Fails e (.nested name inner) path member error

def FailsAmong (e : Event) (Passes : Slot → Prop) (slots : List Slot) :
    List Nat → String → ConversionError → Prop
  | [], _, _ => False
  | k :: path, member, error =>
    ∃ slot, slots[k]? = some slot ∧ (∀ earlier ∈ slots.take k, Passes earlier) ∧
      slot.Fails e path member error

def Normalizer.Takes (n : Normalizer) (e : Event) (slot : Slot) : Prop :=
  ∀ value, slot.value e = some value → ∃ json, n.nested value = .ok json

/-- When the layout formats the event, the slot reached by the path is read, and in error. -/
def Layout.Fails (l : Layout) (e : Event) : List Nat → String → ConversionError → Prop :=
  FailsAmong e (fun slot => ¬ slot.Ends e ∧ l.normalizer.Takes e slot) l.slots

theorem no_slot_fails (e : Event) (Passes : Slot → Prop) (path : List Nat) (member : String)
    (error : ConversionError) : ¬ FailsAmong e Passes [] path member error := by
  cases path with
  | nil => exact id
  | cons k path =>
    rintro ⟨slot, held, _⟩
    simp at held

theorem fails_among_cons {e : Event} {Passes : Slot → Prop} {slot : Slot} {rest : List Slot}
    {path : List Nat} {member : String} {error : ConversionError} :
    FailsAmong e Passes (slot :: rest) path member error ↔
      (∃ tail, path = 0 :: tail ∧ slot.Fails e tail member error) ∨
        ∃ k tail, path = (k + 1) :: tail ∧ Passes slot ∧
          FailsAmong e Passes rest (k :: tail) member error := by
  rcases path with _ | ⟨_ | k, tail⟩
  · simp [FailsAmong]
  · simp [FailsAmong]
  · simp only [FailsAmong, List.getElem?_cons_succ, List.take_succ_cons, List.forall_mem_cons,
      List.cons.injEq, Nat.succ_ne_zero, false_and, exists_false, false_or,
      Nat.add_right_cancel_iff]
    constructor
    · rintro ⟨found, held, ⟨passed, reached⟩, failed⟩
      exact ⟨k, tail, ⟨rfl, rfl⟩, passed, found, held, reached, failed⟩
    · rintro ⟨_, _, ⟨rfl, rfl⟩, passed, found, held, reached, failed⟩
      exact ⟨found, held, ⟨passed, reached⟩, failed⟩

mutual
theorem aborted_iff_ends (e : Event) (path : List Nat) :
    (slot : Slot) → (aborted (slot.read e path).failures = true ↔ slot.Ends e)
  | .bare name => by
    simp only [Slot.read, aborted, List.any_nil, Bool.false_eq_true, false_iff]
    intro ended
    cases ended
  | .literal name value => by
    simp only [Slot.read, aborted, List.any_nil, Bool.false_eq_true, false_iff]
    intro ended
    cases ended
  | .getter name get => by
    simp only [Slot.read]
    constructor
    · intro abort
      refine .getter ?_
      cases read : get e with
      | ok value => simp [read, aborted] at abort
      | error error => simpa [read, aborted] using abort
    · intro ended
      cases ended with
      | getter ended => simp [ended, aborted]
  | .group name slots => by
    simp only [Slot.read]
    rw [aborted_iff_some_ends e path 0 slots]
    constructor
    · rintro ⟨slot, held, ended⟩
      exact .group held ended
    · intro ended
      cases ended with
      | group held ended => exact ⟨_, held, ended⟩
  | .nested name inner => by
    simp only [Slot.read]
    rw [aborted_iff_ends e path inner]
    constructor
    · exact .nested
    · intro ended
      cases ended with
      | nested ended => exact ended

theorem aborted_iff_some_ends (e : Event) (path : List Nat) (i : Nat) :
    (slots : List Slot) →
      (aborted (readSlots e path i slots).2 = true ↔ ∃ slot ∈ slots, slot.Ends e)
  | [] => by simp [readSlots, aborted]
  | slot :: rest => by
    simp only [readSlots, aborted_append, Bool.or_eq_true]
    rw [aborted_iff_ends e (path ++ [i]) slot, aborted_iff_some_ends e path (i + 1) rest]
    simp
end

theorem mem_remarks_append {r : Remark} {xs ys : List Failure} :
    r ∈ remarks (xs ++ ys) ↔ r ∈ remarks xs ∨ ¬ aborted xs = true ∧ r ∈ remarks ys := by
  rw [remarks_append]
  cases aborted xs <;> simp

mutual
/-- What is remarked in a reading are the failures of the slots below, under their paths. -/
theorem remarks_iff_fails (e : Event) (path : List Nat) (r : Remark) :
    (slot : Slot) → (r ∈ remarks (slot.read e path).failures ↔
      ∃ tail member error, r = (path ++ tail, .failedRead member error) ∧
        slot.Fails e tail member error)
  | .bare name => by
    simp only [Slot.read, remarks, List.not_mem_nil, false_iff]
    rintro ⟨_, _, _, _, ⟨⟩⟩
  | .literal name value => by
    simp only [Slot.read, remarks, List.not_mem_nil, false_iff]
    rintro ⟨_, _, _, _, ⟨⟩⟩
  | .getter name get => by
    simp only [Slot.read]
    constructor
    · intro remarked
      cases read : get e with
      | ok value => simp [read, remarks] at remarked
      | error error =>
        cases error with
        | conversion error =>
          refine ⟨[], name, error, ?_, .getter read⟩
          simpa [read, remarks] using remarked
        | abort => simp [read, remarks] at remarked
    · rintro ⟨_, _, error, rfl, ⟨failed⟩⟩
      simp [failed, remarks]
  | .group name slots => by
    simp only [Slot.read]
    rw [remarks_iff_fails_among e path 0 r slots]
    constructor
    · rintro ⟨k, tail, member, error, rfl, slot, held, reached, failed⟩
      exact ⟨k :: tail, member, error, by simp, .group held reached failed⟩
    · rintro ⟨_, member, error, rfl, ⟨⟩⟩
      rename_i k slot tail held reached failed
      exact ⟨k, tail, member, error, by simp, slot, held, reached, failed⟩
  | .nested name inner => by
    simp only [Slot.read]
    rw [remarks_iff_fails e path r inner]
    constructor
    · rintro ⟨tail, member, error, rfl, failed⟩
      exact ⟨tail, member, error, rfl, .nested failed⟩
    · rintro ⟨tail, member, error, rfl, ⟨⟩⟩
      rename_i failed
      exact ⟨tail, member, error, rfl, failed⟩

theorem remarks_iff_fails_among (e : Event) (path : List Nat) (i : Nat) (r : Remark) :
    (slots : List Slot) → (r ∈ remarks (readSlots e path i slots).2 ↔
      ∃ k tail member error, r = (path ++ (i + k) :: tail, .failedRead member error) ∧
        FailsAmong e (fun slot => ¬ slot.Ends e) slots (k :: tail) member error)
  | [] => by
    simp [readSlots, remarks, no_slot_fails]
  | slot :: rest => by
    simp only [readSlots]
    rw [mem_remarks_append, aborted_iff_ends, remarks_iff_fails e (path ++ [i]) r slot,
      remarks_iff_fails_among e path (i + 1) r rest]
    simp only [fails_among_cons]
    have place (k : Nat) : i + 1 + k = i + (k + 1) := by omega
    constructor
    · rintro (⟨tail, member, error, rfl, failed⟩ | ⟨passed, k, tail, member, error, rfl, failed⟩)
      · exact ⟨0, tail, member, error, by simp, Or.inl ⟨tail, rfl, failed⟩⟩
      · exact ⟨k + 1, tail, member, error, by simp [place],
          Or.inr ⟨k, tail, rfl, passed, failed⟩⟩
    · rintro ⟨_, tail, member, error, rfl, ⟨_, ⟨⟩, failed⟩ | ⟨k, _, ⟨⟩, passed, failed⟩⟩
      · exact Or.inl ⟨tail, member, error, by simp, failed⟩
      · exact Or.inr ⟨passed, k, tail, member, error, by simp [place], failed⟩
end

theorem takes_iff_stored (n : Normalizer) (e : Event) (i : Nat) (out : List (String × Json))
    (slot : Slot) :
    n.Takes e slot ↔ ∃ next, (slot.read e [i]).value.elim (.ok out)
      (fun value => n.normalizeInto slot.name value out) = .ok next := by
  unfold Normalizer.Takes Slot.value
  rw [value_anywhere e [] [i] slot]
  cases (slot.read e [i]).value with
  | none => simp
  | some value =>
    simp only [Option.some.injEq, forall_eq', Option.elim_some, Normalizer.normalizeInto]
    cases n.nested value with
    | error failure => simp [Except.map]
    | ok json => simp [Except.map]

theorem remarks_of_collect (n : Normalizer) (e : Event) (i : Nat) (out : List (String × Json))
    (r : Remark) (slots : List Slot) :
    r ∈ remarks (collect n e i out slots).failures ↔
      ∃ k tail member error, r = ((i + k) :: tail, .failedRead member error) ∧
        FailsAmong e (fun slot => ¬ slot.Ends e ∧ n.Takes e slot) slots (k :: tail) member
          error := by
  induction slots generalizing i out with
  | nil => simp [collect, remarks, no_slot_fails]
  | cons slot rest ih =>
    have place (k : Nat) : i + 1 + k = i + (k + 1) := by omega
    have taken := takes_iff_stored n e i out slot
    unfold collect
    simp only [fails_among_cons]
    split
    · rename_i failure stored
      rw [stored] at taken
      have refused : ¬ n.Takes e slot := by simp [taken]
      simp only [remarks_iff_fails]
      constructor
      · rintro ⟨tail, member, error, rfl, failed⟩
        exact ⟨0, tail, member, error, by simp, Or.inl ⟨tail, rfl, failed⟩⟩
      · rintro ⟨_, tail, member, error, rfl, ⟨_, ⟨⟩, failed⟩ | ⟨k, _, ⟨⟩, ⟨_, passed⟩, _⟩⟩
        · exact ⟨tail, member, error, by simp, failed⟩
        · exact absurd passed refused
    · rename_i next stored
      have passed : n.Takes e slot := taken.mpr ⟨next, stored⟩
      rw [mem_remarks_append, aborted_iff_ends, remarks_iff_fails, ih (i + 1) next]
      constructor
      · rintro (⟨tail, member, error, rfl, failed⟩ | ⟨endured, k, tail, member, error, rfl, failed⟩)
        · exact ⟨0, tail, member, error, by simp, Or.inl ⟨tail, rfl, failed⟩⟩
        · exact ⟨k + 1, tail, member, error, by simp [place],
            Or.inr ⟨k, tail, rfl, ⟨endured, passed⟩, failed⟩⟩
      · rintro ⟨_, tail, member, error, rfl, ⟨_, ⟨⟩, failed⟩ | ⟨k, _, ⟨⟩, ⟨endured, _⟩, failed⟩⟩
        · exact Or.inl ⟨tail, member, error, by simp, failed⟩
        · exact Or.inr ⟨endured, k, tail, member, error, by simp [place], failed⟩

theorem remarks_of_document (l : Layout) (e : Event) (r : Remark) :
    r ∈ remarks (l.document e).failures ↔
      ∃ path member error, r = (path, .failedRead member error) ∧ l.Fails e path member error := by
  obtain ⟨slots, n, table⟩ := l
  have collected : r ∈ remarks (collect n e 0 [] slots).failures ↔
      ∃ path member error, r = (path, .failedRead member error) ∧
        (Layout.mk slots n table).Fails e path member error := by
    rw [remarks_of_collect]
    constructor
    · rintro ⟨k, tail, member, error, rfl, failed⟩
      exact ⟨k :: tail, member, error, by simp, failed⟩
    · rintro ⟨_ | ⟨k, tail⟩, member, error, rfl, failed⟩
      · exact failed.elim
      · exact ⟨k, tail, member, error, by simp, failed⟩
  rcases slots with _ | ⟨slot, _ | ⟨other, rest⟩⟩
  · exact collected
  · simp only [Layout.document]
    split
    · rw [remarks_iff_fails]
      constructor
      · rintro ⟨tail, member, error, rfl, failed⟩
        exact ⟨0 :: tail, member, error, by simp, slot, rfl, by simp, failed⟩
      · rintro ⟨_ | ⟨_ | k, tail⟩, member, error, rfl, failed⟩
        · exact failed.elim
        · obtain ⟨_, ⟨⟩, _, failed⟩ := failed
          exact ⟨tail, member, error, by simp, failed⟩
        · obtain ⟨_, held, _⟩ := failed
          simp at held
    · exact collected
  · exact collected

theorem remarks_of_format (l : Layout) (e : Event) (r : Remark) :
    r ∈ remarks (l.format e).failures ↔
      ∃ path member error, r = (path, .failedRead member error) ∧ l.Fails e path member error := by
  rw [← remarks_of_document]
  obtain ⟨_ | ⟨slot, rest⟩, n, table⟩ := l
  · rfl
  · rfl

theorem fails_unique {e : Event} {slot : Slot} {path : List Nat} {member other : String}
    {error error' : ConversionError} (first : slot.Fails e path member error)
    (second : slot.Fails e path other error') : member = other ∧ error = error' := by
  induction first with
  | getter failed =>
    cases second with
    | getter failed' =>
      rw [failed] at failed'
      cases failed'
      exact ⟨rfl, rfl⟩
  | group held _ _ ih =>
    cases second with
    | group held' _ failed' =>
      rw [held] at held'
      cases held'
      exact ih failed'
  | nested _ ih =>
    cases second with
    | nested failed' => exact ih failed'

theorem layout_fails_unique {l : Layout} {e : Event} {path : List Nat} {member other : String}
    {error error' : ConversionError} (first : l.Fails e path member error)
    (second : l.Fails e path other error') : member = other ∧ error = error' := by
  cases path with
  | nil => exact first.elim
  | cons k path =>
    obtain ⟨slot, held, _, failed⟩ := first
    obtain ⟨slot', held', _, failed'⟩ := second
    rw [held] at held'
    cases held'
    exact fails_unique failed failed'

end LogLayout
