import LogLayout.Proofs.Normalize.Gathering

/- The type and the text that are injected into objects. They are inserted like fields, the type
   before all of them and the text behind. So they frame the other fields unless a field called like
   the type puts something else in its place, or a field called like the text has kept the place of
   the text in front of others. -/
namespace LogLayout

theorem Datum.keys_resolved (whole : Datum) (level : Nat) (entries : List (String × Datum)) :
    Keyed.keys (resolveEntries whole level entries) = Keyed.keys entries := by
  induction entries with
  | nil => rfl
  | cons entry rest ih => exact congrArg (entry.1 :: ·) ih

/-- Behind the last of the names comes nothing that has not come before. -/
def Closes (front back : String) (names : List String) : Prop :=
  ∀ before after, names = before ++ back :: after →
    ∀ name ∈ after, name = front ∨ name = back ∨ name ∈ before

theorem erase_dups_append_known {xs ys : List String} (known : ∀ y ∈ ys, y ∈ xs) :
    (xs ++ ys).eraseDups = xs.eraseDups := by
  have none : ys.removeAll xs = [] := by
    simpa [List.removeAll] using known
  rw [List.eraseDups_append, none]
  simp

theorem erase_dups_append_new {xs : List String} {x : String} (new : x ∉ xs) :
    (xs ++ [x]).eraseDups = xs.eraseDups ++ [x] := by
  have one : [x].removeAll xs = [x] := by
    simpa [List.removeAll] using new
  rw [List.eraseDups_append, one]
  rfl

section

variable {front back : String} {names before after : List String}

theorem ends_of_new_name (apart : front ≠ back) (absent : back ∉ names) :
    (front :: names ++ [back]).eraseDups =
      front :: (names.filter fun name => name ≠ front ∧ name ≠ back).eraseDups ++ [back] := by
  have new : back ∉ front :: names := by
    simp [absent, apart.symm]
  have others : names.filter (fun name => !name == front) =
      names.filter fun name => name ≠ front ∧ name ≠ back := by
    refine List.filter_congr ?_
    intro name member
    have other : name ≠ back := by
      intro same
      exact absent (same ▸ member)
    rw [Bool.eq_iff_iff]
    simp [other]
  rw [erase_dups_append_new new, List.eraseDups_cons, others]

theorem ends_of_start (known : ∀ name ∈ after, name = front ∨ name = back ∨ name ∈ before) :
    (front :: (before ++ back :: after) ++ [back]).eraseDups =
      (front :: before ++ [back]).eraseDups := by
  have whole : front :: (before ++ back :: after) ++ [back] =
      (front :: before ++ [back]) ++ (after ++ [back]) := by
    simp
  rw [whole, erase_dups_append_known]
  intro name member
  rcases List.mem_append.mp member with later | last
  · refine List.mem_append.mpr ?_
    rcases known name later with same | same | found
    · exact Or.inl (List.mem_cons.mpr (Or.inl same))
    · exact Or.inr (List.mem_singleton.mpr same)
    · exact Or.inl (List.mem_cons_of_mem front found)
  · exact List.mem_append_right _ last

theorem between_of_start (known : ∀ name ∈ after, name = front ∨ name = back ∨ name ∈ before) :
    ((before ++ back :: after).filter fun name => name ≠ front ∧ name ≠ back).eraseDups =
      (before.filter fun name => name ≠ front ∧ name ≠ back).eraseDups := by
  have parts : (before ++ back :: after).filter (fun name => name ≠ front ∧ name ≠ back) =
      before.filter (fun name => name ≠ front ∧ name ≠ back) ++
        after.filter fun name => name ≠ front ∧ name ≠ back := by
    simp
  rw [parts, erase_dups_append_known]
  intro name member
  obtain ⟨later, other⟩ := List.mem_filter.mp member
  simp only [ne_eq, decide_eq_true_eq] at other
  rcases known name later with same | same | found
  · exact absurd same other.1
  · exact absurd same other.2
  · exact List.mem_filter.mpr ⟨found, by simpa using other⟩

theorem keys_between_ends (apart : front ≠ back) (closes : Closes front back names) :
    (front :: names ++ [back]).eraseDups =
      front :: (names.filter fun name => name ≠ front ∧ name ≠ back).eraseDups ++ [back] := by
  by_cases held : back ∈ names
  · obtain ⟨before, after, rfl, absent⟩ := List.eq_append_cons_of_mem held
    have known := closes before after rfl
    rw [ends_of_start known, between_of_start known, ends_of_new_name apart absent]
  · exact ends_of_new_name apart held

theorem closes_of_ends {start : List String}
    (ends : (front :: names ++ [back]).eraseDups = start ++ [back]) : Closes front back names := by
  intro before after split name member
  apply Decidable.byContradiction
  intro new
  simp only [not_or] at new
  obtain ⟨notFront, notBack, notBefore⟩ := new
  -- the new name comes behind the one that is at the end
  have whole : (front :: names ++ [back]).eraseDups = (front :: before ++ [back]).eraseDups ++
      ((after ++ [back]).removeAll (front :: before ++ [back])).eraseDups := by
    rw [← List.eraseDups_append]
    simp [split]
  have later : name ∈ ((after ++ [back]).removeAll (front :: before ++ [back])).eraseDups := by
    rw [List.mem_eraseDups]
    simp [List.removeAll, member, notFront, notBack, notBefore]
  have same := congrArg List.getLast? (whole.symm.trans ends)
  rw [List.getLast?_append, List.getLast?_concat] at same
  cases last : ((after ++ [back]).removeAll (front :: before ++ [back])).eraseDups.getLast? with
  | none => exact List.ne_nil_of_mem later (List.getLast?_eq_none_iff.mp last)
  | some x =>
    rw [last] at same
    obtain rfl : x = back := Option.some.inj same
    have among := List.mem_of_getLast? last
    rw [List.mem_eraseDups] at among
    simp [List.removeAll] at among

end

namespace Normalizer

/-- The type comes first, the text last, and the other fields are between them in order. -/
def Framed (f : Datum → Except NormalizeError Json) (typeKey textKey kind form : String)
    (fields : List (String × Datum)) (out : List (String × Json)) : Prop :=
  ∃ between, out = (typeKey, .text kind) :: (between ++ [(textKey, .text form)]) ∧
    Gathers f (fields.filter fun field => field.1 ≠ typeKey ∧ field.1 ≠ textKey) between

section

variable {f : Datum → Except NormalizeError Json} {typeKey textKey kind form : String}
  {fields : List (String × Datum)} {out between : List (String × Json)}

theorem get_between {key : String} {first last : Json} (notFirst : key ≠ typeKey)
    (notLast : key ≠ textKey) :
    Keyed.get? key ((typeKey, first) :: (between ++ [(textKey, last)])) = Keyed.get? key between := by
  rw [Keyed.get?, if_neg notFirst.symm, Keyed.get_append]
  simp [Keyed.get?, notLast.symm]

theorem get_at_end {first last : Json} (apart : typeKey ≠ textKey)
    (absent : textKey ∉ Keyed.keys between) :
    Keyed.get? textKey ((typeKey, first) :: (between ++ [(textKey, last)])) = some last := by
  rw [Keyed.get?, if_neg apart, Keyed.get_append, Keyed.get_absent textKey between absent]
  simp [Keyed.get?]

theorem ends_of_keys {middle : List String}
    (keys : Keyed.keys out = typeKey :: middle ++ [textKey]) :
    ∃ first last between, out = (typeKey, first) :: (between ++ [(textKey, last)]) ∧
      Keyed.keys between = middle := by
  obtain ⟨⟨key, first⟩, rest, rfl, rfl, others⟩ := List.map_eq_cons_iff.mp keys
  obtain ⟨between, ending, rfl, same, closing⟩ := List.map_eq_append_iff.mp others
  obtain ⟨⟨other, last⟩, none, rfl, rfl, empty⟩ := List.map_eq_cons_iff.mp closing
  obtain rfl := List.map_eq_nil_iff.mp empty
  exact ⟨first, last, between, rfl, same⟩

section

variable (texts : ∀ s, f (.text s) = .ok (.text s))
  (gathers : Gathers f ((typeKey, .text kind) :: fields ++ [(textKey, .text form)]) out)
include gathers

theorem keys_gathered : Keyed.keys out = (typeKey :: Keyed.keys fields ++ [textKey]).eraseDups := by
  rw [gathers.keys]
  simp [Keyed.keys]

theorem field_gathered {key : String} {d : Datum} (notText : key ≠ textKey)
    (found : (Keyed.last? key fields).or (Keyed.last? key [(typeKey, .text kind)]) = some d) :
    ∃ value, Keyed.get? key out = some value ∧ f d = .ok value := by
  refine gathers.last key d ?_
  have split : (typeKey, Datum.text kind) :: fields = [(typeKey, .text kind)] ++ fields := rfl
  have none : Keyed.last? key [(textKey, Datum.text form)] = none := by
    simp [Keyed.last?, Keyed.get?, notText.symm]
  rw [Keyed.last_append, none, split, Keyed.last_append]
  exact found

include texts

theorem text_gathered : Keyed.get? textKey out = some (.text form) := by
  have last : Keyed.last? textKey ((typeKey, Datum.text kind) :: fields ++ [(textKey, .text form)]) =
      some (.text form) := by
    simp [Keyed.last?, Keyed.get?]
  obtain ⟨value, held, read⟩ := gathers.last textKey (.text form) last
  cases (texts form).symm.trans read
  exact held

theorem type_gathered_iff (apart : typeKey ≠ textKey) :
    Keyed.get? typeKey out = some (.text kind) ↔
      ∀ d, Keyed.last? typeKey fields = some d → f d = .ok (.text kind) := by
  cases found : Keyed.last? typeKey fields with
  | none =>
    have injected : (Keyed.last? typeKey fields).or (Keyed.last? typeKey [(typeKey, .text kind)]) =
        some (Datum.text kind) := by
      rw [found]
      simp [Keyed.last?, Keyed.get?]
    obtain ⟨value, held, read⟩ := field_gathered gathers apart injected
    cases (texts kind).symm.trans read
    simp [held]
  | some d =>
    obtain ⟨value, held, read⟩ := field_gathered gathers apart (by rw [found]; rfl)
    simp [held, read]

/-- The frame holds exactly when no field called like the type puts something else in its place, and
    behind a field called like the text there are no new names. -/
theorem framed_iff (apart : typeKey ≠ textKey) :
    Framed f typeKey textKey kind form fields out ↔
      (∀ d, Keyed.last? typeKey fields = some d → f d = .ok (.text kind)) ∧
        Closes typeKey textKey (Keyed.keys fields) := by
  have keys := keys_gathered gathers
  rw [← type_gathered_iff texts gathers apart]
  constructor
  · intro framed
    obtain ⟨between, rfl, _⟩ := framed
    have ends : Keyed.keys ((typeKey, .text kind) :: (between ++ [(textKey, .text form)])) =
        (typeKey :: Keyed.keys between) ++ [textKey] := by
      simp [Keyed.keys]
    exact ⟨by simp [Keyed.get?], closes_of_ends (keys.symm.trans ends)⟩
  · intro free
    obtain ⟨atType, closes⟩ := free
    rw [keys_between_ends apart closes] at keys
    obtain ⟨first, last, between, rfl, middle⟩ := ends_of_keys keys
    have absent : textKey ∉ Keyed.keys between := by
      rw [middle, List.mem_eraseDups]
      simp
    have atText := text_gathered texts gathers
    rw [get_at_end apart absent] at atText
    simp only [Keyed.get?, if_true] at atType
    refine ⟨between, by rw [Option.some.inj atType, Option.some.inj atText], ?_, ?_⟩
    · rw [middle, ← Keyed.keys_filter]
    · intro key d found
      rw [Keyed.last_filter fun name => name ≠ typeKey ∧ name ≠ textKey] at found
      split at found
      · rename_i other
        simp only [ne_eq, decide_eq_true_eq] at other
        obtain ⟨value, held, read⟩ := field_gathered gathers other.2 (by rw [found]; rfl)
        rw [get_between other.1 other.2] at held
        exact ⟨value, held, read⟩
      · cases found

end

end

/-- What becomes of an object, wherever it is: its fields are gathered as if the type had been a field
    in front of them and the text one behind. So the type comes first, the text last and the other
    fields in order between them, if no field has one of the two names; and in all if and only if a
    field called like the type gives the type again, and no new name follows a field called like the
    text. -/
theorem injected_entries_frame_unless_fields_collide (n : Normalizer) (typeKey textKey : String)
    (apart : typeKey ≠ textKey) (typed : n.typeKey = some typeKey) (spelt : n.stringKey = some textKey)
    (structured : n.flatten = false) (d : Datum) (value : Json) (done : n.normalize d = .ok value)
    (path : List Nat) (kind form : String) (fields : List (String × Datum))
    (found : NodeAt Datum.parts d path (.object kind form fields)) :
    ∃ out, n.normalize (.object kind form fields) = .ok (.object out) ∧
      (∀ moves, follow n.move? moves d = some (.object kind form fields) →
        follow Json.move? moves value = some (.object out)) ∧
      Gathers n.normalize ((typeKey, .text kind) :: Datum.openFields kind form fields ++
        [(textKey, .text form)]) out ∧
      (typeKey ∉ Keyed.keys fields → textKey ∉ Keyed.keys fields →
        Framed n.normalize typeKey textKey kind form (Datum.openFields kind form fields) out) ∧
      (Framed n.normalize typeKey textKey kind form (Datum.openFields kind form fields) out ↔
        (∀ x, Keyed.last? typeKey (Datum.openFields kind form fields) = some x →
          n.normalize x = .ok (.text kind)) ∧ Closes typeKey textKey (Keyed.keys fields)) := by
  have plain : n.normalize = n.nested := funext (n.normalize_structured structured)
  rw [plain] at done ⊢
  obtain ⟨w, passed⟩ := nested_of_node done found
  have described : n.entriesOf? (.object kind form fields) = some ((typeKey, .text kind) ::
      Datum.openFields kind form fields ++ [(textKey, .text form)]) := by
    rw [entriesOf?, Normalizer.described, typed, spelt]
    rfl
  have keys : Keyed.keys (Datum.openFields kind form fields) = Keyed.keys fields :=
    Datum.keys_resolved _ 0 fields
  obtain ⟨values, each, rfl⟩ := object_of_entries passed described
  have gathers := gathers_of_each_gives each
  have frame := framed_iff (fun s => rfl) gathers apart
  rw [keys] at frame
  refine ⟨_, passed, ?_, gathers, ?_, frame⟩
  · intro moves reached
    obtain ⟨inner, place, same⟩ := followed done reached
    cases passed.symm.trans same
    exact place
  · intro noType noText
    refine frame.mpr ⟨?_, ?_⟩
    · intro x last
      have absent : Keyed.last? typeKey (Datum.openFields kind form fields) = none := by
        refine Keyed.get_absent typeKey _ ?_
        rw [← keys] at noType
        simpa [Keyed.keys] using noType
      cases absent.symm.trans last
    · intro before after split
      exact absurd (split ▸ List.mem_append_right before (List.mem_cons_self ..)) noText

def describing : Normalizer := { typeKey := some "$type", stringKey := some "$string" }

def harmlessFields : List (String × Datum) :=
  [("x", .int 1), ("$type", .symbol "Point"), ("$string", .null), ("x", .int 2)]

theorem harmless_fields_framed :
    ∃ out, describing.normalize (.object "Point" "(2)" harmlessFields) = .ok (.object out) ∧
      Framed describing.normalize "$type" "$string" "Point" "(2)" harmlessFields out := by
  obtain ⟨out, done, _, _, _, frame⟩ := injected_entries_frame_unless_fields_collide describing
    "$type" "$string" (by decide) rfl rfl rfl (.seq [.object "Point" "(2)" harmlessFields]) _ rfl [0]
    "Point" "(2)" harmlessFields (.within rfl .root)
  refine ⟨out, done, frame.mpr ⟨?_, ?_⟩⟩
  · intro x last
    cases last
    rfl
  · have ends : ("$type" :: Keyed.keys harmlessFields ++ ["$string"]).eraseDups =
        ["$type", "x"] ++ ["$string"] := by
      decide
    exact closes_of_ends ends

/-- A field called like the type takes its value, and one called like the text gives it its place. -/
theorem colliding_fields_break_the_frame :
    ∃ out, describing.normalize (.object "Point" "(1, 2)" [("$type", .text "circle"),
        ("x", .int 1), ("$string", .text "mine"), ("y", .int 2)]) = .ok (.object out) ∧
      out.head? ≠ some ("$type", .text "Point") ∧
      out.getLast? ≠ some ("$string", .text "(1, 2)") := by
  refine ⟨_, rfl, ?_, ?_⟩
  · simp [describing, injectType, injectText, Keyed.insert]
  · simp [describing, injectType, injectText, Keyed.insert]

end Normalizer

end LogLayout
