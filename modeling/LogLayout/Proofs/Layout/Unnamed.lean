import Mathlib.Logic.Function.Iterate
import LogLayout.Proofs.Layout.Splicing
import LogLayout.Proofs.Layout.Watching

/- Members without a name. One that is nested around another member takes its name and is not to be
   told from it: it gives the same values and has the same reported, whatever came before. And a
   group without a name dissolves in the group around it, its members standing in its place. -/
namespace LogLayout

section

variable {value : Option Datum}

theorem present_present : present (present value) = present value := by
  simp [present, Option.filter_filter]

theorem fallback_again (read property last : Option Datum) (solid : present last = last) :
    (present (present read <|> property <|> last) <|> property) =
      (present read <|> property <|> last) := by
  cases first : present read with
  | some v =>
    have kept : present (some v) = some v := by rw [← first, present_present]
    simp [kept]
  | none =>
    cases property with
    | none =>
      cases last with
      | none => rfl
      | some v => simp [solid]
    | some v => cases null : v.isNull <;> simp [present, Option.filter, null]

end

/-- Every slot has a value of its own, which is not a null, or else its property, or else something
    that is not a null either. -/
theorem value_of_slot (e : Event) (path : List Nat) (slot : Slot) :
    ∃ own last, present last = last ∧
      (slot.read e path).value = (present own <|> propertyNamed e slot.name <|> last) := by
  cases slot with
  | bare name =>
    refine ⟨none, nameText name, ?_, by rw [Slot.read]; rfl⟩
    unfold nameText
    split <;> rfl
  | literal name value => exact ⟨none, some (.text value), rfl, by rw [Slot.read]; rfl⟩
  | getter name get =>
    rw [Slot.read]
    cases get e with
    | ok value => exact ⟨value, none, rfl, by simp [Slot.name]⟩
    | error failure => exact ⟨none, none, rfl, by simp [present, Slot.name]⟩
  | group name slots =>
    refine ⟨groupValue (readSlots e path 0 slots).1, none, rfl, ?_⟩
    have solid (entries : List (String × Datum)) :
        present (groupValue entries) = groupValue entries := by
      unfold groupValue
      split <;> rfl
    simp [Slot.read, Slot.name, solid]
  | nested name inner =>
    exact ⟨(inner.read e path).value, none, rfl, by simp [Slot.read, Slot.name]⟩

namespace Slot

def unnamed (slot : Slot) : Slot := .nested slot.name slot

theorem read_unnamed (e : Event) (path : List Nat) (slot : Slot) :
    slot.unnamed.read e path = slot.read e path := by
  obtain ⟨own, last, solid, value⟩ := value_of_slot e path slot
  rw [unnamed, Slot.read, value, fallback_again _ _ _ solid, ← value]

theorem watch_unnamed (e : Event) (path : List Nat) (slot : Slot) (j : Journal) :
    (slot.unnamed.watch e path).start j = (slot.watch e path).start j := by
  rw [slot_replays e path slot.unnamed j, slot_replays e path slot j, read_unnamed]

/-- Reads the slot off one event after another. What has been reported is all that is carried along;
    for each event there is the value, unless the reading was cut short, and what was said. -/
def run (slot : Slot) (path : List Nat) (reported : List (List Nat)) :
    List Event → List (Option (Option Datum) × List Remark)
  | [] => []
  | e :: rest =>
    let (value, journal) := (slot.watch e path).start ⟨reported, []⟩
    (value, journal.said) :: slot.run path journal.reported rest

theorem run_unnamed (slot : Slot) (path : List Nat) (reported : List (List Nat))
    (events : List Event) :
    slot.unnamed.run path reported events = slot.run path reported events := by
  induction events generalizing reported with
  | nil => rfl
  | cons e rest ih => simp only [run, watch_unnamed, ih]

theorem run_unnamed_often (k : Nat) (slot : Slot) (path : List Nat) (reported : List (List Nat))
    (events : List Event) :
    (unnamed^[k] slot).run path reported events = slot.run path reported events := by
  induction k with
  | zero => rfl
  | succ k ih => rw [Function.iterate_succ_apply', run_unnamed, ih]

end Slot

namespace Member

def unnamed (m : Member) : Member := .mk "" (.nested m)

theorem name_unnamed_often (k : Nat) (m : Member) : (unnamed^[k] m).name = m.name := by
  induction k with
  | zero => rfl
  | succ k ih => rw [Function.iterate_succ_apply', unnamed, unnamed_nested_name, ih]

section

variable {ctx : Context} {group : Arrangement → Option (Prepared (List Slot))} {m : Member}
  {p : Prepared Slot}

theorem name_of_prepared (done : m.prepareWith ctx group = some p) : p.result.name = m.name := by
  obtain ⟨name, source⟩ := m
  cases source with
  | bare | literal value =>
    cases done
    rfl
  | conversion conversion option =>
    cases done
    unfold prepareConversion
    split <;> rfl
  | template text =>
    cases done
    unfold prepareTemplate
    split <;> rfl
  | group arrangement =>
    simp only [prepareWith] at done
    obtain ⟨inner, _, rfl⟩ := Option.map_eq_some_iff.mp done
    rfl
  | nested inner =>
    simp only [prepareWith] at done
    obtain ⟨held, _, rfl⟩ := Option.map_eq_some_iff.mp done
    rfl

theorem prepare_unnamed (done : m.prepareWith ctx group = some p) :
    m.unnamed.prepareWith ctx group = some ⟨p.result.unnamed, p.notices⟩ := by
  rw [Slot.unnamed, name_of_prepared done, unnamed, prepareWith, done, unnamed_nested_name]
  rfl

theorem prepare_unnamed_often (k : Nat) (done : m.prepareWith ctx group = some p) :
    (unnamed^[k] m).prepareWith ctx group = some ⟨Slot.unnamed^[k] p.result, p.notices⟩ := by
  induction k with
  | zero => exact done
  | succ k ih =>
    rw [Function.iterate_succ_apply', Function.iterate_succ_apply']
    exact prepare_unnamed ih

end

end Member

/-- However often a member is nested without a name, the outermost has the name of the innermost,
    reports the same while it is made ready, and gives the same values and has the same failures
    reported over every run of events, whatever has been reported before. -/
theorem unnamed_nesting_invisible (ctx : Context) (depth k : Nat) (m : Member) (p : Prepared Slot)
    (done : m.prepareWith ctx (prepareGroup ctx depth) = some p) :
    (Member.unnamed^[k] m).name = m.name ∧
      ∃ q, (Member.unnamed^[k] m).prepareWith ctx (prepareGroup ctx depth) = some q ∧
        q.result.name = p.result.name ∧ q.notices = p.notices ∧
        ∀ path reported events,
          q.result.run path reported events = p.result.run path reported events := by
  have prepared := Member.prepare_unnamed_often k done
  refine ⟨Member.name_unnamed_often k m, _, prepared, ?_, rfl, Slot.run_unnamed_often k p.result⟩
  rw [Member.name_of_prepared prepared, Member.name_of_prepared done, Member.name_unnamed_often]

def withoutUser (message : String) : Event :=
  Event.bare ⟨[], "app", .utc⟩ message [("user", .null)] ⟨0, 0⟩ "INFO" "core" "main"

def flakyContext : Context :=
  ⟨Registry.empty.register "flaky" fun e _ =>
    if e.message = "bad" then .error (.failed "boom") else .ok (some (.text e.message)),
    Template.compile, [], .empty⟩

theorem null_seen_through_nesting :
    ∃ q, (Member.unnamed^[2] (.mk "user" (.conversion "flaky" none))).prepareWith flakyContext
        (prepareGroup flakyContext 0) = some q ∧ q.result.name = "user" ∧
      q.result.run [0] [] [withoutUser "bad", withoutUser "good", withoutUser "bad"] =
        [(some (some .null), [([0], .failedRead "user" (.failed "boom"))]),
          (some (some (.text "good")), []), (some (some .null), [])] := by
  obtain ⟨_, q, prepared, name, _, runs⟩ := unnamed_nesting_invisible flakyContext 0 2
    (.mk "user" (.conversion "flaky" none)) _ rfl
  refine ⟨q, prepared, name, ?_⟩
  rw [runs]
  rfl

/-- What failed, and for which members, apart from where they stand. -/
def causes (failures : List Failure) : List (String × ReadError) :=
  failures.map fun f => (f.member, f.error)

mutual
theorem causes_anywhere (e : Event) (p q : List Nat) :
    (slot : Slot) → causes (slot.read e p).failures = causes (slot.read e q).failures
  | .bare name => by simp only [Slot.read]
  | .literal name value => by simp only [Slot.read]
  | .getter name get => by
    simp only [Slot.read]
    cases get e <;> rfl
  | .group name slots => by
    simp only [Slot.read]
    exact all_causes_anywhere e p q 0 0 slots
  | .nested name inner => by
    simp only [Slot.read]
    exact causes_anywhere e p q inner

theorem all_causes_anywhere (e : Event) (p q : List Nat) (i j : Nat) :
    (slots : List Slot) → causes (readSlots e p i slots).2 = causes (readSlots e q j slots).2
  | [] => rfl
  | slot :: rest => by
    have first := causes_anywhere e (p ++ [i]) (q ++ [j]) slot
    have others := all_causes_anywhere e p q (i + 1) (j + 1) rest
    unfold causes at first others ⊢
    rw [readSlots, readSlots, List.map_append, List.map_append, first, others]
end

def Slot.seen (e : Event) (slot : Slot) : Option Datum × List (String × ReadError) :=
  (slot.value e, causes (slot.read e []).failures)

def seenIn (e : Event) (slots : List Slot) : List (String × Datum) × List (String × ReadError) :=
  (entriesOf e slots, causes (readSlots e [] 0 slots).2)

section

variable (e : Event)

theorem seen_in_cons (slot : Slot) (rest : List Slot) :
    seenIn e (slot :: rest) =
      (groupEntries slot.name (slot.seen e).1 ++ (seenIn e rest).1,
        (slot.seen e).2 ++ (seenIn e rest).2) := by
  have first := causes_anywhere e ([] ++ [0]) [] slot
  have others := all_causes_anywhere e [] [] (0 + 1) 0 rest
  unfold causes at first others
  rw [seenIn, entries_of_cons, readSlots, causes, List.map_append, first, others]
  rfl

theorem seen_in_append (front back : List Slot) :
    seenIn e (front ++ back) =
      ((seenIn e front).1 ++ (seenIn e back).1, (seenIn e front).2 ++ (seenIn e back).2) := by
  induction front with
  | nil => rfl
  | cons slot front ih => simp only [List.cons_append, seen_in_cons, ih, List.append_assoc]

theorem seen_group (name : String) (slots : List Slot) :
    (Slot.group name slots).seen e =
      (groupValue (seenIn e slots).1 <|> propertyNamed e name, (seenIn e slots).2) := by
  rw [Slot.seen, Slot.value, Slot.read]
  rfl

theorem seen_nested (name : String) (inner : Slot) :
    (Slot.nested name inner).seen e =
      (present (inner.seen e).1 <|> propertyNamed e name, (inner.seen e).2) := by
  rw [Slot.seen, Slot.value, Slot.read]
  rfl

theorem entries_of_unnamed_group (entries : List (String × Datum)) :
    groupEntries "" (groupValue entries <|> propertyNamed e "") = entries := by
  unfold groupValue
  split
  · rename_i none
    rw [List.isEmpty_iff.mp none]
    rfl
  · rfl

end

mutual
/-- The slot after the groups without a name inside it have been dissolved. -/
def Slot.dissolved : Slot → Slot
  | .bare name => .bare name
  | .literal name value => .literal name value
  | .getter name get => .getter name get
  | .group name slots => .group name (dissolve slots)
  | .nested name inner => .nested name inner.dissolved

def Slot.standing : Slot → List Slot
  | .bare name => [.bare name]
  | .literal name value => [.literal name value]
  | .getter name get => [.getter name get]
  | .group name slots => if name = "" then dissolve slots else [.group name (dissolve slots)]
  | .nested name inner => [.nested name inner.dissolved]

/-- The slots of a group without the brackets of groups that have no name, at any depth. -/
def dissolve : List Slot → List Slot
  | [] => []
  | slot :: rest => slot.standing ++ dissolve rest
end

theorem dissolve_append (front back : List Slot) :
    dissolve (front ++ back) = dissolve front ++ dissolve back := by
  induction front with
  | nil => rfl
  | cons slot front ih => rw [List.cons_append, dissolve, dissolve, ih, List.append_assoc]

theorem dissolve_brackets (front inner back : List Slot) :
    dissolve (front ++ [.group "" inner] ++ back) = dissolve (front ++ inner ++ back) := by
  simp [dissolve_append, dissolve, Slot.standing]

mutual
theorem no_brackets_standing (inner : List Slot) : (slot : Slot) → .group "" inner ∉ slot.standing
  | .bare _ | .literal _ _ | .getter _ _ => by simp [Slot.standing]
  | .group name slots => by
    rw [Slot.standing]
    split
    · exact no_brackets_left inner slots
    · rename_i named
      simp [Ne.symm named]
  | .nested _ _ => by simp [Slot.standing]

theorem no_brackets_left (inner : List Slot) :
    (slots : List Slot) → .group "" inner ∉ dissolve slots
  | [] => by simp [dissolve]
  | slot :: rest => by
    rw [dissolve, List.mem_append, not_or]
    exact ⟨no_brackets_standing inner slot, no_brackets_left inner rest⟩
end

mutual
theorem seen_dissolved (e : Event) : (slot : Slot) → slot.dissolved.seen e = slot.seen e
  | .bare _ | .literal _ _ | .getter _ _ => by rw [Slot.dissolved]
  | .group name slots => by rw [Slot.dissolved, seen_group, seen_group, seen_in_dissolve e slots]
  | .nested name inner => by rw [Slot.dissolved, seen_nested, seen_nested, seen_dissolved e inner]

theorem seen_in_standing (e : Event) : (slot : Slot) → seenIn e slot.standing = seenIn e [slot]
  | .bare _ | .literal _ _ | .getter _ _ => by rw [Slot.standing]
  | .group name slots => by
    rw [Slot.standing]
    split
    · rename_i unnamed
      subst unnamed
      rw [seen_in_cons, seen_group, Slot.name, entries_of_unnamed_group, seen_in_dissolve e slots]
      simp [seenIn, entriesOf, readSlots, causes]
    · rw [seen_in_cons, seen_in_cons, seen_group, seen_group, seen_in_dissolve e slots]
      rfl
  | .nested name inner => by
    rw [Slot.standing, seen_in_cons, seen_in_cons, seen_nested, seen_nested,
      seen_dissolved e inner]
    rfl

theorem seen_in_dissolve (e : Event) :
    (slots : List Slot) → seenIn e (dissolve slots) = seenIn e slots
  | [] => rfl
  | slot :: rest => by
    rw [dissolve, seen_in_append, seen_in_standing e slot, seen_in_dissolve e rest,
      ← seen_in_append]
    rfl
end

/-- Brackets without a name around members of a group, wherever and however deep, make no difference
    to the value of the group, nor to what fails below it: a group around members, a group of others
    without a name and more members is the group of them all. -/
theorem brackets_never_matter (e : Event) (name : String) :
    (∀ front inner back : List Slot,
      (Slot.group name (front ++ [.group "" inner] ++ back)).seen e =
        (Slot.group name (front ++ inner ++ back)).seen e) ∧
    (∀ slots others : List Slot, dissolve slots = dissolve others →
      (Slot.group name slots).seen e = (Slot.group name others).seen e) ∧
    ∀ slots inner : List Slot, .group "" inner ∉ dissolve slots := by
  have alike (slots others : List Slot) (same : dissolve slots = dissolve others) :
      (Slot.group name slots).seen e = (Slot.group name others).seen e := by
    rw [seen_group, seen_group, ← seen_in_dissolve e slots, same, seen_in_dissolve e others]
  refine ⟨?_, alike, fun slots inner => no_brackets_left inner slots⟩
  intro front inner back
  exact alike _ _ (dissolve_brackets front inner back)

def properties : Slot := .getter "" fun e => .ok (some (.map e.properties))

/-- Brackets two deep and one empty group; the key stands in both parts and is kept twice. -/
theorem brackets_two_deep_dissolve :
    dissolve [.group "" [.literal "user" "known", .group "" []], .group "" [.group "" [properties]]]
        = dissolve [.literal "user" "known", properties] ∧
      (Slot.group "seen" [.group "" [.literal "user" "known", .group "" []],
        .group "" [.group "" [properties]]]).seen (withoutUser "hello") =
        (some (.map [("user", .null), ("user", .null)]), []) := by
  have same : dissolve
      [.group "" [.literal "user" "known", .group "" []], .group "" [.group "" [properties]]] =
        dissolve [.literal "user" "known", properties] := by
    simp [dissolve, Slot.standing, properties]
  refine ⟨same, ?_⟩
  rw [(brackets_never_matter (withoutUser "hello") "seen").2.1 _ _ same]
  rfl

end LogLayout
