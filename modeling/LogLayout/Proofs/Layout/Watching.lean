import LogLayout.Layout.Report

/- Watching an event comes to the same as reading it and going through the failures of the reading
   afterwards. So what is written for an event depends on the event alone, and what has been
   reported decides only about further reports. -/
namespace LogLayout

theorem aborted_append (xs ys : List Failure) :
    aborted (xs ++ ys) = (aborted xs || aborted ys) := List.any_append

theorem remarks_append (xs ys : List Failure) :
    remarks (xs ++ ys) = remarks xs ++ if aborted xs then [] else remarks ys := by
  induction xs with
  | nil => simp [remarks, aborted]
  | cons f xs ih =>
    obtain ⟨path, member, error⟩ := f
    cases error with
    | conversion error =>
      simp only [List.cons_append, remarks, ih]
      simp [aborted]
    | abort => simp [remarks, aborted]

namespace Journal

theorem note_all_append (j : Journal) (xs ys : List Remark) :
    j.noteAll (xs ++ ys) = (j.noteAll xs).noteAll ys := List.foldl_append

end Journal

namespace Watch

theorem start_bind_some {w : Watch α} {f : α → Watch β} {j after : Journal} {a : α}
    (done : w.start j = (some a, after)) : (w >>= f).start j = (f a).start after := by
  simp only [start, OptionT.run_bind, StateT.run_bind, Option.elimM] at done ⊢
  rw [done]
  rfl

theorem start_bind_none {w : Watch α} {f : α → Watch β} {j after : Journal}
    (ended : w.start j = (none, after)) : (w >>= f).start j = (none, after) := by
  simp only [start, OptionT.run_bind, StateT.run_bind, Option.elimM] at ended ⊢
  rw [ended]
  rfl

/-- The work has the result of the reading and reports its failures, up to the one that ends it. -/
def Replays (w : Watch α) (r : Reading α) : Prop :=
  ∀ j : Journal,
    w.start j = (if aborted r.failures then none else some r.result, j.noteAll (remarks r.failures))

theorem replays_pure (a : α) : Replays (pure a) ⟨a, []⟩ := by
  intro j
  rfl

theorem replays_report (path : List Nat) (member : String) (error : ReadError) :
    Replays (report path member error) ⟨(), [⟨path, member, error⟩]⟩ := by
  intro j
  cases error with
  | conversion error => rfl
  | abort => rfl

theorem replays_bind {w : Watch α} {r : Reading α} {f : α → Watch β} {s : Reading β}
    (first : Replays w r) (second : Replays (f r.result) s) :
    Replays (w >>= f) ⟨s.result, r.failures ++ s.failures⟩ := by
  intro j
  have begun := first j
  simp only [aborted_append, remarks_append]
  cases ended : aborted r.failures with
  | true =>
    rw [ended] at begun
    rw [start_bind_none begun]
    simp
  | false =>
    rw [ended] at begun
    rw [start_bind_some begun, second]
    simp [Journal.note_all_append]

theorem replays_bind_pure {w : Watch α} {r : Reading α} {f : α → Watch β} {b : β}
    (first : Replays w r) (rest : f r.result = pure b) :
    Replays (w >>= f) ⟨b, r.failures⟩ := by
  have second : Replays (f r.result) ⟨b, []⟩ := by
    rw [rest]
    exact replays_pure b
  simpa using replays_bind first second

theorem replays_map {w : Watch α} {r : Reading α} (f : α → β) (first : Replays w r) :
    Replays (w >>= fun a => pure (f a)) (r.map f) :=
  replays_bind_pure first rfl

end Watch

open Watch

def SlotReading.reading (r : SlotReading) : Reading (Option Datum) := ⟨r.value, r.failures⟩

mutual
theorem slot_replays (e : Event) (path : List Nat) :
    (slot : Slot) → Replays (slot.watch e path) (slot.read e path).reading
  | .bare name => by
    simp only [Slot.watch, Slot.read]
    exact replays_pure _
  | .literal name value => by
    simp only [Slot.watch, Slot.read]
    exact replays_pure _
  | .getter name get => by
    simp only [Slot.watch, Slot.read]
    cases get e with
    | ok value => exact replays_pure _
    | error error => exact replays_map _ (replays_report path name error)
  | .group name slots => by
    simp only [Slot.watch, Slot.read]
    exact replays_map _ (slots_replay e path 0 slots)
  | .nested name inner => by
    simp only [Slot.watch, Slot.read]
    exact replays_map _ (slot_replays e path inner)

theorem slots_replay (e : Event) (path : List Nat) (i : Nat) :
    (slots : List Slot) →
      Replays (watchSlots e path i slots)
        ⟨(readSlots e path i slots).1, (readSlots e path i slots).2⟩
  | [] => by
    simp only [watchSlots, readSlots]
    exact replays_pure _
  | slot :: rest => by
    simp only [watchSlots, readSlots]
    exact replays_bind
      (f := fun value => watchSlots e path (i + 1) rest >>= fun others =>
        pure (groupEntries slot.name value ++ others))
      (slot_replays e (path ++ [i]) slot) (replays_map _ (slots_replay e path (i + 1) rest))
end

theorem collect_replays (n : Normalizer) (e : Event) (i : Nat) (out : List (String × Json))
    (slots : List Slot) : Replays (watchCollect n e i out slots) (collect n e i out slots) := by
  induction slots generalizing i out with
  | nil => exact replays_pure _
  | cons slot rest ih =>
    unfold watchCollect collect
    have first := slot_replays e [i] slot
    simp only
    split
    · rename_i failure stored
      exact replays_bind_pure first (by simp only [SlotReading.reading, stored])
    · rename_i next stored
      have others := ih (i + 1) next
      refine replays_bind first ?_
      simpa only [SlotReading.reading, stored] using others

theorem document_replays (l : Layout) (e : Event) : Replays (l.watchDocument e) (l.document e) := by
  obtain ⟨slots, n, table⟩ := l
  have collected := replays_map (fun result => result.map Json.object)
    (collect_replays n e 0 [] slots)
  rcases slots with _ | ⟨slot, _ | ⟨other, rest⟩⟩
  · exact replays_pure _
  · simp only [Layout.watchDocument, Layout.document]
    split
    · exact replays_map _ (slot_replays e [0] slot)
    · exact collected
  · exact collected

theorem format_replays (l : Layout) (e : Event) : Replays (l.watch e) (l.format e) := by
  unfold Layout.watch Layout.format
  split
  · exact replays_pure _
  · exact replays_map _ (document_replays l e)

end LogLayout
