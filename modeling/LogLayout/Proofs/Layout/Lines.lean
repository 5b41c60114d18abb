import LogLayout.Layout.Basic
import LogLayout.Proofs.Json.Printable
import LogLayout.Proofs.Normalize.FiniteNumbers

/- The line for an event is the text of its document. So with a sound table it is read back as the
   document, and with the standard one it is a single printable line. -/
namespace LogLayout

theorem collect_finite (n : Normalizer) (e : Event) (i : Nat) (out collected : List (String × Json))
    (slots : List Slot) (held : Json.finiteEntries out = true)
    (done : (collect n e i out slots).result = .ok collected) :
    Json.finiteEntries collected = true := by
  induction slots generalizing i out with
  | nil =>
    cases done
    exact held
  | cons slot slots ih =>
    unfold collect at done
    simp only at done
    split at done
    · cases done
    · rename_i next stored
      refine ih (i + 1) next ?_ done
      cases value : (slot.read e [i]).value with
      | none =>
        rw [value] at stored
        cases stored
        exact held
      | some d =>
        rw [value] at stored
        exact n.normalize_into_finite slot.name d out next held stored

namespace Layout

open Json

theorem document_finite (l : Layout) (e : Event) (value : Json)
    (done : (l.document e).result = .ok value) : value.finite = true := by
  have collected (done : ((collect l.normalizer e 0 [] l.slots).result.map Json.object) = .ok value) :
      value.finite = true := by
    obtain ⟨entries, inner, rfl⟩ := ok_of_map done
    exact collect_finite l.normalizer e 0 [] entries l.slots rfl inner
  unfold document at done
  simp only at done
  split at done
  · cases done
    rfl
  · split at done
    · simp only at done
      split at done
      · rename_i d _
        exact l.normalizer.normalize_finite d value done
      · cases done
        rfl
    · exact collected done
  · exact collected done

theorem format_of_document (l : Layout) (e : Event) (slots : l.slots ≠ []) (value : Json)
    (failures : List Failure) (document : l.document e = ⟨.ok value, failures⟩) :
    l.format e = ⟨.ok (l.encode value), failures⟩ := by
  rw [format_with_slots l e slots, document]
  rfl

theorem line_of_document (l : Layout) (e : Event) (line : String) (slots : l.slots ≠ [])
    (done : (l.format e).result = .ok line) :
    ∃ value, (l.document e).result = .ok value ∧ line = l.encode value := by
  rw [format_with_slots l e slots] at done
  simp only [Reading.map] at done
  cases document : (l.document e).result with
  | error failure =>
    rw [document] at done
    cases done
  | ok value =>
    rw [document] at done
    cases done
    exact ⟨value, rfl, rfl⟩

/-- Every line that a layout writes is one JSON value, the document of its event. -/
theorem line_read_back (l : Layout) (sound : l.table.Sound) (e : Event) (line : String)
    (slots : l.slots ≠ []) (done : (l.format e).result = .ok line) :
    ∃ value, (l.document e).result = .ok value ∧ decode line = some value := by
  obtain ⟨value, document, rfl⟩ := line_of_document l e line slots done
  have finite := l.document_finite e value document
  exact ⟨value, document, decode_of_faithful (table_faithful l.table sound) value finite⟩

/-- Whatever a value or an event holds, the standard escapes keep it on one printable line, also
    after some of them have been unset. -/
theorem standard_lines_safe (dropped : List Char) :
    (∀ value, SafeLine dropped (Json.encode (EscapeTable.standard.unsetAll dropped) value)) ∧
      ∀ (l : Layout) (e : Event) (line : String), l.slots ≠ [] →
        l.table = EscapeTable.standard.unsetAll dropped → (l.format e).result = .ok line →
        SafeLine dropped line := by
  refine ⟨encoded_safe dropped, ?_⟩
  intro l e line slots table done
  obtain ⟨value, _, rfl⟩ := line_of_document l e line slots done
  rw [encode, table]
  exact encoded_safe dropped value

def forgedEvent : Event :=
  Event.bare ⟨[], "app", .utc⟩ "a<b\n\x7fINFO" [("user", .text "\u2028")] ⟨0, 0⟩ "INFO" "core" "main"

theorem forged_line_safe :
    SafeLine ['<', '\n'] "\x7b\"m\":\"a<b\\n\\u007fINFO\",\"user\":\"\\u2028\"\x7d" :=
  (standard_lines_safe ['<', '\n']).2
    ⟨[.getter "m" fun e => .ok (some (.text e.message)), .bare "user"], {},
      EscapeTable.standard.unsetAll ['<', '\n']⟩
    forgedEvent _ (by simp) rfl (by rfl)

end Layout

end LogLayout
