import LogLayout.Json.Encode
import LogLayout.Layout.Slot
import LogLayout.Normalize

/- Layouts: the slots of a document, how raw values are reduced and how text is escaped. A layout
   reads an event into one JSON value and writes it down; it keeps nothing from one event to the
   next. The failures met on the way are part of the reading. -/
namespace LogLayout

structure Layout where
  slots : List Slot
  normalizer : Normalizer
  table : Json.EscapeTable

inductive FormatError where
  | normalization (e : NormalizeError)
  | sinkRefused
  deriving DecidableEq, Repr

def FormatError.message : FormatError → String
  | .normalization e => e.message
  | .sinkRefused => "failed to write formatted event"

structure Reading (α : Type) where
  result : α
  failures : List Failure

def Reading.map (f : α → β) (r : Reading α) : Reading β := ⟨f r.result, r.failures⟩

/-- A place to write to, with room for so many more bytes, if that is limited at all. -/
structure Sink where
  text : String
  room : Option Nat
  deriving DecidableEq, Repr

def Sink.write (s : Sink) (text : String) : Option Sink :=
  match s.room with
  | none => some ⟨s.text ++ text, none⟩
  | some room =>
    if text.utf8ByteSize ≤ room then some ⟨s.text ++ text, some (room - text.utf8ByteSize)⟩
    else none

/-- Adds the values of slots to a mapping in order, up to the first that cannot be normalised. -/
def collect (n : Normalizer) (e : Event) (i : Nat) (out : List (String × Json)) :
    List Slot → Reading (Except NormalizeError (List (String × Json)))
  | [] => ⟨.ok out, []⟩
  | slot :: rest =>
    let reading := slot.read e [i]
    match (reading.value.elim (.ok out) fun value => n.normalizeInto slot.name value out) with
    | .error failure => ⟨.error failure, reading.failures⟩
    | .ok out =>
      let others := collect n e (i + 1) out rest
      ⟨others.result, reading.failures ++ others.failures⟩

namespace Layout

def names (l : Layout) : List String := l.slots.map Slot.name

/-- Without slots the message is the document; a lone unnamed slot gives its own value. -/
def document (l : Layout) (e : Event) : Reading (Except NormalizeError Json) :=
  let collected := (collect l.normalizer e 0 [] l.slots).map fun result => result.map .object
  match l.slots with
  | [] => ⟨.ok (.text e.message), []⟩
  | [slot] =>
    if slot.name = "" then
      let reading := slot.read e [0]
      ⟨match reading.value with
        | some value => l.normalizer.normalize value
        | none => .ok .null, reading.failures⟩
    else collected
  | _ => collected

def encode (l : Layout) (value : Json) : String := Json.encode l.table value

def format (l : Layout) (e : Event) : Reading (Except FormatError String) :=
  if l.slots.isEmpty then ⟨.ok e.message, []⟩
  else (l.document e).map fun result => (result.map l.encode).mapError .normalization

def write (l : Layout) (e : Event) (sink : Sink) : Reading (Except FormatError Sink) :=
  (l.format e).map fun result => do
    match sink.write (← result) with
    | some sink => pure sink
    | none => .error .sinkRefused

theorem format_without_slots (l : Layout) (e : Event) (bare : l.slots = []) :
    l.format e = ⟨.ok e.message, []⟩ := by
  simp [format, bare]

theorem format_with_slots (l : Layout) (e : Event) (slots : l.slots ≠ []) :
    l.format e =
      (l.document e).map fun result => (result.map l.encode).mapError .normalization := by
  simp [format, slots]

end Layout

end LogLayout
