import LogLayout.Layout.Basic

/- What is reported over a run of events. A slot reports its first failure to read and no other, so
   each has a flag, known by the path of the slot. Reading an event can be watched: failures are
   then reported where they are met. Or the failures that came with a reading are gone through
   afterwards. -/
namespace LogLayout

abbrev Remark := List Nat × Notice

/-- The slots that have reported so far, and what has been said about the present event. -/
structure Journal where
  reported : List (List Nat)
  said : List Remark
  deriving DecidableEq, Repr

namespace Journal

def note (j : Journal) (remark : Remark) : Journal :=
  if remark.1 ∈ j.reported then j else ⟨remark.1 :: j.reported, j.said ++ [remark]⟩

def noteAll (j : Journal) (remarks : List Remark) : Journal := remarks.foldl note j

end Journal

/-- What failures give rise to, up to the one with which the work on the event ends. -/
def remarks : List Failure → List Remark
  | [] => []
  | ⟨path, member, .conversion error⟩ :: rest => (path, .failedRead member error) :: remarks rest
  | ⟨_, _, .abort⟩ :: _ => []

def aborted (failures : List Failure) : Bool := failures.any fun f => f.error = .abort

/-- Work on an event that reports as it goes. It has no result when a value has no text where
    text is needed. -/
abbrev Watch := OptionT (StateM Journal)

namespace Watch

def start (w : Watch α) (j : Journal) : Option α × Journal := w.run.run j

def report (path : List Nat) (member : String) : ReadError → Watch Unit
  | .conversion error => modify fun j => j.note (path, .failedRead member error)
  | .abort => failure

end Watch

mutual
def Slot.watch (e : Event) (path : List Nat) : Slot → Watch (Option Datum)
  | .bare name => pure (propertyNamed e name <|> nameText name)
  | .literal name value => pure (propertyNamed e name <|> some (.text value))
  | .getter name get =>
    match get e with
    | .ok value => pure (present value <|> propertyNamed e name)
    | .error error => do
      Watch.report path name error
      pure (propertyNamed e name)
  | .group name slots => do
    let entries ← watchSlots e path 0 slots
    pure (groupValue entries <|> propertyNamed e name)
  | .nested name inner => do
    let value ← inner.watch e path
    pure (present value <|> propertyNamed e name)

def watchSlots (e : Event) (path : List Nat) (i : Nat) :
    List Slot → Watch (List (String × Datum))
  | [] => pure []
  | slot :: rest => do
    let value ← slot.watch e (path ++ [i])
    let others ← watchSlots e path (i + 1) rest
    pure (groupEntries slot.name value ++ others)
end

def watchCollect (n : Normalizer) (e : Event) (i : Nat) (out : List (String × Json)) :
    List Slot → Watch (Except NormalizeError (List (String × Json)))
  | [] => pure (.ok out)
  | slot :: rest => do
    let value ← slot.watch e [i]
    match (value.elim (.ok out) fun value => n.normalizeInto slot.name value out) with
    | .error failure => pure (.error failure)
    | .ok out => watchCollect n e (i + 1) out rest

structure Outcome where
  result : Option (Except FormatError String)
  said : List Remark

namespace Layout

def watchDocument (l : Layout) (e : Event) : Watch (Except NormalizeError Json) :=
  let collected := do
    let result ← watchCollect l.normalizer e 0 [] l.slots
    pure (result.map .object)
  match l.slots with
  | [] => pure (.ok (.text e.message))
  | [slot] =>
    if slot.name = "" then do
      let value ← slot.watch e [0]
      pure (match value with
        | some value => l.normalizer.normalize value
        | none => .ok .null)
    else collected
  | _ => collected

def watch (l : Layout) (e : Event) : Watch (Except FormatError String) :=
  if l.slots.isEmpty then pure (.ok e.message)
  else do
    let result ← l.watchDocument e
    pure ((result.map l.encode).mapError .normalization)

/-- Formats one event after another; what has been reported is all that is carried along. -/
def run (l : Layout) (reported : List (List Nat)) : List Event → List Outcome
  | [] => []
  | e :: rest =>
    let (result, journal) := (l.watch e).start ⟨reported, []⟩
    ⟨result, journal.said⟩ :: l.run journal.reported rest

end Layout

end LogLayout
