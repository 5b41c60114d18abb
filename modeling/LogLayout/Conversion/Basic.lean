import LogLayout.Event

/- Conversions read a value off an event, guided by an optional argument; a registry holds them
   by name. A getter is a conversion whose argument is fixed. Reading may also be cut short by
   a value that has no text where text is needed, which no conversion can report itself. -/
namespace LogLayout

inductive ConversionError where
  | invalidDateFormat (pattern : String)
  | failed (text : String)
  deriving DecidableEq, Repr

def ConversionError.message : ConversionError → String
  | .invalidDateFormat pattern => "invalid date format: " ++ pattern
  | .failed text => text

inductive ReadError where
  | conversion (e : ConversionError)
  /-- The program cannot go on after this one. -/
  | abort
  deriving DecidableEq, Repr

abbrev Conversion := Event → Option String → Except ConversionError (Option Datum)

abbrev Getter := Event → Except ReadError (Option Datum)

def Conversion.bind (conversion : Conversion) (option : Option String) : Getter := fun e =>
  (conversion e option).mapError .conversion

def propertyGetter (name : String) : Getter := fun e => .ok (e.property? name)

structure Registry where
  entries : List (String × Conversion)
  ascending : Keyed.Ascending entries

namespace Registry

def empty : Registry := ⟨[], .nil⟩

def get? (r : Registry) (name : String) : Option Conversion := Keyed.get? name r.entries

def contains (r : Registry) (name : String) : Bool := (r.get? name).isSome

def names (r : Registry) : List String := Keyed.keys r.entries

def register (r : Registry) (name : String) (conversion : Conversion) : Registry :=
  ⟨Keyed.insertSorted name conversion r.entries, Keyed.insert_sorted_ascending r.ascending ..⟩

def addMissing (r : Registry) (name : String) (conversion : Conversion) : Registry :=
  if r.contains name then r else r.register name conversion

/-- Names that are already registered keep their conversions. -/
def merge (r other : Registry) : Registry :=
  other.entries.foldl (fun merged entry => merged.addMissing entry.1 entry.2) r

theorem get_register (r : Registry) (name other : String) (conversion : Conversion) :
    (r.register name conversion).get? other =
      if name = other then some conversion else r.get? other := by
  simp [register, get?]

theorem merge_keeps (r other : Registry) (name : String) (conversion : Conversion)
    (held : r.get? name = some conversion) : (r.merge other).get? name = some conversion := by
  unfold merge
  generalize other.entries = entries
  induction entries generalizing r with
  | nil => exact held
  | cons entry rest ih =>
    apply ih
    change (r.addMissing entry.1 entry.2).get? name = some conversion
    unfold addMissing
    split
    · exact held
    · rename_i absent
      rw [get_register]
      split
      · rename_i same; subst same; simp [contains, held] at absent
      · exact held

end Registry

end LogLayout
