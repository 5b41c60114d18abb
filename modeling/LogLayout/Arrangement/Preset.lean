import LogLayout.Keyed

/- Presets: member lists kept as arrangement text under keys, in the order in which the keys came.
   A request that finds nothing falls back to the canonical key and then to the first one. -/
namespace LogLayout

structure PresetTable where
  entries : List (String × String)
  defaultKey : String
  deriving DecidableEq, Repr

inductive PresetNotice where
  | replaced (requested used : String)
  | none (requested : String)
  deriving DecidableEq, Repr

namespace PresetTable

def canonicalKey : String := "DEFAULT"

def empty : PresetTable := ⟨[], canonicalKey⟩

def get? (t : PresetTable) (key : String) : Option String := Keyed.get? key t.entries

def keys (t : PresetTable) : List String := Keyed.keys t.entries

def insert (t : PresetTable) (key spec : String) : PresetTable :=
  { t with entries := Keyed.insert key spec t.entries }

def erase (t : PresetTable) (key : String) : PresetTable :=
  { t with entries := Keyed.erase key t.entries }

def remove (t : PresetTable) (key : String) : Option String × PresetTable :=
  (t.get? key, t.erase key)

def setDefault (t : PresetTable) (key : String) : PresetTable := { t with defaultKey := key }

def standard : PresetTable :=
  (empty.insert canonicalKey
    ("date:date;level:level;appname:appname;logger:logger;thread:thread;ndc:ndc;" ++
      "message:message;exception:exception")).insert "nxlog"
    ("EventTime%utcdate:%Y-%m-%d %H:%M:%S;Hostname:hostname;Severity:level;SourceName:appname;" ++
      "Logger:logger;Thread:thread;Ndc:ndc;Message:message;Exception:exception")

/-- The key that serves a request and its text, with what there is to report about the choice. -/
def choose (t : PresetTable) (request : Option String) :
    Option (String × String) × Option PresetNotice :=
  let requested := request.getD t.defaultKey
  match t.get? requested with
  | some spec => (some (requested, spec), none)
  | none =>
    match t.get? canonicalKey, t.entries with
    | some spec, _ => (some (canonicalKey, spec), some (.replaced requested canonicalKey))
    | none, (first, spec) :: _ => (some (first, spec), some (.replaced requested first))
    | none, [] => (none, some (.none requested))

inductive Update where
  | insert (key spec : String)
  | remove (key : String)
  | makeDefault (key : String)
  deriving DecidableEq, Repr

def update (t : PresetTable) : Update → PresetTable
  | .insert key spec => t.insert key spec
  | .remove key => (t.remove key).2
  | .makeDefault key => t.setDefault key

def run (t : PresetTable) (updates : List Update) : PresetTable := updates.foldl update t

/-- Changes to the table that all layouts of a program share. -/
inductive Change where
  | register (key spec : String)
  | makeDefault (key : String)
  | reset
  deriving DecidableEq, Repr

def change (t : PresetTable) : Change → PresetTable
  | .register key spec => t.insert key spec
  | .makeDefault key => t.setDefault key
  | .reset => standard

def runShared (t : PresetTable) (changes : List Change) : PresetTable := changes.foldl change t

theorem choose_empty (t : PresetTable) (request : Option String) (none_held : t.entries = []) :
    t.choose request = (none, some (.none (request.getD t.defaultKey))) := by
  simp [choose, get?, none_held, Keyed.get?]

end PresetTable

end LogLayout
