import LogLayout.Normalize

/- Filling a mapping in place. Entries are written one after another into the mapping that is there,
   and nothing takes back what has been written when the work fails. -/
namespace LogLayout

/-- Work on a mapping; what was written before it fails is not taken back. -/
abbrev Filling := ExceptT NormalizeError (StateM (List (String × Json)))

namespace Filling

def on (w : Filling α) (out : List (String × Json)) :
    Except NormalizeError α × List (String × Json) := w.run.run out

def put (key : String) (value : Json) : Filling Unit := modify (Keyed.insert key value)

end Filling

mutual
def Json.fill (path : String) : Json → Filling Unit
  | .object entries => Json.fillEntries path entries
  | .null => pure ()
  | .text s => Filling.put path (.text s)
  | .int n => Filling.put path (.int n)
  | .float x => Filling.put path (.float x)
  | .bool b => Filling.put path (.bool b)
  | .array items => Filling.put path (.array items)

def Json.fillEntries (path : String) : List (String × Json) → Filling Unit
  | [] => pure ()
  | (key, value) :: rest => do
    Json.fill (if path = "" then key else path ++ "." ++ key) value
    Json.fillEntries path rest
end

namespace Normalizer

def fill (n : Normalizer) (key : String) (d : Datum) : Filling Unit := do
  let value ← MonadExcept.ofExcept (n.nested d)
  if n.flatten then value.fill key
  else match value with
    | .object entries =>
      if key = "" then entries.forM fun entry => Filling.put entry.1 entry.2
      else Filling.put key (.object entries)
    | other => Filling.put key other

/-- Fills a mapping step by step and goes on after a step that fails. Gives how each step ended,
    and the mapping after the last one. -/
def fillAll (n : Normalizer) (out : List (String × Json)) :
    List (String × Datum) → List (Except NormalizeError Unit) × List (String × Json)
  | [] => ([], out)
  | (key, d) :: rest =>
    let (answer, next) := (n.fill key d).on out
    let (answers, last) := n.fillAll next rest
    (answer :: answers, last)

end Normalizer

end LogLayout
