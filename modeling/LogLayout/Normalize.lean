import LogLayout.Datum.Display
import LogLayout.Json.Value

/- Reduction of raw values to JSON. Each container counts as one level of depth; a value below
   the allowed depth is an error, which also stops objects that contain themselves. Flattening
   turns nested objects into one level of keys joined by dots and drops nulls. -/
namespace LogLayout

structure Normalizer where
  flatten : Bool := false
  typeKey : Option String := none
  stringKey : Option String := none
  maxDepth : Nat := 64
  deriving DecidableEq, Repr

inductive NormalizeError where
  | tooDeep (limit : Nat)
  | unshowable (description : String)
  deriving DecidableEq, Repr

def NormalizeError.message : NormalizeError → String
  | .tooDeep limit => "value nesting exceeds the maximum depth of " ++ toString limit
  | .unshowable description => "opaque value could not be rendered as text: " ++ description

/-- Only finite numbers are JSON numbers; the others stay as text. -/
def Json.ofFloat (x : Number.Binary64) : Json :=
  if x.isFinite then .float x else .text (Number.plain.render x)

mutual
def Json.flattenInto (path : String) (out : List (String × Json)) : Json → List (String × Json)
  | .object entries => Json.flattenEntries path out entries
  | .null => out
  | .text s => Keyed.insert path (.text s) out
  | .int n => Keyed.insert path (.int n) out
  | .float x => Keyed.insert path (.float x) out
  | .bool b => Keyed.insert path (.bool b) out
  | .array items => Keyed.insert path (.array items) out

def Json.flattenEntries (path : String) (out : List (String × Json)) :
    List (String × Json) → List (String × Json)
  | [] => out
  | (key, value) :: rest =>
    let inner := if path = "" then key else path ++ "." ++ key
    Json.flattenEntries path (Json.flattenInto inner out value) rest
end

namespace Normalizer

def injectType (n : Normalizer) (kind : String) : List (String × Json) :=
  match n.typeKey with
  | some key => [(key, .text kind)]
  | none => []

def injectText (n : Normalizer) (form : String) (out : List (String × Json)) :
    List (String × Json) :=
  match n.stringKey with
  | some key => Keyed.insert key (.text form) out
  | none => out

def entriesWith (normalize : Datum → Except NormalizeError Json) (start : List (String × Json))
    (entries : List (String × Datum)) : Except NormalizeError (List (String × Json)) :=
  entries.foldlM (fun out entry => do
    let value ← normalize entry.2
    pure (Keyed.insert entry.1 value out)) start

/-- One level of a value, given how the level below it is normalised. -/
def level (n : Normalizer) (below : Datum → Except NormalizeError Json) :
    Datum → Except NormalizeError Json
  | .null | .enclosing _ => .ok .null
  | .text s | .symbol s | .uri s | .shown s => .ok (.text s)
  | .map entries => (entriesWith below [] entries).map .object
  | .moment m => .ok (.text m.timestamp)
  | .span d => .ok (Json.ofFloat d.asSeconds)
  | .char c => .ok (.text (String.ofList [c]))
  | .chars cs => .ok (.text (String.ofList cs))
  | .byte b => .ok (.text (Datum.lossyText [b]))
  | .bytes bs => .ok (.text (Datum.lossyText bs))
  | .int i => .ok (.int i)
  | .uint i => .ok (.int i)
  | .float x => .ok (Json.ofFloat x)
  | .bool b => .ok (.bool b)
  | .uuid id => .ok (.text id.text)
  | .stack entries => .ok (.text (" ".intercalate entries))
  | .seq items => (items.mapM below).map .array
  | .object kind form fields =>
    (entriesWith below (n.injectType kind) (Datum.openFields kind form fields)).map fun out =>
      .object (n.injectText form out)
  | .unshowable description => .error (.unshowable description)

/-- The first argument counts the levels still allowed. -/
def levels (n : Normalizer) : Nat → Datum → Except NormalizeError Json
  | 0 => fun _ => .error (.tooDeep n.maxDepth)
  | allowed + 1 => n.level (levels n allowed)

def nested (n : Normalizer) (d : Datum) : Except NormalizeError Json := n.levels (n.maxDepth + 1) d

def normalize (n : Normalizer) (d : Datum) : Except NormalizeError Json :=
  (n.nested d).map fun value =>
    match n.flatten, value with
    | true, .object entries => .object (Json.flattenEntries "" [] entries)
    | _, _ => value

/-- Stores a value under a key; under the empty key an object is spliced in. -/
def store (n : Normalizer) (key : String) (out : List (String × Json)) (value : Json) :
    List (String × Json) :=
  if n.flatten then value.flattenInto key out
  else match value with
    | .object entries =>
      if key = "" then Keyed.insertAll out entries else Keyed.insert key value out
    | _ => Keyed.insert key value out

def normalizeInto (n : Normalizer) (key : String) (d : Datum) (out : List (String × Json)) :
    Except NormalizeError (List (String × Json)) :=
  (n.nested d).map (n.store key out)

end Normalizer

end LogLayout
