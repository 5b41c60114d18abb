import LogLayout.Json.Escape

/- Strings written run by run. A serializer cuts a string into fragments and the characters that
   JSON wants escaped between them. In a fragment the runs that stay as they are get copied whole;
   places are counted in bytes, and a slice that does not fall on characters is a fault. -/
namespace LogLayout.Json

open String (Pos.Raw)

structure SliceFault where
  first : Pos.Raw
  last : Pos.Raw
  deriving DecidableEq, Repr

def slice (s : String) (first last : Pos.Raw) : Except SliceFault String :=
  if first ≤ last ∧ first.isValid s ∧ last.isValid s then .ok (first.extract s last)
  else .error ⟨first, last⟩

def places (place : Pos.Raw) : List Char → List (Pos.Raw × Char)
  | [] => []
  | c :: cs => (place, c) :: places (place + c) cs

structure Write where
  first : Pos.Raw
  last : Pos.Raw
  text : String
  deriving DecidableEq, Repr

namespace EscapeTable

def replacement? (t : EscapeTable) (c : Char) : Option String :=
  match t.get? c with
  | some replacement => some replacement
  | none => if isPrintableAscii c then none else some (String.ofList (unicodeEscape c))

/-- The run that begins at `start` grows until a character is replaced. -/
def writeRuns (t : EscapeTable) (fragment : String) :
    List (Pos.Raw × Char) → Pos.Raw → Except SliceFault (List Write)
  | [], start => do
    let run ← slice fragment start fragment.rawEndPos
    return [⟨start, fragment.rawEndPos, run⟩]
  | (i, c) :: rest, start =>
    match t.replacement? c with
    | none => t.writeRuns fragment rest start
    | some replacement => do
      let run ← slice fragment start i
      let later ← t.writeRuns fragment rest (i + c)
      return ⟨start, i, run⟩ :: ⟨i, i + c, replacement⟩ :: later

def writeFragment (t : EscapeTable) (fragment : String) : Except SliceFault (List Write) :=
  t.writeRuns fragment (places 0 fragment.toList) 0

end EscapeTable

inductive CharEscape where
  | quote
  | reverseSolidus
  | solidus
  | backspace
  | formFeed
  | lineFeed
  | carriageReturn
  | tab
  | asciiControl (byte : UInt8)
  deriving DecidableEq, Repr

def CharEscape.char : CharEscape → Char
  | .quote => '"'
  | .reverseSolidus => '\\'
  | .solidus => '/'
  | .backspace => Char.ofNat 8
  | .formFeed => Char.ofNat 12
  | .lineFeed => '\n'
  | .carriageReturn => '\r'
  | .tab => '\t'
  | .asciiControl byte => Char.ofNat byte.toNat

inductive Call where
  | fragment (run : String)
  | escape (e : CharEscape)
  deriving DecidableEq, Repr

def Call.chars : Call → List Char
  | .fragment run => run.toList
  | .escape e => [e.char]

/-- How a string is cut, and the escapes that are written where a table has none of its own. -/
structure Serializer where
  calls : String → List Call
  compact : CharEscape → String

namespace Serializer

def writeCall (z : Serializer) (t : EscapeTable) : Call → Except SliceFault String
  | .fragment run => do
    let writes ← t.writeFragment run
    return String.join (writes.map Write.text)
  | .escape e => .ok ((t.get? e.char).getD (z.compact e))

def writeString (z : Serializer) (t : EscapeTable) (s : String) : Except SliceFault String := do
  let written ← (z.calls s).mapM (z.writeCall t)
  return "\"" ++ String.join written ++ "\""

end Serializer

end LogLayout.Json
