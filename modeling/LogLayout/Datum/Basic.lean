import LogLayout.Calendar.Moment
import LogLayout.Number.Binary64

/- Raw values: the closed set of shapes that an event, a conversion or a field may hold before
   it is reduced to JSON. An object lists its own fields, and an object that contains itself
   says so by a reference outwards. -/
namespace LogLayout

/-- A signed duration: so many whole seconds, rounded down, and nanoseconds on top. -/
structure Span where
  seconds : Int
  nanos : Nat
  deriving DecidableEq, Repr

structure Uuid where
  value : Nat
  deriving DecidableEq, Repr

inductive Datum where
  | null
  | text (s : String)
  /-- Keys may repeat. -/
  | map (entries : List (String × Datum))
  | moment (m : Calendar.Moment)
  | span (d : Span)
  | char (c : Char)
  | chars (cs : List Char)
  | byte (b : UInt8)
  | bytes (bs : List UInt8)
  | int (n : Int)
  | uint (n : Nat)
  | float (x : Number.Binary64)
  | bool (b : Bool)
  | symbol (name : String)
  | uuid (id : Uuid)
  | uri (address : String)
  | stack (entries : List String)
  | seq (items : List Datum)
  | object (kind : String) (form : String) (fields : List (String × Datum))
  /-- The object so many objects further out. -/
  | enclosing (up : Nat)
  | shown (text : String)
  /-- A value whose text cannot be produced; only a description for developers exists. -/
  | unshowable (description : String)

namespace Datum

def isNull : Datum → Bool
  | .null => true
  | _ => false

def asText? : Datum → Option String
  | .text s => some s
  | _ => none

def ofOption (wrap : α → Datum) : Option α → Datum
  | some a => wrap a
  | none => .null

mutual
/-- Replaces the references that reach out of the given number of objects. -/
def resolve (whole : Datum) (level : Nat) : Datum → Datum
  | .map entries => .map (resolveEntries whole level entries)
  | .seq items => .seq (resolveItems whole level items)
  | .object kind form fields => .object kind form (resolveEntries whole (level + 1) fields)
  | .enclosing up => if up = level then whole else .enclosing up
  | d => d

def resolveEntries (whole : Datum) (level : Nat) : List (String × Datum) → List (String × Datum)
  | [] => []
  | (key, d) :: rest => (key, resolve whole level d) :: resolveEntries whole level rest

def resolveItems (whole : Datum) (level : Nat) : List Datum → List Datum
  | [] => []
  | d :: rest => resolve whole level d :: resolveItems whole level rest
end

/-- The fields of an object as they look when the object is opened: each reference to the object
    is the object again. -/
def openFields (kind form : String) (fields : List (String × Datum)) : List (String × Datum) :=
  resolveEntries (.object kind form fields) 0 fields

end Datum

namespace Span

def nanosPerSecond : Nat := 1000000000

/-- The greatest duration; longer unsigned ones are cut down to it. -/
def longest : Span := ⟨9223372036854775, 807000000⟩

def ofUnsigned (seconds nanos : Nat) : Span :=
  if seconds * nanosPerSecond + nanos ≤ 9223372036854775 * nanosPerSecond + 807000000 then
    ⟨seconds, nanos⟩
  else longest

def towardZero (d : Span) : Int × Int :=
  if d.seconds < 0 ∧ 0 < d.nanos then (d.seconds + 1, (d.nanos : Int) - nanosPerSecond)
  else (d.seconds, d.nanos)

/-- Both parts are rounded to binary numbers before they are added. -/
def asSeconds (d : Span) : Number.Binary64 :=
  let parts := d.towardZero
  let sum := (Number.Binary64.ofRatio parts.1.natAbs 1).addSizes
    (Number.Binary64.ofRatio parts.2.natAbs nanosPerSecond)
  if parts.1 < 0 ∨ parts.2 < 0 then sum.negate else sum

end Span

def Uuid.text (id : Uuid) : String :=
  let digits := Nat.toDigits 16 id.value
  let all := List.replicate (32 - digits.length) '0' ++ digits
  String.ofList (all.take 8 ++ '-' :: (all.drop 8).take 4 ++ '-' :: (all.drop 12).take 4 ++
    '-' :: (all.drop 16).take 4 ++ '-' :: all.drop 20)

end LogLayout
