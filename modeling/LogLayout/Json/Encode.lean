import LogLayout.Json.Escape
import LogLayout.Json.Value
import LogLayout.Number.Style

/- Compact JSON text: no blanks, entries in order, every string and key written character by
   character through one escaping function. -/
namespace LogLayout.Json

def quoted (escape : Char → List Char) (s : String) : List Char :=
  '"' :: (s.toList.flatMap escape ++ ['"'])

def intText (n : Int) : List Char :=
  if n < 0 then '-' :: Nat.toDigits 10 n.natAbs else Nat.toDigits 10 n.natAbs

mutual
def write (escape : Char → List Char) : Json → List Char
  | .null => ['n', 'u', 'l', 'l']
  | .text s => quoted escape s
  | .int n => intText n
  | .float x => (Number.jsonNumber.render x).toList
  | .bool true => ['t', 'r', 'u', 'e']
  | .bool false => ['f', 'a', 'l', 's', 'e']
  | .object entries => '\x7b' :: writeEntries escape true entries
  | .array items => '[' :: writeItems escape true items

def writeEntries (escape : Char → List Char) (first : Bool) : List (String × Json) → List Char
  | [] => ['\x7d']
  | (key, value) :: rest =>
    (if first then [] else [',']) ++ quoted escape key ++ ':' :: write escape value ++
      writeEntries escape false rest

def writeItems (escape : Char → List Char) (first : Bool) : List Json → List Char
  | [] => [']']
  | value :: rest =>
    (if first then [] else [',']) ++ write escape value ++ writeItems escape false rest
end

def encode (table : EscapeTable) (value : Json) : String := String.ofList (write table.escape value)

def encodePlain (value : Json) : String := String.ofList (write minimalEscape value)

end LogLayout.Json
