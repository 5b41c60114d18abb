import LogLayout.Calendar.Written
import LogLayout.Datum.Basic
import LogLayout.Number.Style
import LogLayout.Text.Utf8

/- The plain text of a raw value, as templates print it: texts are not quoted, mappings and
   sequences are bracketed, and one unprintable part leaves the whole without a text. -/
namespace LogLayout.Datum

def lossyText (bytes : List UInt8) : String := String.ofList (Text.Utf8.decodeLossy bytes)

mutual
def display : Datum → Option String
  | .null => some ""
  | .text s | .symbol s | .uri s | .shown s => some s
  | .map entries =>
    (displayEntries entries).map fun texts => "\x7b" ++ ", ".intercalate texts ++ "\x7d"
  | .moment m => some m.timestamp
  | .span d => some (Number.plain.render d.asSeconds)
  | .char c => some (String.ofList [c])
  | .chars cs => some (String.ofList cs)
  | .byte b => some (lossyText [b])
  | .bytes bs => some (lossyText bs)
  | .int n => some (toString n)
  | .uint n => some (toString n)
  | .float x => some (Number.plain.render x)
  | .bool b => some (if b then "true" else "false")
  | .uuid id => some id.text
  | .stack entries => some (" ".intercalate entries)
  | .seq items => (displayItems items).map fun texts => "[" ++ ", ".intercalate texts ++ "]"
  | .object _ form _ => some form
  | .enclosing _ => some ""
  | .unshowable _ => none

def displayEntries : List (String × Datum) → Option (List String)
  | [] => some []
  | (key, d) :: rest => do
    let text ← display d
    let texts ← displayEntries rest
    pure ((key ++ "=" ++ text) :: texts)

def displayItems : List Datum → Option (List String)
  | [] => some []
  | d :: rest => do
    let text ← display d
    let texts ← displayItems rest
    pure (text :: texts)
end

end LogLayout.Datum
