import LogLayout.NamePattern.Reader
import LogLayout.NamePattern.Search
import LogLayout.NamePattern.Footprint

/- Patterns for names: regular expressions that match anywhere in a name. Patterns are compared by
   their texts. -/
namespace LogLayout

structure NamePattern where
  text : String
  regex : NamePattern.Regex
  deriving DecidableEq, Repr

inductive PatternError where
  | malformed
  | tooLarge
  deriving DecidableEq, Repr

namespace NamePattern

def ofText (text : String) : Except PatternError NamePattern :=
  match readRegex text.toList with
  | none => .error .malformed
  | some regex => if regex.tooLarge then .error .tooLarge else .ok ⟨text, regex⟩

def accepts (p : NamePattern) (name : String) : Bool := p.regex.search name.toList

end NamePattern

end LogLayout
