import LogLayout.Arrangement.Grammar

/- What the library reports beside its results: the causes, how severe they are and their
   wording. -/
namespace LogLayout

inductive Notice where
  | tooNested (spec : String)
  | ignoredText (spec : String) (error : SpecError)
  | ignoredPiece (error : SpecError)
  | preset (notice : PresetNotice)
  | brokenTemplate (template member : String) (error : Template.TemplateError)
  | unknownConversion (name : String)
  | failedRead (member : String) (error : ConversionError)
  deriving DecidableEq, Repr

def maxNesting : Nat := 16

namespace Notice

def severity : Notice → Severity
  | .tooNested _ | .ignoredText _ _ | .ignoredPiece _ | .brokenTemplate _ _ _ => .error
  | .preset (.replaced _ _) => .warn
  | .preset (.none _) => .error
  | .unknownConversion _ | .failedRead _ _ => .warn

def body : Notice → String
  | .tooNested spec =>
    "arrangement nesting exceeds " ++ toString maxNesting ++ " levels at '" ++ spec ++ "'"
  | .ignoredText spec error => "ignoring arrangement '" ++ spec ++ "': " ++ error.message
  | .ignoredPiece error =>
    "ignoring invalid arrangement: " ++ "invalid arrangement: " ++ error.message
  | .preset (.replaced requested used) =>
    "preset '" ++ requested ++ "' not found, using '" ++ used ++ "'"
  | .preset (.none requested) =>
    "preset table is empty, '" ++ requested ++ "' applies nothing"
  | .brokenTemplate template member error =>
    "template '" ++ template ++ "' for member '" ++ member ++ "' failed to compile: " ++
      error.message
  | .unknownConversion name =>
    "unknown conversion '" ++ name ++ "', reading the event property instead"
  | .failedRead member error =>
    "member '" ++ member ++ "' failed to read its value: " ++ error.message ++
      "; further failures are not reported"

def message (n : Notice) : String := "JsonLayout: " ++ n.body

end Notice

end LogLayout
