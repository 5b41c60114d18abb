import LogLayout.Arrangement.Basic
import LogLayout.Arrangement.Escape
import LogLayout.Arrangement.Preset
import LogLayout.Template

/- The grammar of arrangement text. Segments are separated by semicolons; each is a bare name, a
   name with a conversion after a colon, a name with a literal or a nested text after an equals
   sign, a name with a template after a bar, a name with a conversion and its argument after a
   percent sign, or a reserved word or factory name before an exclamation mark. -/
namespace LogLayout

inductive Complaint where
  | missingConversionAfterColon | operatorInConversion | missingConversionAfterPercent
  | emptyNested | missingWord
  deriving DecidableEq, Repr

def Complaint.text : Complaint → String
  | .missingConversionAfterColon => "missing conversion name after ':'"
  | .operatorInConversion => "operator in conversion name"
  | .missingConversionAfterPercent => "missing conversion name after '%'"
  | .emptyNested => "empty nested spec"
  | .missingWord => "missing name before '!'"

inductive SpecError where
  | invalidEscape (segment : String) (offset : Nat)
  | unexpected (segment : String) (complaint : Complaint)
  | unknownWord (name : String)
  | unregistered (name : String)
  | invalidPattern (pattern : String) (error : PatternError)
  | factory (name message : String)
  deriving DecidableEq, Repr

def SpecError.message : SpecError → String
  | .invalidEscape segment offset =>
    "invalid escape at offset " ++ toString offset ++ " in '" ++ segment ++ "'"
  | .unexpected segment complaint => "unexpected input in '" ++ segment ++ "': " ++ complaint.text
  | .unknownWord name => "unknown reserved word '" ++ name ++ "'"
  | .unregistered name => "custom arrangement '" ++ name ++ "' is not registered"
  | .invalidPattern pattern .malformed => "invalid removal pattern '" ++ pattern ++ "'"
  | .invalidPattern pattern .tooLarge =>
    "invalid removal pattern '" ++ pattern ++ "': Compiled regex exceeds size limit of " ++
      toString NamePattern.Footprint.maxBytes ++ " bytes."
  | .factory name message => "custom arrangement '" ++ name ++ "' failed: " ++ message

abbrev Factory := String → Except String Arrangement

/-- Factories by name, in ascending order of the names. -/
abbrev Factories := List (String × Factory)

structure Context where
  conversions : Registry
  engine : Template.Engine
  factories : Factories
  presets : PresetTable

namespace Spec

def unescape (segment : List Char) : Except SpecError (List Char) :=
  (unescapeFrom id 0 segment).mapError (.invalidEscape (String.ofList segment))

def unescapeTemplate (segment : List Char) : Except SpecError (List Char) :=
  (unescapeFrom braced 0 segment).mapError (.invalidEscape (String.ofList segment))

def shorthand (segment : List Char) : List Char :=
  match String.ofList segment with
  | "DEFAULT" | "default" => "DEFAULT!".toList
  | "nxlog" => "DEFAULT!nxlog".toList
  | "CLEAR" => "CLEAR!".toList
  | _ => segment

def isWordChar (c : Char) : Bool := c.isAlphanum || c == '_' || c == '.' || c == ':'

def isWord (cs : List Char) : Bool := !cs.isEmpty && cs.all isWordChar

def isQualified (cs : List Char) : Bool :=
  cs.contains '.' || (cs.zip cs.tail).contains (':', ':')

def removal (pattern : String) : Except SpecError Arrangement :=
  if pattern = "" then .ok (.removal none)
  else
    match NamePattern.ofText pattern with
    | .ok p => .ok (.removal (some p))
    | .error e => .error (.invalidPattern pattern e)

def word (factories : Factories) (segment name option : List Char) : Except SpecError Arrangement :=
  let option := String.ofList option
  match String.ofList name with
  | "" => .error (.unexpected (String.ofList segment) .missingWord)
  | "CLEAR" | "REMOVE" => removal option
  | "DEFAULT" => .ok (.preset (if option = "" then none else some option))
  | custom =>
    match Keyed.get? custom factories with
    | some factory => (factory option).mapError (.factory custom)
    | none => .error (if isQualified name then .unregistered custom else .unknownWord custom)

def conversionMember (name conversion : List Char) (option : Option (List Char)) : Arrangement :=
  .member (.mk (String.ofList name)
    (.conversion (String.ofList conversion) (option.map String.ofList)))

def conversionWithOption (segment head rest : List Char) : Except SpecError Arrangement := do
  let (conversion, option) ← match findBare (· == ':') rest with
    | some found => do pure (found.head, some (← unescape found.rest))
    | none => pure (rest, none)
  let conversion ← unescape conversion
  if conversion.isEmpty then
    .error (.unexpected (String.ofList segment) .missingConversionAfterPercent)
  else
    let name ← unescape head
    pure (conversionMember name conversion option)

def assignment (nested : List Char → Except SpecError Arrangement)
    (segment head rest : List Char) : Except SpecError Arrangement := do
  let name ← unescape head
  let source ← match findBare isOperator rest with
    | none => do pure (Source.literal (String.ofList (← unescape rest)))
    | some _ =>
      match (← nested (innerText rest)) with
      | .member inner => pure (.nested inner)
      | .identity => .error (.unexpected (String.ofList segment) .emptyNested)
      | group => pure (.group group)
  pure (.member (.mk (String.ofList name) source))

def namedConversion (segment head rest : List Char) : Except SpecError Arrangement := do
  if rest.isEmpty then .error (.unexpected (String.ofList segment) .missingConversionAfterColon)
  else if (findBare isOperator rest).isSome then
    .error (.unexpected (String.ofList segment) .operatorInConversion)
  else
    let name ← unescape head
    let conversion ← unescape rest
    pure (conversionMember name conversion none)

def templateMember (head rest : List Char) : Except SpecError Arrangement := do
  let name ← unescape head
  let template ← unescapeTemplate rest
  pure (.member (.mk (String.ofList name) (.template (String.ofList template))))

/-- The word before the first bare exclamation mark, if it is one. -/
def leadingWord? (segment : List Char) : Option Found :=
  (findBare (· == '!') segment).filter fun found => isWord found.head

def parseSegment (factories : Factories) (nested : List Char → Except SpecError Arrangement)
    (segment : List Char) : Except SpecError Arrangement :=
  match leadingWord? segment with
  | some found => do word factories segment found.head (← unescape found.rest)
  | none =>
    match findBare isOperator segment with
    | none => do
      let name ← unescape segment
      pure (conversionMember name name none)
    | some ⟨head, operator, rest⟩ =>
      match operator with
      | ':' => namedConversion segment head rest
      | '=' => assignment nested segment head rest
      | '|' => templateMember head rest
      | '%' => conversionWithOption segment head rest
      | _ => do
        let name ← unescape head
        let option ← unescape rest
        word factories segment name option

def segments (cs : List Char) : List (List Char) :=
  ((pieces cs).map Text.trim).filter fun segment => !segment.isEmpty

/-- Text inside other text. Each level of nesting uses up at least one character, so as many
    levels as there are characters suffice. -/
def parseInner (factories : Factories) : Nat → List Char → Except SpecError Arrangement
  | 0, _ => .ok .identity
  | levels + 1, cs =>
    ((segments cs).mapM (parseSegment factories (parseInner factories levels))).map .ofList

def parseNested (factories : Factories) (spec : String) : Except SpecError Arrangement :=
  parseInner factories (spec.toList.length + 1) spec.toList

/-- Text as a user writes it, with the shorthands for whole segments. -/
def parse (factories : Factories) (spec : String) : Except SpecError Arrangement :=
  ((segments spec.toList).mapM fun segment =>
    parseSegment factories (parseInner factories spec.toList.length)
      (shorthand segment)).map .ofList

end Spec

end LogLayout
