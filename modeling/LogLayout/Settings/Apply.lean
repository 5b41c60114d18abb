import LogLayout.Layout.Builder
import LogLayout.Settings.Ini
import LogLayout.Text.Utf8

/- Settings of a layout kept as configuration text: the entries of one section are applied to a
   builder in the order in which they stand. -/
namespace LogLayout

inductive SettingsError where
  | ini (e : Ini.IniError)
  | absent
  | unreadable
  | missingSection
  | unknownKey (key : String)
  | invalidValue (key value : String)
  | spec (e : SpecError)
  deriving DecidableEq, Repr

def settingsSection : String := "layout"

def SettingsError.message : SettingsError → String
  | .ini e => "invalid INI: " ++ e.message
  | .absent => "the settings file does not exist"
  | .unreadable => "the settings file cannot be read as text"
  | .missingSection => "missing [" ++ settingsSection ++ "] section"
  | .unknownKey key => "unknown key '" ++ key ++ "' in [layout] section"
  | .invalidValue key value => "invalid value '" ++ value ++ "' for '" ++ key ++ "'"
  | .spec e => "invalid arrangement: " ++ e.message

namespace Settings

/-- The case of the letters A to Z does not matter. -/
def readSwitch? (value : String) : Option Bool :=
  match String.ofList (value.toList.map Char.toLower) with
  | "true" | "yes" | "on" | "1" => some true
  | "false" | "no" | "off" | "0" => some false
  | _ => none

def greatestDepth : Nat := 18446744073709551615

def readDepth? (value : String) : Option Nat :=
  let digits := match value.toList with
    | '+' :: rest => rest
    | cs => cs
  let depth := Nat.ofDigitChars 10 digits 0
  if !digits.isEmpty && digits.all Char.isDigit && depth ≤ greatestDepth then some depth else none

def readMember (factories : Factories) (key value : String) : Except SettingsError Member :=
  match Spec.parse factories value with
  | .ok (.member m) => .ok m
  | .ok _ => .error (.invalidValue key value)
  | .error e => .error (.spec e)

def applyEntry (b : Builder) (key value : String) : Except SettingsError Builder :=
  let orInvalid {α : Type} (read : Option α) (set : α → Builder) : Except SettingsError Builder :=
    match read with
    | some a => .ok (set a)
    | none => .error (.invalidValue key value)
  match key with
  | "arrangement" => .ok (b.addSpec value)
  | "member" => (readMember b.factories key value).map b.addMember
  | "flatten" => orInvalid (readSwitch? value) fun on =>
    { b with normalizer := { b.normalizer with flatten := on } }
  | "type_key" => .ok { b with normalizer := { b.normalizer with typeKey := some value } }
  | "string_key" => .ok { b with normalizer := { b.normalizer with stringKey := some value } }
  | "max_depth" => orInvalid (readDepth? value) fun depth =>
    { b with normalizer := { b.normalizer with maxDepth := depth } }
  | _ => .error (.unknownKey key)

def applyEntries (b : Builder) (entries : List (String × String)) : Except SettingsError Builder :=
  entries.foldlM (fun b entry => applyEntry b entry.1 (Ini.trimmed entry.2.toList)) b

def applyText (b : Builder) (text : String) : Except SettingsError Builder := do
  let items ← (Ini.read text).mapError .ini
  match Ini.sectionEntries? settingsSection items with
  | none => .error .missingSection
  | some entries => applyEntries b entries

inductive FileContent where
  | absent
  | unreadable
  | bytes (bs : List UInt8)
  deriving DecidableEq, Repr

/-- The text of a file has to be well-formed UTF-8. -/
def FileContent.text : FileContent → Except SettingsError String
  | .absent => .error .absent
  | .unreadable => .error .unreadable
  | .bytes bs =>
    match Text.Utf8.decode? bs with
    | some cs => .ok (String.ofList cs)
    | none => .error .unreadable

def applyFile (b : Builder) (file : FileContent) : Except SettingsError Builder := do
  applyText b (← file.text)

end Settings

end LogLayout
