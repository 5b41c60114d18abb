import LogLayout.Conversion.Basic
import LogLayout.Datum.Display
import LogLayout.Text.Utf8

/- Templates: text in which a percent sign starts a field. A field has an optional minus sign
   (align left), an optional width, a name of letters, digits and underscores, and an optional
   argument in braces; a doubled percent sign stands for itself. -/
namespace LogLayout.Template

def maxWidth : Nat := 1024

inductive TemplateError where
  | unknownConversion (name : String)
  /-- Offsets count the bytes of the text before the faulty character. -/
  | unterminatedOption (offset : Nat)
  | danglingPercent (offset : Nat)
  | invalidWidth (offset : Nat)
  deriving DecidableEq, Repr

def TemplateError.message : TemplateError → String
  | .unknownConversion name => "unknown conversion '" ++ name ++ "' in template"
  | .unterminatedOption offset => "unterminated option at offset " ++ toString offset
  | .danglingPercent offset => "dangling '%' at offset " ++ toString offset
  | .invalidWidth offset => "padding width at offset " ++ toString offset ++ " is larger than 1024"

structure Field where
  alignLeft : Bool
  width : Nat
  name : String
  option : Option String
  deriving DecidableEq, Repr

inductive Segment where
  | char (c : Char)
  | field (f : Field)
  deriving DecidableEq, Repr

def isNameChar (c : Char) : Bool := c.isAlphanum || c == '_'

structure FieldHead where
  alignLeft : Bool
  digits : List Char
  name : List Char
  rest : List Char

def readHead (cs : List Char) : FieldHead :=
  let alignLeft := cs.head? == some '-'
  let cs := if alignLeft then cs.tail else cs
  let afterDigits := cs.dropWhile Char.isDigit
  ⟨alignLeft, cs.takeWhile Char.isDigit, afterDigits.takeWhile isNameChar,
    afterDigits.dropWhile isNameChar⟩

def FieldHead.width (h : FieldHead) : Nat := Nat.ofDigitChars 10 h.digits 0

/-- The argument in braces and the text after it; nothing when the brace stays open. -/
def readOption : List Char → Option (Option (List Char) × List Char)
  | '\x7b' :: cs =>
    match cs.dropWhile (· ≠ '\x7d') with
    | [] => none
    | _ :: rest => some (some (cs.takeWhile (· ≠ '\x7d')), rest)
  | cs => some (none, cs)

def readField (known : String → Bool) (offset : Nat) (cs : List Char) :
    Except TemplateError (Field × List Char) :=
  let head := readHead cs
  if maxWidth < head.width then .error (.invalidWidth offset)
  else if head.name.isEmpty then .error (.danglingPercent offset)
  else
    match readOption head.rest with
    | none =>
      .error (.unterminatedOption (offset + 1 + (cs.length - head.rest.length)))
    | some (option, rest) =>
      let name := String.ofList head.name
      if known name then .ok (⟨head.alignLeft, head.width, name, option.map String.ofList⟩, rest)
      else .error (.unknownConversion name)

theorem read_head_shorter (cs : List Char) : (readHead cs).rest.length ≤ cs.length := by
  have drop : ∀ (p : Char → Bool) (l : List Char), (l.dropWhile p).length ≤ l.length := fun p l =>
    (List.dropWhile_suffix p).length_le
  simp only [readHead]
  refine Nat.le_trans (drop _ _) (Nat.le_trans (drop _ _) ?_)
  split <;> simp

theorem read_option_shorter (cs : List Char) (option : Option (List Char)) (rest : List Char)
    (read : readOption cs = some (option, rest)) : rest.length ≤ cs.length := by
  unfold readOption at read
  split at read
  · rename_i tail
    split at read
    · simp at read
    · rename_i d found
      simp only [Option.some.injEq, Prod.mk.injEq] at read
      have := (List.dropWhile_suffix (l := tail) (· ≠ '\x7d')).length_le
      rw [found] at this
      simp only [List.length_cons] at this ⊢
      rw [← read.2]
      omega
  · simp only [Option.some.injEq, Prod.mk.injEq] at read
    exact Nat.le_of_eq (congrArg List.length read.2.symm)

theorem read_field_shorter (known : String → Bool) (offset : Nat) (cs : List Char) (f : Field)
    (rest : List Char) (read : readField known offset cs = .ok (f, rest)) :
    rest.length ≤ cs.length := by
  simp only [readField] at read
  repeat' split at read
  all_goals try simp at read
  rename_i option tail found _
  rw [← read.2]
  exact Nat.le_trans (read_option_shorter _ _ _ found) (read_head_shorter cs)

def readFrom (known : String → Bool) (offset : Nat) (cs : List Char) :
    Except TemplateError (List Segment) :=
  match cs with
  | [] => .ok []
  | '%' :: '%' :: rest => (readFrom known (offset + 2) rest).map (.char '%' :: ·)
  | '%' :: rest =>
    match read : readField known offset rest with
    | .error e => .error e
    | .ok (f, tail) =>
      (readFrom known (offset + 1 + (Text.Utf8.width rest - Text.Utf8.width tail)) tail).map
        (.field f :: ·)
  | c :: rest => (readFrom known (offset + c.utf8Size) rest).map (.char c :: ·)
termination_by cs.length
decreasing_by
  · simp only [List.length_cons]; omega
  · have := read_field_shorter known offset rest f tail read
    simp only [List.length_cons]; omega
  · simp

def read (known : String → Bool) (template : String) : Except TemplateError (List Segment) :=
  readFrom known 0 template.toList

/-- Fills up to the width with blanks on the side away from the alignment. -/
def Field.pad (f : Field) (cs : List Char) : List Char :=
  let fill := List.replicate (f.width - cs.length) ' '
  if f.alignLeft then cs ++ fill else fill ++ cs

def Field.render (conversions : Registry) (e : Event) (f : Field) : Except ReadError (List Char) :=
  match conversions.get? f.name with
  | none => .ok (f.pad [])
  | some conversion =>
    match conversion e f.option with
    | .error failure => .error (.conversion failure)
    | .ok none => .ok (f.pad [])
    | .ok (some value) =>
      match value.display with
      | some text => .ok (f.pad text.toList)
      | none => .error .abort

def Segment.render (conversions : Registry) (e : Event) : Segment → Except ReadError (List Char)
  | .char c => .ok [c]
  | .field f => f.render conversions e

def renderAll (conversions : Registry) (e : Event) (segments : List Segment) :
    Except ReadError (List Char) :=
  (segments.mapM (Segment.render conversions e)).map List.flatten

abbrev Engine := String → Registry → Except TemplateError Getter

def compile : Engine := fun template conversions =>
  (read conversions.contains template).map fun segments e =>
    (renderAll conversions e segments).map fun cs => some (.text (String.ofList cs))

end LogLayout.Template
