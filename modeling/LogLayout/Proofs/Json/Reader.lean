import LogLayout.Json.Value

/- A reader of JSON texts. It takes every text of the grammar, at any depth of nesting and with
   blanks between the tokens, and nothing else. Objects keep their entries in the order of the
   text. A number without point and exponent is a whole number of any size; another one becomes
   the nearest binary number and has to be finite. -/
namespace LogLayout.Json

def hexValue? (c : Char) : Option Nat :=
  if c.isDigit then some (c.toNat - 48)
  else if 97 ≤ c.toNat ∧ c.toNat ≤ 102 then some (c.toNat - 87)
  else if 65 ≤ c.toNat ∧ c.toNat ≤ 70 then some (c.toNat - 55)
  else none

def readUnit : List Char → Option (Nat × List Char)
  | a :: b :: c :: d :: rest => do
    let a ← hexValue? a
    let b ← hexValue? b
    let c ← hexValue? c
    let d ← hexValue? d
    pure (((a * 16 + b) * 16 + c) * 16 + d, rest)
  | _ => none

def isHigh (unit : Nat) : Bool := 0xD800 ≤ unit && unit < 0xDC00

def isLow (unit : Nat) : Bool := 0xDC00 ≤ unit && unit < 0xE000

def readLow (high : Nat) : List Char → Option (Char × List Char)
  | '\\' :: 'u' :: cs => do
    let (low, rest) ← readUnit cs
    if isLow low then
      pure (Char.ofNat (0x10000 + (high - 0xD800) * 0x400 + (low - 0xDC00)), rest)
    else none
  | _ => none

/-- A character given by its code unit or by a surrogate pair; half a pair is no character. -/
def readUnits (cs : List Char) : Option (Char × List Char) := do
  let (unit, rest) ← readUnit cs
  if isHigh unit then readLow unit rest
  else if isLow unit then none
  else pure (Char.ofNat unit, rest)

def shortEscape? : Char → Option Char
  | '"' => some '"'
  | '\\' => some '\\'
  | '/' => some '/'
  | 'b' => some '\x08'
  | 'f' => some '\x0c'
  | 'n' => some '\n'
  | 'r' => some '\r'
  | 't' => some '\t'
  | _ => none

def readChar : List Char → Option (Char × List Char)
  | [] => none
  | ['\\'] => none
  | '\\' :: c :: rest =>
    if c = 'u' then readUnits rest else (shortEscape? c).map fun d => (d, rest)
  | c :: rest => if c = '"' ∨ c.toNat < 32 then none else some (c, rest)

def readString : Nat → List Char → Option (List Char × List Char)
  | 0, _ => none
  | fuel + 1, cs =>
    match cs with
    | '"' :: rest => some ([], rest)
    | cs => do
      let (c, rest) ← readChar cs
      let (cs, rest) ← readString fuel rest
      pure (c :: cs, rest)

def readDigits (cs : List Char) : Option (List Char × List Char) :=
  if (cs.takeWhile Char.isDigit).isEmpty then none
  else some (cs.takeWhile Char.isDigit, cs.dropWhile Char.isDigit)

def readWhole (cs : List Char) : Option (List Char × List Char) :=
  (readDigits cs).filter fun found => found.1.head? != some '0' || found.1.length == 1

def readFraction : List Char → Option (List Char × List Char)
  | '.' :: cs => readDigits cs
  | cs => some ([], cs)

def readSigned : List Char → Option (Int × List Char)
  | '-' :: cs => (readDigits cs).map fun found => (-(Nat.ofDigitChars 10 found.1 0 : Int), found.2)
  | '+' :: cs => (readDigits cs).map fun found => (Nat.ofDigitChars 10 found.1 0, found.2)
  | cs => (readDigits cs).map fun found => (Nat.ofDigitChars 10 found.1 0, found.2)

def readExponent : List Char → Option (Option Int × List Char)
  | 'e' :: cs => (readSigned cs).map fun found => (some found.1, found.2)
  | 'E' :: cs => (readSigned cs).map fun found => (some found.1, found.2)
  | cs => some (none, cs)

/-- The number digits * 10^exponent; it is whole when it has no point and no exponent. -/
structure Size where
  digits : Nat
  exponent : Int
  whole : Bool
  deriving DecidableEq, Repr

def readSize (cs : List Char) : Option (Size × List Char) := do
  let (whole, cs) ← readWhole cs
  let (fraction, cs) ← readFraction cs
  let (exponent, cs) ← readExponent cs
  pure (⟨Nat.ofDigitChars 10 (whole ++ fraction) 0, exponent.getD 0 - fraction.length,
    fraction.isEmpty && exponent.isNone⟩, cs)

def Size.nearest (s : Size) : Number.Binary64 :=
  Number.Binary64.ofRatio (s.digits * Nat.pow 10 s.exponent.toNat) (Nat.pow 10 (-s.exponent).toNat)

def Size.number? (s : Size) (negative : Bool) : Option Json :=
  if s.whole then some (.int (if negative then -(s.digits : Int) else s.digits))
  else
    let x := if negative then s.nearest.negate else s.nearest
    if x.isFinite then some (.float x) else none

def readNumber (cs : List Char) : Option (Json × List Char) :=
  let negative := cs.head? == some '-'
  do
    let (size, rest) ← readSize (if negative then cs.tail else cs)
    let number ← size.number? negative
    pure (number, rest)

def skipBlanks (cs : List Char) : List Char :=
  cs.dropWhile fun c => c == ' ' || c == '\t' || c == '\n' || c == '\r'

def readWord : List Char → List Char → Option (List Char)
  | [], cs => some cs
  | w :: word, c :: cs => if w = c then readWord word cs else none
  | _ :: _, [] => none

mutual
/-- Each value in a value uses up at least one character, so as many levels as there are
    characters suffice. -/
def readValue : Nat → List Char → Option (Json × List Char)
  | 0, _ => none
  | fuel + 1, cs =>
    match skipBlanks cs with
    | [] => none
    | c :: rest =>
      if c = '"' then (readString fuel rest).map fun found => (.text (String.ofList found.1), found.2)
      else if c = '\x7b' then
        match skipBlanks rest with
        | '\x7d' :: rest => some (.object [], rest)
        | rest => (readEntries fuel rest).map fun found => (.object found.1, found.2)
      else if c = '[' then
        match skipBlanks rest with
        | ']' :: rest => some (.array [], rest)
        | rest => (readItems fuel rest).map fun found => (.array found.1, found.2)
      else if c = 'n' then (readWord ['u', 'l', 'l'] rest).map fun rest => (.null, rest)
      else if c = 't' then (readWord ['r', 'u', 'e'] rest).map fun rest => (.bool true, rest)
      else if c = 'f' then (readWord ['a', 'l', 's', 'e'] rest).map fun rest => (.bool false, rest)
      else readNumber (c :: rest)

def readEntries : Nat → List Char → Option (List (String × Json) × List Char)
  | 0, _ => none
  | fuel + 1, cs => do
    let (key, rest) ← match skipBlanks cs with
      | '"' :: rest => readString fuel rest
      | _ => none
    let (value, rest) ← match skipBlanks rest with
      | ':' :: rest => readValue fuel rest
      | _ => none
    match skipBlanks rest with
    | '\x7d' :: rest => pure ([(String.ofList key, value)], rest)
    | ',' :: rest => do
      let (entries, rest) ← readEntries fuel rest
      pure ((String.ofList key, value) :: entries, rest)
    | _ => none

def readItems : Nat → List Char → Option (List Json × List Char)
  | 0, _ => none
  | fuel + 1, cs => do
    let (value, rest) ← readValue fuel cs
    match skipBlanks rest with
    | ']' :: rest => pure ([value], rest)
    | ',' :: rest => do
      let (items, rest) ← readItems fuel rest
      pure (value :: items, rest)
    | _ => none
end

/-- The value of a text that is one JSON value, with nothing but blanks around it. -/
def decode (text : String) : Option Json := do
  let (value, rest) ← readValue (text.toList.length + 1) text.toList
  if (skipBlanks rest).isEmpty then pure value else none

/- Trailing commas, leading zeros, half a surrogate pair, unknown escapes, bare control characters
   and text behind the value are refused. -/
example : (["[1, 2,]", "01", "\"\\ud800\"", "\"\\x41\"", "\"\n\"", "1 2"].filterMap
    decode).length = 0 := by decide +kernel

example : (["[1, 2]", " 0 ", "\"\\uD83D\\uDE00\"", "\x7b\"a\" : -1.5e+3\x7d", "true"].filterMap
    decode).length = 5 := by decide +kernel

end LogLayout.Json
