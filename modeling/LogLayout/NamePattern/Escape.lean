import LogLayout.Character.Property
import LogLayout.Character.Fold
import LogLayout.NamePattern.Regex
import LogLayout.Text.Blank

/- Options of a pattern, and what may follow a backslash. Anything that is not a pattern is refused
   without a reason. -/
namespace LogLayout.NamePattern

structure Options where
  ignoreCase : Bool := false
  multiLine : Bool := false
  dotAll : Bool := false
  swapGreed : Bool := false
  unicode : Bool := true
  crlf : Bool := false
  verbose : Bool := false
  deriving DecidableEq, Repr

inductive Primitive where
  | literal (c : Char) (byte : Bool)
  | set (s : Ranges)
  | look (l : Look)
  deriving DecidableEq, Repr

def skipComment : List Char → List Char
  | [] => []
  | c :: cs => if c = '\n' then cs else skipComment cs

def skipVerbose : Nat → List Char → List Char
  | 0, cs => cs
  | _, [] => []
  | fuel + 1, c :: cs =>
    if Text.isBlank c then skipVerbose fuel cs
    else if c = '#' then skipVerbose fuel (skipComment cs)
    else c :: cs

def Options.skip (o : Options) (cs : List Char) : List Char :=
  if o.verbose then skipVerbose cs.length cs else cs

def Options.dotSet? (o : Options) : Option Ranges :=
  if !o.unicode then none
  else if o.dotAll then some [(0, Ranges.last)]
  else if o.crlf then some (Ranges.complement [(10, 10), (13, 13)])
  else some (Ranges.complement [(10, 10)])

/-- Without Unicode a set may hold ASCII characters only and has no complement. -/
def Options.complement? (o : Options) (negated : Bool) (s : Ranges) : Option Ranges :=
  if !negated then some s else if o.unicode then some s.complement else none

def Options.caseClosed (o : Options) (s : Ranges) : Ranges :=
  if !o.ignoreCase then s
  else if o.unicode then Character.caseClosed s
  else Character.asciiCaseClosed s

def Options.setRegex (o : Options) (s : Ranges) : Regex := .ofSet (!o.unicode) s

def Options.literal? (o : Options) (c : Char) (byte : Bool) : Option Regex :=
  if !o.unicode && byte && 127 < c.toNat then none
  else some (o.setRegex (o.caseClosed [(c.toNat, c.toNat)]))

def hexValue? (c : Char) : Option Nat :=
  if '0' ≤ c ∧ c ≤ '9' then some (c.toNat - 48)
  else if 'a' ≤ c ∧ c ≤ 'f' then some (c.toNat - 87)
  else if 'A' ≤ c ∧ c ≤ 'F' then some (c.toNat - 55)
  else none

def scalar? (n : Nat) : Option Char :=
  if n < 0xD800 ∨ (0xDFFF < n ∧ n < 0x110000) then some (Char.ofNat n) else none

def readHexDigits (o : Options) : Nat → Nat → List Char → Option (Nat × List Char)
  | 0, value, cs => some (value, cs)
  | _ + 1, _, [] => none
  | n + 1, value, c :: cs => do
    let digit ← hexValue? c
    readHexDigits o n (value * 16 + digit) (o.skip cs)

def readHexBrace (o : Options) : Nat → List Char → Nat → List Char → Option (Nat × List Char)
  | 0, _, _, _ => none
  | fuel + 1, digits, value, cs =>
    match o.skip cs with
    | [] => none
    | c :: rest =>
      if c = '\x7d' then (if digits.isEmpty then none else some (value, o.skip rest))
      else do
        let digit ← hexValue? c
        readHexBrace o fuel (c :: digits) (value * 16 + digit) rest

def readHex (o : Options) (count : Nat) (cs : List Char) : Option (Primitive × List Char) := do
  match o.skip cs with
  | '\x7b' :: rest =>
    let (value, after) ← readHexBrace o (rest.length + 1) [] 0 rest
    pure (.literal (← scalar? value) false, after)
  | rest =>
    let (value, after) ← readHexDigits o count 0 rest
    pure (.literal (← scalar? value) (count = 2), after)

def splitOnce (separator : List Char) : List Char → Option (List Char × List Char)
  | [] => none
  | c :: cs =>
    if separator.isPrefixOf (c :: cs) then some ([], (c :: cs).drop separator.length)
    else (splitOnce separator cs).map fun parts => (c :: parts.1, parts.2)

def propertySet? (query : List Char) : Option (Ranges × Bool) :=
  match splitOnce ['!', '='] query with
  | some (property, value) => (Character.valued? property value).map fun s => (s, true)
  | none =>
    match splitOnce [':'] query with
    | some (property, value) => (Character.valued? property value).map fun s => (s, false)
    | none =>
      match splitOnce ['='] query with
      | some (property, value) => (Character.valued? property value).map fun s => (s, false)
      | none => (Character.named? query).map fun s => (s, false)

def readBraced (o : Options) : Nat → List Char → List Char → Option (List Char × List Char)
  | 0, _, _ => none
  | fuel + 1, kept, cs =>
    match o.skip cs with
    | [] => none
    | c :: rest =>
      if c = '\x7d' then some (kept.reverse, rest) else readBraced o fuel (c :: kept) rest

def readProperty (o : Options) (negated : Bool) (cs : List Char) :
    Option (Primitive × List Char) := do
  if !o.unicode then none
  let (query, rest) ← match o.skip cs with
    | [] => none
    | '\\' :: _ => none
    | '\x7b' :: inner => readBraced o (inner.length + 1) [] inner
    | c :: rest => some ([c], o.skip rest)
  let (s, flipped) ← propertySet? query
  let closed := o.caseClosed s
  pure (.set (if negated != flipped then closed.complement else closed), rest)

def lookNamed? (ascii : Bool) : String → Option Look
  | "start" => some (.wordStart ascii)
  | "end" => some (.wordEnd ascii)
  | "start-half" => some (.wordStartHalf ascii)
  | "end-half" => some (.wordEndHalf ascii)
  | _ => none

def isLookNameChar (c : Char) : Bool := c.isAlpha || c == '-'

/-- A boundary may be followed by its kind in braces; braces that begin with anything but a letter
    or a hyphen are a count. -/
def readBoundary (o : Options) (cs : List Char) : Option (Primitive × List Char) :=
  match cs with
  | '\x7b' :: inner =>
    match o.skip inner with
    | [] => none
    | first :: _ =>
      if !isLookNameChar first then some (.look (.boundary (!o.unicode)), cs)
      else do
        let (name, rest) ← readBraced o (inner.length + 1) [] inner
        pure (.look (← lookNamed? (!o.unicode) (String.ofList name)), rest)
  | _ => some (.look (.boundary (!o.unicode)), cs)

def isEscapable (c : Char) : Bool :=
  c.toNat < 128 && !c.isAlphanum && c != '<' && c != '>'

def asciiDigits : Ranges := [(48, 57)]

def asciiWordCharacters : Ranges := [(48, 57), (65, 90), (95, 95), (97, 122)]

def asciiBlanks : Ranges := [(9, 13), (32, 32)]

def namedClass (o : Options) (negated : Bool) (members ascii : Ranges) (rest : List Char) :
    Option (Primitive × List Char) :=
  (o.complement? negated (if o.unicode then members else ascii)).map fun s => (.set s, rest)

def readEscape (o : Options) : List Char → Option (Primitive × List Char)
  | [] => none
  | c :: rest =>
    if isEscapable c then some (.literal c false, rest)
    else match c with
      | 'x' => readHex o 2 rest
      | 'u' => readHex o 4 rest
      | 'U' => readHex o 8 rest
      | 'p' => readProperty o false rest
      | 'P' => readProperty o true rest
      | 'd' => namedClass o false Character.decimalNumbers asciiDigits rest
      | 'D' => namedClass o true Character.decimalNumbers asciiDigits rest
      | 's' => namedClass o false Character.whiteSpace asciiBlanks rest
      | 'S' => namedClass o true Character.whiteSpace asciiBlanks rest
      | 'w' => namedClass o false Character.wordCharacters asciiWordCharacters rest
      | 'W' => namedClass o true Character.wordCharacters asciiWordCharacters rest
      | 'a' => some (.literal (Char.ofNat 7) false, rest)
      | 'f' => some (.literal (Char.ofNat 12) false, rest)
      | 't' => some (.literal '\t' false, rest)
      | 'n' => some (.literal '\n' false, rest)
      | 'r' => some (.literal '\r' false, rest)
      | 'v' => some (.literal (Char.ofNat 11) false, rest)
      | 'A' => some (.look .textStart, rest)
      | 'z' => some (.look .textEnd, rest)
      | 'b' => readBoundary o rest
      | 'B' => some (.look (.noBoundary (!o.unicode)), rest)
      | '<' => some (.look (.wordStart (!o.unicode)), rest)
      | '>' => some (.look (.wordEnd (!o.unicode)), rest)
      | _ => none

end LogLayout.NamePattern
