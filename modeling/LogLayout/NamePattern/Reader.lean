import LogLayout.NamePattern.CharClass

/- Reading of regular expressions. Groups open and close levels on a stack, and a level keeps the
   options that were in force outside it; every step of the reader uses up at least one
   character. Anything that is not an expression is refused without a reason. -/
namespace LogLayout.NamePattern

/-- An expression with the height of its tree; an option setting cannot be repeated. -/
structure Piece where
  regex : Regex
  height : Nat
  repeatable : Bool
  deriving DecidableEq, Repr

def maxHeight : Nat := 250

structure Level where
  outside : Options
  number : Option Nat
  branches : List Piece
  pieces : List Piece

structure ReadState where
  options : Options
  level : Level
  outer : List Level
  groups : Nat
  names : List (List Char)
  rest : List Char

def Level.add (l : Level) (p : Piece) : Level := { l with pieces := p :: l.pieces }

def Level.branch (l : Level) : Piece :=
  match l.pieces with
  | [] => ⟨.empty, 0, true⟩
  | [p] => p
  | pieces =>
    ⟨.concat (pieces.map Piece.regex).reverse, (pieces.map Piece.height).foldl max 0 + 1, true⟩

def Level.whole (l : Level) : Piece :=
  match l.branches with
  | [] => l.branch
  | branches =>
    let all := l.branch :: branches
    ⟨.alternation (all.map Piece.regex).reverse, (all.map Piece.height).foldl max 0 + 1, true⟩

def Level.split (l : Level) : Level := { l with branches := l.branch :: l.branches, pieces := [] }

structure OptionItems where
  set : Options
  seen : List Char
  negated : Bool
  dangling : Bool

def Options.change? (o : Options) (value : Bool) : Char → Option Options
  | 'i' => some { o with ignoreCase := value }
  | 'm' => some { o with multiLine := value }
  | 's' => some { o with dotAll := value }
  | 'U' => some { o with swapGreed := value }
  | 'u' => some { o with unicode := value }
  | 'R' => some { o with crlf := value }
  | 'x' => some { o with verbose := value }
  | _ => none

def readOptions (items : OptionItems) : List Char → Option (OptionItems × Char × List Char)
  | [] => none
  | c :: rest =>
    if c = ':' ∨ c = ')' then (if items.dangling then none else some (items, c, rest))
    else if items.seen.contains c then none
    else if c = '-' then readOptions ⟨items.set, c :: items.seen, true, true⟩ rest
    else
      match items.set.change? (!items.negated) c with
      | some set => readOptions ⟨set, c :: items.seen, items.negated, false⟩ rest
      | none => none

def isNameStart (c : Char) : Bool := c == '_' || Character.alphabetic.has c.toNat

def isNamePart (c : Char) : Bool :=
  isNameStart c || c == '.' || c == '[' || c == ']' || Character.numbers.has c.toNat

def readGroupName (names : List (List Char)) (cs : List Char) : Option (List Char × List Char) :=
  let name := cs.takeWhile (· ≠ '>')
  match name, cs.dropWhile (· ≠ '>') with
  | first :: more, _ :: rest =>
    if isNameStart first && more.all isNamePart && !names.contains name then some (name, rest)
    else none
  | _, _ => none

def ReadState.enter (s : ReadState) (number : Option Nat) (inside : Options)
    (rest : List Char) : ReadState :=
  { s with
    options := inside
    level := ⟨s.options, number, [], []⟩
    outer := s.level :: s.outer
    rest := rest }

def ReadState.enterGroup (s : ReadState) (rest : List Char) : ReadState :=
  { s.enter (some (s.groups + 1)) s.options rest with groups := s.groups + 1 }

def ReadState.add (s : ReadState) (p : Piece) (rest : List Char) : ReadState :=
  { s with level := s.level.add p, rest := rest }

def ReadState.enterNamed (s : ReadState) (cs : List Char) : Option ReadState :=
  (readGroupName s.names cs).map fun found =>
    { s.enterGroup found.2 with names := found.1 :: s.names }

def readGroup (s : ReadState) (cs : List Char) : Option ReadState :=
  match s.options.skip cs with
  | '?' :: '=' :: _ | '?' :: '!' :: _ | '?' :: '<' :: '=' :: _ | '?' :: '<' :: '!' :: _ => none
  | '?' :: 'P' :: '<' :: rest => s.enterNamed rest
  | '?' :: '<' :: rest => s.enterNamed rest
  | '?' :: rest =>
    match readOptions ⟨s.options, [], false, false⟩ rest with
    | some (items, ':', after) => some (s.enter none items.set after)
    | some (items, _, after) =>
      if items.seen.isEmpty then none
      else some ({ s with options := items.set }.add ⟨.empty, 0, false⟩ after)
    | none => none
  | rest => some (s.enterGroup rest)

def leaveGroup (s : ReadState) (rest : List Char) : Option ReadState :=
  match s.outer with
  | [] => none
  | level :: outer =>
    let whole := s.level.whole
    let regex := match s.level.number with
      | none => whole.regex
      | some number => .group number whole.regex
    some { s with
      options := s.level.outside
      level := level.add ⟨regex, whole.height + 1, true⟩
      outer := outer
      rest := rest }

def repeatLast (s : ReadState) (least : Nat) (most : Option Nat) (rest : List Char) :
    Option ReadState :=
  match s.level.pieces with
  | [] => none
  | last :: before =>
    if !last.repeatable then none
    else
      let (greedy, rest) := match rest with
        | '?' :: rest => (s.options.swapGreed, rest)
        | _ => (!s.options.swapGreed, rest)
      some { s with
        level := { s.level with
          pieces :=
            ⟨.repetition last.regex least most greedy, last.height + 1, true⟩ :: before }
        rest := rest }

def skipDigits (o : Options) : Nat → List Char → List Char → List Char × List Char
  | 0, digits, cs => (digits, cs)
  | fuel + 1, digits, cs =>
    match cs with
    | c :: rest => if c.isDigit then skipDigits o fuel (c :: digits) (o.skip rest) else (digits, cs)
    | [] => (digits, cs)

def readCount (o : Options) (cs : List Char) : Option (Option Nat × List Char) :=
  let cs := cs.dropWhile Text.isBlank
  let (digits, after) := skipDigits o cs.length [] cs
  let after := o.skip (after.dropWhile Text.isBlank)
  if digits.isEmpty then some (none, after)
  else
    let n := Nat.ofDigitChars 10 digits.reverse 0
    if n < Nat.pow 2 32 then some (some n, after) else none

def readCounts (o : Options) (cs : List Char) : Option (Nat × Option Nat × List Char) := do
  let (least, rest) ← readCount o (o.skip cs)
  let least ← least
  match rest with
  | ',' :: rest =>
    match o.skip rest with
    | '\x7d' :: rest => pure (least, none, rest)
    | rest =>
      let (most, rest) ← readCount o rest
      let most ← most
      match rest with
      | '\x7d' :: rest => if least ≤ most then pure (least, some most, rest) else none
      | _ => none
  | '\x7d' :: rest => pure (least, some least, rest)
  | _ => none

def Options.lookStart (o : Options) : Look := if o.multiLine then .lineStart o.crlf else .textStart

def Options.lookEnd (o : Options) : Look := if o.multiLine then .lineEnd o.crlf else .textEnd

def Primitive.piece? (o : Options) : Primitive → Option Piece
  | .literal c byte => (o.literal? c byte).map fun r => ⟨r, 0, true⟩
  | .set s => some ⟨o.setRegex s, 0, true⟩
  | .look l => some ⟨.look l, 0, true⟩

def step (s : ReadState) (c : Char) (rest : List Char) : Option ReadState := do
  match c with
  | '(' => readGroup s rest
  | ')' => leaveGroup s rest
  | '|' => pure { s with level := s.level.split, rest := rest }
  | '[' =>
    let (opened, after) := openClass s.options rest
    let (set, after) ← readClass s.options (rest.length + 1) opened [] after
    pure (s.add ⟨s.options.setRegex set.set, set.height, true⟩ after)
  | '?' => repeatLast s 0 (some 1) rest
  | '*' => repeatLast s 0 none rest
  | '+' => repeatLast s 1 none rest
  | '\x7b' =>
    let (least, most, after) ← readCounts s.options rest
    repeatLast s least most (s.options.skip after)
  | '\\' =>
    let (p, after) ← readEscape s.options rest
    pure (s.add (← p.piece? s.options) after)
  | '.' => pure (s.add ⟨s.options.setRegex (← s.options.dotSet?), 0, true⟩ rest)
  | '^' => pure (s.add ⟨.look s.options.lookStart, 0, true⟩ rest)
  | '$' => pure (s.add ⟨.look s.options.lookEnd, 0, true⟩ rest)
  | c => pure (s.add (← (Primitive.literal c false).piece? s.options) rest)

def run : Nat → ReadState → Option Piece
  | 0, _ => none
  | fuel + 1, s =>
    match s.options.skip s.rest with
    | [] => if s.outer.isEmpty then some s.level.whole else none
    | c :: rest => step s c rest >>= run fuel

def readRegex (text : List Char) : Option Regex := do
  let piece ← run (text.length + 1) ⟨{}, ⟨{}, none, [], []⟩, [], 0, [], text⟩
  if piece.height ≤ maxHeight then pure piece.regex else none

end LogLayout.NamePattern
