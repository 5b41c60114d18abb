import LogLayout.NamePattern.Escape

/- Bracketed classes: members, ranges, nested classes and the operations between them. -/
namespace LogLayout.NamePattern

structure SetPiece where
  set : Ranges
  height : Nat
  deriving DecidableEq, Repr

inductive ClassOp where
  | both | minus | exactlyOne
  deriving DecidableEq, Repr

def ClassOp.apply : ClassOp → Ranges → Ranges → Ranges
  | .both => Ranges.both
  | .minus => Ranges.minus
  | .exactlyOne => Ranges.exactlyOne

/-- An open bracket: whether it negates, the operand and operation waiting for the current
    members, and those members, latest first. -/
structure OpenClass where
  negated : Bool
  waiting : Option (SetPiece × ClassOp)
  members : List SetPiece

def OpenClass.union (c : OpenClass) : SetPiece :=
  let tallest := (c.members.map SetPiece.height).foldl max 0
  ⟨.unionOf (c.members.map SetPiece.set),
    if 2 ≤ c.members.length then tallest + 1 else tallest⟩

def OpenClass.settled (o : Options) (c : OpenClass) : SetPiece :=
  match c.waiting with
  | none => c.union
  | some (left, op) =>
    ⟨op.apply (o.caseClosed left.set) (o.caseClosed c.union.set),
      max left.height c.union.height + 1⟩

def OpenClass.add (c : OpenClass) (s : SetPiece) : OpenClass := { c with members := s :: c.members }

def OpenClass.operate (o : Options) (c : OpenClass) (op : ClassOp) : OpenClass :=
  { c with waiting := some (c.settled o, op), members := [] }

def hyphens (o : Options) : Nat → OpenClass → List Char → OpenClass × List Char
  | 0, c, cs => (c, cs)
  | fuel + 1, c, cs =>
    match cs with
    | '-' :: rest => hyphens o fuel (c.add ⟨[(45, 45)], 0⟩) (o.skip rest)
    | _ => (c, cs)

def openClass (o : Options) (cs : List Char) : OpenClass × List Char :=
  let cs := o.skip cs
  let (negated, cs) := match cs with
    | '^' :: rest => (true, o.skip rest)
    | _ => (false, cs)
  let (c, cs) := hyphens o cs.length ⟨negated, none, []⟩ cs
  match c.members, cs with
  | [], ']' :: rest => (c.add ⟨[(93, 93)], 0⟩, o.skip rest)
  | _, _ => (c, cs)

def classNamed? : String → Option Ranges
  | "alnum" => some [(48, 57), (65, 90), (97, 122)]
  | "alpha" => some [(65, 90), (97, 122)]
  | "ascii" => some [(0, 127)]
  | "blank" => some [(9, 9), (32, 32)]
  | "cntrl" => some [(0, 31), (127, 127)]
  | "digit" => some asciiDigits
  | "graph" => some [(33, 126)]
  | "lower" => some [(97, 122)]
  | "print" => some [(32, 126)]
  | "punct" => some [(33, 47), (58, 64), (91, 96), (123, 126)]
  | "space" => some asciiBlanks
  | "upper" => some [(65, 90)]
  | "word" => some asciiWordCharacters
  | "xdigit" => some [(48, 57), (65, 70), (97, 102)]
  | _ => none

def readClassName (o : Options) (cs : List Char) : Option (Option Ranges × List Char) :=
  match cs with
  | ':' :: rest =>
    let (negated, rest) := match rest with
      | '^' :: rest => (true, rest)
      | _ => (false, rest)
    match rest.dropWhile (· ≠ ':') with
    | ':' :: ']' :: after =>
      (classNamed? (String.ofList (rest.takeWhile (· ≠ ':')))).map fun rs =>
        (o.complement? negated (o.caseClosed rs), after)
    | _ => none
  | _ => none

def readClassItem (o : Options) : List Char → Option (Primitive × List Char)
  | [] => none
  | '\\' :: rest => readEscape o rest
  | c :: rest => some (.literal c false, rest)

def memberChar? (o : Options) : Primitive → Option Char
  | .literal c _ => if !o.unicode && 127 < c.toNat then none else some c
  | _ => none

def memberSet? (o : Options) : Primitive → Option Ranges
  | .set s => some s
  | p => (memberChar? o p).map fun c => [(c.toNat, c.toNat)]

/-- The character that decides whether a hyphen makes a range. Blanks are passed over, and the sign
    that begins a comment, but not the comment. -/
def Options.peek (o : Options) (cs : List Char) : Option Char :=
  if !o.verbose then cs.head?
  else
    match cs.dropWhile Text.isBlank with
    | [] => cs.head?
    | '#' :: rest => (rest.dropWhile Text.isBlank).head?.or cs.head?
    | c :: _ => some c

def readMember (o : Options) (cs : List Char) : Option (Ranges × List Char) := do
  let (first, rest) ← readClassItem o cs
  match o.skip rest with
  | [] => none
  | '-' :: after =>
    match o.peek after with
    | some ']' | some '-' => pure (← memberSet? o first, '-' :: after)
    | _ =>
      let (last, rest) ← readClassItem o (o.skip after)
      let low ← memberChar? o first
      let high ← memberChar? o last
      if low.toNat ≤ high.toNat then pure ([(low.toNat, high.toNat)], rest) else none
  | rest => pure (← memberSet? o first, rest)

def closeClass (o : Options) (c : OpenClass) : Option SetPiece := do
  let settled := c.settled o
  pure ⟨← o.complement? c.negated (o.caseClosed settled.set), settled.height + 1⟩

def readClass (o : Options) : Nat → OpenClass → List OpenClass → List Char →
    Option (SetPiece × List Char)
  | 0, _, _, _ => none
  | fuel + 1, c, outer, cs => do
    match o.skip cs with
    | [] => none
    | '[' :: rest =>
      match readClassName o rest with
      | some (s, after) => readClass o fuel (c.add ⟨← s, 0⟩) outer after
      | none =>
        let (inner, after) := openClass o rest
        readClass o fuel inner (c :: outer) after
    | ']' :: rest =>
      let closed ← closeClass o c
      match outer with
      | [] => pure (closed, rest)
      | parent :: above => readClass o fuel (parent.add closed) above rest
    | '&' :: '&' :: rest => readClass o fuel (c.operate o .both) outer rest
    | '-' :: '-' :: rest => readClass o fuel (c.operate o .minus) outer rest
    | '~' :: '~' :: rest => readClass o fuel (c.operate o .exactlyOne) outer rest
    | rest =>
      let (s, after) ← readMember o rest
      readClass o fuel (c.add ⟨s, 0⟩) outer after

end LogLayout.NamePattern
