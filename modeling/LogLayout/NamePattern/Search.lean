import LogLayout.Character.Alphabetic
import LogLayout.NamePattern.Regex

/- When an expression matches. The text is read once from left to right; what has been read is
   kept as marks in the expression, each mark standing behind a character that was read last. -/
namespace LogLayout.NamePattern

structure Spot where
  before : Option Char
  after : Option Char
  deriving DecidableEq, Repr

def isWord (ascii : Bool) : Option Char → Bool
  | none => false
  | some c =>
    if ascii then c.isAlphanum || c == '_' else Character.wordCharacters.has c.toNat

def Look.holds (l : Look) (s : Spot) : Bool :=
  match l with
  | .textStart => s.before.isNone
  | .textEnd => s.after.isNone
  | .lineStart false => s.before.isNone || s.before == some '\n'
  | .lineStart true =>
    s.before.isNone || s.before == some '\n' || (s.before == some '\r' && s.after != some '\n')
  | .lineEnd false => s.after.isNone || s.after == some '\n'
  | .lineEnd true =>
    s.after.isNone || s.after == some '\r' || (s.after == some '\n' && s.before != some '\r')
  | .boundary ascii => isWord ascii s.before != isWord ascii s.after
  | .noBoundary ascii => isWord ascii s.before == isWord ascii s.after
  | .wordStart ascii => !isWord ascii s.before && isWord ascii s.after
  | .wordEnd ascii => isWord ascii s.before && !isWord ascii s.after
  | .wordStartHalf ascii => !isWord ascii s.before
  | .wordEndHalf ascii => !isWord ascii s.after

def Regex.opens (s : Spot) : Regex → Bool
  | .empty => true
  | .literal text => text.isEmpty
  | .set _ _ => false
  | .look l => l.holds s
  | .seq a b => a.opens s && b.opens s
  | .alt a b => a.opens s || b.opens s
  | .repeated r least _ _ => least == 0 || r.opens s
  | .group _ r => r.opens s

inductive Progress where
  | fresh (r : Regex)
  | here (r : Regex)
  | seq (a b : Progress)
  | alt (a b : Progress)
  | loop (a : Progress) (skippable : Bool)
  deriving Repr

namespace Progress

def inSeq : Progress → Progress → Progress
  | .fresh a, .fresh b => .fresh (.seq a b)
  | a, b => .seq a b

def inAlt : Progress → Progress → Progress
  | .fresh a, .fresh b => .fresh (.alt a b)
  | a, b => .alt a b

def inLoop (skippable : Bool) : Progress → Progress
  | .fresh a => .fresh (.repeated a (if skippable then 0 else 1) none true)
  | a => .loop a skippable

def optional (a : Progress) : Progress := inAlt (.fresh .empty) a

def copies (n : Nat) (a : Progress) : Progress :=
  if n ≤ 1 then a else inSeq (copies (n / 2) a) (copies (n - n / 2) a)
termination_by n

def opens (s : Spot) : Progress → Bool
  | .fresh r => r.opens s
  | .here _ => false
  | .seq a b => a.opens s && b.opens s
  | .alt a b => a.opens s || b.opens s
  | .loop a skippable => skippable || a.opens s

def done (s : Spot) : Progress → Bool
  | .fresh _ => false
  | .here _ => true
  | .seq a b => b.done s || (a.done s && b.opens s)
  | .alt a b => a.done s || b.done s
  | .loop a _ => a.done s

/-- A repetition whose first round has been entered. An expression that opens is entered in all of
    its rounds at once. -/
def rounds (opened : Bool) (r : Regex) (least : Nat) (most : Option Nat) (greedy : Bool)
    (entered : Progress) : Progress :=
  match most with
  | none =>
    if least ≤ 1 then inLoop (least == 0) entered
    else if opened then inSeq (copies (least - 1) entered) (inLoop false entered)
    else inSeq entered (.fresh (.repeated r (least - 1) none greedy))
  | some most =>
    if most ≤ 1 then (if least = 0 then optional entered else entered)
    else if !opened then
      let all := inSeq entered (.fresh (.repeated r (least - 1) (some (most - 1)) greedy))
      if least = 0 then optional all else all
    else if least = 0 then copies most (optional entered)
    else if most ≤ least then copies least entered
    else inSeq (copies least entered) (copies (most - least) (optional entered))

end Progress

def Regex.enter (s : Spot) (c : Char) : Regex → Progress
  | .empty => .fresh .empty
  | .look l => .fresh (.look l)
  | .literal [] => .fresh (.literal [])
  | .literal (x :: rest) =>
    if x ≠ c then .fresh (.literal (x :: rest))
    else if rest.isEmpty then .here (.literal [x])
    else .seq (.here (.literal [x])) (.fresh (.literal rest))
  | .set ascii members =>
    if members.has c.toNat then .here (.set ascii members) else .fresh (.set ascii members)
  | .seq a b => .inSeq (a.enter s c) (if a.opens s then b.enter s c else .fresh b)
  | .alt a b => .inAlt (a.enter s c) (b.enter s c)
  | .repeated r least most greedy =>
    match r.enter s c with
    | .fresh _ => .fresh (.repeated r least most greedy)
    | entered => .rounds (r.opens s) r least most greedy entered
  | .group _ r => r.enter s c

/-- Reads a character at every mark, and from the start of the expression if it begins here. -/
def Progress.advance (s : Spot) (c : Char) (begins : Bool) : Progress → Progress
  | .fresh r => if begins then r.enter s c else .fresh r
  | .here r => if begins then r.enter s c else .fresh r
  | .seq a b =>
    .inSeq (a.advance s c begins) (b.advance s c ((begins && a.opens s) || a.done s))
  | .alt a b => .inAlt (a.advance s c begins) (b.advance s c begins)
  | .loop a skippable => .inLoop skippable (a.advance s c (begins || a.done s))

def Progress.search (r : Regex) (before : Option Char) (p : Progress) : List Char → Bool
  | [] => r.opens ⟨before, none⟩ || p.done ⟨before, none⟩
  | c :: rest =>
    let s : Spot := ⟨before, some c⟩
    r.opens s || p.done s || Progress.search r (some c) (p.advance s c true) rest

/-- Whether the expression matches anywhere in the text. -/
def Regex.search (r : Regex) (text : List Char) : Bool := Progress.search r none (.fresh r) text

end LogLayout.NamePattern
