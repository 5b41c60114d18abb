import LogLayout.Character.Ranges

/- Regular expressions. They are built by functions that keep them in a normal form: a sequence
   leans to the right, has no empty part and no two texts side by side; a choice leans to the right
   and is one set where its branches are; a set of one character is a text. -/
namespace LogLayout.NamePattern

inductive Look where
  | textStart | textEnd
  | lineStart (crlf : Bool) | lineEnd (crlf : Bool)
  | boundary (ascii : Bool) | noBoundary (ascii : Bool)
  | wordStart (ascii : Bool) | wordEnd (ascii : Bool)
  | wordStartHalf (ascii : Bool) | wordEndHalf (ascii : Bool)
  deriving DecidableEq, Repr

inductive Regex where
  | empty
  | literal (text : List Char)
  | set (ascii : Bool) (members : Ranges)
  | look (l : Look)
  | seq (a b : Regex)
  | alt (a b : Regex)
  | repeated (r : Regex) (least : Nat) (most : Option Nat) (greedy : Bool)
  | group (number : Nat) (r : Regex)
  deriving DecidableEq, Repr

namespace Regex

def factors : Regex → List Regex
  | .empty => []
  | .seq a b => a :: b.factors
  | r => [r]

def branches : Regex → List Regex
  | .alt a b => a :: b.branches
  | r => [r]

def ofFactors : List Regex → Regex
  | [] => .empty
  | [r] => r
  | r :: rest => .seq r (ofFactors rest)

def ofBranches : List Regex → Regex
  | [] => .set true []
  | [r] => r
  | r :: rest => .alt r (ofBranches rest)

def size : Regex → Nat
  | .seq a b | .alt a b => a.size + b.size + 1
  | .repeated r _ _ _ | .group _ r => r.size + 1
  | _ => 1

def minLength : Regex → Option Nat
  | .empty | .look _ => some 0
  | .literal text => some (text.foldr (fun c n => c.utf8Size + n) 0)
  | .set _ members => members.head?.map fun r => (Char.ofNat r.1).utf8Size
  | .seq a b => a.minLength.bind fun m => b.minLength.map fun n => m + n
  | .alt a b => a.minLength.bind fun m => b.minLength.map fun n => min m n
  | .repeated r least _ _ => r.minLength.map fun n => least * n
  | .group _ r => r.minLength

/-- The greatest number of bytes of a text that matches; none for an empty set as well as for a
    repetition without end. -/
def maxLength : Regex → Option Nat
  | .empty | .look _ => some 0
  | .literal text => some (text.foldr (fun c n => c.utf8Size + n) 0)
  | .set _ members => members.getLast?.map fun r => (Char.ofNat r.2).utf8Size
  | .seq a b => a.maxLength.bind fun m => b.maxLength.map fun n => m + n
  | .alt a b => a.maxLength.bind fun m => b.maxLength.map fun n => max m n
  | .repeated r _ most _ => most.bind fun m => r.maxLength.map fun n => m * n
  | .group _ r => r.maxLength

def ofSet (ascii : Bool) : Ranges → Regex
  | [] => .set true []
  | [(low, high)] => if low = high then .literal [Char.ofNat low] else .set ascii [(low, high)]
  | members => .set ascii members

def prepend : Regex → List Regex → List Regex
  | .literal a, .literal b :: rest => .literal (a ++ b) :: rest
  | r, rest => r :: rest

def concat (parts : List Regex) : Regex := ofFactors ((parts.flatMap factors).foldr prepend [])

/-- What can only match the empty text is repeated at most once. -/
def repetition (r : Regex) (least : Nat) (most : Option Nat) (greedy : Bool) : Regex :=
  let still := r.maxLength == some 0
  let least := if still then min least 1 else least
  let most := if still then some (min (most.getD 1) 1) else most
  if least = 0 ∧ most = some 0 then .empty
  else if least = 1 ∧ most = some 1 then r
  else .repeated r least most greedy

def char? : Regex → Option Char
  | .literal [c] => some c
  | _ => none

def set? : Regex → Option Ranges
  | .set _ members => some members
  | _ => none

def ofSets? (branches : List Regex) : Option Regex :=
  match branches.mapM char? with
  | some cs => some (ofSet false (.ofList (cs.map fun c => (c.toNat, c.toNat))))
  | none => (branches.mapM set?).map fun sets => ofSet false (.unionOf sets)

def commonStart : List Regex → List Regex → List Regex
  | a :: as, b :: bs => if a = b then a :: commonStart as bs else []
  | _, _ => []

def sharedStart (branches : List Regex) : List Regex :=
  match branches.map factors with
  | [] => []
  | first :: rest =>
    if (first :: rest).all fun parts => 2 ≤ parts.length then rest.foldl commonStart first else []

/-- Parts with which all branches begin come before the choice. Each round takes some part out of
    every branch, so the size of the branches bounds the rounds. -/
def alternationWithin : Nat → List Regex → Regex
  | 0, parts => ofBranches parts
  | rounds + 1, parts =>
    let choices := parts.flatMap branches
    match choices with
    | [r] => r
    | _ =>
      match ofSets? choices with
      | some r => r
      | none =>
        let shared := sharedStart choices
        if shared.isEmpty then ofBranches choices
        else
          let rests := choices.map fun r => concat (r.factors.drop shared.length)
          concat (shared ++ [alternationWithin rounds rests])

def alternation (parts : List Regex) : Regex :=
  alternationWithin (parts.foldr (fun r n => r.size + n) 1) parts

def startsText : Regex → Bool
  | .look l => l == .textStart
  | .seq a b => a.startsText || (a.maxLength == some 0 && b.startsText)
  | .alt a b => a.startsText && b.startsText
  | .repeated r least _ _ => 0 < least && r.startsText
  | .group _ r => r.startsText
  | _ => false

def endsText : Regex → Bool
  | .look l => l == .textEnd
  | .seq a b => b.endsText || (b.maxLength == some 0 && a.endsText)
  | .alt a b => a.endsText && b.endsText
  | .repeated r least _ _ => 0 < least && r.endsText
  | .group _ r => r.endsText
  | _ => false

end Regex

end LogLayout.NamePattern
