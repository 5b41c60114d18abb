import LogLayout.NamePattern.Regex
import LogLayout.Text.ByteRanges
import Std.Data.HashMap

/- The memory that an expression takes when it is laid out as an automaton over bytes, in both
   reading directions. A state takes 32 bytes, an edge on a range of bytes 8, and an edge without
   a byte 4 where it leaves a fork. Sets share equal tails through a table of fixed size in which a
   later entry displaces an earlier one of the same slot. -/
namespace LogLayout.NamePattern

structure Footprint where
  states : Nat
  edges : Nat
  deriving DecidableEq, Repr

namespace Footprint

def maxBytes : Nat := 10485760

def bytes (f : Footprint) : Nat := 32 * f.states + f.edges

def tooLarge (f : Footprint) : Bool := maxBytes < f.bytes

def add (f : Footprint) (states edges : Nat) : Footprint :=
  ⟨f.states + states, f.edges + edges⟩

structure Edge where
  low : Nat
  high : Nat
  target : Nat
  deriving DecidableEq, Repr

def mixed (hash value : UInt64) : UInt64 := (hash ^^^ value) * 1099511628211

def seed : UInt64 := 14695981039346656037

def Edge.mix (hash : UInt64) (e : Edge) : UInt64 :=
  mixed (mixed (mixed hash e.low.toUInt64) e.high.toUInt64) e.target.toUInt64

abbrev Known := Std.HashMap Nat (List Edge × Nat)

def forwardSlots : UInt64 := 10000

/-- A state with the given edges: one laid out before, if its slot still holds it. -/
def state (known : Known) (f : Footprint) (edges : List Edge) : Nat × Known × Footprint :=
  let slot := (edges.foldl Edge.mix seed % forwardSlots).toNat
  let fresh := (f.states, known.insert slot (edges, f.states), f.add 1 (8 * edges.length))
  match known[slot]? with
  | some (held, number) => if held = edges then (number, known, f) else fresh
  | none => fresh

def byFirst (paths : List (List (Nat × Nat))) : List ((Nat × Nat) × List (List (Nat × Nat))) :=
  (paths.splitBy fun a b => a.head? == b.head?).filterMap fun same =>
    match same with
    | (first :: _) :: _ => some (first, same.map List.tail)
    | _ => none

def tree (target : Nat) : Nat → List (List (Nat × Nat)) → Known → Footprint →
    Nat × Known × Footprint
  | 0, _, known, f => (target, known, f)
  | depth + 1, paths, known, f =>
    if paths.all List.isEmpty then (target, known, f)
    else
      let (edges, known, f) := (byFirst paths).foldl
        (fun (edges, known, f) (range, tails) =>
          let (next, known, f) := tree target depth tails known f
          (⟨range.1, range.2, next⟩ :: edges, known, f))
        (([] : List Edge), known, f)
      state known f edges.reverse

def forwardSet (paths : List (List (Nat × Nat))) (f : Footprint) : Footprint :=
  (tree f.states 4 paths ∅ (f.add 1 0)).2.2

def backwardSlots : UInt64 := 1000

def stepBack (known : Std.HashMap Nat (Edge × Nat)) (f : Footprint) (e : Edge) :
    Nat × Std.HashMap Nat (Edge × Nat) × Footprint :=
  let slot := (mixed (mixed (mixed seed e.target.toUInt64) e.low.toUInt64) e.high.toUInt64 %
    backwardSlots).toNat
  let fresh := (f.states, known.insert slot (e, f.states), f.add 1 0)
  match known[slot]? with
  | some (held, number) => if held = e then (number, known, f) else fresh
  | none => fresh

def backwardSet (paths : List (List (Nat × Nat))) (f : Footprint) : Footprint :=
  let final := f.states + 1
  let laid := paths.foldl
    (fun (known, f) path =>
      let (_, known, f) := path.foldl
        (fun (target, known, f) (range : Nat × Nat) =>
          stepBack known f ⟨range.1, range.2, target⟩)
        (final, known, f)
      (known, f.add 0 4))
    ((∅ : Std.HashMap Nat (Edge × Nat)), f.add 2 0)
  laid.2

def set (back : Bool) (members : Ranges) (f : Footprint) : Footprint :=
  if members.all fun r => r.2 ≤ 0x7F then f.add 2 (8 * members.length)
  else
    let paths := members.flatMap fun r => Text.byteRanges r.1 r.2
    if back then backwardSet paths f else forwardSet paths f

/-- Lays out the branching of words of at most so many bytes. Where a word ends among others, the
    words before it and those after it branch apart. -/
def branching : Nat → List (List Nat) → Footprint → Footprint
  | 0, _, f => f
  | depth + 1, words, f =>
    let chunks := (words.splitBy fun a b => a.isEmpty == b.isEmpty).filter
      fun chunk => chunk.all fun w => !w.isEmpty
    let ends := words.countP List.isEmpty
    let early := (words.takeWhile List.isEmpty).length
    let f := chunks.foldl
      (fun f chunk =>
        let firsts := (chunk.filterMap List.head?).eraseDups
        let f := f.add 1 (if firsts.length = 1 then 0 else 8 * firsts.length)
        firsts.foldl
          (fun f first =>
            let tails := (chunk.filter fun w => w.head? == some first).map List.tail
            if tails.all List.isEmpty then f else branching depth tails f)
          f)
      f
    f.add 1 (4 * (chunks.length + (ends - (early - 1))))

def wordBytes? : Regex → Option (List Nat)
  | .literal text => some (text.flatMap fun c => Text.utf8Bytes c.toNat)
  | _ => none

def words (back : Bool) (words : List (List Nat)) (f : Footprint) : Footprint :=
  let words := if back then words.map List.reverse else words
  branching (words.foldr (fun w n => max w.length n) 0 + 1) words (f.add 1 0)

/-- What has been laid out, and whether it ends in a fork, which an edge to what follows makes
    larger. -/
structure Laid where
  print : Footprint
  fork : Bool

def Laid.closed (l : Laid) : Footprint := if l.fork then l.print.add 0 4 else l.print

def more (lay : Footprint → Laid) : Nat → Laid → Laid
  | 0, l => l
  | n + 1, l => if l.print.tooLarge then l else more lay n (lay l.closed)

def times (lay : Footprint → Laid) (n : Nat) (f : Footprint) : Laid :=
  match n with
  | 0 => ⟨f.add 1 0, false⟩
  | n + 1 => more lay n (lay f)

def upTo (lay : Footprint → Laid) : Nat → Laid → Laid
  | 0, l => l
  | n + 1, l => if l.print.tooLarge then l else upTo lay n (lay (l.closed.add 1 8))

def repetition (lay : Footprint → Laid) (nullable : Bool) (least : Nat) (most : Option Nat)
    (f : Footprint) : Laid :=
  match least, most with
  | 0, some 1 => ⟨(lay (f.add 1 0)).closed.add 1 8, false⟩
  | 0, none =>
    if nullable then ⟨(lay f).closed.add 3 16, false⟩ else ⟨(lay (f.add 1 0)).closed.add 0 4, true⟩
  | 1, none => ⟨(lay f).closed.add 1 4, true⟩
  | least, none => ⟨(times lay least f).closed.add 1 4, true⟩
  | least, some most =>
    if least = most then times lay least f
    else
      let start := times lay least f
      ⟨(upTo lay (most - least) { start with print := start.print.add 1 0 }).closed, false⟩

inductive Place where
  | alone | second | later
  deriving DecidableEq, Repr

def Place.join (p : Place) (l : Laid) : Laid :=
  match p with
  | .alone => l
  | .second => ⟨l.closed.add 2 4, false⟩
  | .later => ⟨l.closed.add 0 4, false⟩

def lay (back : Bool) : Regex → Place → Footprint → Laid
  | .empty, place, f => place.join ⟨f.add 1 0, false⟩
  | .look _, place, f => place.join ⟨f.add 1 0, false⟩
  | .literal text, place, f =>
    place.join ⟨f.add (text.foldr (fun c n => c.utf8Size + n) 0) 0, false⟩
  | .set _ members, place, f => place.join ⟨set back members f, false⟩
  | .seq a b, place, f =>
    place.join
      (if back then lay back a .alone (lay back b .alone f).closed
      else lay back b .alone (lay back a .alone f).closed)
  | .alt a b, .alone, f =>
    match (Regex.alt a b).branches.mapM wordBytes? with
    | some choices => ⟨words back choices f, false⟩
    | none => lay back b .second ((lay back a .alone f).closed.add 0 4)
  | .alt a b, place, f => lay back b .later (place.join (lay back a .alone f)).print
  | .repeated r least most _, place, f =>
    place.join (repetition (lay back r .alone) (r.minLength.all (· == 0)) least most f)
  | .group _ r, place, f =>
    place.join
      (if back then lay back r .alone f
      else ⟨(lay back r .alone (f.add 1 0)).closed.add 1 0, false⟩)

/-- A search that is not bound to one end of the text begins with a loop over all bytes. -/
def opening (bound : Bool) : Footprint := if bound then ⟨1, 0⟩ else ⟨3, 16⟩

def forward (r : Regex) : Footprint :=
  ((lay false r .alone ((opening r.startsText).add 1 0)).closed).add 2 0

def backward (r : Regex) : Footprint :=
  ((lay true r .alone (opening r.endsText)).closed).add 1 0

end Footprint

def Regex.tooLarge (r : Regex) : Bool :=
  (Footprint.forward r).tooLarge || (Footprint.backward r).tooLarge

end LogLayout.NamePattern
