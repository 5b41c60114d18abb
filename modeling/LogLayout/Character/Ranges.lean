/- Sets of characters as ranges of code points with both ends, in rising order and with gaps
   between them. The surrogates from U+D800 to U+DFFF are no characters: a step over either end of
   that stretch passes over all of it, and ranges that meet across it are not joined. -/
namespace LogLayout

abbrev Ranges := List (Nat × Nat)

namespace Ranges

def last : Nat := 0x10FFFF

def has (rs : Ranges) (n : Nat) : Bool := rs.any fun r => r.1 ≤ n && n ≤ r.2

def before (n : Nat) : Nat := if n = 0xE000 then 0xD7FF else n - 1

def after (n : Nat) : Nat := if n = 0xD7FF then 0xE000 else n + 1

def joined (a : Nat × Nat) : Ranges → Ranges
  | [] => [a]
  | b :: rest =>
    if b.1 ≤ a.2 + 1 then joined (a.1, max a.2 b.2) rest else a :: joined b rest

def ofList (rs : Ranges) : Ranges :=
  match rs.mergeSort fun a b => a.1 < b.1 || (a.1 == b.1 && a.2 ≤ b.2) with
  | [] => []
  | a :: rest => joined a rest

def union (a b : Ranges) : Ranges := if b.isEmpty || a == b then a else ofList (a ++ b)

def unionOf (sets : List Ranges) : Ranges := ofList sets.flatten

def both : Ranges → Ranges → Ranges
  | [], _ => []
  | _ :: _, [] => []
  | a :: as, b :: bs =>
    let rest := if a.2 < b.2 then both as (b :: bs) else both (a :: as) bs
    if max a.1 b.1 ≤ min a.2 b.2 then (max a.1 b.1, min a.2 b.2) :: rest else rest
termination_by a b => a.length + b.length

def minus : Ranges → Ranges → Ranges
  | [], _ => []
  | a :: as, [] => a :: as
  | a :: as, b :: bs =>
    if b.2 < a.1 then minus (a :: as) bs
    else if a.2 < b.1 then a :: minus as (b :: bs)
    else
      let rest := if b.2 < a.2 then minus ((after b.2, a.2) :: as) bs else minus as (b :: bs)
      if a.1 < b.1 then (a.1, before b.1) :: rest else rest
termination_by a b => a.length + b.length

def exactlyOne (a b : Ranges) : Ranges := (union a b).minus (both a b)

/-- The stretch after one range and before the next. Between ranges that meet across the
    surrogates there is none; the ends then come out exchanged and span the two characters there. -/
def stretch (low high : Nat) : Nat × Nat := (min low high, max low high)

def gapsAfter (a : Nat × Nat) : Ranges → Ranges
  | [] => if a.2 < last then [(after a.2, last)] else []
  | b :: rest => stretch (after a.2) (before b.1) :: gapsAfter b rest

def complement : Ranges → Ranges
  | [] => [(0, last)]
  | r :: rest => (if 0 < r.1 then [(0, before r.1)] else []) ++ gapsAfter r rest

def everyOther (rs : Ranges) : Ranges :=
  rs.flatMap fun r => (List.range ((r.2 - r.1) / 2 + 1)).map fun i => (r.1 + 2 * i, r.1 + 2 * i)

end Ranges

end LogLayout
