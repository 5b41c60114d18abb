/- Ranges of characters as sequences of ranges of bytes: a character is in the range if and only if
   its UTF-8 bytes are, one by one, in the ranges of one of the sequences. -/
namespace LogLayout.Text

def utf8Bytes (n : Nat) : List Nat :=
  if n < 0x80 then [n]
  else if n < 0x800 then [0xC0 + n / 64, 0x80 + n % 64]
  else if n < 0x10000 then [0xE0 + n / 4096, 0x80 + n / 64 % 64, 0x80 + n % 64]
  else [0xF0 + n / 262144, 0x80 + n / 4096 % 64, 0x80 + n / 64 % 64, 0x80 + n % 64]

def clipped (low high : Nat) (bounds : Nat × Nat) : List (Nat × Nat) :=
  if max low bounds.1 ≤ min high bounds.2 then [(max low bounds.1, min high bounds.2)] else []

def stretches : List (Nat × Nat) :=
  [(0, 0x7F), (0x80, 0x7FF), (0x800, 0xD7FF), (0xE000, 0xFFFF), (0x10000, 0x10FFFF)]

/-- Cuts off what lies before the first and behind the last boundary of a block. -/
def cutAtBlocks (block : Nat) (r : Nat × Nat) : List (Nat × Nat) :=
  if r.1 / block = r.2 / block then [r]
  else
    let first := (r.1 + block - 1) / block * block
    let stop := (r.2 + 1) / block * block
    (if r.1 < first then [(r.1, first - 1)] else []) ++
      (if first < stop then [(first, stop - 1)] else []) ++
      if stop ≤ r.2 then [(stop, r.2)] else []

def byteRanges (low high : Nat) : List (List (Nat × Nat)) :=
  (stretches.flatMap (clipped low high)).flatMap fun r =>
    if r.2 < 0x80 then [[r]]
    else
      (((cutAtBlocks 64 r).flatMap (cutAtBlocks 4096)).flatMap (cutAtBlocks 262144)).map
        fun part => (utf8Bytes part.1).zip (utf8Bytes part.2)

end LogLayout.Text
