import LogLayout.Character.WordBreak

/- How characters join into sentences: the values of the property Sentence_Break. -/
namespace LogLayout.Character

def sentenceExtend : Ranges := .unionOf [graphemeExtend, spacingMarks, [(0x200D, 0x200D)]]

def georgianLetters : Ranges :=
  [(0x10D0, 0x10FA), (0x10FD, 0x10FF), (0x1C90, 0x1CBA), (0x1CBD, 0x1CBF)]

def sentenceLower : Ranges := (lowercase.minus sentenceExtend).minus georgianLetters

def sentenceUpper : Ranges := (titlecaseLetters.union uppercase).minus georgianLetters

def sentenceClosers : Ranges :=
  [(34, 34), (39, 41), (91, 91), (93, 93), (123, 123), (125, 125), (171, 171), (187, 187),
   (3898, 3901), (5787, 5788), (8216, 8223), (8249, 8250), (8261, 8262), (8317, 8318),
   (8333, 8334), (8968, 8971), (9001, 9002), (10075, 10080), (10088, 10101), (10181, 10182),
   (10214, 10223), (10627, 10648), (10712, 10715), (10748, 10749), (11776, 11789), (11804, 11805),
   (11808, 11817), (11842, 11842), (11861, 11868), (12296, 12305), (12308, 12315), (12317, 12319),
   (64830, 64831), (65047, 65048), (65077, 65092), (65095, 65096), (65113, 65118), (65288, 65289),
   (65339, 65339), (65341, 65341), (65371, 65371), (65373, 65373), (65375, 65376), (65378, 65379),
   (128630, 128632)]

def sentenceContinuers : Ranges :=
  [(44, 45), (58, 59), (894, 894), (1373, 1373), (1548, 1549), (2040, 2040), (6146, 6146),
   (6152, 6152), (8211, 8212), (12289, 12289), (65040, 65041), (65043, 65044), (65073, 65074),
   (65104, 65105), (65108, 65109), (65112, 65112), (65123, 65123), (65292, 65293), (65306, 65307),
   (65380, 65380)]

def sentenceBreakNamed? : String → Option Ranges
  | "aterm" | "at" => some [(0x2E, 0x2E), (0x2024, 0x2024), (0xFE52, 0xFE52), (0xFF0E, 0xFF0E)]
  | "close" | "cl" => some sentenceClosers
  | "cr" => some [(13, 13)]
  | "lf" => some [(10, 10)]
  | "extend" | "ex" => some sentenceExtend
  | "format" | "fo" =>
    some [(0xAD, 0xAD), (0x61C, 0x61C), (0x70F, 0x70F), (0x180E, 0x180E), (0x200B, 0x200B),
      (0x200E, 0x200F), (0x202A, 0x202E), (0x2060, 0x2064), (0x2066, 0x206F), (0xFEFF, 0xFEFF),
      (0xFFF9, 0xFFFB), (0x13430, 0x1343F), (0x1BCA0, 0x1BCA3), (0x1D173, 0x1D17A),
      (0xE0001, 0xE0001)]
  | "lower" | "lo" => some sentenceLower
  | "upper" | "up" => some sentenceUpper
  | "numeric" | "nu" => some (.unionOf [decimalNumbers, numericSigns, [(0x66C, 0x66C)]])
  | "oletter" | "le" =>
    some (Ranges.minus (alphabetic.union [(0xA0, 0xA0), (0x5F3, 0x5F3)])
      (.unionOf [sentenceLower, sentenceUpper, sentenceExtend, [(0xA0, 0xA0)]]))
  | "scontinue" | "sc" => some sentenceContinuers
  | "sep" | "se" => some [(0x85, 0x85), (0x2028, 0x2029)]
  | "sp" =>
    some [(0x9, 0x9), (0xB, 0xC), (0x20, 0x20), (0xA0, 0xA0), (0x1680, 0x1680),
      (0x2000, 0x200A), (0x202F, 0x202F), (0x205F, 0x205F), (0x3000, 0x3000)]
  | "sterm" | "st" =>
    some (sentenceTerminals.minus
      [(0x2E, 0x2E), (0x2024, 0x2024), (0xFE52, 0xFE52), (0xFF0E, 0xFF0E)])
  | _ => none

end LogLayout.Character
