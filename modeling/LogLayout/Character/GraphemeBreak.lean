import LogLayout.Character.Combining
import LogLayout.Character.Emoji

/- How characters join into what a reader takes for one character: the values of the property
   Grapheme_Cluster_Break. A Hangul syllable without a final consonant is every 28th. -/
namespace LogLayout.Character

def graphemeControls : Ranges :=
  (Ranges.unionOf [lineSeparators, paragraphSeparators, controls, formats, unassigned.both
    defaultIgnorable]).minus (.unionOf [[(10, 10), (13, 13), (0x200C, 0x200D)],
    prependedConcatenationMarks, graphemeExtend, emojiModifiers])

def prependingLetters : Ranges :=
  [(3406, 3406), (70082, 70083), (70609, 70609), (71999, 71999), (72001, 72001), (72250, 72250),
   (72324, 72329), (73030, 73030), (73474, 73474)]

def standingSpacingMarks : Ranges :=
  [(4139, 4140), (4152, 4152), (4194, 4196), (4199, 4205), (4227, 4227), (4231, 4236),
   (4239, 4239), (4250, 4252), (6753, 6753), (6755, 6756), (43643, 43643), (43645, 43645),
   (71456, 71457)]

def hangulPlain : Ranges := (List.range 399).map fun i => (0xAC00 + 28 * i, 0xAC00 + 28 * i)

def graphemeBreakNamed? : String → Option Ranges
  | "cr" => some [(13, 13)]
  | "lf" => some [(10, 10)]
  | "control" | "cn" => some graphemeControls
  | "extend" | "ex" => some (graphemeExtend.union emojiModifiers)
  | "prepend" | "pp" => some (prependedConcatenationMarks.union prependingLetters)
  | "spacingmark" | "sm" =>
    let marks := spacingMarks.minus (graphemeExtend.union emojiModifiers)
    some ((marks.minus standingSpacingMarks).union [(0xE33, 0xE33), (0xEB3, 0xEB3)])
  | "regionalindicator" | "ri" => some regionalIndicators
  | "zwj" => some [(0x200D, 0x200D)]
  | "l" => some [(0x1100, 0x115F), (0xA960, 0xA97C)]
  | "v" => some [(0x1160, 0x11A7), (0xD7B0, 0xD7C6), (0x16D63, 0x16D63), (0x16D67, 0x16D6A)]
  | "t" => some [(0x11A8, 0x11FF), (0xD7CB, 0xD7FB)]
  | "lv" => some hangulPlain
  | "lvt" => some (Ranges.minus [(0xAC00, 0xD7A3)] hangulPlain)
  | _ => none

end LogLayout.Character
