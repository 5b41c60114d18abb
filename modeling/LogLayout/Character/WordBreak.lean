import LogLayout.Character.Alphabetic
import LogLayout.Character.Ideograph
import LogLayout.Character.GraphemeBreak
import LogLayout.Character.Script

/- How characters join into words: the values of the property Word_Break. Letters of the scripts
   that write words without gaps count as no letters here. -/
namespace LogLayout.Character

def gaplessLetters : Ranges :=
  [(3585, 3632), (3634, 3635), (3648, 3654), (3713, 3714), (3716, 3716), (3718, 3722),
   (3724, 3747), (3749, 3749), (3751, 3760), (3762, 3763), (3773, 3773), (3776, 3780),
   (3782, 3782), (3804, 3807), (4096, 4138), (4159, 4159), (4176, 4181), (4186, 4189),
   (4193, 4193), (4197, 4198), (4206, 4208), (4213, 4225), (4238, 4238), (6016, 6067),
   (6103, 6103), (6108, 6108), (6480, 6509), (6512, 6516), (6528, 6571), (6576, 6601),
   (6688, 6740), (6823, 6823), (43488, 43492), (43494, 43503), (43514, 43518), (43616, 43638),
   (43642, 43642), (43646, 43695), (43697, 43697), (43701, 43702), (43705, 43709), (43712, 43712),
   (43714, 43714), (43739, 43741), (71424, 71450), (71488, 71494)]

def letterlikeSigns : Ranges :=
  [(706, 709), (722, 727), (734, 735), (741, 747), (749, 749), (751, 767), (1370, 1372),
   (1374, 1374), (1418, 1418), (1523, 1523), (1807, 1807), (42760, 42774), (42784, 42785),
   (42889, 42890), (43867, 43867)]

def numericSigns : Ranges :=
  [(1536, 1541), (1643, 1643), (1757, 1757), (2192, 2193), (2274, 2274), (6618, 6618),
   (69821, 69821), (69837, 69837)]

def katakanaSigns : Ranges :=
  [(12337, 12341), (12443, 12444), (12448, 12448), (12540, 12540), (65392, 65392)]

def wordExtend : Ranges := .unionOf [graphemeExtend, emojiModifiers, spacingMarks]

def katakanaLetters : Ranges := ((scriptNamed? "kana").getD []).union katakanaSigns

def hebrewLetters : Ranges := ((scriptNamed? "hebr").getD []).both otherLetters

def midLetters : Ranges :=
  [(58, 58), (183, 183), (903, 903), (1375, 1375), (1524, 1524), (8231, 8231), (65043, 65043),
   (65109, 65109), (65306, 65306)]

def midNumbers : Ranges :=
  [(44, 44), (59, 59), (894, 894), (1417, 1417), (1548, 1549), (1644, 1644), (2040, 2040),
   (8260, 8260), (65104, 65104), (65108, 65108), (65292, 65292), (65307, 65307)]

def midNumbersAndLetters : Ranges :=
  [(46, 46), (8216, 8217), (8228, 8228), (65106, 65106), (65287, 65287), (65294, 65294)]

def caseIgnorable : Ranges :=
  .unionOf [nonspacingMarks, enclosingMarks, formats, modifierLetters, modifierSymbols,
    midLetters, midNumbersAndLetters, [(39, 39)]]

def wordLetters : Ranges :=
  (alphabetic.minus (.unionOf [ideographic, katakanaLetters, wordExtend, hebrewLetters,
    (scriptNamed? "hira").getD [], gaplessLetters])).union letterlikeSigns

def wordBreakNamed? : String → Option Ranges
  | "aletter" | "le" => some wordLetters
  | "cr" => some [(13, 13)]
  | "lf" => some [(10, 10)]
  | "newline" | "nl" => some [(0xB, 0xC), (0x85, 0x85), (0x2028, 0x2029)]
  | "doublequote" | "dq" => some [(34, 34)]
  | "singlequote" | "sq" => some [(39, 39)]
  | "extend" => some wordExtend
  | "extendnumlet" | "ex" => some (connectorPunctuation.union [(0x202F, 0x202F)])
  | "format" | "fo" =>
    some [(0xAD, 0xAD), (0x61C, 0x61C), (0x180E, 0x180E), (0x200E, 0x200F), (0x202A, 0x202E),
      (0x2060, 0x2064), (0x2066, 0x206F), (0xFEFF, 0xFEFF), (0xFFF9, 0xFFFB), (0x13430, 0x1343F),
      (0x1BCA0, 0x1BCA3), (0x1D173, 0x1D17A), (0xE0001, 0xE0001)]
  | "hebrewletter" | "hl" => some hebrewLetters
  | "katakana" | "ka" => some katakanaLetters
  | "midletter" | "ml" => some midLetters
  | "midnum" | "mn" => some midNumbers
  | "midnumlet" | "mb" => some midNumbersAndLetters
  | "numeric" | "nu" => some (decimalNumbers.union numericSigns)
  | "regionalindicator" | "ri" => some regionalIndicators
  | "wsegspace" =>
    some [(0x20, 0x20), (0x1680, 0x1680), (0x2000, 0x2006), (0x2008, 0x200A), (0x205F, 0x205F),
      (0x3000, 0x3000)]
  | "zwj" => some [(0x200D, 0x200D)]
  | _ => none

end LogLayout.Character
