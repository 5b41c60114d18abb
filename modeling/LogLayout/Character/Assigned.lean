import LogLayout.Character.Letter
import LogLayout.Character.Mark
import LogLayout.Character.Numeral
import LogLayout.Character.Punctuation
import LogLayout.Character.Symbol

/- Separators, controls and the other general categories that stand for no letter or sign, and the
   code points that no category claims. Surrogates are assigned but are no characters. -/
namespace LogLayout.Character

def spaceSeparators : Ranges :=
  [(32, 32), (160, 160), (5760, 5760), (8192, 8202), (8239, 8239), (8287, 8287), (12288, 12288)]

def lineSeparators : Ranges :=
  [(8232, 8232)]

def paragraphSeparators : Ranges :=
  [(8233, 8233)]

def separators : Ranges := .unionOf [spaceSeparators, lineSeparators, paragraphSeparators]

def controls : Ranges :=
  [(0, 31), (127, 159)]

def formats : Ranges :=
  [(173, 173), (1536, 1541), (1564, 1564), (1757, 1757), (1807, 1807), (2192, 2193), (2274, 2274),
   (6158, 6158), (8203, 8207), (8234, 8238), (8288, 8292), (8294, 8303), (65279, 65279),
   (65529, 65531), (69821, 69821), (69837, 69837), (78896, 78911), (113824, 113827),
   (119155, 119162), (917505, 917505), (917536, 917631)]

def surrogates : Ranges := [(0xD800, 0xDFFF)]

def privateUse : Ranges :=
  [(57344, 63743), (983040, 1048573), (1048576, 1114109)]

def unassigned : Ranges :=
  Ranges.complement (.unionOf [letters, marks, numbers, punctuation, symbols, separators,
    controls, formats, surrogates, privateUse])

def assigned : Ranges := unassigned.complement

def others : Ranges := .unionOf [controls, formats, surrogates, privateUse, unassigned]

end LogLayout.Character
