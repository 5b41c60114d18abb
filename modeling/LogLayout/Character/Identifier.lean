import LogLayout.Character.Assigned

/- Characters of identifiers and the characters that patterns reserve for themselves. The
   extended sets leave out what normalisation would take out of an identifier. -/
namespace LogLayout.Character

def patternSyntax : Ranges :=
  [(33, 47), (58, 64), (91, 94), (96, 96), (123, 126), (161, 167), (169, 169), (171, 172),
   (174, 174), (176, 177), (182, 182), (187, 187), (191, 191), (215, 215), (247, 247),
   (8208, 8231), (8240, 8254), (8257, 8275), (8277, 8286), (8592, 9311), (9472, 10101),
   (10132, 11263), (11776, 11903), (12289, 12291), (12296, 12320), (12336, 12336), (64830, 64831),
   (65093, 65094)]

def patternWhiteSpace : Ranges :=
  [(9, 13), (32, 32), (133, 133), (8206, 8207), (8232, 8233)]

def otherIdStart : Ranges :=
  [(6277, 6278), (8472, 8472), (8494, 8494), (12443, 12444)]

def otherIdContinue : Ranges :=
  [(183, 183), (903, 903), (4969, 4977), (6618, 6618), (8204, 8205), (12539, 12539),
   (65381, 65381)]

def idStart : Ranges :=
  (Ranges.unionOf [letters, letterNumbers, otherIdStart]).minus (patternSyntax.union
    patternWhiteSpace)

def idContinue : Ranges :=
  (Ranges.unionOf [idStart, nonspacingMarks, spacingMarks, decimalNumbers, connectorPunctuation,
    otherIdContinue]).minus (patternSyntax.union patternWhiteSpace)

def normalizedOutside : Ranges :=
  [(890, 890), (12443, 12444), (64606, 64611), (65018, 65019), (65136, 65136), (65138, 65138),
   (65140, 65140), (65142, 65142), (65144, 65144), (65146, 65146), (65148, 65148), (65150, 65150)]

def normalizedToContinue : Ranges :=
  [(3635, 3635), (3763, 3763), (65438, 65439)]

def xidStart : Ranges := idStart.minus (normalizedOutside.union normalizedToContinue)

def xidContinue : Ranges := idContinue.minus normalizedOutside

def idCompatMathStart : Ranges :=
  [(8706, 8706), (8711, 8711), (8734, 8734), (120513, 120513), (120539, 120539), (120571, 120571),
   (120597, 120597), (120629, 120629), (120655, 120655), (120687, 120687), (120713, 120713),
   (120745, 120745), (120771, 120771)]

def idCompatMathContinue : Ranges :=
  [(178, 179), (185, 185), (8304, 8304), (8308, 8318), (8320, 8334), (8706, 8706), (8711, 8711),
   (8734, 8734), (120513, 120513), (120539, 120539), (120571, 120571), (120597, 120597),
   (120629, 120629), (120655, 120655), (120687, 120687), (120713, 120713), (120745, 120745),
   (120771, 120771)]

end LogLayout.Character
