import LogLayout.Character.Letter
import LogLayout.Character.Fold

/- Upper and lower case as properties of characters, and the characters that a change of case
   changes. -/
namespace LogLayout.Character

def otherLowercase : Ranges :=
  [(170, 170), (186, 186), (688, 696), (704, 705), (736, 740), (837, 837), (890, 890),
   (4348, 4348), (7468, 7530), (7544, 7544), (7579, 7615), (8305, 8305), (8319, 8319),
   (8336, 8348), (8560, 8575), (9424, 9449), (11388, 11389), (42652, 42653), (42864, 42864),
   (42994, 42996), (43000, 43001), (43868, 43871), (43881, 43881), (67456, 67456), (67459, 67461),
   (67463, 67504), (67506, 67514), (122928, 122989)]

def otherUppercase : Ranges :=
  [(8544, 8559), (9398, 9423), (127280, 127305), (127312, 127337), (127344, 127369)]

def lowercase : Ranges := lowercaseLetters.union otherLowercase

def uppercase : Ranges := uppercaseLetters.union otherUppercase

def cased : Ranges := .unionOf [lowercase, uppercase, titlecaseLetters]

def lettersWithoutLowercase : Ranges :=
  [(978, 980), (8450, 8450), (8455, 8455), (8459, 8461), (8464, 8466), (8469, 8469), (8473, 8477),
   (8484, 8484), (8488, 8488), (8492, 8493), (8496, 8497), (8499, 8499), (8510, 8511),
   (8517, 8517), (119808, 119833), (119860, 119885), (119912, 119937), (119964, 119964),
   (119966, 119967), (119970, 119970), (119973, 119974), (119977, 119980), (119982, 119989),
   (120016, 120041), (120068, 120069), (120071, 120074), (120077, 120084), (120086, 120092),
   (120120, 120121), (120123, 120126), (120128, 120132), (120134, 120134), (120138, 120144),
   (120172, 120197), (120224, 120249), (120276, 120301), (120328, 120353), (120380, 120405),
   (120432, 120457), (120488, 120512), (120546, 120570), (120604, 120628), (120662, 120686),
   (120720, 120744), (120778, 120778)]

def changesWhenLowercased : Ranges :=
  ((uppercaseLetters.union titlecaseLetters).minus lettersWithoutLowercase).union [(8544, 8559),
    (9398, 9423)]

def uppercaseExpansions : Ranges :=
  [(305, 305), (329, 329), (453, 453), (456, 456), (459, 459), (496, 496), (498, 498),
   (1415, 1415), (7830, 7834), (8016, 8016), (8018, 8018), (8020, 8020), (8022, 8022),
   (8072, 8079), (8088, 8095), (8104, 8111), (8114, 8114), (8116, 8116), (8118, 8119),
   (8124, 8124), (8130, 8130), (8132, 8132), (8134, 8135), (8140, 8140), (8146, 8146),
   (8150, 8151), (8162, 8162), (8164, 8164), (8166, 8167), (8178, 8178), (8180, 8180),
   (8182, 8183), (8188, 8188), (64256, 64260), (64275, 64279)]

def changesWhenUppercased : Ranges :=
  (foldable.minus changesWhenLowercased).union uppercaseExpansions

def titlecaseForms : Ranges :=
  [(453, 453), (456, 456), (459, 459), (498, 498), (4304, 4346), (4349, 4351), (8072, 8079),
   (8088, 8095), (8104, 8111), (8124, 8124), (8140, 8140), (8188, 8188)]

def changesWhenTitlecased : Ranges :=
  (changesWhenUppercased.minus titlecaseForms).union [(452, 452), (455, 455), (458, 458), (497,
    497)]

def lowercaseVariants : Ranges :=
  [(181, 181), (223, 223), (329, 329), (383, 383), (837, 837), (962, 962), (976, 977), (981, 982),
   (1008, 1009), (1013, 1013), (1415, 1415), (5112, 5117), (7296, 7304), (7834, 7835),
   (8064, 8071), (8080, 8087), (8096, 8103), (8114, 8116), (8119, 8119), (8130, 8132),
   (8135, 8135), (8178, 8180), (8183, 8183), (43888, 43967), (64256, 64262), (64275, 64279)]

def changesWhenCasefolded : Ranges :=
  (changesWhenLowercased.minus [(5024, 5109)]).union lowercaseVariants

def changesWhenCasemapped : Ranges :=
  .unionOf [changesWhenLowercased, changesWhenUppercased, changesWhenTitlecased]

end LogLayout.Character
