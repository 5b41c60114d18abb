import LogLayout.Character.Assigned

/- Signs with a role in writing: dashes, quotation marks, ends of sentences, mirrored signs, digits
   of other bases, and characters that are not shown. -/
namespace LogLayout.Character

def asciiHexDigits : Ranges := [(48, 57), (65, 70), (97, 102)]

def hexDigits : Ranges :=
  [(48, 57), (65, 70), (97, 102), (65296, 65305), (65313, 65318), (65345, 65350)]

def dashes : Ranges :=
  [(45, 45), (1418, 1418), (1470, 1470), (5120, 5120), (6150, 6150), (8208, 8213), (8275, 8275),
   (8315, 8315), (8331, 8331), (8722, 8722), (11799, 11799), (11802, 11802), (11834, 11835),
   (11840, 11840), (11869, 11869), (12316, 12316), (12336, 12336), (12448, 12448), (65073, 65074),
   (65112, 65112), (65123, 65123), (65293, 65293), (68974, 68974), (69293, 69293)]

def hyphens : Ranges :=
  [(45, 45), (173, 173), (1418, 1418), (6150, 6150), (8208, 8209), (11799, 11799), (12539, 12539),
   (65123, 65123), (65293, 65293), (65381, 65381)]

def quotationMarks : Ranges :=
  [(34, 34), (39, 39), (171, 171), (187, 187), (8216, 8223), (8249, 8250), (11842, 11842),
   (12300, 12303), (12317, 12319), (65089, 65092), (65282, 65282), (65287, 65287), (65378, 65379)]

def sentenceTerminals : Ranges :=
  [(33, 33), (46, 46), (63, 63), (1417, 1417), (1565, 1567), (1748, 1748), (1792, 1794),
   (2041, 2041), (2103, 2103), (2105, 2105), (2109, 2110), (2404, 2405), (4170, 4171),
   (4962, 4962), (4967, 4968), (5742, 5742), (5941, 5942), (6100, 6101), (6147, 6147),
   (6153, 6153), (6468, 6469), (6824, 6827), (6990, 6991), (7002, 7003), (7006, 7007),
   (7037, 7039), (7227, 7228), (7294, 7295), (8228, 8228), (8252, 8253), (8263, 8265),
   (11513, 11515), (11822, 11822), (11836, 11836), (11859, 11860), (12290, 12290), (42239, 42239),
   (42510, 42511), (42739, 42739), (42743, 42743), (43126, 43127), (43214, 43215), (43311, 43311),
   (43464, 43465), (43613, 43615), (43760, 43761), (44011, 44011), (65042, 65042), (65045, 65046),
   (65106, 65106), (65110, 65111), (65281, 65281), (65294, 65294), (65311, 65311), (65377, 65377),
   (68182, 68183), (69461, 69465), (69510, 69513), (69703, 69704), (69822, 69825), (69953, 69955),
   (70085, 70086), (70093, 70093), (70110, 70111), (70200, 70201), (70203, 70204), (70313, 70313),
   (70612, 70613), (70731, 70732), (71106, 71107), (71113, 71127), (71233, 71234), (71484, 71486),
   (72004, 72004), (72006, 72006), (72258, 72259), (72347, 72348), (72769, 72770), (73463, 73464),
   (73539, 73540), (92782, 92783), (92917, 92917), (92983, 92984), (92996, 92996), (93550, 93551),
   (93848, 93848), (113823, 113823), (121480, 121480)]

def terminalPunctuation : Ranges :=
  [(33, 33), (44, 44), (46, 46), (58, 59), (63, 63), (894, 894), (903, 903), (1417, 1417),
   (1475, 1475), (1548, 1548), (1563, 1563), (1565, 1567), (1748, 1748), (1792, 1802),
   (1804, 1804), (2040, 2041), (2096, 2101), (2103, 2110), (2142, 2142), (2404, 2405),
   (3674, 3675), (3848, 3848), (3853, 3858), (4170, 4171), (4961, 4968), (5742, 5742),
   (5867, 5869), (5941, 5942), (6100, 6102), (6106, 6106), (6146, 6149), (6152, 6153),
   (6468, 6469), (6824, 6827), (6990, 6991), (7002, 7003), (7005, 7007), (7037, 7039),
   (7227, 7231), (7294, 7295), (8228, 8228), (8252, 8253), (8263, 8265), (11513, 11515),
   (11822, 11822), (11836, 11836), (11841, 11841), (11852, 11852), (11854, 11855), (11859, 11860),
   (12289, 12290), (42238, 42239), (42509, 42511), (42739, 42743), (43126, 43127), (43214, 43215),
   (43311, 43311), (43463, 43465), (43613, 43615), (43743, 43743), (43760, 43761), (44011, 44011),
   (65042, 65042), (65045, 65046), (65104, 65106), (65108, 65111), (65281, 65281), (65292, 65292),
   (65294, 65294), (65306, 65307), (65311, 65311), (65377, 65377), (65380, 65380), (66463, 66463),
   (66512, 66512), (67671, 67671), (67871, 67871), (68182, 68183), (68336, 68341), (68410, 68415),
   (68505, 68508), (69461, 69465), (69510, 69513), (69703, 69709), (69822, 69825), (69953, 69955),
   (70085, 70086), (70093, 70093), (70110, 70111), (70200, 70204), (70313, 70313), (70612, 70613),
   (70731, 70733), (70746, 70747), (71106, 71109), (71113, 71127), (71233, 71234), (71484, 71486),
   (72004, 72004), (72006, 72006), (72258, 72259), (72347, 72348), (72353, 72354), (72769, 72771),
   (72817, 72817), (73463, 73464), (73539, 73540), (74864, 74868), (92782, 92783), (92917, 92917),
   (92983, 92985), (92996, 92996), (93550, 93551), (93847, 93848), (113823, 113823),
   (121479, 121482)]

def mirrored : Ranges :=
  [(40, 41), (60, 60), (62, 62), (91, 91), (93, 93), (123, 123), (125, 125), (171, 171),
   (187, 187), (3898, 3901), (5787, 5788), (8249, 8250), (8261, 8262), (8317, 8318), (8333, 8334),
   (8512, 8512), (8705, 8708), (8712, 8717), (8721, 8721), (8725, 8726), (8730, 8733),
   (8735, 8738), (8740, 8740), (8742, 8742), (8747, 8755), (8761, 8761), (8763, 8780),
   (8786, 8789), (8799, 8800), (8802, 8802), (8804, 8811), (8813, 8844), (8847, 8850),
   (8856, 8856), (8866, 8867), (8870, 8888), (8894, 8895), (8905, 8909), (8912, 8913),
   (8918, 8941), (8944, 8959), (8968, 8971), (8992, 8993), (9001, 9002), (10088, 10101),
   (10176, 10176), (10179, 10182), (10184, 10185), (10187, 10189), (10195, 10198), (10204, 10206),
   (10210, 10223), (10627, 10648), (10651, 10656), (10658, 10671), (10680, 10680), (10688, 10693),
   (10697, 10697), (10702, 10706), (10708, 10709), (10712, 10716), (10721, 10721), (10723, 10725),
   (10728, 10729), (10740, 10745), (10748, 10749), (10762, 10780), (10782, 10785), (10788, 10788),
   (10790, 10790), (10793, 10793), (10795, 10798), (10804, 10805), (10812, 10814), (10839, 10840),
   (10852, 10853), (10858, 10861), (10863, 10864), (10867, 10868), (10873, 10915), (10918, 10925),
   (10927, 10966), (10972, 10972), (10974, 10974), (10978, 10982), (10988, 10990), (10995, 10995),
   (10999, 11003), (11005, 11005), (11262, 11262), (11778, 11781), (11785, 11786), (11788, 11789),
   (11804, 11805), (11808, 11817), (11861, 11868), (12296, 12305), (12308, 12315), (65113, 65118),
   (65124, 65125), (65288, 65289), (65308, 65308), (65310, 65310), (65339, 65339), (65341, 65341),
   (65371, 65371), (65373, 65373), (65375, 65376), (65378, 65379), (120539, 120539),
   (120597, 120597), (120655, 120655), (120713, 120713), (120771, 120771)]

def bidiControls : Ranges :=
  [(1564, 1564), (8206, 8207), (8234, 8238), (8294, 8297)]

def otherMath : Ranges :=
  [(94, 94), (976, 978), (981, 981), (1008, 1009), (1012, 1013), (8214, 8214), (8242, 8244),
   (8256, 8256), (8289, 8292), (8317, 8318), (8333, 8334), (8400, 8412), (8417, 8417),
   (8421, 8422), (8427, 8431), (8450, 8450), (8455, 8455), (8458, 8467), (8469, 8469),
   (8473, 8477), (8484, 8484), (8488, 8489), (8492, 8493), (8495, 8497), (8499, 8504),
   (8508, 8511), (8517, 8521), (8597, 8601), (8604, 8607), (8609, 8610), (8612, 8613),
   (8615, 8615), (8617, 8621), (8624, 8625), (8630, 8631), (8636, 8653), (8656, 8657),
   (8659, 8659), (8661, 8667), (8669, 8669), (8676, 8677), (8968, 8971), (9140, 9141),
   (9143, 9143), (9168, 9168), (9186, 9186), (9632, 9633), (9646, 9654), (9660, 9664),
   (9670, 9671), (9674, 9675), (9679, 9683), (9698, 9698), (9700, 9700), (9703, 9708),
   (9733, 9734), (9792, 9792), (9794, 9794), (9824, 9827), (9837, 9838), (10181, 10182),
   (10214, 10223), (10627, 10648), (10712, 10715), (10748, 10749), (65121, 65121), (65123, 65123),
   (65128, 65128), (65340, 65340), (65342, 65342), (119808, 119892), (119894, 119964),
   (119966, 119967), (119970, 119970), (119973, 119974), (119977, 119980), (119982, 119993),
   (119995, 119995), (119997, 120003), (120005, 120069), (120071, 120074), (120077, 120084),
   (120086, 120092), (120094, 120121), (120123, 120126), (120128, 120132), (120134, 120134),
   (120138, 120144), (120146, 120485), (120488, 120512), (120514, 120538), (120540, 120570),
   (120572, 120596), (120598, 120628), (120630, 120654), (120656, 120686), (120688, 120712),
   (120714, 120744), (120746, 120770), (120772, 120779), (120782, 120831), (126464, 126467),
   (126469, 126495), (126497, 126498), (126500, 126500), (126503, 126503), (126505, 126514),
   (126516, 126519), (126521, 126521), (126523, 126523), (126530, 126530), (126535, 126535),
   (126537, 126537), (126539, 126539), (126541, 126543), (126545, 126546), (126548, 126548),
   (126551, 126551), (126553, 126553), (126555, 126555), (126557, 126557), (126559, 126559),
   (126561, 126562), (126564, 126564), (126567, 126570), (126572, 126578), (126580, 126583),
   (126585, 126588), (126590, 126590), (126592, 126601), (126603, 126619), (126625, 126627),
   (126629, 126633), (126635, 126651)]

def math : Ranges := mathSymbols.union otherMath

def deprecated : Ranges :=
  [(329, 329), (1651, 1651), (3959, 3959), (3961, 3961), (6051, 6052), (8298, 8303), (9001, 9002),
   (917505, 917505)]

def noncharacters : Ranges :=
  [(64976, 65007), (65534, 65535), (131070, 131071), (196606, 196607), (262142, 262143),
   (327678, 327679), (393214, 393215), (458750, 458751), (524286, 524287), (589822, 589823),
   (655358, 655359), (720894, 720895), (786430, 786431), (851966, 851967), (917502, 917503),
   (983038, 983039), (1048574, 1048575), (1114110, 1114111)]

def whiteSpace : Ranges :=
  [(9, 13), (32, 32), (133, 133), (160, 160), (5760, 5760), (8192, 8202), (8232, 8233),
   (8239, 8239), (8287, 8287), (12288, 12288)]

def variationSelectors : Ranges :=
  [(6155, 6157), (6159, 6159), (65024, 65039), (917760, 917999)]

def prependedConcatenationMarks : Ranges :=
  [(1536, 1541), (1757, 1757), (1807, 1807), (2192, 2193), (2274, 2274), (69821, 69821),
   (69837, 69837)]

def otherDefaultIgnorable : Ranges :=
  [(847, 847), (4447, 4448), (6068, 6069), (8293, 8293), (12644, 12644), (65440, 65440),
   (65520, 65528), (917504, 917504), (917506, 917535), (917632, 917759), (918000, 921599)]

def defaultIgnorable : Ranges :=
  (Ranges.unionOf [otherDefaultIgnorable, formats, variationSelectors]).minus (.unionOf
    [whiteSpace, [(0xFFF9, 0xFFFB), (0x13430, 0x1343F)], prependedConcatenationMarks])

end LogLayout.Character
