/-!
# Forms of letters that are replaced in host names

Presentation forms, wide and narrow characters and mathematical alphabets, which plain characters
stand for.
-/

namespace HttpSuite.Domain

/-- Ranges of presentation forms that are replaced by consecutive code points, with the one that
replaces the first. -/
def mappedForms : Array (Nat × Nat × Nat) :=
  #[(0xFB20, 0xFB20, 0x5E2), (0xFB21, 0xFB21, 0x5D0), (0xFB22, 0xFB23, 0x5D3),
    (0xFB24, 0xFB26, 0x5DB), (0xFB27, 0xFB27, 0x5E8), (0xFB28, 0xFB28, 0x5EA),
    (0xFB29, 0xFB29, 0x2B), (0xFB50, 0xFB50, 0x671), (0xFB51, 0xFB51, 0x671),
    (0xFB52, 0xFB52, 0x67B), (0xFB53, 0xFB53, 0x67B), (0xFB54, 0xFB54, 0x67B),
    (0xFB55, 0xFB55, 0x67B), (0xFB56, 0xFB56, 0x67E), (0xFB57, 0xFB57, 0x67E),
    (0xFB58, 0xFB58, 0x67E), (0xFB59, 0xFB59, 0x67E), (0xFB5A, 0xFB5A, 0x680),
    (0xFB5B, 0xFB5B, 0x680), (0xFB5C, 0xFB5C, 0x680), (0xFB5D, 0xFB5D, 0x680),
    (0xFB5E, 0xFB5E, 0x67A), (0xFB5F, 0xFB5F, 0x67A), (0xFB60, 0xFB60, 0x67A),
    (0xFB61, 0xFB61, 0x67A), (0xFB62, 0xFB62, 0x67F), (0xFB63, 0xFB63, 0x67F),
    (0xFB64, 0xFB64, 0x67F), (0xFB65, 0xFB65, 0x67F), (0xFB66, 0xFB66, 0x679),
    (0xFB67, 0xFB67, 0x679), (0xFB68, 0xFB68, 0x679), (0xFB69, 0xFB69, 0x679),
    (0xFB6A, 0xFB6A, 0x6A4), (0xFB6B, 0xFB6B, 0x6A4), (0xFB6C, 0xFB6C, 0x6A4),
    (0xFB6D, 0xFB6D, 0x6A4), (0xFB6E, 0xFB6E, 0x6A6), (0xFB6F, 0xFB6F, 0x6A6),
    (0xFB70, 0xFB70, 0x6A6), (0xFB71, 0xFB71, 0x6A6), (0xFB72, 0xFB72, 0x684),
    (0xFB73, 0xFB73, 0x684), (0xFB74, 0xFB74, 0x684), (0xFB75, 0xFB75, 0x684),
    (0xFB76, 0xFB76, 0x683), (0xFB77, 0xFB77, 0x683), (0xFB78, 0xFB78, 0x683),
    (0xFB79, 0xFB79, 0x683), (0xFB7A, 0xFB7A, 0x686), (0xFB7B, 0xFB7B, 0x686),
    (0xFB7C, 0xFB7C, 0x686), (0xFB7D, 0xFB7E, 0x686), (0xFB7F, 0xFB7F, 0x687),
    (0xFB80, 0xFB80, 0x687), (0xFB81, 0xFB81, 0x687), (0xFB82, 0xFB82, 0x68D),
    (0xFB83, 0xFB83, 0x68D), (0xFB84, 0xFB84, 0x68C), (0xFB85, 0xFB85, 0x68C),
    (0xFB86, 0xFB86, 0x68E), (0xFB87, 0xFB87, 0x68E), (0xFB88, 0xFB88, 0x688),
    (0xFB89, 0xFB89, 0x688), (0xFB8A, 0xFB8A, 0x698), (0xFB8B, 0xFB8B, 0x698),
    (0xFB8C, 0xFB8C, 0x691), (0xFB8D, 0xFB8D, 0x691), (0xFB8E, 0xFB8E, 0x6A9),
    (0xFB8F, 0xFB8F, 0x6A9), (0xFB90, 0xFB90, 0x6A9), (0xFB91, 0xFB91, 0x6A9),
    (0xFB92, 0xFB92, 0x6AF), (0xFB93, 0xFB93, 0x6AF), (0xFB94, 0xFB94, 0x6AF),
    (0xFB95, 0xFB95, 0x6AF), (0xFB96, 0xFB96, 0x6B3), (0xFB97, 0xFB97, 0x6B3),
    (0xFB98, 0xFB98, 0x6B3), (0xFB99, 0xFB99, 0x6B3), (0xFB9A, 0xFB9A, 0x6B1),
    (0xFB9B, 0xFB9B, 0x6B1), (0xFB9C, 0xFB9C, 0x6B1), (0xFB9D, 0xFB9D, 0x6B1),
    (0xFB9E, 0xFB9E, 0x6BA), (0xFB9F, 0xFBA0, 0x6BA), (0xFBA1, 0xFBA1, 0x6BB),
    (0xFBA2, 0xFBA2, 0x6BB), (0xFBA3, 0xFBA3, 0x6BB), (0xFBA4, 0xFBA4, 0x6C0),
    (0xFBA5, 0xFBA6, 0x6C0), (0xFBA7, 0xFBA7, 0x6C1), (0xFBA8, 0xFBA8, 0x6C1),
    (0xFBA9, 0xFBA9, 0x6C1), (0xFBAA, 0xFBAA, 0x6BE), (0xFBAB, 0xFBAB, 0x6BE),
    (0xFBAC, 0xFBAC, 0x6BE), (0xFBAD, 0xFBAD, 0x6BE), (0xFBAE, 0xFBAE, 0x6D2),
    (0xFBAF, 0xFBB0, 0x6D2), (0xFBB1, 0xFBB1, 0x6D3), (0xFBD3, 0xFBD3, 0x6AD),
    (0xFBD4, 0xFBD4, 0x6AD), (0xFBD5, 0xFBD5, 0x6AD), (0xFBD6, 0xFBD6, 0x6AD),
    (0xFBD7, 0xFBD7, 0x6C7), (0xFBD8, 0xFBD8, 0x6C7), (0xFBD9, 0xFBD9, 0x6C6),
    (0xFBDA, 0xFBDA, 0x6C6), (0xFBDB, 0xFBDB, 0x6C8), (0xFBDC, 0xFBDC, 0x6C8),
    (0xFBDE, 0xFBDE, 0x6CB), (0xFBDF, 0xFBDF, 0x6CB), (0xFBE0, 0xFBE0, 0x6C5),
    (0xFBE1, 0xFBE1, 0x6C5), (0xFBE2, 0xFBE2, 0x6C9), (0xFBE3, 0xFBE3, 0x6C9),
    (0xFBE4, 0xFBE4, 0x6D0), (0xFBE5, 0xFBE5, 0x6D0), (0xFBE6, 0xFBE6, 0x6D0),
    (0xFBE7, 0xFBE7, 0x6D0), (0xFBE8, 0xFBE8, 0x649), (0xFBE9, 0xFBE9, 0x649),
    (0xFBFC, 0xFBFC, 0x6CC), (0xFBFD, 0xFBFD, 0x6CC), (0xFBFE, 0xFBFE, 0x6CC),
    (0xFBFF, 0xFBFF, 0x6CC), (0xFE10, 0xFE10, 0x2C), (0xFE11, 0xFE11, 0x3001),
    (0xFE13, 0xFE14, 0x3A), (0xFE15, 0xFE15, 0x21), (0xFE16, 0xFE16, 0x3F),
    (0xFE17, 0xFE18, 0x3016), (0xFE31, 0xFE31, 0x2014), (0xFE32, 0xFE32, 0x2013),
    (0xFE33, 0xFE33, 0x5F), (0xFE34, 0xFE34, 0x5F), (0xFE35, 0xFE36, 0x28), (0xFE37, 0xFE37, 0x7B),
    (0xFE38, 0xFE38, 0x7D), (0xFE39, 0xFE3A, 0x3014), (0xFE3B, 0xFE3C, 0x3010),
    (0xFE3D, 0xFE3E, 0x300A), (0xFE3F, 0xFE40, 0x3008), (0xFE41, 0xFE44, 0x300C),
    (0xFE47, 0xFE47, 0x5B), (0xFE48, 0xFE48, 0x5D), (0xFE4D, 0xFE4D, 0x5F), (0xFE4E, 0xFE4E, 0x5F),
    (0xFE4F, 0xFE4F, 0x5F), (0xFE50, 0xFE50, 0x2C), (0xFE51, 0xFE51, 0x3001),
    (0xFE54, 0xFE54, 0x3B), (0xFE55, 0xFE55, 0x3A), (0xFE56, 0xFE56, 0x3F), (0xFE57, 0xFE57, 0x21),
    (0xFE58, 0xFE58, 0x2014), (0xFE59, 0xFE5A, 0x28), (0xFE5B, 0xFE5B, 0x7B),
    (0xFE5C, 0xFE5C, 0x7D), (0xFE5D, 0xFE5E, 0x3014), (0xFE5F, 0xFE5F, 0x23),
    (0xFE60, 0xFE60, 0x26), (0xFE61, 0xFE62, 0x2A), (0xFE63, 0xFE63, 0x2D), (0xFE64, 0xFE64, 0x3C),
    (0xFE65, 0xFE65, 0x3E), (0xFE66, 0xFE66, 0x3D), (0xFE68, 0xFE68, 0x5C), (0xFE69, 0xFE6A, 0x24),
    (0xFE6B, 0xFE6B, 0x40), (0xFE80, 0xFE81, 0x621), (0xFE82, 0xFE83, 0x622),
    (0xFE84, 0xFE85, 0x623), (0xFE86, 0xFE87, 0x624), (0xFE88, 0xFE89, 0x625),
    (0xFE8A, 0xFE8A, 0x626), (0xFE8B, 0xFE8B, 0x626), (0xFE8C, 0xFE8D, 0x626),
    (0xFE8E, 0xFE8F, 0x627), (0xFE90, 0xFE90, 0x628), (0xFE91, 0xFE91, 0x628),
    (0xFE92, 0xFE93, 0x628), (0xFE94, 0xFE95, 0x629), (0xFE96, 0xFE96, 0x62A),
    (0xFE97, 0xFE97, 0x62A), (0xFE98, 0xFE99, 0x62A), (0xFE9A, 0xFE9A, 0x62B),
    (0xFE9B, 0xFE9B, 0x62B), (0xFE9C, 0xFE9D, 0x62B), (0xFE9E, 0xFE9E, 0x62C),
    (0xFE9F, 0xFE9F, 0x62C), (0xFEA0, 0xFEA1, 0x62C), (0xFEA2, 0xFEA2, 0x62D),
    (0xFEA3, 0xFEA3, 0x62D), (0xFEA4, 0xFEA5, 0x62D), (0xFEA6, 0xFEA6, 0x62E),
    (0xFEA7, 0xFEA7, 0x62E), (0xFEA8, 0xFEA9, 0x62E), (0xFEAA, 0xFEAB, 0x62F),
    (0xFEAC, 0xFEAD, 0x630), (0xFEAE, 0xFEAF, 0x631), (0xFEB0, 0xFEB1, 0x632),
    (0xFEB2, 0xFEB2, 0x633), (0xFEB3, 0xFEB3, 0x633), (0xFEB4, 0xFEB5, 0x633),
    (0xFEB6, 0xFEB6, 0x634), (0xFEB7, 0xFEB7, 0x634), (0xFEB8, 0xFEB9, 0x634),
    (0xFEBA, 0xFEBA, 0x635), (0xFEBB, 0xFEBB, 0x635), (0xFEBC, 0xFEBD, 0x635),
    (0xFEBE, 0xFEBE, 0x636), (0xFEBF, 0xFEBF, 0x636), (0xFEC0, 0xFEC1, 0x636),
    (0xFEC2, 0xFEC2, 0x637), (0xFEC3, 0xFEC3, 0x637), (0xFEC4, 0xFEC5, 0x637),
    (0xFEC6, 0xFEC6, 0x638), (0xFEC7, 0xFEC7, 0x638), (0xFEC8, 0xFEC9, 0x638),
    (0xFECA, 0xFECA, 0x639), (0xFECB, 0xFECB, 0x639), (0xFECC, 0xFECD, 0x639),
    (0xFECE, 0xFECE, 0x63A), (0xFECF, 0xFECF, 0x63A), (0xFED0, 0xFED0, 0x63A),
    (0xFED1, 0xFED1, 0x641), (0xFED2, 0xFED2, 0x641), (0xFED3, 0xFED3, 0x641),
    (0xFED4, 0xFED5, 0x641), (0xFED6, 0xFED6, 0x642), (0xFED7, 0xFED7, 0x642),
    (0xFED8, 0xFED9, 0x642), (0xFEDA, 0xFEDA, 0x643), (0xFEDB, 0xFEDB, 0x643),
    (0xFEDC, 0xFEDD, 0x643), (0xFEDE, 0xFEDE, 0x644), (0xFEDF, 0xFEDF, 0x644),
    (0xFEE0, 0xFEE1, 0x644), (0xFEE2, 0xFEE2, 0x645), (0xFEE3, 0xFEE3, 0x645),
    (0xFEE4, 0xFEE5, 0x645), (0xFEE6, 0xFEE6, 0x646), (0xFEE7, 0xFEE7, 0x646),
    (0xFEE8, 0xFEE9, 0x646), (0xFEEA, 0xFEEA, 0x647), (0xFEEB, 0xFEEB, 0x647),
    (0xFEEC, 0xFEED, 0x647), (0xFEEE, 0xFEEF, 0x648), (0xFEF0, 0xFEF1, 0x649),
    (0xFEF2, 0xFEF2, 0x64A), (0xFEF3, 0xFEF3, 0x64A), (0xFEF4, 0xFEF4, 0x64A),
    (0xFF01, 0xFF20, 0x21), (0xFF21, 0xFF3A, 0x61), (0xFF3B, 0xFF5E, 0x5B),
    (0xFF5F, 0xFF60, 0x2985), (0xFF61, 0xFF61, 0x2E), (0xFF62, 0xFF63, 0x300C),
    (0xFF64, 0xFF64, 0x3001), (0xFF65, 0xFF65, 0x30FB), (0xFF66, 0xFF66, 0x30F2),
    (0xFF67, 0xFF67, 0x30A1), (0xFF68, 0xFF68, 0x30A3), (0xFF69, 0xFF69, 0x30A5),
    (0xFF6A, 0xFF6A, 0x30A7), (0xFF6B, 0xFF6B, 0x30A9), (0xFF6C, 0xFF6C, 0x30E3),
    (0xFF6D, 0xFF6D, 0x30E5), (0xFF6E, 0xFF6E, 0x30E7), (0xFF6F, 0xFF6F, 0x30C3),
    (0xFF70, 0xFF70, 0x30FC), (0xFF71, 0xFF71, 0x30A2), (0xFF72, 0xFF72, 0x30A4),
    (0xFF73, 0xFF73, 0x30A6), (0xFF74, 0xFF74, 0x30A8), (0xFF75, 0xFF76, 0x30AA),
    (0xFF77, 0xFF77, 0x30AD), (0xFF78, 0xFF78, 0x30AF), (0xFF79, 0xFF79, 0x30B1),
    (0xFF7A, 0xFF7A, 0x30B3), (0xFF7B, 0xFF7B, 0x30B5), (0xFF7C, 0xFF7C, 0x30B7),
    (0xFF7D, 0xFF7D, 0x30B9), (0xFF7E, 0xFF7E, 0x30BB), (0xFF7F, 0xFF7F, 0x30BD),
    (0xFF80, 0xFF80, 0x30BF), (0xFF81, 0xFF81, 0x30C1), (0xFF82, 0xFF82, 0x30C4),
    (0xFF83, 0xFF83, 0x30C6), (0xFF84, 0xFF84, 0x30C8), (0xFF85, 0xFF8A, 0x30CA),
    (0xFF8B, 0xFF8B, 0x30D2), (0xFF8C, 0xFF8C, 0x30D5), (0xFF8D, 0xFF8D, 0x30D8),
    (0xFF8E, 0xFF8E, 0x30DB), (0xFF8F, 0xFF93, 0x30DE), (0xFF94, 0xFF94, 0x30E4),
    (0xFF95, 0xFF95, 0x30E6), (0xFF96, 0xFF9B, 0x30E8), (0xFF9C, 0xFF9C, 0x30EF),
    (0xFF9D, 0xFF9D, 0x30F3), (0xFF9E, 0xFF9F, 0x3099), (0xFFA1, 0xFFA2, 0x1100),
    (0xFFA3, 0xFFA3, 0x11AA), (0xFFA4, 0xFFA4, 0x1102), (0xFFA5, 0xFFA6, 0x11AC),
    (0xFFA7, 0xFFA9, 0x1103), (0xFFAA, 0xFFAF, 0x11B0), (0xFFB0, 0xFFB0, 0x111A),
    (0xFFB1, 0xFFB3, 0x1106), (0xFFB4, 0xFFB4, 0x1121), (0xFFB5, 0xFFBE, 0x1109),
    (0xFFC2, 0xFFC7, 0x1161), (0xFFCA, 0xFFCF, 0x1167), (0xFFD2, 0xFFD7, 0x116D),
    (0xFFDA, 0xFFDC, 0x1173), (0xFFE0, 0xFFE1, 0xA2), (0xFFE2, 0xFFE2, 0xAC),
    (0xFFE4, 0xFFE4, 0xA6), (0xFFE5, 0xFFE5, 0xA5), (0xFFE6, 0xFFE6, 0x20A9),
    (0xFFE8, 0xFFE8, 0x2502), (0xFFE9, 0xFFEC, 0x2190), (0xFFED, 0xFFED, 0x25A0),
    (0xFFEE, 0xFFEE, 0x25CB)]

/-- The same for capital letters of rare scripts and for mathematical alphabets. -/
def mappedAlphabets : Array (Nat × Nat × Nat) :=
  #[(0x10400, 0x10427, 0x10428), (0x104B0, 0x104D3, 0x104D8), (0x10570, 0x1057A, 0x10597),
    (0x1057C, 0x1058A, 0x105A3), (0x1058C, 0x10592, 0x105B3), (0x10594, 0x10595, 0x105BB),
    (0x10781, 0x10782, 0x2D0), (0x10783, 0x10783, 0xE6), (0x10784, 0x10784, 0x299),
    (0x10785, 0x10785, 0x253), (0x10787, 0x10787, 0x2A3), (0x10788, 0x10788, 0xAB66),
    (0x10789, 0x10789, 0x2A5), (0x1078A, 0x1078A, 0x2A4), (0x1078B, 0x1078C, 0x256),
    (0x1078D, 0x1078D, 0x1D91), (0x1078E, 0x1078E, 0x258), (0x1078F, 0x1078F, 0x25E),
    (0x10790, 0x10790, 0x2A9), (0x10791, 0x10791, 0x264), (0x10792, 0x10792, 0x262),
    (0x10793, 0x10793, 0x260), (0x10794, 0x10794, 0x29B), (0x10795, 0x10795, 0x127),
    (0x10796, 0x10796, 0x29C), (0x10797, 0x10797, 0x267), (0x10798, 0x10798, 0x284),
    (0x10799, 0x1079A, 0x2AA), (0x1079B, 0x1079B, 0x26C), (0x1079C, 0x1079C, 0x1DF04),
    (0x1079D, 0x1079D, 0xA78E), (0x1079E, 0x1079E, 0x26E), (0x1079F, 0x1079F, 0x1DF05),
    (0x107A0, 0x107A0, 0x28E), (0x107A1, 0x107A1, 0x1DF06), (0x107A2, 0x107A2, 0xF8),
    (0x107A3, 0x107A4, 0x276), (0x107A5, 0x107A5, 0x71), (0x107A6, 0x107A6, 0x27A),
    (0x107A7, 0x107A7, 0x1DF08), (0x107A8, 0x107A9, 0x27D), (0x107AA, 0x107AA, 0x280),
    (0x107AB, 0x107AB, 0x2A8), (0x107AC, 0x107AC, 0x2A6), (0x107AD, 0x107AD, 0xAB67),
    (0x107AE, 0x107AE, 0x2A7), (0x107AF, 0x107AF, 0x288), (0x107B0, 0x107B0, 0x2C71),
    (0x107B2, 0x107B2, 0x28F), (0x107B3, 0x107B4, 0x2A1), (0x107B5, 0x107B5, 0x298),
    (0x107B6, 0x107B8, 0x1C0), (0x107B9, 0x107B9, 0x1DF0A), (0x107BA, 0x107BF, 0x1DF1E),
    (0x10C80, 0x10CB2, 0x10CC0), (0x10D50, 0x10D65, 0x10D70), (0x118A0, 0x118BF, 0x118C0),
    (0x16E40, 0x16E5F, 0x16E60), (0x16EA0, 0x16EB8, 0x16EBB), (0x1CCD6, 0x1CCEF, 0x61),
    (0x1CCF0, 0x1CCF9, 0x30), (0x1D400, 0x1D419, 0x61), (0x1D41A, 0x1D433, 0x61),
    (0x1D434, 0x1D44D, 0x61), (0x1D44E, 0x1D454, 0x61), (0x1D456, 0x1D467, 0x69),
    (0x1D468, 0x1D481, 0x61), (0x1D482, 0x1D49B, 0x61), (0x1D49C, 0x1D49C, 0x61),
    (0x1D49E, 0x1D49F, 0x63), (0x1D4A2, 0x1D4A2, 0x67), (0x1D4A5, 0x1D4A6, 0x6A),
    (0x1D4A9, 0x1D4AC, 0x6E), (0x1D4AE, 0x1D4B5, 0x73), (0x1D4B6, 0x1D4B9, 0x61),
    (0x1D4BB, 0x1D4BB, 0x66), (0x1D4BD, 0x1D4C3, 0x68), (0x1D4C5, 0x1D4CF, 0x70),
    (0x1D4D0, 0x1D4E9, 0x61), (0x1D4EA, 0x1D503, 0x61), (0x1D504, 0x1D505, 0x61),
    (0x1D507, 0x1D50A, 0x64), (0x1D50D, 0x1D514, 0x6A), (0x1D516, 0x1D51C, 0x73),
    (0x1D51E, 0x1D537, 0x61), (0x1D538, 0x1D539, 0x61), (0x1D53B, 0x1D53E, 0x64),
    (0x1D540, 0x1D544, 0x69), (0x1D546, 0x1D546, 0x6F), (0x1D54A, 0x1D550, 0x73),
    (0x1D552, 0x1D56B, 0x61), (0x1D56C, 0x1D585, 0x61), (0x1D586, 0x1D59F, 0x61),
    (0x1D5A0, 0x1D5B9, 0x61), (0x1D5BA, 0x1D5D3, 0x61), (0x1D5D4, 0x1D5ED, 0x61),
    (0x1D5EE, 0x1D607, 0x61), (0x1D608, 0x1D621, 0x61), (0x1D622, 0x1D63B, 0x61),
    (0x1D63C, 0x1D655, 0x61), (0x1D656, 0x1D66F, 0x61), (0x1D670, 0x1D689, 0x61),
    (0x1D68A, 0x1D6A3, 0x61), (0x1D6A4, 0x1D6A4, 0x131), (0x1D6A5, 0x1D6A5, 0x237),
    (0x1D6A6, 0x1D6A6, 0x127), (0x1D6A8, 0x1D6B8, 0x3B1), (0x1D6B9, 0x1D6B9, 0x3B8),
    (0x1D6BA, 0x1D6C0, 0x3C3), (0x1D6C1, 0x1D6C1, 0x2207), (0x1D6C2, 0x1D6D2, 0x3B1),
    (0x1D6D3, 0x1D6D3, 0x3C3), (0x1D6D4, 0x1D6DA, 0x3C3), (0x1D6DB, 0x1D6DB, 0x2202),
    (0x1D6DC, 0x1D6DC, 0x3B5), (0x1D6DD, 0x1D6DD, 0x3B8), (0x1D6DE, 0x1D6DE, 0x3BA),
    (0x1D6DF, 0x1D6DF, 0x3C6), (0x1D6E0, 0x1D6E0, 0x3C1), (0x1D6E1, 0x1D6E1, 0x3C0),
    (0x1D6E2, 0x1D6F2, 0x3B1), (0x1D6F3, 0x1D6F3, 0x3B8), (0x1D6F4, 0x1D6FA, 0x3C3),
    (0x1D6FB, 0x1D6FB, 0x2207), (0x1D6FC, 0x1D70C, 0x3B1), (0x1D70D, 0x1D70D, 0x3C3),
    (0x1D70E, 0x1D714, 0x3C3), (0x1D715, 0x1D715, 0x2202), (0x1D716, 0x1D716, 0x3B5),
    (0x1D717, 0x1D717, 0x3B8), (0x1D718, 0x1D718, 0x3BA), (0x1D719, 0x1D719, 0x3C6),
    (0x1D71A, 0x1D71A, 0x3C1), (0x1D71B, 0x1D71B, 0x3C0), (0x1D71C, 0x1D72C, 0x3B1),
    (0x1D72D, 0x1D72D, 0x3B8), (0x1D72E, 0x1D734, 0x3C3), (0x1D735, 0x1D735, 0x2207),
    (0x1D736, 0x1D746, 0x3B1), (0x1D747, 0x1D747, 0x3C3), (0x1D748, 0x1D74E, 0x3C3),
    (0x1D74F, 0x1D74F, 0x2202), (0x1D750, 0x1D750, 0x3B5), (0x1D751, 0x1D751, 0x3B8),
    (0x1D752, 0x1D752, 0x3BA), (0x1D753, 0x1D753, 0x3C6), (0x1D754, 0x1D754, 0x3C1),
    (0x1D755, 0x1D755, 0x3C0), (0x1D756, 0x1D766, 0x3B1), (0x1D767, 0x1D767, 0x3B8),
    (0x1D768, 0x1D76E, 0x3C3), (0x1D76F, 0x1D76F, 0x2207), (0x1D770, 0x1D780, 0x3B1),
    (0x1D781, 0x1D781, 0x3C3), (0x1D782, 0x1D788, 0x3C3), (0x1D789, 0x1D789, 0x2202),
    (0x1D78A, 0x1D78A, 0x3B5), (0x1D78B, 0x1D78B, 0x3B8), (0x1D78C, 0x1D78C, 0x3BA),
    (0x1D78D, 0x1D78D, 0x3C6), (0x1D78E, 0x1D78E, 0x3C1), (0x1D78F, 0x1D78F, 0x3C0),
    (0x1D790, 0x1D7A0, 0x3B1), (0x1D7A1, 0x1D7A1, 0x3B8), (0x1D7A2, 0x1D7A8, 0x3C3),
    (0x1D7A9, 0x1D7A9, 0x2207), (0x1D7AA, 0x1D7BA, 0x3B1), (0x1D7BB, 0x1D7BB, 0x3C3),
    (0x1D7BC, 0x1D7C2, 0x3C3), (0x1D7C3, 0x1D7C3, 0x2202), (0x1D7C4, 0x1D7C4, 0x3B5),
    (0x1D7C5, 0x1D7C5, 0x3B8), (0x1D7C6, 0x1D7C6, 0x3BA), (0x1D7C7, 0x1D7C7, 0x3C6),
    (0x1D7C8, 0x1D7C8, 0x3C1), (0x1D7C9, 0x1D7C9, 0x3C0), (0x1D7CA, 0x1D7CA, 0x3DD),
    (0x1D7CB, 0x1D7CB, 0x3DD), (0x1D7CE, 0x1D7D7, 0x30), (0x1D7D8, 0x1D7E1, 0x30),
    (0x1D7E2, 0x1D7EB, 0x30), (0x1D7EC, 0x1D7F5, 0x30), (0x1D7F6, 0x1D7FF, 0x30),
    (0x1DF42, 0x1DF68, 0x250), (0x1DF90, 0x1DF95, 0x250), (0x1E030, 0x1E038, 0x430),
    (0x1E039, 0x1E03B, 0x43A), (0x1E03C, 0x1E046, 0x43E), (0x1E047, 0x1E047, 0x44B),
    (0x1E048, 0x1E049, 0x44D), (0x1E04A, 0x1E04A, 0xA689), (0x1E04B, 0x1E04B, 0x4D9),
    (0x1E04C, 0x1E04C, 0x456), (0x1E04D, 0x1E04D, 0x458), (0x1E04E, 0x1E04E, 0x4E9),
    (0x1E04F, 0x1E04F, 0x4AF), (0x1E050, 0x1E050, 0x4CF), (0x1E051, 0x1E059, 0x430),
    (0x1E05A, 0x1E05B, 0x43A), (0x1E05C, 0x1E05D, 0x43E), (0x1E05E, 0x1E05E, 0x441),
    (0x1E05F, 0x1E064, 0x443), (0x1E065, 0x1E066, 0x44A), (0x1E067, 0x1E067, 0x491),
    (0x1E068, 0x1E068, 0x456), (0x1E069, 0x1E069, 0x455), (0x1E06A, 0x1E06A, 0x45F),
    (0x1E06B, 0x1E06B, 0x4AB), (0x1E06C, 0x1E06C, 0xA651), (0x1E06D, 0x1E06D, 0x4B1),
    (0x1E900, 0x1E921, 0x1E922), (0x1EE00, 0x1EE01, 0x627), (0x1EE02, 0x1EE02, 0x62C),
    (0x1EE03, 0x1EE03, 0x62F), (0x1EE05, 0x1EE05, 0x648), (0x1EE06, 0x1EE06, 0x632),
    (0x1EE07, 0x1EE07, 0x62D), (0x1EE08, 0x1EE08, 0x637), (0x1EE09, 0x1EE09, 0x64A),
    (0x1EE0A, 0x1EE0D, 0x643), (0x1EE0E, 0x1EE0E, 0x633), (0x1EE0F, 0x1EE0F, 0x639),
    (0x1EE10, 0x1EE10, 0x641), (0x1EE11, 0x1EE11, 0x635), (0x1EE12, 0x1EE12, 0x642),
    (0x1EE13, 0x1EE13, 0x631), (0x1EE14, 0x1EE14, 0x634), (0x1EE15, 0x1EE16, 0x62A),
    (0x1EE17, 0x1EE17, 0x62E), (0x1EE18, 0x1EE18, 0x630), (0x1EE19, 0x1EE19, 0x636),
    (0x1EE1A, 0x1EE1A, 0x638), (0x1EE1B, 0x1EE1B, 0x63A), (0x1EE1C, 0x1EE1C, 0x66E),
    (0x1EE1D, 0x1EE1D, 0x6BA), (0x1EE1E, 0x1EE1E, 0x6A1), (0x1EE1F, 0x1EE1F, 0x66F),
    (0x1EE21, 0x1EE21, 0x628), (0x1EE22, 0x1EE22, 0x62C), (0x1EE24, 0x1EE24, 0x647),
    (0x1EE27, 0x1EE27, 0x62D), (0x1EE29, 0x1EE29, 0x64A), (0x1EE2A, 0x1EE2D, 0x643),
    (0x1EE2E, 0x1EE2E, 0x633), (0x1EE2F, 0x1EE2F, 0x639), (0x1EE30, 0x1EE30, 0x641),
    (0x1EE31, 0x1EE31, 0x635), (0x1EE32, 0x1EE32, 0x642), (0x1EE34, 0x1EE34, 0x634),
    (0x1EE35, 0x1EE36, 0x62A), (0x1EE37, 0x1EE37, 0x62E), (0x1EE39, 0x1EE39, 0x636),
    (0x1EE3B, 0x1EE3B, 0x63A), (0x1EE42, 0x1EE42, 0x62C), (0x1EE47, 0x1EE47, 0x62D),
    (0x1EE49, 0x1EE49, 0x64A), (0x1EE4B, 0x1EE4B, 0x644), (0x1EE4D, 0x1EE4D, 0x646),
    (0x1EE4E, 0x1EE4E, 0x633), (0x1EE4F, 0x1EE4F, 0x639), (0x1EE51, 0x1EE51, 0x635),
    (0x1EE52, 0x1EE52, 0x642), (0x1EE54, 0x1EE54, 0x634), (0x1EE57, 0x1EE57, 0x62E),
    (0x1EE59, 0x1EE59, 0x636), (0x1EE5B, 0x1EE5B, 0x63A), (0x1EE5D, 0x1EE5D, 0x6BA),
    (0x1EE5F, 0x1EE5F, 0x66F), (0x1EE61, 0x1EE61, 0x628), (0x1EE62, 0x1EE62, 0x62C),
    (0x1EE64, 0x1EE64, 0x647), (0x1EE67, 0x1EE67, 0x62D), (0x1EE68, 0x1EE68, 0x637),
    (0x1EE69, 0x1EE69, 0x64A), (0x1EE6A, 0x1EE6A, 0x643), (0x1EE6C, 0x1EE6D, 0x645),
    (0x1EE6E, 0x1EE6E, 0x633), (0x1EE6F, 0x1EE6F, 0x639), (0x1EE70, 0x1EE70, 0x641),
    (0x1EE71, 0x1EE71, 0x635), (0x1EE72, 0x1EE72, 0x642), (0x1EE74, 0x1EE74, 0x634),
    (0x1EE75, 0x1EE76, 0x62A), (0x1EE77, 0x1EE77, 0x62E), (0x1EE79, 0x1EE79, 0x636),
    (0x1EE7A, 0x1EE7A, 0x638), (0x1EE7B, 0x1EE7B, 0x63A), (0x1EE7C, 0x1EE7C, 0x66E),
    (0x1EE7E, 0x1EE7E, 0x6A1), (0x1EE80, 0x1EE81, 0x627), (0x1EE82, 0x1EE82, 0x62C),
    (0x1EE83, 0x1EE83, 0x62F), (0x1EE84, 0x1EE85, 0x647), (0x1EE86, 0x1EE86, 0x632),
    (0x1EE87, 0x1EE87, 0x62D), (0x1EE88, 0x1EE88, 0x637), (0x1EE89, 0x1EE89, 0x64A),
    (0x1EE8B, 0x1EE8D, 0x644), (0x1EE8E, 0x1EE8E, 0x633), (0x1EE8F, 0x1EE8F, 0x639),
    (0x1EE90, 0x1EE90, 0x641), (0x1EE91, 0x1EE91, 0x635), (0x1EE92, 0x1EE92, 0x642),
    (0x1EE93, 0x1EE93, 0x631), (0x1EE94, 0x1EE94, 0x634), (0x1EE95, 0x1EE96, 0x62A),
    (0x1EE97, 0x1EE97, 0x62E), (0x1EE98, 0x1EE98, 0x630), (0x1EE99, 0x1EE99, 0x636),
    (0x1EE9A, 0x1EE9A, 0x638), (0x1EE9B, 0x1EE9B, 0x63A), (0x1EEA1, 0x1EEA1, 0x628),
    (0x1EEA2, 0x1EEA2, 0x62C), (0x1EEA3, 0x1EEA3, 0x62F), (0x1EEA5, 0x1EEA5, 0x648),
    (0x1EEA6, 0x1EEA6, 0x632), (0x1EEA7, 0x1EEA7, 0x62D), (0x1EEA8, 0x1EEA8, 0x637),
    (0x1EEA9, 0x1EEA9, 0x64A), (0x1EEAB, 0x1EEAD, 0x644), (0x1EEAE, 0x1EEAE, 0x633),
    (0x1EEAF, 0x1EEAF, 0x639), (0x1EEB0, 0x1EEB0, 0x641), (0x1EEB1, 0x1EEB1, 0x635),
    (0x1EEB2, 0x1EEB2, 0x642), (0x1EEB3, 0x1EEB3, 0x631), (0x1EEB4, 0x1EEB4, 0x634),
    (0x1EEB5, 0x1EEB6, 0x62A), (0x1EEB7, 0x1EEB7, 0x62E), (0x1EEB8, 0x1EEB8, 0x630),
    (0x1EEB9, 0x1EEB9, 0x636), (0x1EEBA, 0x1EEBA, 0x638), (0x1EEBB, 0x1EEBB, 0x63A),
    (0x1F12B, 0x1F12B, 0x63), (0x1F12C, 0x1F12C, 0x72), (0x1F130, 0x1F149, 0x61),
    (0x1F202, 0x1F202, 0x30B5), (0x1F210, 0x1F210, 0x624B), (0x1F211, 0x1F211, 0x5B57),
    (0x1F212, 0x1F212, 0x53CC), (0x1F213, 0x1F213, 0x30C7), (0x1F214, 0x1F214, 0x4E8C),
    (0x1F215, 0x1F215, 0x591A), (0x1F216, 0x1F216, 0x89E3), (0x1F217, 0x1F217, 0x5929),
    (0x1F218, 0x1F218, 0x4EA4), (0x1F219, 0x1F219, 0x6620), (0x1F21A, 0x1F21A, 0x7121),
    (0x1F21B, 0x1F21B, 0x6599), (0x1F21C, 0x1F21C, 0x524D), (0x1F21D, 0x1F21D, 0x5F8C),
    (0x1F21E, 0x1F21E, 0x518D), (0x1F21F, 0x1F21F, 0x65B0), (0x1F220, 0x1F220, 0x521D),
    (0x1F221, 0x1F221, 0x7D42), (0x1F222, 0x1F222, 0x751F), (0x1F223, 0x1F223, 0x8CA9),
    (0x1F224, 0x1F224, 0x58F0), (0x1F225, 0x1F225, 0x5439), (0x1F226, 0x1F226, 0x6F14),
    (0x1F227, 0x1F227, 0x6295), (0x1F228, 0x1F228, 0x6355), (0x1F229, 0x1F229, 0x4E00),
    (0x1F22A, 0x1F22A, 0x4E09), (0x1F22B, 0x1F22B, 0x904A), (0x1F22C, 0x1F22C, 0x5DE6),
    (0x1F22D, 0x1F22D, 0x4E2D), (0x1F22E, 0x1F22E, 0x53F3), (0x1F22F, 0x1F22F, 0x6307),
    (0x1F230, 0x1F230, 0x8D70), (0x1F231, 0x1F231, 0x6253), (0x1F232, 0x1F232, 0x7981),
    (0x1F233, 0x1F233, 0x7A7A), (0x1F234, 0x1F234, 0x5408), (0x1F235, 0x1F235, 0x6E80),
    (0x1F236, 0x1F236, 0x6709), (0x1F237, 0x1F237, 0x6708), (0x1F238, 0x1F238, 0x7533),
    (0x1F239, 0x1F239, 0x5272), (0x1F23A, 0x1F23A, 0x55B6), (0x1F23B, 0x1F23B, 0x914D),
    (0x1F250, 0x1F250, 0x5F97), (0x1F251, 0x1F251, 0x53EF), (0x1FBF0, 0x1FBF9, 0x30)]

end HttpSuite.Domain
