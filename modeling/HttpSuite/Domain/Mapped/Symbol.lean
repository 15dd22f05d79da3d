/-!
# Symbols that are replaced in host names

The code points from 0x2000 up to 0xF8FF that one other character stands for in host names, such as
letters in circles, radicals and the capital letters of lesser scripts.
-/

namespace HttpSuite.Domain

/-- Ranges of code points that are replaced by consecutive ones, with the one that replaces the
first. -/
def mappedSymbols : Array (Nat × Nat × Nat) :=
  #[(0x2000, 0x2000, 0x20), (0x2001, 0x2001, 0x20), (0x2002, 0x2002, 0x20), (0x2003, 0x2003, 0x20),
    (0x2004, 0x2004, 0x20), (0x2005, 0x2005, 0x20), (0x2006, 0x2006, 0x20), (0x2007, 0x2007, 0x20),
    (0x2008, 0x2008, 0x20), (0x2009, 0x2009, 0x20), (0x200A, 0x200A, 0x20),
    (0x2011, 0x2011, 0x2010), (0x202F, 0x202F, 0x20), (0x205F, 0x205F, 0x20),
    (0x2070, 0x2070, 0x30), (0x2071, 0x2071, 0x69), (0x2074, 0x2079, 0x34), (0x207A, 0x207A, 0x2B),
    (0x207B, 0x207B, 0x2212), (0x207C, 0x207C, 0x3D), (0x207D, 0x207E, 0x28),
    (0x207F, 0x207F, 0x6E), (0x2080, 0x2089, 0x30), (0x208A, 0x208A, 0x2B),
    (0x208B, 0x208B, 0x2212), (0x208C, 0x208C, 0x3D), (0x208D, 0x208E, 0x28),
    (0x2090, 0x2090, 0x61), (0x2091, 0x2091, 0x65), (0x2092, 0x2092, 0x6F), (0x2093, 0x2093, 0x78),
    (0x2094, 0x2094, 0x259), (0x2095, 0x2095, 0x68), (0x2096, 0x2099, 0x6B),
    (0x209A, 0x209A, 0x70), (0x209B, 0x209C, 0x73), (0x209D, 0x209D, 0x77), (0x209E, 0x209F, 0x79),
    (0x2102, 0x2102, 0x63), (0x2107, 0x2107, 0x25B), (0x210A, 0x210B, 0x67),
    (0x210C, 0x210C, 0x68), (0x210D, 0x210D, 0x68), (0x210E, 0x210E, 0x68),
    (0x210F, 0x210F, 0x127), (0x2110, 0x2110, 0x69), (0x2111, 0x2111, 0x69),
    (0x2112, 0x2112, 0x6C), (0x2113, 0x2113, 0x6C), (0x2115, 0x2115, 0x6E), (0x2119, 0x211B, 0x70),
    (0x211C, 0x211C, 0x72), (0x211D, 0x211D, 0x72), (0x2124, 0x2124, 0x7A),
    (0x2126, 0x2126, 0x3C9), (0x2128, 0x2128, 0x7A), (0x212A, 0x212A, 0x6B),
    (0x212B, 0x212B, 0xE5), (0x212C, 0x212D, 0x62), (0x212F, 0x212F, 0x65), (0x2130, 0x2131, 0x65),
    (0x2132, 0x2132, 0x214E), (0x2133, 0x2133, 0x6D), (0x2134, 0x2134, 0x6F),
    (0x2135, 0x2138, 0x5D0), (0x2139, 0x2139, 0x69), (0x213C, 0x213C, 0x3C0),
    (0x213D, 0x213D, 0x3B3), (0x213E, 0x213E, 0x3B3), (0x213F, 0x213F, 0x3C0),
    (0x2140, 0x2140, 0x2211), (0x2145, 0x2145, 0x64), (0x2146, 0x2147, 0x64),
    (0x2148, 0x2149, 0x69), (0x2160, 0x2160, 0x69), (0x2164, 0x2164, 0x76), (0x2169, 0x2169, 0x78),
    (0x216C, 0x216C, 0x6C), (0x216D, 0x216E, 0x63), (0x216F, 0x216F, 0x6D), (0x2170, 0x2170, 0x69),
    (0x2174, 0x2174, 0x76), (0x2179, 0x2179, 0x78), (0x217C, 0x217C, 0x6C), (0x217D, 0x217E, 0x63),
    (0x217F, 0x217F, 0x6D), (0x2183, 0x2183, 0x2184), (0x2329, 0x232A, 0x3008),
    (0x2460, 0x2468, 0x31), (0x24B6, 0x24CF, 0x61), (0x24D0, 0x24E9, 0x61), (0x24EA, 0x24EA, 0x30),
    (0x2C00, 0x2C2F, 0x2C30), (0x2C60, 0x2C60, 0x2C61), (0x2C62, 0x2C62, 0x26B),
    (0x2C63, 0x2C63, 0x1D7D), (0x2C64, 0x2C64, 0x27D), (0x2C6D, 0x2C6D, 0x251),
    (0x2C6E, 0x2C6E, 0x271), (0x2C6F, 0x2C6F, 0x250), (0x2C70, 0x2C70, 0x252),
    (0x2C72, 0x2C72, 0x2C73), (0x2C75, 0x2C75, 0x2C76), (0x2C7C, 0x2C7C, 0x6A),
    (0x2C7D, 0x2C7D, 0x76), (0x2C7E, 0x2C7F, 0x23F), (0x2CF2, 0x2CF2, 0x2CF3),
    (0x2D6F, 0x2D6F, 0x2D61), (0x2E9F, 0x2E9F, 0x6BCD), (0x2EF3, 0x2EF3, 0x9F9F),
    (0x2F00, 0x2F00, 0x4E00), (0x2F01, 0x2F01, 0x4E28), (0x2F02, 0x2F02, 0x4E36),
    (0x2F03, 0x2F03, 0x4E3F), (0x2F04, 0x2F04, 0x4E59), (0x2F05, 0x2F05, 0x4E85),
    (0x2F06, 0x2F06, 0x4E8C), (0x2F07, 0x2F07, 0x4EA0), (0x2F08, 0x2F08, 0x4EBA),
    (0x2F09, 0x2F09, 0x513F), (0x2F0A, 0x2F0A, 0x5165), (0x2F0B, 0x2F0B, 0x516B),
    (0x2F0C, 0x2F0C, 0x5182), (0x2F0D, 0x2F0D, 0x5196), (0x2F0E, 0x2F0E, 0x51AB),
    (0x2F0F, 0x2F0F, 0x51E0), (0x2F10, 0x2F10, 0x51F5), (0x2F11, 0x2F11, 0x5200),
    (0x2F12, 0x2F12, 0x529B), (0x2F13, 0x2F13, 0x52F9), (0x2F14, 0x2F14, 0x5315),
    (0x2F15, 0x2F15, 0x531A), (0x2F16, 0x2F16, 0x5338), (0x2F17, 0x2F17, 0x5341),
    (0x2F18, 0x2F18, 0x535C), (0x2F19, 0x2F19, 0x5369), (0x2F1A, 0x2F1A, 0x5382),
    (0x2F1B, 0x2F1B, 0x53B6), (0x2F1C, 0x2F1C, 0x53C8), (0x2F1D, 0x2F1D, 0x53E3),
    (0x2F1E, 0x2F1E, 0x56D7), (0x2F1F, 0x2F1F, 0x571F), (0x2F20, 0x2F20, 0x58EB),
    (0x2F21, 0x2F21, 0x5902), (0x2F22, 0x2F22, 0x590A), (0x2F23, 0x2F23, 0x5915),
    (0x2F24, 0x2F24, 0x5927), (0x2F25, 0x2F25, 0x5973), (0x2F26, 0x2F26, 0x5B50),
    (0x2F27, 0x2F27, 0x5B80), (0x2F28, 0x2F28, 0x5BF8), (0x2F29, 0x2F29, 0x5C0F),
    (0x2F2A, 0x2F2A, 0x5C22), (0x2F2B, 0x2F2B, 0x5C38), (0x2F2C, 0x2F2C, 0x5C6E),
    (0x2F2D, 0x2F2D, 0x5C71), (0x2F2E, 0x2F2E, 0x5DDB), (0x2F2F, 0x2F2F, 0x5DE5),
    (0x2F30, 0x2F30, 0x5DF1), (0x2F31, 0x2F31, 0x5DFE), (0x2F32, 0x2F32, 0x5E72),
    (0x2F33, 0x2F33, 0x5E7A), (0x2F34, 0x2F34, 0x5E7F), (0x2F35, 0x2F35, 0x5EF4),
    (0x2F36, 0x2F36, 0x5EFE), (0x2F37, 0x2F37, 0x5F0B), (0x2F38, 0x2F38, 0x5F13),
    (0x2F39, 0x2F39, 0x5F50), (0x2F3A, 0x2F3A, 0x5F61), (0x2F3B, 0x2F3B, 0x5F73),
    (0x2F3C, 0x2F3C, 0x5FC3), (0x2F3D, 0x2F3D, 0x6208), (0x2F3E, 0x2F3E, 0x6236),
    (0x2F3F, 0x2F3F, 0x624B), (0x2F40, 0x2F40, 0x652F), (0x2F41, 0x2F41, 0x6534),
    (0x2F42, 0x2F42, 0x6587), (0x2F43, 0x2F43, 0x6597), (0x2F44, 0x2F44, 0x65A4),
    (0x2F45, 0x2F45, 0x65B9), (0x2F46, 0x2F46, 0x65E0), (0x2F47, 0x2F47, 0x65E5),
    (0x2F48, 0x2F48, 0x66F0), (0x2F49, 0x2F49, 0x6708), (0x2F4A, 0x2F4A, 0x6728),
    (0x2F4B, 0x2F4B, 0x6B20), (0x2F4C, 0x2F4C, 0x6B62), (0x2F4D, 0x2F4D, 0x6B79),
    (0x2F4E, 0x2F4E, 0x6BB3), (0x2F4F, 0x2F4F, 0x6BCB), (0x2F50, 0x2F50, 0x6BD4),
    (0x2F51, 0x2F51, 0x6BDB), (0x2F52, 0x2F52, 0x6C0F), (0x2F53, 0x2F53, 0x6C14),
    (0x2F54, 0x2F54, 0x6C34), (0x2F55, 0x2F55, 0x706B), (0x2F56, 0x2F56, 0x722A),
    (0x2F57, 0x2F57, 0x7236), (0x2F58, 0x2F58, 0x723B), (0x2F59, 0x2F59, 0x723F),
    (0x2F5A, 0x2F5A, 0x7247), (0x2F5B, 0x2F5B, 0x7259), (0x2F5C, 0x2F5C, 0x725B),
    (0x2F5D, 0x2F5D, 0x72AC), (0x2F5E, 0x2F5E, 0x7384), (0x2F5F, 0x2F5F, 0x7389),
    (0x2F60, 0x2F60, 0x74DC), (0x2F61, 0x2F61, 0x74E6), (0x2F62, 0x2F62, 0x7518),
    (0x2F63, 0x2F63, 0x751F), (0x2F64, 0x2F64, 0x7528), (0x2F65, 0x2F65, 0x7530),
    (0x2F66, 0x2F66, 0x758B), (0x2F67, 0x2F67, 0x7592), (0x2F68, 0x2F68, 0x7676),
    (0x2F69, 0x2F69, 0x767D), (0x2F6A, 0x2F6A, 0x76AE), (0x2F6B, 0x2F6B, 0x76BF),
    (0x2F6C, 0x2F6C, 0x76EE), (0x2F6D, 0x2F6D, 0x77DB), (0x2F6E, 0x2F6E, 0x77E2),
    (0x2F6F, 0x2F6F, 0x77F3), (0x2F70, 0x2F70, 0x793A), (0x2F71, 0x2F71, 0x79B8),
    (0x2F72, 0x2F72, 0x79BE), (0x2F73, 0x2F73, 0x7A74), (0x2F74, 0x2F74, 0x7ACB),
    (0x2F75, 0x2F75, 0x7AF9), (0x2F76, 0x2F76, 0x7C73), (0x2F77, 0x2F77, 0x7CF8),
    (0x2F78, 0x2F78, 0x7F36), (0x2F79, 0x2F79, 0x7F51), (0x2F7A, 0x2F7A, 0x7F8A),
    (0x2F7B, 0x2F7B, 0x7FBD), (0x2F7C, 0x2F7C, 0x8001), (0x2F7D, 0x2F7D, 0x800C),
    (0x2F7E, 0x2F7E, 0x8012), (0x2F7F, 0x2F7F, 0x8033), (0x2F80, 0x2F80, 0x807F),
    (0x2F81, 0x2F81, 0x8089), (0x2F82, 0x2F82, 0x81E3), (0x2F83, 0x2F83, 0x81EA),
    (0x2F84, 0x2F84, 0x81F3), (0x2F85, 0x2F85, 0x81FC), (0x2F86, 0x2F86, 0x820C),
    (0x2F87, 0x2F87, 0x821B), (0x2F88, 0x2F88, 0x821F), (0x2F89, 0x2F89, 0x826E),
    (0x2F8A, 0x2F8A, 0x8272), (0x2F8B, 0x2F8B, 0x8278), (0x2F8C, 0x2F8C, 0x864D),
    (0x2F8D, 0x2F8D, 0x866B), (0x2F8E, 0x2F8E, 0x8840), (0x2F8F, 0x2F8F, 0x884C),
    (0x2F90, 0x2F90, 0x8863), (0x2F91, 0x2F91, 0x897E), (0x2F92, 0x2F92, 0x898B),
    (0x2F93, 0x2F93, 0x89D2), (0x2F94, 0x2F94, 0x8A00), (0x2F95, 0x2F95, 0x8C37),
    (0x2F96, 0x2F96, 0x8C46), (0x2F97, 0x2F97, 0x8C55), (0x2F98, 0x2F98, 0x8C78),
    (0x2F99, 0x2F99, 0x8C9D), (0x2F9A, 0x2F9A, 0x8D64), (0x2F9B, 0x2F9B, 0x8D70),
    (0x2F9C, 0x2F9C, 0x8DB3), (0x2F9D, 0x2F9D, 0x8EAB), (0x2F9E, 0x2F9E, 0x8ECA),
    (0x2F9F, 0x2F9F, 0x8F9B), (0x2FA0, 0x2FA0, 0x8FB0), (0x2FA1, 0x2FA1, 0x8FB5),
    (0x2FA2, 0x2FA2, 0x9091), (0x2FA3, 0x2FA3, 0x9149), (0x2FA4, 0x2FA4, 0x91C6),
    (0x2FA5, 0x2FA5, 0x91CC), (0x2FA6, 0x2FA6, 0x91D1), (0x2FA7, 0x2FA7, 0x9577),
    (0x2FA8, 0x2FA8, 0x9580), (0x2FA9, 0x2FA9, 0x961C), (0x2FAA, 0x2FAA, 0x96B6),
    (0x2FAB, 0x2FAB, 0x96B9), (0x2FAC, 0x2FAC, 0x96E8), (0x2FAD, 0x2FAD, 0x9751),
    (0x2FAE, 0x2FAE, 0x975E), (0x2FAF, 0x2FAF, 0x9762), (0x2FB0, 0x2FB0, 0x9769),
    (0x2FB1, 0x2FB1, 0x97CB), (0x2FB2, 0x2FB2, 0x97ED), (0x2FB3, 0x2FB3, 0x97F3),
    (0x2FB4, 0x2FB4, 0x9801), (0x2FB5, 0x2FB5, 0x98A8), (0x2FB6, 0x2FB6, 0x98DB),
    (0x2FB7, 0x2FB7, 0x98DF), (0x2FB8, 0x2FB8, 0x9996), (0x2FB9, 0x2FB9, 0x9999),
    (0x2FBA, 0x2FBA, 0x99AC), (0x2FBB, 0x2FBB, 0x9AA8), (0x2FBC, 0x2FBC, 0x9AD8),
    (0x2FBD, 0x2FBD, 0x9ADF), (0x2FBE, 0x2FBE, 0x9B25), (0x2FBF, 0x2FBF, 0x9B2F),
    (0x2FC0, 0x2FC0, 0x9B32), (0x2FC1, 0x2FC1, 0x9B3C), (0x2FC2, 0x2FC2, 0x9B5A),
    (0x2FC3, 0x2FC3, 0x9CE5), (0x2FC4, 0x2FC4, 0x9E75), (0x2FC5, 0x2FC5, 0x9E7F),
    (0x2FC6, 0x2FC6, 0x9EA5), (0x2FC7, 0x2FC7, 0x9EBB), (0x2FC8, 0x2FC8, 0x9EC3),
    (0x2FC9, 0x2FC9, 0x9ECD), (0x2FCA, 0x2FCA, 0x9ED1), (0x2FCB, 0x2FCB, 0x9EF9),
    (0x2FCC, 0x2FCC, 0x9EFD), (0x2FCD, 0x2FCD, 0x9F0E), (0x2FCE, 0x2FCE, 0x9F13),
    (0x2FCF, 0x2FCF, 0x9F20), (0x2FD0, 0x2FD0, 0x9F3B), (0x2FD1, 0x2FD1, 0x9F4A),
    (0x2FD2, 0x2FD2, 0x9F52), (0x2FD3, 0x2FD3, 0x9F8D), (0x2FD4, 0x2FD4, 0x9F9C),
    (0x2FD5, 0x2FD5, 0x9FA0), (0x3000, 0x3000, 0x20), (0x3002, 0x3002, 0x2E),
    (0x3036, 0x3036, 0x3012), (0x3038, 0x3038, 0x5341), (0x3039, 0x303A, 0x5344),
    (0x3131, 0x3132, 0x1100), (0x3133, 0x3133, 0x11AA), (0x3134, 0x3134, 0x1102),
    (0x3135, 0x3136, 0x11AC), (0x3137, 0x3139, 0x1103), (0x313A, 0x313F, 0x11B0),
    (0x3140, 0x3140, 0x111A), (0x3141, 0x3143, 0x1106), (0x3144, 0x3144, 0x1121),
    (0x3145, 0x314E, 0x1109), (0x314F, 0x3163, 0x1161), (0x3165, 0x3166, 0x1114),
    (0x3167, 0x3168, 0x11C7), (0x3169, 0x3169, 0x11CC), (0x316A, 0x316A, 0x11CE),
    (0x316B, 0x316B, 0x11D3), (0x316C, 0x316C, 0x11D7), (0x316D, 0x316D, 0x11D9),
    (0x316E, 0x316E, 0x111C), (0x316F, 0x316F, 0x11DD), (0x3170, 0x3170, 0x11DF),
    (0x3171, 0x3172, 0x111D), (0x3173, 0x3173, 0x1120), (0x3174, 0x3175, 0x1122),
    (0x3176, 0x3176, 0x1127), (0x3177, 0x3177, 0x1129), (0x3178, 0x317C, 0x112B),
    (0x317D, 0x317D, 0x1132), (0x317E, 0x317E, 0x1136), (0x317F, 0x317F, 0x1140),
    (0x3180, 0x3180, 0x1147), (0x3181, 0x3181, 0x114C), (0x3182, 0x3183, 0x11F1),
    (0x3184, 0x3186, 0x1157), (0x3187, 0x3188, 0x1184), (0x3189, 0x3189, 0x1188),
    (0x318A, 0x318B, 0x1191), (0x318C, 0x318C, 0x1194), (0x318D, 0x318D, 0x119E),
    (0x318E, 0x318E, 0x11A1), (0x3192, 0x3192, 0x4E00), (0x3193, 0x3193, 0x4E8C),
    (0x3194, 0x3194, 0x4E09), (0x3195, 0x3195, 0x56DB), (0x3196, 0x3196, 0x4E0A),
    (0x3197, 0x3197, 0x4E2D), (0x3198, 0x3198, 0x4E0B), (0x3199, 0x3199, 0x7532),
    (0x319A, 0x319A, 0x4E59), (0x319B, 0x319B, 0x4E19), (0x319C, 0x319C, 0x4E01),
    (0x319D, 0x319D, 0x5929), (0x319E, 0x319E, 0x5730), (0x319F, 0x319F, 0x4EBA),
    (0x3244, 0x3244, 0x554F), (0x3245, 0x3245, 0x5E7C), (0x3246, 0x3246, 0x6587),
    (0x3247, 0x3247, 0x7B8F), (0x3260, 0x3260, 0x1100), (0x3261, 0x3262, 0x1102),
    (0x3263, 0x3265, 0x1105), (0x3266, 0x3266, 0x1109), (0x3267, 0x3268, 0x110B),
    (0x3269, 0x326D, 0x110E), (0x326E, 0x326E, 0xAC00), (0x326F, 0x326F, 0xB098),
    (0x3270, 0x3270, 0xB2E4), (0x3271, 0x3271, 0xB77C), (0x3272, 0x3272, 0xB9C8),
    (0x3273, 0x3273, 0xBC14), (0x3274, 0x3274, 0xC0AC), (0x3275, 0x3275, 0xC544),
    (0x3276, 0x3276, 0xC790), (0x3277, 0x3277, 0xCC28), (0x3278, 0x3278, 0xCE74),
    (0x3279, 0x3279, 0xD0C0), (0x327A, 0x327A, 0xD30C), (0x327B, 0x327B, 0xD558),
    (0x327E, 0x327E, 0xC6B0), (0x3280, 0x3280, 0x4E00), (0x3281, 0x3281, 0x4E8C),
    (0x3282, 0x3282, 0x4E09), (0x3283, 0x3283, 0x56DB), (0x3284, 0x3284, 0x4E94),
    (0x3285, 0x3285, 0x516D), (0x3286, 0x3286, 0x4E03), (0x3287, 0x3287, 0x516B),
    (0x3288, 0x3288, 0x4E5D), (0x3289, 0x3289, 0x5341), (0x328A, 0x328A, 0x6708),
    (0x328B, 0x328B, 0x706B), (0x328C, 0x328C, 0x6C34), (0x328D, 0x328D, 0x6728),
    (0x328E, 0x328E, 0x91D1), (0x328F, 0x328F, 0x571F), (0x3290, 0x3290, 0x65E5),
    (0x3291, 0x3291, 0x682A), (0x3292, 0x3292, 0x6709), (0x3293, 0x3293, 0x793E),
    (0x3294, 0x3294, 0x540D), (0x3295, 0x3295, 0x7279), (0x3296, 0x3296, 0x8CA1),
    (0x3297, 0x3297, 0x795D), (0x3298, 0x3298, 0x52B4), (0x3299, 0x3299, 0x79D8),
    (0x329A, 0x329A, 0x7537), (0x329B, 0x329B, 0x5973), (0x329C, 0x329C, 0x9069),
    (0x329D, 0x329D, 0x512A), (0x329E, 0x329E, 0x5370), (0x329F, 0x329F, 0x6CE8),
    (0x32A0, 0x32A0, 0x9805), (0x32A1, 0x32A1, 0x4F11), (0x32A2, 0x32A2, 0x5199),
    (0x32A3, 0x32A3, 0x6B63), (0x32A4, 0x32A4, 0x4E0A), (0x32A5, 0x32A5, 0x4E2D),
    (0x32A6, 0x32A6, 0x4E0B), (0x32A7, 0x32A7, 0x5DE6), (0x32A8, 0x32A8, 0x53F3),
    (0x32A9, 0x32A9, 0x533B), (0x32AA, 0x32AA, 0x5B97), (0x32AB, 0x32AB, 0x5B66),
    (0x32AC, 0x32AC, 0x76E3), (0x32AD, 0x32AD, 0x4F01), (0x32AE, 0x32AE, 0x8CC7),
    (0x32AF, 0x32AF, 0x5354), (0x32B0, 0x32B0, 0x591C), (0x32D0, 0x32D0, 0x30A2),
    (0x32D1, 0x32D1, 0x30A4), (0x32D2, 0x32D2, 0x30A6), (0x32D3, 0x32D3, 0x30A8),
    (0x32D4, 0x32D5, 0x30AA), (0x32D6, 0x32D6, 0x30AD), (0x32D7, 0x32D7, 0x30AF),
    (0x32D8, 0x32D8, 0x30B1), (0x32D9, 0x32D9, 0x30B3), (0x32DA, 0x32DA, 0x30B5),
    (0x32DB, 0x32DB, 0x30B7), (0x32DC, 0x32DC, 0x30B9), (0x32DD, 0x32DD, 0x30BB),
    (0x32DE, 0x32DE, 0x30BD), (0x32DF, 0x32DF, 0x30BF), (0x32E0, 0x32E0, 0x30C1),
    (0x32E1, 0x32E1, 0x30C4), (0x32E2, 0x32E2, 0x30C6), (0x32E3, 0x32E3, 0x30C8),
    (0x32E4, 0x32E9, 0x30CA), (0x32EA, 0x32EA, 0x30D2), (0x32EB, 0x32EB, 0x30D5),
    (0x32EC, 0x32EC, 0x30D8), (0x32ED, 0x32ED, 0x30DB), (0x32EE, 0x32F2, 0x30DE),
    (0x32F3, 0x32F3, 0x30E4), (0x32F4, 0x32F4, 0x30E6), (0x32F5, 0x32FA, 0x30E8),
    (0x32FB, 0x32FE, 0x30EF), (0xA69C, 0xA69C, 0x44A), (0xA69D, 0xA69D, 0x44C),
    (0xA770, 0xA770, 0xA76F), (0xA77D, 0xA77D, 0x1D79), (0xA78B, 0xA78B, 0xA78C),
    (0xA78D, 0xA78D, 0x265), (0xA7AA, 0xA7AA, 0x266), (0xA7AB, 0xA7AB, 0x25C),
    (0xA7AC, 0xA7AC, 0x261), (0xA7AD, 0xA7AD, 0x26C), (0xA7AE, 0xA7AE, 0x26A),
    (0xA7B0, 0xA7B0, 0x29E), (0xA7B1, 0xA7B1, 0x287), (0xA7B2, 0xA7B2, 0x29D),
    (0xA7B3, 0xA7B3, 0xAB53), (0xA7C4, 0xA7C4, 0xA794), (0xA7C5, 0xA7C5, 0x282),
    (0xA7C6, 0xA7C6, 0x1D8E), (0xA7CB, 0xA7CB, 0x264), (0xA7DC, 0xA7DC, 0x19B),
    (0xA7DD, 0xA7DD, 0x284), (0xA7F1, 0xA7F1, 0x73), (0xA7F2, 0xA7F2, 0x63),
    (0xA7F3, 0xA7F3, 0x66), (0xA7F4, 0xA7F4, 0x71), (0xA7F5, 0xA7F5, 0xA7F6),
    (0xA7F8, 0xA7F8, 0x127), (0xA7F9, 0xA7F9, 0x153), (0xAB5C, 0xAB5C, 0xA727),
    (0xAB5D, 0xAB5D, 0xAB37), (0xAB5E, 0xAB5E, 0x26B), (0xAB5F, 0xAB5F, 0xAB52),
    (0xAB69, 0xAB69, 0x28D), (0xAB6C, 0xAB6D, 0x250), (0xAB70, 0xABBF, 0x13A0)]

end HttpSuite.Domain
