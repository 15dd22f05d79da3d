/-!
# Letters that are replaced in host names

The code points from 128 up to 0x1FFF that one other character stands for in host names, such as the
capital letters.
-/

namespace HttpSuite.Domain

/-- Ranges of code points that are replaced by consecutive ones, with the one that replaces the
first. -/
def mappedLetters : Array (Nat × Nat × Nat) :=
  #[(0xA0, 0xA0, 0x20), (0xAA, 0xAA, 0x61), (0xB2, 0xB3, 0x32), (0xB5, 0xB5, 0x3BC),
    (0xB9, 0xB9, 0x31), (0xBA, 0xBA, 0x6F), (0xC0, 0xD6, 0xE0), (0xD8, 0xDE, 0xF8),
    (0x178, 0x178, 0xFF), (0x17F, 0x17F, 0x73), (0x181, 0x181, 0x253), (0x186, 0x186, 0x254),
    (0x187, 0x187, 0x188), (0x189, 0x18A, 0x256), (0x18B, 0x18B, 0x18C), (0x18E, 0x18E, 0x1DD),
    (0x18F, 0x18F, 0x259), (0x190, 0x190, 0x25B), (0x191, 0x191, 0x192), (0x193, 0x193, 0x260),
    (0x194, 0x194, 0x263), (0x196, 0x196, 0x269), (0x197, 0x197, 0x268), (0x198, 0x198, 0x199),
    (0x19C, 0x19C, 0x26F), (0x19D, 0x19D, 0x272), (0x19F, 0x19F, 0x275), (0x1A6, 0x1A6, 0x280),
    (0x1A7, 0x1A7, 0x1A8), (0x1A9, 0x1A9, 0x283), (0x1AC, 0x1AC, 0x1AD), (0x1AE, 0x1AE, 0x288),
    (0x1AF, 0x1AF, 0x1B0), (0x1B1, 0x1B2, 0x28A), (0x1B7, 0x1B7, 0x292), (0x1B8, 0x1B8, 0x1B9),
    (0x1BC, 0x1BC, 0x1BD), (0x1F4, 0x1F4, 0x1F5), (0x1F6, 0x1F6, 0x195), (0x1F7, 0x1F7, 0x1BF),
    (0x220, 0x220, 0x19E), (0x23A, 0x23A, 0x2C65), (0x23B, 0x23B, 0x23C), (0x23D, 0x23D, 0x19A),
    (0x23E, 0x23E, 0x2C66), (0x241, 0x241, 0x242), (0x243, 0x243, 0x180), (0x244, 0x244, 0x289),
    (0x245, 0x245, 0x28C), (0x2B0, 0x2B0, 0x68), (0x2B1, 0x2B1, 0x266), (0x2B2, 0x2B2, 0x6A),
    (0x2B3, 0x2B3, 0x72), (0x2B4, 0x2B4, 0x279), (0x2B5, 0x2B5, 0x27B), (0x2B6, 0x2B6, 0x281),
    (0x2B7, 0x2B7, 0x77), (0x2B8, 0x2B8, 0x79), (0x2E0, 0x2E0, 0x263), (0x2E1, 0x2E1, 0x6C),
    (0x2E2, 0x2E2, 0x73), (0x2E3, 0x2E3, 0x78), (0x2E4, 0x2E4, 0x295), (0x340, 0x341, 0x300),
    (0x343, 0x343, 0x313), (0x345, 0x345, 0x3B9), (0x374, 0x374, 0x2B9), (0x376, 0x376, 0x377),
    (0x37E, 0x37E, 0x3B), (0x37F, 0x37F, 0x3F3), (0x386, 0x386, 0x3AC), (0x387, 0x387, 0xB7),
    (0x388, 0x38A, 0x3AD), (0x38C, 0x38C, 0x3CC), (0x38E, 0x38F, 0x3CD), (0x391, 0x3A1, 0x3B1),
    (0x3A3, 0x3AB, 0x3C3), (0x3CF, 0x3CF, 0x3D7), (0x3D0, 0x3D0, 0x3B2), (0x3D1, 0x3D1, 0x3B8),
    (0x3D2, 0x3D2, 0x3C5), (0x3D3, 0x3D3, 0x3CD), (0x3D4, 0x3D4, 0x3CB), (0x3D5, 0x3D5, 0x3C6),
    (0x3D6, 0x3D6, 0x3C0), (0x3F0, 0x3F0, 0x3BA), (0x3F1, 0x3F1, 0x3C1), (0x3F2, 0x3F2, 0x3C3),
    (0x3F4, 0x3F4, 0x3B8), (0x3F5, 0x3F5, 0x3B5), (0x3F7, 0x3F7, 0x3F8), (0x3F9, 0x3F9, 0x3C3),
    (0x3FA, 0x3FA, 0x3FB), (0x3FD, 0x3FF, 0x37B), (0x400, 0x40F, 0x450), (0x410, 0x42F, 0x430),
    (0x4C0, 0x4C0, 0x4CF), (0x531, 0x556, 0x561), (0x558, 0x558, 0x576), (0x58B, 0x58C, 0x579),
    (0xF0C, 0xF0C, 0xF0B), (0x10A0, 0x10C5, 0x2D00), (0x10C7, 0x10C7, 0x2D27),
    (0x10CD, 0x10CD, 0x2D2D), (0x10FC, 0x10FC, 0x10DC), (0x13F8, 0x13FD, 0x13F0),
    (0x1C80, 0x1C80, 0x432), (0x1C81, 0x1C81, 0x434), (0x1C82, 0x1C82, 0x43E),
    (0x1C83, 0x1C84, 0x441), (0x1C85, 0x1C85, 0x442), (0x1C86, 0x1C86, 0x44A),
    (0x1C87, 0x1C87, 0x463), (0x1C88, 0x1C88, 0xA64B), (0x1C89, 0x1C89, 0x1C8A),
    (0x1C90, 0x1CBA, 0x10D0), (0x1CBD, 0x1CBF, 0x10FD), (0x1D2C, 0x1D2C, 0x61),
    (0x1D2D, 0x1D2D, 0xE6), (0x1D2E, 0x1D2E, 0x62), (0x1D30, 0x1D31, 0x64),
    (0x1D32, 0x1D32, 0x1DD), (0x1D33, 0x1D3A, 0x67), (0x1D3C, 0x1D3C, 0x6F),
    (0x1D3D, 0x1D3D, 0x223), (0x1D3E, 0x1D3E, 0x70), (0x1D3F, 0x1D3F, 0x72),
    (0x1D40, 0x1D41, 0x74), (0x1D42, 0x1D42, 0x77), (0x1D43, 0x1D43, 0x61),
    (0x1D44, 0x1D45, 0x250), (0x1D46, 0x1D46, 0x1D02), (0x1D47, 0x1D47, 0x62),
    (0x1D48, 0x1D49, 0x64), (0x1D4A, 0x1D4A, 0x259), (0x1D4B, 0x1D4C, 0x25B),
    (0x1D4D, 0x1D4D, 0x67), (0x1D4F, 0x1D4F, 0x6B), (0x1D50, 0x1D50, 0x6D),
    (0x1D51, 0x1D51, 0x14B), (0x1D52, 0x1D52, 0x6F), (0x1D53, 0x1D53, 0x254),
    (0x1D54, 0x1D55, 0x1D16), (0x1D56, 0x1D56, 0x70), (0x1D57, 0x1D58, 0x74),
    (0x1D59, 0x1D59, 0x1D1D), (0x1D5A, 0x1D5A, 0x26F), (0x1D5B, 0x1D5B, 0x76),
    (0x1D5C, 0x1D5C, 0x1D25), (0x1D5D, 0x1D5F, 0x3B2), (0x1D60, 0x1D61, 0x3C6),
    (0x1D62, 0x1D62, 0x69), (0x1D63, 0x1D63, 0x72), (0x1D64, 0x1D65, 0x75),
    (0x1D66, 0x1D67, 0x3B2), (0x1D68, 0x1D68, 0x3C1), (0x1D69, 0x1D6A, 0x3C6),
    (0x1D78, 0x1D78, 0x43D), (0x1D9B, 0x1D9B, 0x252), (0x1D9C, 0x1D9C, 0x63),
    (0x1D9D, 0x1D9D, 0x255), (0x1D9E, 0x1D9E, 0xF0), (0x1D9F, 0x1D9F, 0x25C),
    (0x1DA0, 0x1DA0, 0x66), (0x1DA1, 0x1DA1, 0x25F), (0x1DA2, 0x1DA2, 0x261),
    (0x1DA3, 0x1DA3, 0x265), (0x1DA4, 0x1DA6, 0x268), (0x1DA7, 0x1DA7, 0x1D7B),
    (0x1DA8, 0x1DA8, 0x29D), (0x1DA9, 0x1DA9, 0x26D), (0x1DAA, 0x1DAA, 0x1D85),
    (0x1DAB, 0x1DAB, 0x29F), (0x1DAC, 0x1DAC, 0x271), (0x1DAD, 0x1DAD, 0x270),
    (0x1DAE, 0x1DB1, 0x272), (0x1DB2, 0x1DB2, 0x278), (0x1DB3, 0x1DB4, 0x282),
    (0x1DB5, 0x1DB5, 0x1AB), (0x1DB6, 0x1DB7, 0x289), (0x1DB8, 0x1DB8, 0x1D1C),
    (0x1DB9, 0x1DBA, 0x28B), (0x1DBB, 0x1DBB, 0x7A), (0x1DBC, 0x1DBE, 0x290),
    (0x1DBF, 0x1DBF, 0x3B8), (0x1E9B, 0x1E9B, 0x1E61), (0x1E9E, 0x1E9E, 0xDF),
    (0x1F08, 0x1F0F, 0x1F00), (0x1F18, 0x1F1D, 0x1F10), (0x1F28, 0x1F2F, 0x1F20),
    (0x1F38, 0x1F3F, 0x1F30), (0x1F48, 0x1F4D, 0x1F40), (0x1F59, 0x1F59, 0x1F51),
    (0x1F5B, 0x1F5B, 0x1F53), (0x1F5D, 0x1F5D, 0x1F55), (0x1F5F, 0x1F5F, 0x1F57),
    (0x1F68, 0x1F6F, 0x1F60), (0x1F71, 0x1F71, 0x3AC), (0x1F73, 0x1F73, 0x3AD),
    (0x1F75, 0x1F75, 0x3AE), (0x1F77, 0x1F77, 0x3AF), (0x1F79, 0x1F79, 0x3CC),
    (0x1F7B, 0x1F7B, 0x3CD), (0x1F7D, 0x1F7D, 0x3CE), (0x1FB8, 0x1FB9, 0x1FB0),
    (0x1FBA, 0x1FBA, 0x1F70), (0x1FBB, 0x1FBB, 0x3AC), (0x1FBE, 0x1FBE, 0x3B9),
    (0x1FC8, 0x1FC8, 0x1F72), (0x1FC9, 0x1FC9, 0x3AD), (0x1FCA, 0x1FCA, 0x1F74),
    (0x1FCB, 0x1FCB, 0x3AE), (0x1FD3, 0x1FD3, 0x390), (0x1FD8, 0x1FD9, 0x1FD0),
    (0x1FDA, 0x1FDA, 0x1F76), (0x1FDB, 0x1FDB, 0x3AF), (0x1FE3, 0x1FE3, 0x3B0),
    (0x1FE8, 0x1FE9, 0x1FE0), (0x1FEA, 0x1FEA, 0x1F7A), (0x1FEB, 0x1FEB, 0x3CD),
    (0x1FEC, 0x1FEC, 0x1FE5), (0x1FEF, 0x1FEF, 0x60), (0x1FF8, 0x1FF8, 0x1F78),
    (0x1FF9, 0x1FF9, 0x3CC), (0x1FFA, 0x1FFA, 0x1F7C), (0x1FFB, 0x1FFB, 0x3CE)]

end HttpSuite.Domain
