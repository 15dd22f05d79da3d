import HttpSuite.Text.Ranges

/-!
# Writing direction of characters

The bidirectional classes of the characters that host names may hold, as far as the rule for
right-to-left host names tells them apart. Characters that the table does not list run from left to
right.
-/

namespace HttpSuite.Domain

/-- The part that a character plays in the direction of a text. -/
inductive Direction where
  | left
  | right
  | arabicNumber
  | europeanNumber
  /-- A mark that takes the direction of what it stands on. -/
  | nonspacing
  | neutral
  deriving DecidableEq, Repr

namespace Direction

/-- The characters beyond ASCII that do not run from left to right. -/
def table : Array (Nat × Nat × Direction) :=
  #[(0xA1, 0xD7, .neutral), (0xF7, 0xF7, .neutral), (0x2B9, 0x2BA, .neutral),
    (0x2C2, 0x2CF, .neutral), (0x2D2, 0x2ED, .neutral), (0x2EF, 0x2FF, .neutral),
    (0x300, 0x36F, .nonspacing), (0x375, 0x375, .neutral), (0x3F6, 0x3F6, .neutral),
    (0x483, 0x489, .nonspacing), (0x58A, 0x58F, .neutral), (0x591, 0x5BD, .nonspacing),
    (0x5BE, 0x5BE, .right), (0x5BF, 0x5BF, .nonspacing), (0x5C0, 0x5C0, .right),
    (0x5C1, 0x5C2, .nonspacing), (0x5C3, 0x5C3, .right), (0x5C4, 0x5C5, .nonspacing),
    (0x5C6, 0x5C6, .right), (0x5C7, 0x5C7, .nonspacing), (0x5D0, 0x5F4, .right),
    (0x606, 0x607, .neutral), (0x608, 0x608, .right), (0x609, 0x60A, .neutral),
    (0x60B, 0x60B, .right), (0x60C, 0x60C, .neutral), (0x60D, 0x60D, .right),
    (0x60E, 0x60F, .neutral), (0x610, 0x61A, .nonspacing), (0x61B, 0x64A, .right),
    (0x64B, 0x65F, .nonspacing), (0x660, 0x669, .arabicNumber), (0x66A, 0x66A, .neutral),
    (0x66B, 0x66C, .arabicNumber), (0x66D, 0x66F, .right), (0x670, 0x670, .nonspacing),
    (0x671, 0x6D5, .right), (0x6D6, 0x6DC, .nonspacing), (0x6DE, 0x6DE, .neutral),
    (0x6DF, 0x6E4, .nonspacing), (0x6E5, 0x6E6, .right), (0x6E7, 0x6E8, .nonspacing),
    (0x6E9, 0x6E9, .neutral), (0x6EA, 0x6ED, .nonspacing), (0x6EE, 0x6EF, .right),
    (0x6F0, 0x6F9, .europeanNumber), (0x6FA, 0x710, .right), (0x711, 0x711, .nonspacing),
    (0x712, 0x72F, .right), (0x730, 0x74A, .nonspacing), (0x74D, 0x7A5, .right),
    (0x7A6, 0x7B0, .nonspacing), (0x7B1, 0x7EA, .right), (0x7EB, 0x7F3, .nonspacing),
    (0x7F4, 0x7F5, .right), (0x7F6, 0x7F9, .neutral), (0x7FA, 0x7FA, .right),
    (0x7FD, 0x7FD, .nonspacing), (0x7FE, 0x815, .right), (0x816, 0x819, .nonspacing),
    (0x81A, 0x81A, .right), (0x81B, 0x823, .nonspacing), (0x824, 0x824, .right),
    (0x825, 0x827, .nonspacing), (0x828, 0x828, .right), (0x829, 0x82D, .nonspacing),
    (0x830, 0x858, .right), (0x859, 0x85B, .nonspacing), (0x85E, 0x88F, .right),
    (0x897, 0x89F, .nonspacing), (0x8A0, 0x8C9, .right), (0x8CA, 0x902, .nonspacing),
    (0x93A, 0x93A, .nonspacing), (0x93C, 0x93C, .nonspacing), (0x941, 0x948, .nonspacing),
    (0x94D, 0x94D, .nonspacing), (0x951, 0x957, .nonspacing), (0x962, 0x963, .nonspacing),
    (0x981, 0x981, .nonspacing), (0x9BC, 0x9BC, .nonspacing), (0x9C1, 0x9C4, .nonspacing),
    (0x9CD, 0x9CD, .nonspacing), (0x9E2, 0x9E3, .nonspacing), (0x9F2, 0x9F3, .neutral),
    (0x9FB, 0x9FB, .neutral), (0x9FE, 0xA02, .nonspacing), (0xA3C, 0xA3C, .nonspacing),
    (0xA41, 0xA51, .nonspacing), (0xA70, 0xA71, .nonspacing), (0xA75, 0xA75, .nonspacing),
    (0xA81, 0xA82, .nonspacing), (0xABC, 0xABC, .nonspacing), (0xAC1, 0xAC8, .nonspacing),
    (0xACD, 0xACD, .nonspacing), (0xAE2, 0xAE3, .nonspacing), (0xAF1, 0xAF1, .neutral),
    (0xAFA, 0xB01, .nonspacing), (0xB3C, 0xB3C, .nonspacing), (0xB3F, 0xB3F, .nonspacing),
    (0xB41, 0xB44, .nonspacing), (0xB4D, 0xB56, .nonspacing), (0xB62, 0xB63, .nonspacing),
    (0xB82, 0xB82, .nonspacing), (0xBC0, 0xBC0, .nonspacing), (0xBCD, 0xBCD, .nonspacing),
    (0xBF3, 0xBFA, .neutral), (0xC00, 0xC00, .nonspacing), (0xC04, 0xC04, .nonspacing),
    (0xC3C, 0xC3C, .nonspacing), (0xC3E, 0xC40, .nonspacing), (0xC46, 0xC56, .nonspacing),
    (0xC62, 0xC63, .nonspacing), (0xC78, 0xC7E, .neutral), (0xC81, 0xC81, .nonspacing),
    (0xCBC, 0xCBC, .nonspacing), (0xCCC, 0xCCD, .nonspacing), (0xCE2, 0xCE3, .nonspacing),
    (0xD00, 0xD01, .nonspacing), (0xD3B, 0xD3C, .nonspacing), (0xD41, 0xD44, .nonspacing),
    (0xD4D, 0xD4D, .nonspacing), (0xD62, 0xD63, .nonspacing), (0xD81, 0xD81, .nonspacing),
    (0xDCA, 0xDCA, .nonspacing), (0xDD2, 0xDD6, .nonspacing), (0xE31, 0xE31, .nonspacing),
    (0xE34, 0xE3A, .nonspacing), (0xE3F, 0xE3F, .neutral), (0xE47, 0xE4E, .nonspacing),
    (0xEB1, 0xEB1, .nonspacing), (0xEB4, 0xEBC, .nonspacing), (0xEC8, 0xECE, .nonspacing),
    (0xF18, 0xF19, .nonspacing), (0xF35, 0xF35, .nonspacing), (0xF37, 0xF37, .nonspacing),
    (0xF39, 0xF39, .nonspacing), (0xF3A, 0xF3D, .neutral), (0xF71, 0xF7E, .nonspacing),
    (0xF80, 0xF84, .nonspacing), (0xF86, 0xF87, .nonspacing), (0xF8D, 0xFBC, .nonspacing),
    (0xFC6, 0xFC6, .nonspacing), (0x102D, 0x1030, .nonspacing), (0x1032, 0x1037, .nonspacing),
    (0x1039, 0x103A, .nonspacing), (0x103D, 0x103E, .nonspacing), (0x1058, 0x1059, .nonspacing),
    (0x105E, 0x1060, .nonspacing), (0x1071, 0x1074, .nonspacing), (0x1082, 0x1082, .nonspacing),
    (0x1085, 0x1086, .nonspacing), (0x108D, 0x108D, .nonspacing), (0x109D, 0x109D, .nonspacing),
    (0x135D, 0x135F, .nonspacing), (0x1390, 0x1399, .neutral), (0x1400, 0x1400, .neutral),
    (0x169B, 0x169C, .neutral), (0x1712, 0x1714, .nonspacing), (0x1732, 0x1733, .nonspacing),
    (0x1752, 0x1753, .nonspacing), (0x1772, 0x1773, .nonspacing), (0x17B7, 0x17BD, .nonspacing),
    (0x17C6, 0x17C6, .nonspacing), (0x17C9, 0x17D3, .nonspacing), (0x17DB, 0x17DB, .neutral),
    (0x17DD, 0x17DD, .nonspacing), (0x17F0, 0x180A, .neutral), (0x1885, 0x1886, .nonspacing),
    (0x18A9, 0x18A9, .nonspacing), (0x1920, 0x1922, .nonspacing), (0x1927, 0x1928, .nonspacing),
    (0x1932, 0x1932, .nonspacing), (0x1939, 0x193B, .nonspacing), (0x1940, 0x1945, .neutral),
    (0x19DE, 0x19FF, .neutral), (0x1A17, 0x1A18, .nonspacing), (0x1A1B, 0x1A1B, .nonspacing),
    (0x1A56, 0x1A56, .nonspacing), (0x1A58, 0x1A60, .nonspacing), (0x1A62, 0x1A62, .nonspacing),
    (0x1A65, 0x1A6C, .nonspacing), (0x1A73, 0x1A7F, .nonspacing), (0x1AB0, 0x1B03, .nonspacing),
    (0x1B34, 0x1B34, .nonspacing), (0x1B36, 0x1B39, .nonspacing), (0x1B6B, 0x1B73, .nonspacing),
    (0x1B80, 0x1B81, .nonspacing), (0x1BA2, 0x1BA5, .nonspacing), (0x1BA8, 0x1BA9, .nonspacing),
    (0x1BAB, 0x1BAD, .nonspacing), (0x1BE6, 0x1BE6, .nonspacing), (0x1BE8, 0x1BE9, .nonspacing),
    (0x1BED, 0x1BED, .nonspacing), (0x1BEF, 0x1BF1, .nonspacing), (0x1C2C, 0x1C33, .nonspacing),
    (0x1C36, 0x1C37, .nonspacing), (0x1CD0, 0x1CD2, .nonspacing), (0x1CD4, 0x1CE0, .nonspacing),
    (0x1CE2, 0x1CE8, .nonspacing), (0x1CED, 0x1CED, .nonspacing), (0x1CF4, 0x1CF4, .nonspacing),
    (0x1CF8, 0x1CF9, .nonspacing), (0x1DC0, 0x1DFF, .nonspacing), (0x200C, 0x20C4, .neutral),
    (0x20D0, 0x20F0, .nonspacing), (0x2104, 0x214D, .neutral), (0x218A, 0x2335, .neutral),
    (0x237B, 0x2394, .neutral), (0x2396, 0x26AB, .neutral), (0x26AD, 0x27FF, .neutral),
    (0x2900, 0x2BFF, .neutral), (0x2CE5, 0x2CEA, .neutral), (0x2CEF, 0x2CF1, .nonspacing),
    (0x2CF9, 0x2CFF, .neutral), (0x2D7F, 0x2D7F, .nonspacing), (0x2DE0, 0x2DFF, .nonspacing),
    (0x2E00, 0x3004, .neutral), (0x3008, 0x3020, .neutral), (0x302A, 0x302D, .nonspacing),
    (0x3030, 0x3030, .neutral), (0x3037, 0x3037, .neutral), (0x303D, 0x303F, .neutral),
    (0x3099, 0x309A, .nonspacing), (0x30A0, 0x30A0, .neutral), (0x30FB, 0x30FB, .neutral),
    (0x31C0, 0x31E5, .neutral), (0x4DC0, 0x4DFF, .neutral), (0xA490, 0xA4C6, .neutral),
    (0xA60D, 0xA60F, .neutral), (0xA66F, 0xA672, .nonspacing), (0xA673, 0xA673, .neutral),
    (0xA674, 0xA67D, .nonspacing), (0xA67E, 0xA67F, .neutral), (0xA69E, 0xA69F, .nonspacing),
    (0xA6F0, 0xA6F1, .nonspacing), (0xA700, 0xA721, .neutral), (0xA788, 0xA788, .neutral),
    (0xA802, 0xA802, .nonspacing), (0xA806, 0xA806, .nonspacing), (0xA80B, 0xA80B, .nonspacing),
    (0xA825, 0xA826, .nonspacing), (0xA828, 0xA82B, .neutral), (0xA82C, 0xA82C, .nonspacing),
    (0xA838, 0xA839, .neutral), (0xA874, 0xA877, .neutral), (0xA8C4, 0xA8C5, .nonspacing),
    (0xA8E0, 0xA8F1, .nonspacing), (0xA8FF, 0xA8FF, .nonspacing), (0xA926, 0xA92D, .nonspacing),
    (0xA947, 0xA951, .nonspacing), (0xA980, 0xA982, .nonspacing), (0xA9B3, 0xA9B3, .nonspacing),
    (0xA9B6, 0xA9B9, .nonspacing), (0xA9BC, 0xA9BD, .nonspacing), (0xA9E5, 0xA9E5, .nonspacing),
    (0xAA29, 0xAA2E, .nonspacing), (0xAA31, 0xAA32, .nonspacing), (0xAA35, 0xAA36, .nonspacing),
    (0xAA43, 0xAA43, .nonspacing), (0xAA4C, 0xAA4C, .nonspacing), (0xAA7C, 0xAA7C, .nonspacing),
    (0xAAB0, 0xAAB0, .nonspacing), (0xAAB2, 0xAAB4, .nonspacing), (0xAAB7, 0xAAB8, .nonspacing),
    (0xAABE, 0xAABF, .nonspacing), (0xAAC1, 0xAAC1, .nonspacing), (0xAAEC, 0xAAED, .nonspacing),
    (0xAAF6, 0xAAF6, .nonspacing), (0xAB6A, 0xAB6B, .neutral), (0xABE5, 0xABE5, .nonspacing),
    (0xABE8, 0xABE8, .nonspacing), (0xABED, 0xABED, .nonspacing), (0xFB1E, 0xFB1E, .nonspacing),
    (0xFBB2, 0xFBC2, .right), (0xFBC3, 0xFDFF, .neutral), (0xFE20, 0xFE2F, .nonspacing),
    (0xFE45, 0xFE46, .neutral), (0xFE73, 0xFE73, .right), (0x10101, 0x10101, .neutral),
    (0x10140, 0x1018C, .neutral), (0x10190, 0x101A0, .neutral), (0x101FD, 0x101FD, .nonspacing),
    (0x102E0, 0x102E0, .nonspacing), (0x102E1, 0x102FB, .europeanNumber),
    (0x10376, 0x1037A, .nonspacing), (0x10800, 0x1091B, .right), (0x1091F, 0x1091F, .neutral),
    (0x10920, 0x10A00, .right), (0x10A01, 0x10A0F, .nonspacing), (0x10A10, 0x10A35, .right),
    (0x10A38, 0x10A3F, .nonspacing), (0x10A40, 0x10AE4, .right), (0x10AE5, 0x10AE6, .nonspacing),
    (0x10AEB, 0x10B35, .right), (0x10B39, 0x10B3F, .neutral), (0x10B40, 0x10D23, .right),
    (0x10D24, 0x10D27, .nonspacing), (0x10D30, 0x10D49, .arabicNumber), (0x10D4A, 0x10D4F, .right),
    (0x10D69, 0x10D6D, .nonspacing), (0x10D6E, 0x10D6E, .neutral), (0x10D6F, 0x10D8F, .right),
    (0x10E60, 0x10E7E, .arabicNumber), (0x10E80, 0x10EA9, .right), (0x10EAB, 0x10EAC, .nonspacing),
    (0x10EAD, 0x10ECA, .right), (0x10ECB, 0x10ECF, .nonspacing), (0x10ED0, 0x10ED8, .neutral),
    (0x10EEE, 0x10EEE, .right), (0x10EF0, 0x10EFF, .nonspacing), (0x10F00, 0x10F45, .right),
    (0x10F46, 0x10F50, .nonspacing), (0x10F51, 0x10F81, .right), (0x10F82, 0x10F85, .nonspacing),
    (0x10F86, 0x10FF6, .right), (0x11001, 0x11001, .nonspacing), (0x11038, 0x11046, .nonspacing),
    (0x11052, 0x11065, .neutral), (0x11070, 0x11070, .nonspacing), (0x11073, 0x11074, .nonspacing),
    (0x1107F, 0x11081, .nonspacing), (0x110B3, 0x110B6, .nonspacing),
    (0x110B9, 0x110BA, .nonspacing), (0x110C2, 0x110C2, .nonspacing),
    (0x11100, 0x11102, .nonspacing), (0x11127, 0x1112B, .nonspacing),
    (0x1112D, 0x11134, .nonspacing), (0x11173, 0x11173, .nonspacing),
    (0x11180, 0x11181, .nonspacing), (0x111B6, 0x111BE, .nonspacing),
    (0x111C9, 0x111CC, .nonspacing), (0x111CF, 0x111CF, .nonspacing),
    (0x1122F, 0x11231, .nonspacing), (0x11234, 0x11234, .nonspacing),
    (0x11236, 0x11237, .nonspacing), (0x1123E, 0x1123E, .nonspacing),
    (0x11241, 0x11241, .nonspacing), (0x112DF, 0x112DF, .nonspacing),
    (0x112E3, 0x112EA, .nonspacing), (0x11300, 0x11301, .nonspacing),
    (0x1133B, 0x1133C, .nonspacing), (0x11340, 0x11340, .nonspacing),
    (0x11366, 0x11374, .nonspacing), (0x113BB, 0x113C0, .nonspacing),
    (0x113CE, 0x113CE, .nonspacing), (0x113D0, 0x113D0, .nonspacing),
    (0x113D2, 0x113D2, .nonspacing), (0x113E1, 0x113E2, .nonspacing),
    (0x11438, 0x1143F, .nonspacing), (0x11442, 0x11444, .nonspacing),
    (0x11446, 0x11446, .nonspacing), (0x1145E, 0x1145E, .nonspacing),
    (0x114B3, 0x114B8, .nonspacing), (0x114BA, 0x114BA, .nonspacing),
    (0x114BF, 0x114C0, .nonspacing), (0x114C2, 0x114C3, .nonspacing),
    (0x115B2, 0x115B5, .nonspacing), (0x115BC, 0x115BD, .nonspacing),
    (0x115BF, 0x115C0, .nonspacing), (0x115DC, 0x115DD, .nonspacing),
    (0x11633, 0x1163A, .nonspacing), (0x1163D, 0x1163D, .nonspacing),
    (0x1163F, 0x11640, .nonspacing), (0x11660, 0x1166C, .neutral), (0x116AB, 0x116AB, .nonspacing),
    (0x116AD, 0x116AD, .nonspacing), (0x116B0, 0x116B5, .nonspacing),
    (0x116B7, 0x116B7, .nonspacing), (0x1171D, 0x1171D, .nonspacing),
    (0x1171F, 0x1171F, .nonspacing), (0x11722, 0x11725, .nonspacing),
    (0x11727, 0x1172B, .nonspacing), (0x1182F, 0x11837, .nonspacing),
    (0x11839, 0x1183A, .nonspacing), (0x1193B, 0x1193C, .nonspacing),
    (0x1193E, 0x1193E, .nonspacing), (0x11943, 0x11943, .nonspacing),
    (0x119D4, 0x119DB, .nonspacing), (0x119E0, 0x119E0, .nonspacing),
    (0x11A01, 0x11A06, .nonspacing), (0x11A09, 0x11A0A, .nonspacing),
    (0x11A33, 0x11A38, .nonspacing), (0x11A3B, 0x11A3E, .nonspacing),
    (0x11A47, 0x11A47, .nonspacing), (0x11A51, 0x11A56, .nonspacing),
    (0x11A59, 0x11A5B, .nonspacing), (0x11A8A, 0x11A96, .nonspacing),
    (0x11A98, 0x11A99, .nonspacing), (0x11B60, 0x11B60, .nonspacing),
    (0x11B62, 0x11B64, .nonspacing), (0x11B66, 0x11B66, .nonspacing),
    (0x11C30, 0x11C3D, .nonspacing), (0x11C92, 0x11CA7, .nonspacing),
    (0x11CAA, 0x11CB0, .nonspacing), (0x11CB2, 0x11CB3, .nonspacing),
    (0x11CB5, 0x11CB6, .nonspacing), (0x11D31, 0x11D45, .nonspacing),
    (0x11D47, 0x11D47, .nonspacing), (0x11D90, 0x11D91, .nonspacing),
    (0x11D95, 0x11D95, .nonspacing), (0x11D97, 0x11D97, .nonspacing),
    (0x11DF0, 0x11DF0, .nonspacing), (0x11EF3, 0x11EF4, .nonspacing),
    (0x11F00, 0x11F01, .nonspacing), (0x11F36, 0x11F3A, .nonspacing),
    (0x11F40, 0x11F40, .nonspacing), (0x11F42, 0x11F42, .nonspacing),
    (0x11F5A, 0x11F5A, .nonspacing), (0x11FD5, 0x11FF1, .neutral), (0x13440, 0x13440, .nonspacing),
    (0x13447, 0x13455, .nonspacing), (0x1611E, 0x16129, .nonspacing),
    (0x1612D, 0x1612F, .nonspacing), (0x16AF0, 0x16AF4, .nonspacing),
    (0x16B30, 0x16B36, .nonspacing), (0x16F4F, 0x16F4F, .nonspacing),
    (0x16F8F, 0x16F92, .nonspacing), (0x16FE2, 0x16FE2, .neutral), (0x16FE4, 0x16FE4, .nonspacing),
    (0x1BC9D, 0x1BC9E, .nonspacing), (0x1CC00, 0x1CEFD, .neutral), (0x1CF00, 0x1CF46, .nonspacing),
    (0x1D127, 0x1D128, .nonspacing), (0x1D167, 0x1D169, .nonspacing),
    (0x1D17B, 0x1D182, .nonspacing), (0x1D185, 0x1D18B, .nonspacing),
    (0x1D1AA, 0x1D1AD, .nonspacing), (0x1D1E9, 0x1D1EA, .neutral), (0x1D200, 0x1D241, .neutral),
    (0x1D242, 0x1D244, .nonspacing), (0x1D245, 0x1D245, .neutral), (0x1D25B, 0x1D25C, .nonspacing),
    (0x1D281, 0x1D281, .nonspacing), (0x1D300, 0x1D356, .neutral), (0x1DA00, 0x1DA36, .nonspacing),
    (0x1DA3B, 0x1DA6C, .nonspacing), (0x1DA75, 0x1DA75, .nonspacing),
    (0x1DA84, 0x1DA84, .nonspacing), (0x1DA9B, 0x1DAAF, .nonspacing), (0x1DB00, 0x1DB8F, .neutral),
    (0x1E000, 0x1E08F, .nonspacing), (0x1E130, 0x1E136, .nonspacing),
    (0x1E2AE, 0x1E2AE, .nonspacing), (0x1E2EC, 0x1E2EF, .nonspacing), (0x1E2FF, 0x1E2FF, .neutral),
    (0x1E4EC, 0x1E4EF, .nonspacing), (0x1E5EE, 0x1E5EF, .nonspacing),
    (0x1E6E3, 0x1E6E3, .nonspacing), (0x1E6E6, 0x1E6E6, .nonspacing),
    (0x1E6EE, 0x1E6EF, .nonspacing), (0x1E6F5, 0x1E6F5, .nonspacing), (0x1E800, 0x1E8CF, .right),
    (0x1E8D0, 0x1E8D6, .nonspacing), (0x1E922, 0x1E943, .right), (0x1E944, 0x1E94A, .nonspacing),
    (0x1E94B, 0x1ED3D, .right), (0x1EEF0, 0x1F12F, .neutral), (0x1F16D, 0x1F16F, .neutral),
    (0x1F1AD, 0x1F1AE, .neutral), (0x1F260, 0x1F7D9, .neutral), (0x1F7E0, 0x1FBFA, .neutral)]

/-- The part of an ASCII character. -/
def ofAscii (c : Char) : Direction :=
  if c.isAlpha then left else if c.isDigit then europeanNumber else neutral

/-- The part of a character. -/
def of (c : Char) : Direction :=
  if c.toNat < 128 then ofAscii c
  else ((Text.rowAt? table c.toNat).map fun (_, _, d) => d).getD left

end Direction

end HttpSuite.Domain
