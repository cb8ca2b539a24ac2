import TermSearch.Unicode.CaseChange

/-!
# Case Folding

The full case folding of Unicode 14.0, by which texts that differ in case alone become
equal: one character may become several (`ß` becomes `ss`).
-/

namespace TermSearch.Unicode

/-- The characters that change when their case is folded. -/
def foldingChanges : List (Nat × Nat × CaseChange) := [
  (0x41, 0x5A, .shift 1 32), (0xB5, 0xB5, .shift 1 775), (0xC0, 0xD6, .shift 1 32),
  (0xD8, 0xDE, .shift 1 32), (0xDF, 0xDF, .spell [0x73, 0x73]), (0x100, 0x12E, .shift 2 1),
  (0x130, 0x130, .spell [0x69, 0x307]), (0x132, 0x136, .shift 2 1), (0x139, 0x147, .shift 2 1),
  (0x149, 0x149, .spell [0x2BC, 0x6E]), (0x14A, 0x176, .shift 2 1),
  (0x178, 0x178, .shift 1 (-121)), (0x179, 0x17D, .shift 2 1), (0x17F, 0x17F, .shift 1 (-268)),
  (0x181, 0x181, .shift 1 210), (0x182, 0x184, .shift 2 1), (0x186, 0x186, .shift 1 206),
  (0x187, 0x187, .shift 1 1), (0x189, 0x18A, .shift 1 205), (0x18B, 0x18B, .shift 1 1),
  (0x18E, 0x18E, .shift 1 79), (0x18F, 0x18F, .shift 1 202), (0x190, 0x190, .shift 1 203),
  (0x191, 0x191, .shift 1 1), (0x193, 0x193, .shift 1 205), (0x194, 0x194, .shift 1 207),
  (0x196, 0x196, .shift 1 211), (0x197, 0x197, .shift 1 209), (0x198, 0x198, .shift 1 1),
  (0x19C, 0x19C, .shift 1 211), (0x19D, 0x19D, .shift 1 213), (0x19F, 0x19F, .shift 1 214),
  (0x1A0, 0x1A4, .shift 2 1), (0x1A6, 0x1A6, .shift 1 218), (0x1A7, 0x1A7, .shift 1 1),
  (0x1A9, 0x1A9, .shift 1 218), (0x1AC, 0x1AC, .shift 1 1), (0x1AE, 0x1AE, .shift 1 218),
  (0x1AF, 0x1AF, .shift 1 1), (0x1B1, 0x1B2, .shift 1 217), (0x1B3, 0x1B5, .shift 2 1),
  (0x1B7, 0x1B7, .shift 1 219), (0x1B8, 0x1B8, .shift 1 1), (0x1BC, 0x1BC, .shift 1 1),
  (0x1C4, 0x1C4, .shift 1 2), (0x1C5, 0x1C5, .shift 1 1), (0x1C7, 0x1C7, .shift 1 2),
  (0x1C8, 0x1C8, .shift 1 1), (0x1CA, 0x1CA, .shift 1 2), (0x1CB, 0x1DB, .shift 2 1),
  (0x1DE, 0x1EE, .shift 2 1), (0x1F0, 0x1F0, .spell [0x6A, 0x30C]), (0x1F1, 0x1F1, .shift 1 2),
  (0x1F2, 0x1F4, .shift 2 1), (0x1F6, 0x1F6, .shift 1 (-97)), (0x1F7, 0x1F7, .shift 1 (-56)),
  (0x1F8, 0x21E, .shift 2 1), (0x220, 0x220, .shift 1 (-130)), (0x222, 0x232, .shift 2 1),
  (0x23A, 0x23A, .shift 1 10795), (0x23B, 0x23B, .shift 1 1), (0x23D, 0x23D, .shift 1 (-163)),
  (0x23E, 0x23E, .shift 1 10792), (0x241, 0x241, .shift 1 1), (0x243, 0x243, .shift 1 (-195)),
  (0x244, 0x244, .shift 1 69), (0x245, 0x245, .shift 1 71), (0x246, 0x24E, .shift 2 1),
  (0x345, 0x345, .shift 1 116), (0x370, 0x372, .shift 2 1), (0x376, 0x376, .shift 1 1),
  (0x37F, 0x37F, .shift 1 116), (0x386, 0x386, .shift 1 38), (0x388, 0x38A, .shift 1 37),
  (0x38C, 0x38C, .shift 1 64), (0x38E, 0x38F, .shift 1 63),
  (0x390, 0x390, .spell [0x3B9, 0x308, 0x301]), (0x391, 0x3A1, .shift 1 32),
  (0x3A3, 0x3AB, .shift 1 32), (0x3B0, 0x3B0, .spell [0x3C5, 0x308, 0x301]),
  (0x3C2, 0x3C2, .shift 1 1), (0x3CF, 0x3CF, .shift 1 8), (0x3D0, 0x3D0, .shift 1 (-30)),
  (0x3D1, 0x3D1, .shift 1 (-25)), (0x3D5, 0x3D5, .shift 1 (-15)), (0x3D6, 0x3D6, .shift 1 (-22)),
  (0x3D8, 0x3EE, .shift 2 1), (0x3F0, 0x3F0, .shift 1 (-54)), (0x3F1, 0x3F1, .shift 1 (-48)),
  (0x3F4, 0x3F4, .shift 1 (-60)), (0x3F5, 0x3F5, .shift 1 (-64)), (0x3F7, 0x3F7, .shift 1 1),
  (0x3F9, 0x3F9, .shift 1 (-7)), (0x3FA, 0x3FA, .shift 1 1), (0x3FD, 0x3FF, .shift 1 (-130)),
  (0x400, 0x40F, .shift 1 80), (0x410, 0x42F, .shift 1 32), (0x460, 0x480, .shift 2 1),
  (0x48A, 0x4BE, .shift 2 1), (0x4C0, 0x4C0, .shift 1 15), (0x4C1, 0x4CD, .shift 2 1),
  (0x4D0, 0x52E, .shift 2 1), (0x531, 0x556, .shift 1 48), (0x587, 0x587, .spell [0x565, 0x582]),
  (0x10A0, 0x10C5, .shift 1 7264), (0x10C7, 0x10C7, .shift 1 7264),
  (0x10CD, 0x10CD, .shift 1 7264), (0x13F8, 0x13FD, .shift 1 (-8)),
  (0x1C80, 0x1C80, .shift 1 (-6222)), (0x1C81, 0x1C81, .shift 1 (-6221)),
  (0x1C82, 0x1C82, .shift 1 (-6212)), (0x1C83, 0x1C84, .shift 1 (-6210)),
  (0x1C85, 0x1C85, .shift 1 (-6211)), (0x1C86, 0x1C86, .shift 1 (-6204)),
  (0x1C87, 0x1C87, .shift 1 (-6180)), (0x1C88, 0x1C88, .shift 1 35267),
  (0x1C90, 0x1CBA, .shift 1 (-3008)), (0x1CBD, 0x1CBF, .shift 1 (-3008)),
  (0x1E00, 0x1E94, .shift 2 1), (0x1E96, 0x1E96, .spell [0x68, 0x331]),
  (0x1E97, 0x1E97, .spell [0x74, 0x308]), (0x1E98, 0x1E98, .spell [0x77, 0x30A]),
  (0x1E99, 0x1E99, .spell [0x79, 0x30A]), (0x1E9A, 0x1E9A, .spell [0x61, 0x2BE]),
  (0x1E9B, 0x1E9B, .shift 1 (-58)), (0x1E9E, 0x1E9E, .spell [0x73, 0x73]),
  (0x1EA0, 0x1EFE, .shift 2 1), (0x1F08, 0x1F0F, .shift 1 (-8)), (0x1F18, 0x1F1D, .shift 1 (-8)),
  (0x1F28, 0x1F2F, .shift 1 (-8)), (0x1F38, 0x1F3F, .shift 1 (-8)),
  (0x1F48, 0x1F4D, .shift 1 (-8)), (0x1F50, 0x1F50, .spell [0x3C5, 0x313]),
  (0x1F52, 0x1F52, .spell [0x3C5, 0x313, 0x300]), (0x1F54, 0x1F54, .spell [0x3C5, 0x313, 0x301]),
  (0x1F56, 0x1F56, .spell [0x3C5, 0x313, 0x342]), (0x1F59, 0x1F5F, .shift 2 (-8)),
  (0x1F68, 0x1F6F, .shift 1 (-8)), (0x1F80, 0x1F80, .spell [0x1F00, 0x3B9]),
  (0x1F81, 0x1F81, .spell [0x1F01, 0x3B9]), (0x1F82, 0x1F82, .spell [0x1F02, 0x3B9]),
  (0x1F83, 0x1F83, .spell [0x1F03, 0x3B9]), (0x1F84, 0x1F84, .spell [0x1F04, 0x3B9]),
  (0x1F85, 0x1F85, .spell [0x1F05, 0x3B9]), (0x1F86, 0x1F86, .spell [0x1F06, 0x3B9]),
  (0x1F87, 0x1F87, .spell [0x1F07, 0x3B9]), (0x1F88, 0x1F88, .spell [0x1F00, 0x3B9]),
  (0x1F89, 0x1F89, .spell [0x1F01, 0x3B9]), (0x1F8A, 0x1F8A, .spell [0x1F02, 0x3B9]),
  (0x1F8B, 0x1F8B, .spell [0x1F03, 0x3B9]), (0x1F8C, 0x1F8C, .spell [0x1F04, 0x3B9]),
  (0x1F8D, 0x1F8D, .spell [0x1F05, 0x3B9]), (0x1F8E, 0x1F8E, .spell [0x1F06, 0x3B9]),
  (0x1F8F, 0x1F8F, .spell [0x1F07, 0x3B9]), (0x1F90, 0x1F90, .spell [0x1F20, 0x3B9]),
  (0x1F91, 0x1F91, .spell [0x1F21, 0x3B9]), (0x1F92, 0x1F92, .spell [0x1F22, 0x3B9]),
  (0x1F93, 0x1F93, .spell [0x1F23, 0x3B9]), (0x1F94, 0x1F94, .spell [0x1F24, 0x3B9]),
  (0x1F95, 0x1F95, .spell [0x1F25, 0x3B9]), (0x1F96, 0x1F96, .spell [0x1F26, 0x3B9]),
  (0x1F97, 0x1F97, .spell [0x1F27, 0x3B9]), (0x1F98, 0x1F98, .spell [0x1F20, 0x3B9]),
  (0x1F99, 0x1F99, .spell [0x1F21, 0x3B9]), (0x1F9A, 0x1F9A, .spell [0x1F22, 0x3B9]),
  (0x1F9B, 0x1F9B, .spell [0x1F23, 0x3B9]), (0x1F9C, 0x1F9C, .spell [0x1F24, 0x3B9]),
  (0x1F9D, 0x1F9D, .spell [0x1F25, 0x3B9]), (0x1F9E, 0x1F9E, .spell [0x1F26, 0x3B9]),
  (0x1F9F, 0x1F9F, .spell [0x1F27, 0x3B9]), (0x1FA0, 0x1FA0, .spell [0x1F60, 0x3B9]),
  (0x1FA1, 0x1FA1, .spell [0x1F61, 0x3B9]), (0x1FA2, 0x1FA2, .spell [0x1F62, 0x3B9]),
  (0x1FA3, 0x1FA3, .spell [0x1F63, 0x3B9]), (0x1FA4, 0x1FA4, .spell [0x1F64, 0x3B9]),
  (0x1FA5, 0x1FA5, .spell [0x1F65, 0x3B9]), (0x1FA6, 0x1FA6, .spell [0x1F66, 0x3B9]),
  (0x1FA7, 0x1FA7, .spell [0x1F67, 0x3B9]), (0x1FA8, 0x1FA8, .spell [0x1F60, 0x3B9]),
  (0x1FA9, 0x1FA9, .spell [0x1F61, 0x3B9]), (0x1FAA, 0x1FAA, .spell [0x1F62, 0x3B9]),
  (0x1FAB, 0x1FAB, .spell [0x1F63, 0x3B9]), (0x1FAC, 0x1FAC, .spell [0x1F64, 0x3B9]),
  (0x1FAD, 0x1FAD, .spell [0x1F65, 0x3B9]), (0x1FAE, 0x1FAE, .spell [0x1F66, 0x3B9]),
  (0x1FAF, 0x1FAF, .spell [0x1F67, 0x3B9]), (0x1FB2, 0x1FB2, .spell [0x1F70, 0x3B9]),
  (0x1FB3, 0x1FB3, .spell [0x3B1, 0x3B9]), (0x1FB4, 0x1FB4, .spell [0x3AC, 0x3B9]),
  (0x1FB6, 0x1FB6, .spell [0x3B1, 0x342]), (0x1FB7, 0x1FB7, .spell [0x3B1, 0x342, 0x3B9]),
  (0x1FB8, 0x1FB9, .shift 1 (-8)), (0x1FBA, 0x1FBB, .shift 1 (-74)),
  (0x1FBC, 0x1FBC, .spell [0x3B1, 0x3B9]), (0x1FBE, 0x1FBE, .shift 1 (-7173)),
  (0x1FC2, 0x1FC2, .spell [0x1F74, 0x3B9]), (0x1FC3, 0x1FC3, .spell [0x3B7, 0x3B9]),
  (0x1FC4, 0x1FC4, .spell [0x3AE, 0x3B9]), (0x1FC6, 0x1FC6, .spell [0x3B7, 0x342]),
  (0x1FC7, 0x1FC7, .spell [0x3B7, 0x342, 0x3B9]), (0x1FC8, 0x1FCB, .shift 1 (-86)),
  (0x1FCC, 0x1FCC, .spell [0x3B7, 0x3B9]), (0x1FD2, 0x1FD2, .spell [0x3B9, 0x308, 0x300]),
  (0x1FD3, 0x1FD3, .spell [0x3B9, 0x308, 0x301]), (0x1FD6, 0x1FD6, .spell [0x3B9, 0x342]),
  (0x1FD7, 0x1FD7, .spell [0x3B9, 0x308, 0x342]), (0x1FD8, 0x1FD9, .shift 1 (-8)),
  (0x1FDA, 0x1FDB, .shift 1 (-100)), (0x1FE2, 0x1FE2, .spell [0x3C5, 0x308, 0x300]),
  (0x1FE3, 0x1FE3, .spell [0x3C5, 0x308, 0x301]), (0x1FE4, 0x1FE4, .spell [0x3C1, 0x313]),
  (0x1FE6, 0x1FE6, .spell [0x3C5, 0x342]), (0x1FE7, 0x1FE7, .spell [0x3C5, 0x308, 0x342]),
  (0x1FE8, 0x1FE9, .shift 1 (-8)), (0x1FEA, 0x1FEB, .shift 1 (-112)),
  (0x1FEC, 0x1FEC, .shift 1 (-7)), (0x1FF2, 0x1FF2, .spell [0x1F7C, 0x3B9]),
  (0x1FF3, 0x1FF3, .spell [0x3C9, 0x3B9]), (0x1FF4, 0x1FF4, .spell [0x3CE, 0x3B9]),
  (0x1FF6, 0x1FF6, .spell [0x3C9, 0x342]), (0x1FF7, 0x1FF7, .spell [0x3C9, 0x342, 0x3B9]),
  (0x1FF8, 0x1FF9, .shift 1 (-128)), (0x1FFA, 0x1FFB, .shift 1 (-126)),
  (0x1FFC, 0x1FFC, .spell [0x3C9, 0x3B9]), (0x2126, 0x2126, .shift 1 (-7517)),
  (0x212A, 0x212A, .shift 1 (-8383)), (0x212B, 0x212B, .shift 1 (-8262)),
  (0x2132, 0x2132, .shift 1 28), (0x2160, 0x216F, .shift 1 16), (0x2183, 0x2183, .shift 1 1),
  (0x24B6, 0x24CF, .shift 1 26), (0x2C00, 0x2C2F, .shift 1 48), (0x2C60, 0x2C60, .shift 1 1),
  (0x2C62, 0x2C62, .shift 1 (-10743)), (0x2C63, 0x2C63, .shift 1 (-3814)),
  (0x2C64, 0x2C64, .shift 1 (-10727)), (0x2C67, 0x2C6B, .shift 2 1),
  (0x2C6D, 0x2C6D, .shift 1 (-10780)), (0x2C6E, 0x2C6E, .shift 1 (-10749)),
  (0x2C6F, 0x2C6F, .shift 1 (-10783)), (0x2C70, 0x2C70, .shift 1 (-10782)),
  (0x2C72, 0x2C72, .shift 1 1), (0x2C75, 0x2C75, .shift 1 1),
  (0x2C7E, 0x2C7F, .shift 1 (-10815)), (0x2C80, 0x2CE2, .shift 2 1),
  (0x2CEB, 0x2CED, .shift 2 1), (0x2CF2, 0x2CF2, .shift 1 1), (0xA640, 0xA66C, .shift 2 1),
  (0xA680, 0xA69A, .shift 2 1), (0xA722, 0xA72E, .shift 2 1), (0xA732, 0xA76E, .shift 2 1),
  (0xA779, 0xA77B, .shift 2 1), (0xA77D, 0xA77D, .shift 1 (-35332)),
  (0xA77E, 0xA786, .shift 2 1), (0xA78B, 0xA78B, .shift 1 1),
  (0xA78D, 0xA78D, .shift 1 (-42280)), (0xA790, 0xA792, .shift 2 1),
  (0xA796, 0xA7A8, .shift 2 1), (0xA7AA, 0xA7AA, .shift 1 (-42308)),
  (0xA7AB, 0xA7AB, .shift 1 (-42319)), (0xA7AC, 0xA7AC, .shift 1 (-42315)),
  (0xA7AD, 0xA7AD, .shift 1 (-42305)), (0xA7AE, 0xA7AE, .shift 1 (-42308)),
  (0xA7B0, 0xA7B0, .shift 1 (-42258)), (0xA7B1, 0xA7B1, .shift 1 (-42282)),
  (0xA7B2, 0xA7B2, .shift 1 (-42261)), (0xA7B3, 0xA7B3, .shift 1 928),
  (0xA7B4, 0xA7C2, .shift 2 1), (0xA7C4, 0xA7C4, .shift 1 (-48)),
  (0xA7C5, 0xA7C5, .shift 1 (-42307)), (0xA7C6, 0xA7C6, .shift 1 (-35384)),
  (0xA7C7, 0xA7C9, .shift 2 1), (0xA7D0, 0xA7D0, .shift 1 1), (0xA7D6, 0xA7D8, .shift 2 1),
  (0xA7F5, 0xA7F5, .shift 1 1), (0xAB70, 0xABBF, .shift 1 (-38864)),
  (0xFB00, 0xFB00, .spell [0x66, 0x66]), (0xFB01, 0xFB01, .spell [0x66, 0x69]),
  (0xFB02, 0xFB02, .spell [0x66, 0x6C]), (0xFB03, 0xFB03, .spell [0x66, 0x66, 0x69]),
  (0xFB04, 0xFB04, .spell [0x66, 0x66, 0x6C]), (0xFB05, 0xFB05, .spell [0x73, 0x74]),
  (0xFB06, 0xFB06, .spell [0x73, 0x74]), (0xFB13, 0xFB13, .spell [0x574, 0x576]),
  (0xFB14, 0xFB14, .spell [0x574, 0x565]), (0xFB15, 0xFB15, .spell [0x574, 0x56B]),
  (0xFB16, 0xFB16, .spell [0x57E, 0x576]), (0xFB17, 0xFB17, .spell [0x574, 0x56D]),
  (0xFF21, 0xFF3A, .shift 1 32), (0x10400, 0x10427, .shift 1 40),
  (0x104B0, 0x104D3, .shift 1 40), (0x10570, 0x1057A, .shift 1 39),
  (0x1057C, 0x1058A, .shift 1 39), (0x1058C, 0x10592, .shift 1 39),
  (0x10594, 0x10595, .shift 1 39), (0x10C80, 0x10CB2, .shift 1 64),
  (0x118A0, 0x118BF, .shift 1 32), (0x16E40, 0x16E5F, .shift 1 32),
  (0x1E900, 0x1E921, .shift 1 34)]

/-- The search tree over `foldingChanges`. -/
@[irreducible] def foldingMap : RangeMap CaseChange :=
  .ofList foldingChanges

/-- The folded spelling of a character. -/
def foldCase (c : Char) : List Char :=
  changeCase foldingMap c

end TermSearch.Unicode
