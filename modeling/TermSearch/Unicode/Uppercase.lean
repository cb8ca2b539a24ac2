import TermSearch.Unicode.CaseChange

/-!
# Uppercase

The full uppercase mapping of Unicode 14.0, without conditions on language or context:
one character may become several (`ß` becomes `SS`).
-/

namespace TermSearch.Unicode

/-- The characters that change when they are put into upper case. -/
def uppercaseChanges : List (Nat × Nat × CaseChange) := [
  (0x61, 0x7A, .shift 1 (-32)), (0xB5, 0xB5, .shift 1 743), (0xDF, 0xDF, .spell [0x53, 0x53]),
  (0xE0, 0xF6, .shift 1 (-32)), (0xF8, 0xFE, .shift 1 (-32)), (0xFF, 0xFF, .shift 1 121),
  (0x101, 0x12F, .shift 2 (-1)), (0x131, 0x131, .shift 1 (-232)), (0x133, 0x137, .shift 2 (-1)),
  (0x13A, 0x148, .shift 2 (-1)), (0x149, 0x149, .spell [0x2BC, 0x4E]),
  (0x14B, 0x177, .shift 2 (-1)), (0x17A, 0x17E, .shift 2 (-1)), (0x17F, 0x17F, .shift 1 (-300)),
  (0x180, 0x180, .shift 1 195), (0x183, 0x185, .shift 2 (-1)), (0x188, 0x188, .shift 1 (-1)),
  (0x18C, 0x18C, .shift 1 (-1)), (0x192, 0x192, .shift 1 (-1)), (0x195, 0x195, .shift 1 97),
  (0x199, 0x199, .shift 1 (-1)), (0x19A, 0x19A, .shift 1 163), (0x19E, 0x19E, .shift 1 130),
  (0x1A1, 0x1A5, .shift 2 (-1)), (0x1A8, 0x1A8, .shift 1 (-1)), (0x1AD, 0x1AD, .shift 1 (-1)),
  (0x1B0, 0x1B0, .shift 1 (-1)), (0x1B4, 0x1B6, .shift 2 (-1)), (0x1B9, 0x1B9, .shift 1 (-1)),
  (0x1BD, 0x1BD, .shift 1 (-1)), (0x1BF, 0x1BF, .shift 1 56), (0x1C5, 0x1C5, .shift 1 (-1)),
  (0x1C6, 0x1C6, .shift 1 (-2)), (0x1C8, 0x1C8, .shift 1 (-1)), (0x1C9, 0x1C9, .shift 1 (-2)),
  (0x1CB, 0x1CB, .shift 1 (-1)), (0x1CC, 0x1CC, .shift 1 (-2)), (0x1CE, 0x1DC, .shift 2 (-1)),
  (0x1DD, 0x1DD, .shift 1 (-79)), (0x1DF, 0x1EF, .shift 2 (-1)),
  (0x1F0, 0x1F0, .spell [0x4A, 0x30C]), (0x1F2, 0x1F2, .shift 1 (-1)),
  (0x1F3, 0x1F3, .shift 1 (-2)), (0x1F5, 0x1F5, .shift 1 (-1)), (0x1F9, 0x21F, .shift 2 (-1)),
  (0x223, 0x233, .shift 2 (-1)), (0x23C, 0x23C, .shift 1 (-1)), (0x23F, 0x240, .shift 1 10815),
  (0x242, 0x242, .shift 1 (-1)), (0x247, 0x24F, .shift 2 (-1)), (0x250, 0x250, .shift 1 10783),
  (0x251, 0x251, .shift 1 10780), (0x252, 0x252, .shift 1 10782),
  (0x253, 0x253, .shift 1 (-210)), (0x254, 0x254, .shift 1 (-206)),
  (0x256, 0x257, .shift 1 (-205)), (0x259, 0x259, .shift 1 (-202)),
  (0x25B, 0x25B, .shift 1 (-203)), (0x25C, 0x25C, .shift 1 42319),
  (0x260, 0x260, .shift 1 (-205)), (0x261, 0x261, .shift 1 42315),
  (0x263, 0x263, .shift 1 (-207)), (0x265, 0x265, .shift 1 42280),
  (0x266, 0x266, .shift 1 42308), (0x268, 0x268, .shift 1 (-209)),
  (0x269, 0x269, .shift 1 (-211)), (0x26A, 0x26A, .shift 1 42308),
  (0x26B, 0x26B, .shift 1 10743), (0x26C, 0x26C, .shift 1 42305),
  (0x26F, 0x26F, .shift 1 (-211)), (0x271, 0x271, .shift 1 10749),
  (0x272, 0x272, .shift 1 (-213)), (0x275, 0x275, .shift 1 (-214)),
  (0x27D, 0x27D, .shift 1 10727), (0x280, 0x280, .shift 1 (-218)),
  (0x282, 0x282, .shift 1 42307), (0x283, 0x283, .shift 1 (-218)),
  (0x287, 0x287, .shift 1 42282), (0x288, 0x288, .shift 1 (-218)),
  (0x289, 0x289, .shift 1 (-69)), (0x28A, 0x28B, .shift 1 (-217)),
  (0x28C, 0x28C, .shift 1 (-71)), (0x292, 0x292, .shift 1 (-219)),
  (0x29D, 0x29D, .shift 1 42261), (0x29E, 0x29E, .shift 1 42258), (0x345, 0x345, .shift 1 84),
  (0x371, 0x373, .shift 2 (-1)), (0x377, 0x377, .shift 1 (-1)), (0x37B, 0x37D, .shift 1 130),
  (0x390, 0x390, .spell [0x399, 0x308, 0x301]), (0x3AC, 0x3AC, .shift 1 (-38)),
  (0x3AD, 0x3AF, .shift 1 (-37)), (0x3B0, 0x3B0, .spell [0x3A5, 0x308, 0x301]),
  (0x3B1, 0x3C1, .shift 1 (-32)), (0x3C2, 0x3C2, .shift 1 (-31)), (0x3C3, 0x3CB, .shift 1 (-32)),
  (0x3CC, 0x3CC, .shift 1 (-64)), (0x3CD, 0x3CE, .shift 1 (-63)), (0x3D0, 0x3D0, .shift 1 (-62)),
  (0x3D1, 0x3D1, .shift 1 (-57)), (0x3D5, 0x3D5, .shift 1 (-47)), (0x3D6, 0x3D6, .shift 1 (-54)),
  (0x3D7, 0x3D7, .shift 1 (-8)), (0x3D9, 0x3EF, .shift 2 (-1)), (0x3F0, 0x3F0, .shift 1 (-86)),
  (0x3F1, 0x3F1, .shift 1 (-80)), (0x3F2, 0x3F2, .shift 1 7), (0x3F3, 0x3F3, .shift 1 (-116)),
  (0x3F5, 0x3F5, .shift 1 (-96)), (0x3F8, 0x3F8, .shift 1 (-1)), (0x3FB, 0x3FB, .shift 1 (-1)),
  (0x430, 0x44F, .shift 1 (-32)), (0x450, 0x45F, .shift 1 (-80)), (0x461, 0x481, .shift 2 (-1)),
  (0x48B, 0x4BF, .shift 2 (-1)), (0x4C2, 0x4CE, .shift 2 (-1)), (0x4CF, 0x4CF, .shift 1 (-15)),
  (0x4D1, 0x52F, .shift 2 (-1)), (0x561, 0x586, .shift 1 (-48)),
  (0x587, 0x587, .spell [0x535, 0x552]), (0x10D0, 0x10FA, .shift 1 3008),
  (0x10FD, 0x10FF, .shift 1 3008), (0x13F8, 0x13FD, .shift 1 (-8)),
  (0x1C80, 0x1C80, .shift 1 (-6254)), (0x1C81, 0x1C81, .shift 1 (-6253)),
  (0x1C82, 0x1C82, .shift 1 (-6244)), (0x1C83, 0x1C84, .shift 1 (-6242)),
  (0x1C85, 0x1C85, .shift 1 (-6243)), (0x1C86, 0x1C86, .shift 1 (-6236)),
  (0x1C87, 0x1C87, .shift 1 (-6181)), (0x1C88, 0x1C88, .shift 1 35266),
  (0x1D79, 0x1D79, .shift 1 35332), (0x1D7D, 0x1D7D, .shift 1 3814),
  (0x1D8E, 0x1D8E, .shift 1 35384), (0x1E01, 0x1E95, .shift 2 (-1)),
  (0x1E96, 0x1E96, .spell [0x48, 0x331]), (0x1E97, 0x1E97, .spell [0x54, 0x308]),
  (0x1E98, 0x1E98, .spell [0x57, 0x30A]), (0x1E99, 0x1E99, .spell [0x59, 0x30A]),
  (0x1E9A, 0x1E9A, .spell [0x41, 0x2BE]), (0x1E9B, 0x1E9B, .shift 1 (-59)),
  (0x1EA1, 0x1EFF, .shift 2 (-1)), (0x1F00, 0x1F07, .shift 1 8), (0x1F10, 0x1F15, .shift 1 8),
  (0x1F20, 0x1F27, .shift 1 8), (0x1F30, 0x1F37, .shift 1 8), (0x1F40, 0x1F45, .shift 1 8),
  (0x1F50, 0x1F50, .spell [0x3A5, 0x313]), (0x1F51, 0x1F51, .shift 1 8),
  (0x1F52, 0x1F52, .spell [0x3A5, 0x313, 0x300]), (0x1F53, 0x1F53, .shift 1 8),
  (0x1F54, 0x1F54, .spell [0x3A5, 0x313, 0x301]), (0x1F55, 0x1F55, .shift 1 8),
  (0x1F56, 0x1F56, .spell [0x3A5, 0x313, 0x342]), (0x1F57, 0x1F57, .shift 1 8),
  (0x1F60, 0x1F67, .shift 1 8), (0x1F70, 0x1F71, .shift 1 74), (0x1F72, 0x1F75, .shift 1 86),
  (0x1F76, 0x1F77, .shift 1 100), (0x1F78, 0x1F79, .shift 1 128), (0x1F7A, 0x1F7B, .shift 1 112),
  (0x1F7C, 0x1F7D, .shift 1 126), (0x1F80, 0x1F80, .spell [0x1F08, 0x399]),
  (0x1F81, 0x1F81, .spell [0x1F09, 0x399]), (0x1F82, 0x1F82, .spell [0x1F0A, 0x399]),
  (0x1F83, 0x1F83, .spell [0x1F0B, 0x399]), (0x1F84, 0x1F84, .spell [0x1F0C, 0x399]),
  (0x1F85, 0x1F85, .spell [0x1F0D, 0x399]), (0x1F86, 0x1F86, .spell [0x1F0E, 0x399]),
  (0x1F87, 0x1F87, .spell [0x1F0F, 0x399]), (0x1F88, 0x1F88, .spell [0x1F08, 0x399]),
  (0x1F89, 0x1F89, .spell [0x1F09, 0x399]), (0x1F8A, 0x1F8A, .spell [0x1F0A, 0x399]),
  (0x1F8B, 0x1F8B, .spell [0x1F0B, 0x399]), (0x1F8C, 0x1F8C, .spell [0x1F0C, 0x399]),
  (0x1F8D, 0x1F8D, .spell [0x1F0D, 0x399]), (0x1F8E, 0x1F8E, .spell [0x1F0E, 0x399]),
  (0x1F8F, 0x1F8F, .spell [0x1F0F, 0x399]), (0x1F90, 0x1F90, .spell [0x1F28, 0x399]),
  (0x1F91, 0x1F91, .spell [0x1F29, 0x399]), (0x1F92, 0x1F92, .spell [0x1F2A, 0x399]),
  (0x1F93, 0x1F93, .spell [0x1F2B, 0x399]), (0x1F94, 0x1F94, .spell [0x1F2C, 0x399]),
  (0x1F95, 0x1F95, .spell [0x1F2D, 0x399]), (0x1F96, 0x1F96, .spell [0x1F2E, 0x399]),
  (0x1F97, 0x1F97, .spell [0x1F2F, 0x399]), (0x1F98, 0x1F98, .spell [0x1F28, 0x399]),
  (0x1F99, 0x1F99, .spell [0x1F29, 0x399]), (0x1F9A, 0x1F9A, .spell [0x1F2A, 0x399]),
  (0x1F9B, 0x1F9B, .spell [0x1F2B, 0x399]), (0x1F9C, 0x1F9C, .spell [0x1F2C, 0x399]),
  (0x1F9D, 0x1F9D, .spell [0x1F2D, 0x399]), (0x1F9E, 0x1F9E, .spell [0x1F2E, 0x399]),
  (0x1F9F, 0x1F9F, .spell [0x1F2F, 0x399]), (0x1FA0, 0x1FA0, .spell [0x1F68, 0x399]),
  (0x1FA1, 0x1FA1, .spell [0x1F69, 0x399]), (0x1FA2, 0x1FA2, .spell [0x1F6A, 0x399]),
  (0x1FA3, 0x1FA3, .spell [0x1F6B, 0x399]), (0x1FA4, 0x1FA4, .spell [0x1F6C, 0x399]),
  (0x1FA5, 0x1FA5, .spell [0x1F6D, 0x399]), (0x1FA6, 0x1FA6, .spell [0x1F6E, 0x399]),
  (0x1FA7, 0x1FA7, .spell [0x1F6F, 0x399]), (0x1FA8, 0x1FA8, .spell [0x1F68, 0x399]),
  (0x1FA9, 0x1FA9, .spell [0x1F69, 0x399]), (0x1FAA, 0x1FAA, .spell [0x1F6A, 0x399]),
  (0x1FAB, 0x1FAB, .spell [0x1F6B, 0x399]), (0x1FAC, 0x1FAC, .spell [0x1F6C, 0x399]),
  (0x1FAD, 0x1FAD, .spell [0x1F6D, 0x399]), (0x1FAE, 0x1FAE, .spell [0x1F6E, 0x399]),
  (0x1FAF, 0x1FAF, .spell [0x1F6F, 0x399]), (0x1FB0, 0x1FB1, .shift 1 8),
  (0x1FB2, 0x1FB2, .spell [0x1FBA, 0x399]), (0x1FB3, 0x1FB3, .spell [0x391, 0x399]),
  (0x1FB4, 0x1FB4, .spell [0x386, 0x399]), (0x1FB6, 0x1FB6, .spell [0x391, 0x342]),
  (0x1FB7, 0x1FB7, .spell [0x391, 0x342, 0x399]), (0x1FBC, 0x1FBC, .spell [0x391, 0x399]),
  (0x1FBE, 0x1FBE, .shift 1 (-7205)), (0x1FC2, 0x1FC2, .spell [0x1FCA, 0x399]),
  (0x1FC3, 0x1FC3, .spell [0x397, 0x399]), (0x1FC4, 0x1FC4, .spell [0x389, 0x399]),
  (0x1FC6, 0x1FC6, .spell [0x397, 0x342]), (0x1FC7, 0x1FC7, .spell [0x397, 0x342, 0x399]),
  (0x1FCC, 0x1FCC, .spell [0x397, 0x399]), (0x1FD0, 0x1FD1, .shift 1 8),
  (0x1FD2, 0x1FD2, .spell [0x399, 0x308, 0x300]), (0x1FD3, 0x1FD3, .spell [0x399, 0x308, 0x301]),
  (0x1FD6, 0x1FD6, .spell [0x399, 0x342]), (0x1FD7, 0x1FD7, .spell [0x399, 0x308, 0x342]),
  (0x1FE0, 0x1FE1, .shift 1 8), (0x1FE2, 0x1FE2, .spell [0x3A5, 0x308, 0x300]),
  (0x1FE3, 0x1FE3, .spell [0x3A5, 0x308, 0x301]), (0x1FE4, 0x1FE4, .spell [0x3A1, 0x313]),
  (0x1FE5, 0x1FE5, .shift 1 7), (0x1FE6, 0x1FE6, .spell [0x3A5, 0x342]),
  (0x1FE7, 0x1FE7, .spell [0x3A5, 0x308, 0x342]), (0x1FF2, 0x1FF2, .spell [0x1FFA, 0x399]),
  (0x1FF3, 0x1FF3, .spell [0x3A9, 0x399]), (0x1FF4, 0x1FF4, .spell [0x38F, 0x399]),
  (0x1FF6, 0x1FF6, .spell [0x3A9, 0x342]), (0x1FF7, 0x1FF7, .spell [0x3A9, 0x342, 0x399]),
  (0x1FFC, 0x1FFC, .spell [0x3A9, 0x399]), (0x214E, 0x214E, .shift 1 (-28)),
  (0x2170, 0x217F, .shift 1 (-16)), (0x2184, 0x2184, .shift 1 (-1)),
  (0x24D0, 0x24E9, .shift 1 (-26)), (0x2C30, 0x2C5F, .shift 1 (-48)),
  (0x2C61, 0x2C61, .shift 1 (-1)), (0x2C65, 0x2C65, .shift 1 (-10795)),
  (0x2C66, 0x2C66, .shift 1 (-10792)), (0x2C68, 0x2C6C, .shift 2 (-1)),
  (0x2C73, 0x2C73, .shift 1 (-1)), (0x2C76, 0x2C76, .shift 1 (-1)),
  (0x2C81, 0x2CE3, .shift 2 (-1)), (0x2CEC, 0x2CEE, .shift 2 (-1)),
  (0x2CF3, 0x2CF3, .shift 1 (-1)), (0x2D00, 0x2D25, .shift 1 (-7264)),
  (0x2D27, 0x2D27, .shift 1 (-7264)), (0x2D2D, 0x2D2D, .shift 1 (-7264)),
  (0xA641, 0xA66D, .shift 2 (-1)), (0xA681, 0xA69B, .shift 2 (-1)),
  (0xA723, 0xA72F, .shift 2 (-1)), (0xA733, 0xA76F, .shift 2 (-1)),
  (0xA77A, 0xA77C, .shift 2 (-1)), (0xA77F, 0xA787, .shift 2 (-1)),
  (0xA78C, 0xA78C, .shift 1 (-1)), (0xA791, 0xA793, .shift 2 (-1)),
  (0xA794, 0xA794, .shift 1 48), (0xA797, 0xA7A9, .shift 2 (-1)),
  (0xA7B5, 0xA7C3, .shift 2 (-1)), (0xA7C8, 0xA7CA, .shift 2 (-1)),
  (0xA7D1, 0xA7D1, .shift 1 (-1)), (0xA7D7, 0xA7D9, .shift 2 (-1)),
  (0xA7F6, 0xA7F6, .shift 1 (-1)), (0xAB53, 0xAB53, .shift 1 (-928)),
  (0xAB70, 0xABBF, .shift 1 (-38864)), (0xFB00, 0xFB00, .spell [0x46, 0x46]),
  (0xFB01, 0xFB01, .spell [0x46, 0x49]), (0xFB02, 0xFB02, .spell [0x46, 0x4C]),
  (0xFB03, 0xFB03, .spell [0x46, 0x46, 0x49]), (0xFB04, 0xFB04, .spell [0x46, 0x46, 0x4C]),
  (0xFB05, 0xFB05, .spell [0x53, 0x54]), (0xFB06, 0xFB06, .spell [0x53, 0x54]),
  (0xFB13, 0xFB13, .spell [0x544, 0x546]), (0xFB14, 0xFB14, .spell [0x544, 0x535]),
  (0xFB15, 0xFB15, .spell [0x544, 0x53B]), (0xFB16, 0xFB16, .spell [0x54E, 0x546]),
  (0xFB17, 0xFB17, .spell [0x544, 0x53D]), (0xFF41, 0xFF5A, .shift 1 (-32)),
  (0x10428, 0x1044F, .shift 1 (-40)), (0x104D8, 0x104FB, .shift 1 (-40)),
  (0x10597, 0x105A1, .shift 1 (-39)), (0x105A3, 0x105B1, .shift 1 (-39)),
  (0x105B3, 0x105B9, .shift 1 (-39)), (0x105BB, 0x105BC, .shift 1 (-39)),
  (0x10CC0, 0x10CF2, .shift 1 (-64)), (0x118C0, 0x118DF, .shift 1 (-32)),
  (0x16E60, 0x16E7F, .shift 1 (-32)), (0x1E922, 0x1E943, .shift 1 (-34))]

/-- The search tree over `uppercaseChanges`. -/
@[irreducible] def uppercaseMap : RangeMap CaseChange :=
  .ofList uppercaseChanges

/-- The upper-case spelling of a character. -/
def uppercase (c : Char) : List Char :=
  changeCase uppercaseMap c

end TermSearch.Unicode
