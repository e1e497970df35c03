/-!
# Data of the normalization of identifiers

Data of Unicode 14 for the characters that may stand in an identifier: the combining classes of
marks, the full compatibility decompositions, and the pairs that compose to one character. Hangul
syllables are not listed, since they follow a rule (see `OwnerBinding.Text.decompose`). The words in a
text are separated by spaces.
-/

namespace OwnerBinding

namespace Text

/-- The combining classes apart from zero, each with the closed ranges of its characters. -/
def combiningClasses : List (Nat × List (Nat × Nat)) := [
  (1, [
    (0x334, 0x338), (0x1CD4, 0x1CD4), (0x1CE2, 0x1CE8), (0x20D2, 0x20D3), (0x20D8, 0x20DA),
    (0x20E5, 0x20E6), (0x20EA, 0x20EB), (0x10A39, 0x10A39), (0x16AF0, 0x16AF4),
    (0x1BC9E, 0x1BC9E), (0x1D167, 0x1D169)]),
  (6, [(0x16FF0, 0x16FF1)]),
  (7, [
    (0x93C, 0x93C), (0x9BC, 0x9BC), (0xA3C, 0xA3C), (0xABC, 0xABC), (0xB3C, 0xB3C),
    (0xC3C, 0xC3C), (0xCBC, 0xCBC), (0x1037, 0x1037), (0x1B34, 0x1B34), (0x1BE6, 0x1BE6),
    (0x1C37, 0x1C37), (0xA9B3, 0xA9B3), (0x110BA, 0x110BA), (0x11173, 0x11173),
    (0x111CA, 0x111CA), (0x11236, 0x11236), (0x112E9, 0x112E9), (0x1133B, 0x1133C),
    (0x11446, 0x11446), (0x114C3, 0x114C3), (0x115C0, 0x115C0), (0x116B7, 0x116B7),
    (0x1183A, 0x1183A), (0x11943, 0x11943), (0x11D42, 0x11D42), (0x1E94A, 0x1E94A)]),
  (8, [(0x3099, 0x309A)]),
  (9, [
    (0x94D, 0x94D), (0x9CD, 0x9CD), (0xA4D, 0xA4D), (0xACD, 0xACD), (0xB4D, 0xB4D),
    (0xBCD, 0xBCD), (0xC4D, 0xC4D), (0xCCD, 0xCCD), (0xD3B, 0xD3C), (0xD4D, 0xD4D),
    (0xDCA, 0xDCA), (0xE3A, 0xE3A), (0xEBA, 0xEBA), (0xF84, 0xF84), (0x1039, 0x103A),
    (0x1714, 0x1715), (0x1734, 0x1734), (0x17D2, 0x17D2), (0x1A60, 0x1A60), (0x1B44, 0x1B44),
    (0x1BAA, 0x1BAB), (0x1BF2, 0x1BF3), (0x2D7F, 0x2D7F), (0xA806, 0xA806), (0xA82C, 0xA82C),
    (0xA8C4, 0xA8C4), (0xA953, 0xA953), (0xA9C0, 0xA9C0), (0xAAF6, 0xAAF6), (0xABED, 0xABED),
    (0x10A3F, 0x10A3F), (0x11046, 0x11046), (0x11070, 0x11070), (0x1107F, 0x1107F),
    (0x110B9, 0x110B9), (0x11133, 0x11134), (0x111C0, 0x111C0), (0x11235, 0x11235),
    (0x112EA, 0x112EA), (0x1134D, 0x1134D), (0x11442, 0x11442), (0x114C2, 0x114C2),
    (0x115BF, 0x115BF), (0x1163F, 0x1163F), (0x116B6, 0x116B6), (0x1172B, 0x1172B),
    (0x11839, 0x11839), (0x1193D, 0x1193E), (0x119E0, 0x119E0), (0x11A34, 0x11A34),
    (0x11A47, 0x11A47), (0x11A99, 0x11A99), (0x11C3F, 0x11C3F), (0x11D44, 0x11D45),
    (0x11D97, 0x11D97)]),
  (10, [(0x5B0, 0x5B0)]),
  (11, [(0x5B1, 0x5B1)]),
  (12, [(0x5B2, 0x5B2)]),
  (13, [(0x5B3, 0x5B3)]),
  (14, [(0x5B4, 0x5B4)]),
  (15, [(0x5B5, 0x5B5)]),
  (16, [(0x5B6, 0x5B6)]),
  (17, [(0x5B7, 0x5B7)]),
  (18, [(0x5B8, 0x5B8), (0x5C7, 0x5C7)]),
  (19, [(0x5B9, 0x5BA)]),
  (20, [(0x5BB, 0x5BB)]),
  (21, [(0x5BC, 0x5BC)]),
  (22, [(0x5BD, 0x5BD)]),
  (23, [(0x5BF, 0x5BF)]),
  (24, [(0x5C1, 0x5C1)]),
  (25, [(0x5C2, 0x5C2)]),
  (26, [(0xFB1E, 0xFB1E)]),
  (27, [(0x64B, 0x64B), (0x8F0, 0x8F0)]),
  (28, [(0x64C, 0x64C), (0x8F1, 0x8F1)]),
  (29, [(0x64D, 0x64D), (0x8F2, 0x8F2)]),
  (30, [(0x618, 0x618), (0x64E, 0x64E)]),
  (31, [(0x619, 0x619), (0x64F, 0x64F)]),
  (32, [(0x61A, 0x61A), (0x650, 0x650)]),
  (33, [(0x651, 0x651)]),
  (34, [(0x652, 0x652)]),
  (35, [(0x670, 0x670)]),
  (36, [(0x711, 0x711)]),
  (84, [(0xC55, 0xC55)]),
  (91, [(0xC56, 0xC56)]),
  (103, [(0xE38, 0xE39)]),
  (107, [(0xE48, 0xE4B)]),
  (118, [(0xEB8, 0xEB9)]),
  (122, [(0xEC8, 0xECB)]),
  (129, [(0xF71, 0xF71)]),
  (130, [(0xF72, 0xF72), (0xF7A, 0xF7D), (0xF80, 0xF80)]),
  (132, [(0xF74, 0xF74)]),
  (202, [(0x321, 0x322), (0x327, 0x328), (0x1DD0, 0x1DD0)]),
  (214, [(0x1DCE, 0x1DCE)]),
  (216, [(0x31B, 0x31B), (0xF39, 0xF39), (0x1D165, 0x1D166), (0x1D16E, 0x1D172)]),
  (218, [(0x1DFA, 0x1DFA), (0x302A, 0x302A)]),
  (220, [
    (0x316, 0x319), (0x31C, 0x320), (0x323, 0x326), (0x329, 0x333), (0x339, 0x33C),
    (0x347, 0x349), (0x34D, 0x34E), (0x353, 0x356), (0x359, 0x35A), (0x591, 0x591),
    (0x596, 0x596), (0x59B, 0x59B), (0x5A2, 0x5A7), (0x5AA, 0x5AA), (0x5C5, 0x5C5),
    (0x655, 0x656), (0x65C, 0x65C), (0x65F, 0x65F), (0x6E3, 0x6E3), (0x6EA, 0x6EA),
    (0x6ED, 0x6ED), (0x731, 0x731), (0x734, 0x734), (0x737, 0x739), (0x73B, 0x73C),
    (0x73E, 0x73E), (0x742, 0x742), (0x744, 0x744), (0x746, 0x746), (0x748, 0x748),
    (0x7F2, 0x7F2), (0x7FD, 0x7FD), (0x859, 0x85B), (0x899, 0x89B), (0x8CF, 0x8D3),
    (0x8E3, 0x8E3), (0x8E6, 0x8E6), (0x8E9, 0x8E9), (0x8ED, 0x8EF), (0x8F6, 0x8F6),
    (0x8F9, 0x8FA), (0x952, 0x952), (0xF18, 0xF19), (0xF35, 0xF35), (0xF37, 0xF37),
    (0xFC6, 0xFC6), (0x108D, 0x108D), (0x193B, 0x193B), (0x1A18, 0x1A18), (0x1A7F, 0x1A7F),
    (0x1AB5, 0x1ABA), (0x1ABD, 0x1ABD), (0x1ABF, 0x1AC0), (0x1AC3, 0x1AC4), (0x1ACA, 0x1ACA),
    (0x1B6C, 0x1B6C), (0x1CD5, 0x1CD9), (0x1CDC, 0x1CDF), (0x1CED, 0x1CED), (0x1DC2, 0x1DC2),
    (0x1DCA, 0x1DCA), (0x1DCF, 0x1DCF), (0x1DF9, 0x1DF9), (0x1DFD, 0x1DFD), (0x1DFF, 0x1DFF),
    (0x20E8, 0x20E8), (0x20EC, 0x20EF), (0xA92B, 0xA92D), (0xAAB4, 0xAAB4), (0xFE27, 0xFE2D),
    (0x101FD, 0x101FD), (0x102E0, 0x102E0), (0x10A0D, 0x10A0D), (0x10A3A, 0x10A3A),
    (0x10AE6, 0x10AE6), (0x10F46, 0x10F47), (0x10F4B, 0x10F4B), (0x10F4D, 0x10F50),
    (0x10F83, 0x10F83), (0x10F85, 0x10F85), (0x1D17B, 0x1D182), (0x1D18A, 0x1D18B),
    (0x1E8D0, 0x1E8D6)]),
  (222, [(0x59A, 0x59A), (0x5AD, 0x5AD), (0x1939, 0x1939), (0x302D, 0x302D)]),
  (224, [(0x302E, 0x302F)]),
  (226, [(0x1D16D, 0x1D16D)]),
  (228, [(0x5AE, 0x5AE), (0x18A9, 0x18A9), (0x1DF7, 0x1DF8), (0x302B, 0x302B)]),
  (230, [
    (0x300, 0x314), (0x33D, 0x344), (0x346, 0x346), (0x34A, 0x34C), (0x350, 0x352),
    (0x357, 0x357), (0x35B, 0x35B), (0x363, 0x36F), (0x483, 0x487), (0x592, 0x595),
    (0x597, 0x599), (0x59C, 0x5A1), (0x5A8, 0x5A9), (0x5AB, 0x5AC), (0x5AF, 0x5AF),
    (0x5C4, 0x5C4), (0x610, 0x617), (0x653, 0x654), (0x657, 0x65B), (0x65D, 0x65E),
    (0x6D6, 0x6DC), (0x6DF, 0x6E2), (0x6E4, 0x6E4), (0x6E7, 0x6E8), (0x6EB, 0x6EC),
    (0x730, 0x730), (0x732, 0x733), (0x735, 0x736), (0x73A, 0x73A), (0x73D, 0x73D),
    (0x73F, 0x741), (0x743, 0x743), (0x745, 0x745), (0x747, 0x747), (0x749, 0x74A),
    (0x7EB, 0x7F1), (0x7F3, 0x7F3), (0x816, 0x819), (0x81B, 0x823), (0x825, 0x827),
    (0x829, 0x82D), (0x898, 0x898), (0x89C, 0x89F), (0x8CA, 0x8CE), (0x8D4, 0x8E1),
    (0x8E4, 0x8E5), (0x8E7, 0x8E8), (0x8EA, 0x8EC), (0x8F3, 0x8F5), (0x8F7, 0x8F8),
    (0x8FB, 0x8FF), (0x951, 0x951), (0x953, 0x954), (0x9FE, 0x9FE), (0xF82, 0xF83),
    (0xF86, 0xF87), (0x135D, 0x135F), (0x17DD, 0x17DD), (0x193A, 0x193A), (0x1A17, 0x1A17),
    (0x1A75, 0x1A7C), (0x1AB0, 0x1AB4), (0x1ABB, 0x1ABC), (0x1AC1, 0x1AC2), (0x1AC5, 0x1AC9),
    (0x1ACB, 0x1ACE), (0x1B6B, 0x1B6B), (0x1B6D, 0x1B73), (0x1CD0, 0x1CD2), (0x1CDA, 0x1CDB),
    (0x1CE0, 0x1CE0), (0x1CF4, 0x1CF4), (0x1CF8, 0x1CF9), (0x1DC0, 0x1DC1), (0x1DC3, 0x1DC9),
    (0x1DCB, 0x1DCC), (0x1DD1, 0x1DF5), (0x1DFB, 0x1DFB), (0x1DFE, 0x1DFE), (0x20D0, 0x20D1),
    (0x20D4, 0x20D7), (0x20DB, 0x20DC), (0x20E1, 0x20E1), (0x20E7, 0x20E7), (0x20E9, 0x20E9),
    (0x20F0, 0x20F0), (0x2CEF, 0x2CF1), (0x2DE0, 0x2DFF), (0xA66F, 0xA66F), (0xA674, 0xA67D),
    (0xA69E, 0xA69F), (0xA6F0, 0xA6F1), (0xA8E0, 0xA8F1), (0xAAB0, 0xAAB0), (0xAAB2, 0xAAB3),
    (0xAAB7, 0xAAB8), (0xAABE, 0xAABF), (0xAAC1, 0xAAC1), (0xFE20, 0xFE26), (0xFE2E, 0xFE2F),
    (0x10376, 0x1037A), (0x10A0F, 0x10A0F), (0x10A38, 0x10A38), (0x10AE5, 0x10AE5),
    (0x10D24, 0x10D27), (0x10EAB, 0x10EAC), (0x10F48, 0x10F4A), (0x10F4C, 0x10F4C),
    (0x10F82, 0x10F82), (0x10F84, 0x10F84), (0x11100, 0x11102), (0x11366, 0x1136C),
    (0x11370, 0x11374), (0x1145E, 0x1145E), (0x16B30, 0x16B36), (0x1D185, 0x1D189),
    (0x1D1AA, 0x1D1AD), (0x1D242, 0x1D244), (0x1E000, 0x1E006), (0x1E008, 0x1E018),
    (0x1E01B, 0x1E021), (0x1E023, 0x1E024), (0x1E026, 0x1E02A), (0x1E130, 0x1E136),
    (0x1E2AE, 0x1E2AE), (0x1E2EC, 0x1E2EF), (0x1E944, 0x1E949)]),
  (232, [(0x315, 0x315), (0x31A, 0x31A), (0x358, 0x358), (0x1DF6, 0x1DF6), (0x302C, 0x302C)]),
  (233, [(0x35C, 0x35C), (0x35F, 0x35F), (0x362, 0x362), (0x1DFC, 0x1DFC)]),
  (234, [(0x35D, 0x35E), (0x360, 0x361), (0x1DCD, 0x1DCD)]),
  (240, [(0x345, 0x345)])]

/-- The full decompositions of the characters in closed ranges, one word for each character. -/
def decompositions : List (Nat × Nat × String) := [
  (0xAA, 0xAA, "a"), (0xB5, 0xB5, "μ"), (0xBA, 0xBA, "o"),
  (0xC0, 0xC5, "A\u0300 A\u0301 A\u0302 A\u0303 A\u0308 A\u030a"),
  (0xC7, 0xCF, "C\u0327 E\u0300 E\u0301 E\u0302 E\u0308 I\u0300 I\u0301 I\u0302 I\u0308"),
  (0xD1, 0xD6, "N\u0303 O\u0300 O\u0301 O\u0302 O\u0303 O\u0308"),
  (0xD9, 0xDD, "U\u0300 U\u0301 U\u0302 U\u0308 Y\u0301"),
  (0xE0, 0xE5, "a\u0300 a\u0301 a\u0302 a\u0303 a\u0308 a\u030a"),
  (0xE7, 0xEF, "c\u0327 e\u0300 e\u0301 e\u0302 e\u0308 i\u0300 i\u0301 i\u0302 i\u0308"),
  (0xF1, 0xF6, "n\u0303 o\u0300 o\u0301 o\u0302 o\u0303 o\u0308"),
  (0xF9, 0xFD, "u\u0300 u\u0301 u\u0302 u\u0308 y\u0301"),
  (0xFF, 0x108, "y\u0308 A\u0304 a\u0304 A\u0306 a\u0306 A\u0328 a\u0328 C\u0301 c\u0301 C\u0302"),
  (0x109, 0x10F, "c\u0302 C\u0307 c\u0307 C\u030c c\u030c D\u030c d\u030c"),
  (0x112, 0x11A, "E\u0304 e\u0304 E\u0306 e\u0306 E\u0307 e\u0307 E\u0328 e\u0328 E\u030c"),
  (0x11B, 0x123, "e\u030c G\u0302 g\u0302 G\u0306 g\u0306 G\u0307 g\u0307 G\u0327 g\u0327"),
  (0x124, 0x125, "H\u0302 h\u0302"),
  (0x128, 0x130, "I\u0303 i\u0303 I\u0304 i\u0304 I\u0306 i\u0306 I\u0328 i\u0328 I\u0307"),
  (0x132, 0x137, "IJ ij J\u0302 j\u0302 K\u0327 k\u0327"),
  (0x139, 0x140, "L\u0301 l\u0301 L\u0327 l\u0327 L\u030c l\u030c L· l·"),
  (0x143, 0x149, "N\u0301 n\u0301 N\u0327 n\u0327 N\u030c n\u030c ʼn"),
  (0x14C, 0x151, "O\u0304 o\u0304 O\u0306 o\u0306 O\u030b o\u030b"),
  (0x154, 0x15C, "R\u0301 r\u0301 R\u0327 r\u0327 R\u030c r\u030c S\u0301 s\u0301 S\u0302"),
  (0x15D, 0x165, "s\u0302 S\u0327 s\u0327 S\u030c s\u030c T\u0327 t\u0327 T\u030c t\u030c"),
  (0x168, 0x170, "U\u0303 u\u0303 U\u0304 u\u0304 U\u0306 u\u0306 U\u030a u\u030a U\u030b"),
  (0x171, 0x179, "u\u030b U\u0328 u\u0328 W\u0302 w\u0302 Y\u0302 y\u0302 Y\u0308 Z\u0301"),
  (0x17A, 0x17F, "z\u0301 Z\u0307 z\u0307 Z\u030c z\u030c s"), (0x1A0, 0x1A1, "O\u031b o\u031b"),
  (0x1AF, 0x1B0, "U\u031b u\u031b"),
  (0x1C4, 0x1D0, "DZ\u030c Dz\u030c dz\u030c LJ Lj lj NJ Nj nj A\u030c a\u030c I\u030c i\u030c"),
  (0x1D1, 0x1D7, "O\u030c o\u030c U\u030c u\u030c U\u0308\u0304 u\u0308\u0304 U\u0308\u0301"),
  (0x1D8, 0x1DC, "u\u0308\u0301 U\u0308\u030c u\u0308\u030c U\u0308\u0300 u\u0308\u0300"),
  (0x1DE, 0x1E3, "A\u0308\u0304 a\u0308\u0304 A\u0307\u0304 a\u0307\u0304 Æ\u0304 æ\u0304"),
  (0x1E6, 0x1ED, "G\u030c g\u030c K\u030c k\u030c O\u0328 o\u0328 O\u0328\u0304 o\u0328\u0304"),
  (0x1EE, 0x1F5, "Ʒ\u030c ʒ\u030c j\u030c DZ Dz dz G\u0301 g\u0301"),
  (0x1F8, 0x1FF, "N\u0300 n\u0300 A\u030a\u0301 a\u030a\u0301 Æ\u0301 æ\u0301 Ø\u0301 ø\u0301"),
  (0x200, 0x208, "A\u030f a\u030f A\u0311 a\u0311 E\u030f e\u030f E\u0311 e\u0311 I\u030f"),
  (0x209, 0x211, "i\u030f I\u0311 i\u0311 O\u030f o\u030f O\u0311 o\u0311 R\u030f r\u030f"),
  (0x212, 0x21A, "R\u0311 r\u0311 U\u030f u\u030f U\u0311 u\u0311 S\u0326 s\u0326 T\u0326"),
  (0x21B, 0x21B, "t\u0326"), (0x21E, 0x21F, "H\u030c h\u030c"),
  (0x226, 0x22C, "A\u0307 a\u0307 E\u0327 e\u0327 O\u0308\u0304 o\u0308\u0304 O\u0303\u0304"),
  (0x22D, 0x233, "o\u0303\u0304 O\u0307 o\u0307 O\u0307\u0304 o\u0307\u0304 Y\u0304 y\u0304"),
  (0x2B0, 0x2B8, "h ɦ j r ɹ ɻ ʁ w y"), (0x2E0, 0x2E4, "ɣ l s x ʕ"), (0x340, 0x341, "\u0300 \u0301"),
  (0x343, 0x344, "\u0313 \u0308\u0301"), (0x374, 0x374, "ʹ"),
  (0x386, 0x38A, "Α\u0301 · Ε\u0301 Η\u0301 Ι\u0301"), (0x38C, 0x38C, "Ο\u0301"),
  (0x38E, 0x390, "Υ\u0301 Ω\u0301 ι\u0308\u0301"),
  (0x3AA, 0x3B0, "Ι\u0308 Υ\u0308 α\u0301 ε\u0301 η\u0301 ι\u0301 υ\u0308\u0301"),
  (0x3CA, 0x3CE, "ι\u0308 υ\u0308 ο\u0301 υ\u0301 ω\u0301"),
  (0x3D0, 0x3D6, "β θ Υ Υ\u0301 Υ\u0308 φ π"), (0x3F0, 0x3F2, "κ ρ ς"), (0x3F4, 0x3F5, "Θ ε"),
  (0x3F9, 0x3F9, "Σ"), (0x400, 0x401, "Е\u0300 Е\u0308"), (0x403, 0x403, "Г\u0301"),
  (0x407, 0x407, "І\u0308"), (0x40C, 0x40E, "К\u0301 И\u0300 У\u0306"), (0x419, 0x419, "И\u0306"),
  (0x439, 0x439, "и\u0306"), (0x450, 0x451, "е\u0300 е\u0308"), (0x453, 0x453, "г\u0301"),
  (0x457, 0x457, "і\u0308"), (0x45C, 0x45E, "к\u0301 и\u0300 у\u0306"),
  (0x476, 0x477, "Ѵ\u030f ѵ\u030f"), (0x4C1, 0x4C2, "Ж\u0306 ж\u0306"),
  (0x4D0, 0x4D3, "А\u0306 а\u0306 А\u0308 а\u0308"), (0x4D6, 0x4D7, "Е\u0306 е\u0306"),
  (0x4DA, 0x4DF, "Ә\u0308 ә\u0308 Ж\u0308 ж\u0308 З\u0308 з\u0308"),
  (0x4E2, 0x4E7, "И\u0304 и\u0304 И\u0308 и\u0308 О\u0308 о\u0308"),
  (0x4EA, 0x4F2, "Ө\u0308 ө\u0308 Э\u0308 э\u0308 У\u0304 у\u0304 У\u0308 у\u0308 У\u030b"),
  (0x4F3, 0x4F5, "у\u030b Ч\u0308 ч\u0308"), (0x4F8, 0x4F9, "Ы\u0308 ы\u0308"),
  (0x587, 0x587, "եւ"), (0x622, 0x626, "ا\u0653 ا\u0654 و\u0654 ا\u0655 ي\u0654"),
  (0x675, 0x678, "اٴ وٴ ۇٴ يٴ"), (0x6C0, 0x6C0, "ە\u0654"), (0x6C2, 0x6C2, "ہ\u0654"),
  (0x6D3, 0x6D3, "ے\u0654"), (0x929, 0x929, "न\u093c"), (0x931, 0x931, "र\u093c"),
  (0x934, 0x934, "ळ\u093c"),
  (0x958, 0x95F, "क\u093c ख\u093c ग\u093c ज\u093c ड\u093c ढ\u093c फ\u093c य\u093c"),
  (0x9CB, 0x9CC, "\u09c7\u09be \u09c7\u09d7"), (0x9DC, 0x9DD, "ড\u09bc ঢ\u09bc"),
  (0x9DF, 0x9DF, "য\u09bc"), (0xA33, 0xA33, "ਲ\u0a3c"), (0xA36, 0xA36, "ਸ\u0a3c"),
  (0xA59, 0xA5B, "ਖ\u0a3c ਗ\u0a3c ਜ\u0a3c"), (0xA5E, 0xA5E, "ਫ\u0a3c"),
  (0xB48, 0xB48, "\u0b47\u0b56"), (0xB4B, 0xB4C, "\u0b47\u0b3e \u0b47\u0b57"),
  (0xB5C, 0xB5D, "ଡ\u0b3c ଢ\u0b3c"), (0xB94, 0xB94, "ஒ\u0bd7"),
  (0xBCA, 0xBCC, "\u0bc6\u0bbe \u0bc7\u0bbe \u0bc6\u0bd7"), (0xC48, 0xC48, "\u0c46\u0c56"),
  (0xCC0, 0xCC0, "\u0cbf\u0cd5"), (0xCC7, 0xCC8, "\u0cc6\u0cd5 \u0cc6\u0cd6"),
  (0xCCA, 0xCCB, "\u0cc6\u0cc2 \u0cc6\u0cc2\u0cd5"),
  (0xD4A, 0xD4C, "\u0d46\u0d3e \u0d47\u0d3e \u0d46\u0d57"), (0xDDA, 0xDDA, "\u0dd9\u0dca"),
  (0xDDC, 0xDDE, "\u0dd9\u0dcf \u0dd9\u0dcf\u0dca \u0dd9\u0ddf"), (0xE33, 0xE33, "\u0e4dา"),
  (0xEB3, 0xEB3, "\u0ecdາ"), (0xEDC, 0xEDD, "ຫນ ຫມ"), (0xF43, 0xF43, "ག\u0fb7"),
  (0xF4D, 0xF4D, "ཌ\u0fb7"), (0xF52, 0xF52, "ད\u0fb7"), (0xF57, 0xF57, "བ\u0fb7"),
  (0xF5C, 0xF5C, "ཛ\u0fb7"), (0xF69, 0xF69, "ཀ\u0fb5"), (0xF73, 0xF73, "\u0f71\u0f72"),
  (0xF75, 0xF79, "\u0f71\u0f74 \u0fb2\u0f80 \u0fb2\u0f71\u0f80 \u0fb3\u0f80 \u0fb3\u0f71\u0f80"),
  (0xF81, 0xF81, "\u0f71\u0f80"), (0xF93, 0xF93, "\u0f92\u0fb7"), (0xF9D, 0xF9D, "\u0f9c\u0fb7"),
  (0xFA2, 0xFA2, "\u0fa1\u0fb7"), (0xFA7, 0xFA7, "\u0fa6\u0fb7"), (0xFAC, 0xFAC, "\u0fab\u0fb7"),
  (0xFB9, 0xFB9, "\u0f90\u0fb5"), (0x1026, 0x1026, "ဥ\u102e"), (0x10FC, 0x10FC, "ნ"),
  (0x1B06, 0x1B06, "ᬅ\u1b35"), (0x1B08, 0x1B08, "ᬇ\u1b35"), (0x1B0A, 0x1B0A, "ᬉ\u1b35"),
  (0x1B0C, 0x1B0C, "ᬋ\u1b35"), (0x1B0E, 0x1B0E, "ᬍ\u1b35"), (0x1B12, 0x1B12, "ᬑ\u1b35"),
  (0x1B3B, 0x1B3B, "\u1b3a\u1b35"), (0x1B3D, 0x1B3D, "\u1b3c\u1b35"),
  (0x1B40, 0x1B41, "\u1b3e\u1b35 \u1b3f\u1b35"), (0x1B43, 0x1B43, "\u1b42\u1b35"),
  (0x1D2C, 0x1D2E, "A Æ B"), (0x1D30, 0x1D3A, "D E Ǝ G H I J K L M N"),
  (0x1D3C, 0x1D4D, "O Ȣ P R T U W a ɐ ɑ ᴂ b d e ə ɛ ɜ g"),
  (0x1D4F, 0x1D6A, "k m ŋ o ɔ ᴖ ᴗ p t u ᴝ ɯ v ᴥ β γ δ φ χ i r u v β γ ρ φ χ"),
  (0x1D78, 0x1D78, "н"),
  (0x1D9B, 0x1DBF, "ɒ c ɕ ð ɜ f ɟ ɡ ɥ ɨ ɩ ɪ ᵻ ʝ ɭ ᶅ ʟ ɱ ɰ ɲ ɳ ɴ ɵ ɸ ʂ ʃ ƫ ʉ ʊ ᴜ ʋ ʌ z ʐ ʑ ʒ θ"),
  (0x1E00, 0x1E07, "A\u0325 a\u0325 B\u0307 b\u0307 B\u0323 b\u0323 B\u0331 b\u0331"),
  (0x1E08, 0x1E0F, "C\u0327\u0301 c\u0327\u0301 D\u0307 d\u0307 D\u0323 d\u0323 D\u0331 d\u0331"),
  (0x1E10, 0x1E16, "D\u0327 d\u0327 D\u032d d\u032d E\u0304\u0300 e\u0304\u0300 E\u0304\u0301"),
  (0x1E17, 0x1E1D, "e\u0304\u0301 E\u032d e\u032d E\u0330 e\u0330 E\u0327\u0306 e\u0327\u0306"),
  (0x1E1E, 0x1E26, "F\u0307 f\u0307 G\u0304 g\u0304 H\u0307 h\u0307 H\u0323 h\u0323 H\u0308"),
  (0x1E27, 0x1E2E, "h\u0308 H\u0327 h\u0327 H\u032e h\u032e I\u0330 i\u0330 I\u0308\u0301"),
  (0x1E2F, 0x1E36, "i\u0308\u0301 K\u0301 k\u0301 K\u0323 k\u0323 K\u0331 k\u0331 L\u0323"),
  (0x1E37, 0x1E3E, "l\u0323 L\u0323\u0304 l\u0323\u0304 L\u0331 l\u0331 L\u032d l\u032d M\u0301"),
  (0x1E3F, 0x1E47, "m\u0301 M\u0307 m\u0307 M\u0323 m\u0323 N\u0307 n\u0307 N\u0323 n\u0323"),
  (0x1E48, 0x1E4E, "N\u0331 n\u0331 N\u032d n\u032d O\u0303\u0301 o\u0303\u0301 O\u0303\u0308"),
  (0x1E4F, 0x1E53, "o\u0303\u0308 O\u0304\u0300 o\u0304\u0300 O\u0304\u0301 o\u0304\u0301"),
  (0x1E54, 0x1E5B, "P\u0301 p\u0301 P\u0307 p\u0307 R\u0307 r\u0307 R\u0323 r\u0323"),
  (0x1E5C, 0x1E63, "R\u0323\u0304 r\u0323\u0304 R\u0331 r\u0331 S\u0307 s\u0307 S\u0323 s\u0323"),
  (0x1E64, 0x1E68, "S\u0301\u0307 s\u0301\u0307 S\u030c\u0307 s\u030c\u0307 S\u0323\u0307"),
  (0x1E69, 0x1E70, "s\u0323\u0307 T\u0307 t\u0307 T\u0323 t\u0323 T\u0331 t\u0331 T\u032d"),
  (0x1E71, 0x1E78, "t\u032d U\u0324 u\u0324 U\u0330 u\u0330 U\u032d u\u032d U\u0303\u0301"),
  (0x1E79, 0x1E7F, "u\u0303\u0301 U\u0304\u0308 u\u0304\u0308 V\u0303 v\u0303 V\u0323 v\u0323"),
  (0x1E80, 0x1E88, "W\u0300 w\u0300 W\u0301 w\u0301 W\u0308 w\u0308 W\u0307 w\u0307 W\u0323"),
  (0x1E89, 0x1E91, "w\u0323 X\u0307 x\u0307 X\u0308 x\u0308 Y\u0307 y\u0307 Z\u0302 z\u0302"),
  (0x1E92, 0x1E9B, "Z\u0323 z\u0323 Z\u0331 z\u0331 h\u0331 t\u0308 w\u030a y\u030a aʾ s\u0307"),
  (0x1EA0, 0x1EA6, "A\u0323 a\u0323 A\u0309 a\u0309 A\u0302\u0301 a\u0302\u0301 A\u0302\u0300"),
  (0x1EA7, 0x1EAB, "a\u0302\u0300 A\u0302\u0309 a\u0302\u0309 A\u0302\u0303 a\u0302\u0303"),
  (0x1EAC, 0x1EB0, "A\u0323\u0302 a\u0323\u0302 A\u0306\u0301 a\u0306\u0301 A\u0306\u0300"),
  (0x1EB1, 0x1EB5, "a\u0306\u0300 A\u0306\u0309 a\u0306\u0309 A\u0306\u0303 a\u0306\u0303"),
  (0x1EB6, 0x1EBD, "A\u0323\u0306 a\u0323\u0306 E\u0323 e\u0323 E\u0309 e\u0309 E\u0303 e\u0303"),
  (0x1EBE, 0x1EC2, "E\u0302\u0301 e\u0302\u0301 E\u0302\u0300 e\u0302\u0300 E\u0302\u0309"),
  (0x1EC3, 0x1EC7, "e\u0302\u0309 E\u0302\u0303 e\u0302\u0303 E\u0323\u0302 e\u0323\u0302"),
  (0x1EC8, 0x1ECF, "I\u0309 i\u0309 I\u0323 i\u0323 O\u0323 o\u0323 O\u0309 o\u0309"),
  (0x1ED0, 0x1ED4, "O\u0302\u0301 o\u0302\u0301 O\u0302\u0300 o\u0302\u0300 O\u0302\u0309"),
  (0x1ED5, 0x1ED9, "o\u0302\u0309 O\u0302\u0303 o\u0302\u0303 O\u0323\u0302 o\u0323\u0302"),
  (0x1EDA, 0x1EDE, "O\u031b\u0301 o\u031b\u0301 O\u031b\u0300 o\u031b\u0300 O\u031b\u0309"),
  (0x1EDF, 0x1EE3, "o\u031b\u0309 O\u031b\u0303 o\u031b\u0303 O\u031b\u0323 o\u031b\u0323"),
  (0x1EE4, 0x1EEA, "U\u0323 u\u0323 U\u0309 u\u0309 U\u031b\u0301 u\u031b\u0301 U\u031b\u0300"),
  (0x1EEB, 0x1EEF, "u\u031b\u0300 U\u031b\u0309 u\u031b\u0309 U\u031b\u0303 u\u031b\u0303"),
  (0x1EF0, 0x1EF7, "U\u031b\u0323 u\u031b\u0323 Y\u0300 y\u0300 Y\u0323 y\u0323 Y\u0309 y\u0309"),
  (0x1EF8, 0x1EF9, "Y\u0303 y\u0303"),
  (0x1F00, 0x1F05, "α\u0313 α\u0314 α\u0313\u0300 α\u0314\u0300 α\u0313\u0301 α\u0314\u0301"),
  (0x1F06, 0x1F0B, "α\u0313\u0342 α\u0314\u0342 Α\u0313 Α\u0314 Α\u0313\u0300 Α\u0314\u0300"),
  (0x1F0C, 0x1F11, "Α\u0313\u0301 Α\u0314\u0301 Α\u0313\u0342 Α\u0314\u0342 ε\u0313 ε\u0314"),
  (0x1F12, 0x1F15, "ε\u0313\u0300 ε\u0314\u0300 ε\u0313\u0301 ε\u0314\u0301"),
  (0x1F18, 0x1F1D, "Ε\u0313 Ε\u0314 Ε\u0313\u0300 Ε\u0314\u0300 Ε\u0313\u0301 Ε\u0314\u0301"),
  (0x1F20, 0x1F25, "η\u0313 η\u0314 η\u0313\u0300 η\u0314\u0300 η\u0313\u0301 η\u0314\u0301"),
  (0x1F26, 0x1F2B, "η\u0313\u0342 η\u0314\u0342 Η\u0313 Η\u0314 Η\u0313\u0300 Η\u0314\u0300"),
  (0x1F2C, 0x1F31, "Η\u0313\u0301 Η\u0314\u0301 Η\u0313\u0342 Η\u0314\u0342 ι\u0313 ι\u0314"),
  (0x1F32, 0x1F36, "ι\u0313\u0300 ι\u0314\u0300 ι\u0313\u0301 ι\u0314\u0301 ι\u0313\u0342"),
  (0x1F37, 0x1F3C, "ι\u0314\u0342 Ι\u0313 Ι\u0314 Ι\u0313\u0300 Ι\u0314\u0300 Ι\u0313\u0301"),
  (0x1F3D, 0x1F42, "Ι\u0314\u0301 Ι\u0313\u0342 Ι\u0314\u0342 ο\u0313 ο\u0314 ο\u0313\u0300"),
  (0x1F43, 0x1F45, "ο\u0314\u0300 ο\u0313\u0301 ο\u0314\u0301"),
  (0x1F48, 0x1F4D, "Ο\u0313 Ο\u0314 Ο\u0313\u0300 Ο\u0314\u0300 Ο\u0313\u0301 Ο\u0314\u0301"),
  (0x1F50, 0x1F55, "υ\u0313 υ\u0314 υ\u0313\u0300 υ\u0314\u0300 υ\u0313\u0301 υ\u0314\u0301"),
  (0x1F56, 0x1F57, "υ\u0313\u0342 υ\u0314\u0342"), (0x1F59, 0x1F59, "Υ\u0314"),
  (0x1F5B, 0x1F5B, "Υ\u0314\u0300"), (0x1F5D, 0x1F5D, "Υ\u0314\u0301"),
  (0x1F5F, 0x1F64, "Υ\u0314\u0342 ω\u0313 ω\u0314 ω\u0313\u0300 ω\u0314\u0300 ω\u0313\u0301"),
  (0x1F65, 0x1F6A, "ω\u0314\u0301 ω\u0313\u0342 ω\u0314\u0342 Ω\u0313 Ω\u0314 Ω\u0313\u0300"),
  (0x1F6B, 0x1F6F, "Ω\u0314\u0300 Ω\u0313\u0301 Ω\u0314\u0301 Ω\u0313\u0342 Ω\u0314\u0342"),
  (0x1F70, 0x1F78, "α\u0300 α\u0301 ε\u0300 ε\u0301 η\u0300 η\u0301 ι\u0300 ι\u0301 ο\u0300"),
  (0x1F79, 0x1F7D, "ο\u0301 υ\u0300 υ\u0301 ω\u0300 ω\u0301"),
  (0x1F80, 0x1F83, "α\u0313\u0345 α\u0314\u0345 α\u0313\u0300\u0345 α\u0314\u0300\u0345"),
  (0x1F84, 0x1F86, "α\u0313\u0301\u0345 α\u0314\u0301\u0345 α\u0313\u0342\u0345"),
  (0x1F87, 0x1F8A, "α\u0314\u0342\u0345 Α\u0313\u0345 Α\u0314\u0345 Α\u0313\u0300\u0345"),
  (0x1F8B, 0x1F8D, "Α\u0314\u0300\u0345 Α\u0313\u0301\u0345 Α\u0314\u0301\u0345"),
  (0x1F8E, 0x1F91, "Α\u0313\u0342\u0345 Α\u0314\u0342\u0345 η\u0313\u0345 η\u0314\u0345"),
  (0x1F92, 0x1F94, "η\u0313\u0300\u0345 η\u0314\u0300\u0345 η\u0313\u0301\u0345"),
  (0x1F95, 0x1F98, "η\u0314\u0301\u0345 η\u0313\u0342\u0345 η\u0314\u0342\u0345 Η\u0313\u0345"),
  (0x1F99, 0x1F9C, "Η\u0314\u0345 Η\u0313\u0300\u0345 Η\u0314\u0300\u0345 Η\u0313\u0301\u0345"),
  (0x1F9D, 0x1FA0, "Η\u0314\u0301\u0345 Η\u0313\u0342\u0345 Η\u0314\u0342\u0345 ω\u0313\u0345"),
  (0x1FA1, 0x1FA4, "ω\u0314\u0345 ω\u0313\u0300\u0345 ω\u0314\u0300\u0345 ω\u0313\u0301\u0345"),
  (0x1FA5, 0x1FA8, "ω\u0314\u0301\u0345 ω\u0313\u0342\u0345 ω\u0314\u0342\u0345 Ω\u0313\u0345"),
  (0x1FA9, 0x1FAC, "Ω\u0314\u0345 Ω\u0313\u0300\u0345 Ω\u0314\u0300\u0345 Ω\u0313\u0301\u0345"),
  (0x1FAD, 0x1FB1, "Ω\u0314\u0301\u0345 Ω\u0313\u0342\u0345 Ω\u0314\u0342\u0345 α\u0306 α\u0304"),
  (0x1FB2, 0x1FB4, "α\u0300\u0345 α\u0345 α\u0301\u0345"),
  (0x1FB6, 0x1FBC, "α\u0342 α\u0342\u0345 Α\u0306 Α\u0304 Α\u0300 Α\u0301 Α\u0345"),
  (0x1FBE, 0x1FBE, "ι"), (0x1FC2, 0x1FC4, "η\u0300\u0345 η\u0345 η\u0301\u0345"),
  (0x1FC6, 0x1FCC, "η\u0342 η\u0342\u0345 Ε\u0300 Ε\u0301 Η\u0300 Η\u0301 Η\u0345"),
  (0x1FD0, 0x1FD3, "ι\u0306 ι\u0304 ι\u0308\u0300 ι\u0308\u0301"),
  (0x1FD6, 0x1FDB, "ι\u0342 ι\u0308\u0342 Ι\u0306 Ι\u0304 Ι\u0300 Ι\u0301"),
  (0x1FE0, 0x1FE6, "υ\u0306 υ\u0304 υ\u0308\u0300 υ\u0308\u0301 ρ\u0313 ρ\u0314 υ\u0342"),
  (0x1FE7, 0x1FEC, "υ\u0308\u0342 Υ\u0306 Υ\u0304 Υ\u0300 Υ\u0301 Ρ\u0314"),
  (0x1FF2, 0x1FF4, "ω\u0300\u0345 ω\u0345 ω\u0301\u0345"),
  (0x1FF6, 0x1FFC, "ω\u0342 ω\u0342\u0345 Ο\u0300 Ο\u0301 Ω\u0300 Ω\u0301 Ω\u0345"),
  (0x2071, 0x2071, "i"), (0x207F, 0x207F, "n"), (0x2090, 0x209C, "a e o x ə h k l m n p s t"),
  (0x2102, 0x2102, "C"), (0x2107, 0x2107, "Ɛ"), (0x210A, 0x2113, "g H H H h ħ I I L l"),
  (0x2115, 0x2115, "N"), (0x2119, 0x211D, "P Q R R R"), (0x2124, 0x2124, "Z"),
  (0x2126, 0x2126, "Ω"), (0x2128, 0x2128, "Z"), (0x212A, 0x212D, "K A\u030a B C"),
  (0x212F, 0x2131, "e E F"), (0x2133, 0x2139, "M o א ב ג ד i"), (0x213C, 0x213F, "π γ Γ Π"),
  (0x2145, 0x2149, "D d e i j"),
  (0x2160, 0x2179, "I II III IV V VI VII VIII IX X XI XII L C D M i ii iii iv v vi vii viii ix x"),
  (0x217A, 0x217F, "xi xii l c d m"), (0x2C7C, 0x2C7D, "j V"), (0x2D6F, 0x2D6F, "ⵡ"),
  (0x3038, 0x303A, "十 卄 卅"), (0x304C, 0x304C, "か\u3099"), (0x304E, 0x304E, "き\u3099"),
  (0x3050, 0x3050, "く\u3099"), (0x3052, 0x3052, "け\u3099"), (0x3054, 0x3054, "こ\u3099"),
  (0x3056, 0x3056, "さ\u3099"), (0x3058, 0x3058, "し\u3099"), (0x305A, 0x305A, "す\u3099"),
  (0x305C, 0x305C, "せ\u3099"), (0x305E, 0x305E, "そ\u3099"), (0x3060, 0x3060, "た\u3099"),
  (0x3062, 0x3062, "ち\u3099"), (0x3065, 0x3065, "つ\u3099"), (0x3067, 0x3067, "て\u3099"),
  (0x3069, 0x3069, "と\u3099"), (0x3070, 0x3071, "は\u3099 は\u309a"),
  (0x3073, 0x3074, "ひ\u3099 ひ\u309a"), (0x3076, 0x3077, "ふ\u3099 ふ\u309a"),
  (0x3079, 0x307A, "へ\u3099 へ\u309a"), (0x307C, 0x307D, "ほ\u3099 ほ\u309a"),
  (0x3094, 0x3094, "う\u3099"), (0x309E, 0x309F, "ゝ\u3099 より"), (0x30AC, 0x30AC, "カ\u3099"),
  (0x30AE, 0x30AE, "キ\u3099"), (0x30B0, 0x30B0, "ク\u3099"), (0x30B2, 0x30B2, "ケ\u3099"),
  (0x30B4, 0x30B4, "コ\u3099"), (0x30B6, 0x30B6, "サ\u3099"), (0x30B8, 0x30B8, "シ\u3099"),
  (0x30BA, 0x30BA, "ス\u3099"), (0x30BC, 0x30BC, "セ\u3099"), (0x30BE, 0x30BE, "ソ\u3099"),
  (0x30C0, 0x30C0, "タ\u3099"), (0x30C2, 0x30C2, "チ\u3099"), (0x30C5, 0x30C5, "ツ\u3099"),
  (0x30C7, 0x30C7, "テ\u3099"), (0x30C9, 0x30C9, "ト\u3099"), (0x30D0, 0x30D1, "ハ\u3099 ハ\u309a"),
  (0x30D3, 0x30D4, "ヒ\u3099 ヒ\u309a"), (0x30D6, 0x30D7, "フ\u3099 フ\u309a"),
  (0x30D9, 0x30DA, "ヘ\u3099 ヘ\u309a"), (0x30DC, 0x30DD, "ホ\u3099 ホ\u309a"),
  (0x30F4, 0x30F4, "ウ\u3099"), (0x30F7, 0x30FA, "ワ\u3099 ヰ\u3099 ヱ\u3099 ヲ\u3099"),
  (0x30FE, 0x30FF, "ヽ\u3099 コト"),
  (0x3131, 0x3156, "ᄀ ᄁ ᆪ ᄂ ᆬ ᆭ ᄃ ᄄ ᄅ ᆰ ᆱ ᆲ ᆳ ᆴ ᆵ ᄚ ᄆ ᄇ ᄈ ᄡ ᄉ ᄊ ᄋ ᄌ ᄍ ᄎ ᄏ ᄐ ᄑ ᄒ ᅡ ᅢ ᅣ ᅤ ᅥ ᅦ ᅧ ᅨ"),
  (0x3157, 0x317C, "ᅩ ᅪ ᅫ ᅬ ᅭ ᅮ ᅯ ᅰ ᅱ ᅲ ᅳ ᅴ ᅵ ᅠ ᄔ ᄕ ᇇ ᇈ ᇌ ᇎ ᇓ ᇗ ᇙ ᄜ ᇝ ᇟ ᄝ ᄞ ᄠ ᄢ ᄣ ᄧ ᄩ ᄫ ᄬ ᄭ ᄮ ᄯ"),
  (0x317D, 0x318E, "ᄲ ᄶ ᅀ ᅇ ᅌ ᇱ ᇲ ᅗ ᅘ ᅙ ᆄ ᆅ ᆈ ᆑ ᆒ ᆔ ᆞ ᆡ"), (0xA69C, 0xA69D, "ъ ь"),
  (0xA770, 0xA770, "ꝯ"), (0xA7F2, 0xA7F4, "C F Q"), (0xA7F8, 0xA7F9, "Ħ œ"),
  (0xAB5C, 0xAB5F, "ꜧ ꬷ ɫ ꭒ"), (0xAB69, 0xAB69, "ʍ"),
  (0xF900, 0xF925, "豈 更 車 賈 滑 串 句 龜 龜 契 金 喇 奈 懶 癩 羅 蘿 螺 裸 邏 樂 洛 烙 珞 落 酪 駱 亂 卵 欄 爛 蘭 鸞 嵐 濫 藍 襤 拉"),
  (0xF926, 0xF94B, "臘 蠟 廊 朗 浪 狼 郎 來 冷 勞 擄 櫓 爐 盧 老 蘆 虜 路 露 魯 鷺 碌 祿 綠 菉 錄 鹿 論 壟 弄 籠 聾 牢 磊 賂 雷 壘 屢"),
  (0xF94C, 0xF971, "樓 淚 漏 累 縷 陋 勒 肋 凜 凌 稜 綾 菱 陵 讀 拏 樂 諾 丹 寧 怒 率 異 北 磻 便 復 不 泌 數 索 參 塞 省 葉 說 殺 辰"),
  (0xF972, 0xF997, "沈 拾 若 掠 略 亮 兩 凉 梁 糧 良 諒 量 勵 呂 女 廬 旅 濾 礪 閭 驪 麗 黎 力 曆 歷 轢 年 憐 戀 撚 漣 煉 璉 秊 練 聯"),
  (0xF998, 0xF9BD, "輦 蓮 連 鍊 列 劣 咽 烈 裂 說 廉 念 捻 殮 簾 獵 令 囹 寧 嶺 怜 玲 瑩 羚 聆 鈴 零 靈 領 例 禮 醴 隸 惡 了 僚 寮 尿"),
  (0xF9BE, 0xF9E3, "料 樂 燎 療 蓼 遼 龍 暈 阮 劉 杻 柳 流 溜 琉 留 硫 紐 類 六 戮 陸 倫 崙 淪 輪 律 慄 栗 率 隆 利 吏 履 易 李 梨 泥"),
  (0xF9E4, 0xFA09, "理 痢 罹 裏 裡 里 離 匿 溺 吝 燐 璘 藺 隣 鱗 麟 林 淋 臨 立 笠 粒 狀 炙 識 什 茶 刺 切 度 拓 糖 宅 洞 暴 輻 行 降"),
  (0xFA0A, 0xFA0D, "見 廓 兀 嗀"), (0xFA10, 0xFA10, "塚"), (0xFA12, 0xFA12, "晴"),
  (0xFA15, 0xFA1E, "凞 猪 益 礼 神 祥 福 靖 精 羽"), (0xFA20, 0xFA20, "蘒"), (0xFA22, 0xFA22, "諸"),
  (0xFA25, 0xFA26, "逸 都"),
  (0xFA2A, 0xFA4F, "飯 飼 館 鶴 郞 隷 侮 僧 免 勉 勤 卑 喝 嘆 器 塀 墨 層 屮 悔 慨 憎 懲 敏 既 暑 梅 海 渚 漢 煮 爫 琢 碑 社 祉 祈 祐"),
  (0xFA50, 0xFA6D, "祖 祝 禍 禎 穀 突 節 練 縉 繁 署 者 臭 艹 艹 著 褐 視 謁 謹 賓 贈 辶 逸 難 響 頻 恵 𤋮 舘"),
  (0xFA70, 0xFA95, "並 况 全 侀 充 冀 勇 勺 喝 啕 喙 嗢 塚 墳 奄 奔 婢 嬨 廒 廙 彩 徭 惘 慎 愈 憎 慠 懲 戴 揄 搜 摒 敖 晴 朗 望 杖 歹"),
  (0xFA96, 0xFABB, "殺 流 滛 滋 漢 瀞 煮 瞧 爵 犯 猪 瑱 甆 画 瘝 瘟 益 盛 直 睊 着 磌 窱 節 类 絛 練 缾 者 荒 華 蝹 襁 覆 視 調 諸 請"),
  (0xFABC, 0xFAD9, "謁 諾 諭 謹 變 贈 輸 遲 醙 鉶 陼 難 靖 韛 響 頋 頻 鬒 龜 𢡊 𢡄 𣏕 㮝 䀘 䀹 𥉉 𥳐 𧻓 齃 龎"),
  (0xFB00, 0xFB06, "ff fi fl ffi ffl st st"), (0xFB13, 0xFB17, "մն մե մի վն մխ"),
  (0xFB1D, 0xFB1D, "י\u05b4"), (0xFB1F, 0xFB28, "ײ\u05b7 ע א ד ה כ ל ם ר ת"),
  (0xFB2A, 0xFB31, "ש\u05c1 ש\u05c2 ש\u05bc\u05c1 ש\u05bc\u05c2 א\u05b7 א\u05b8 א\u05bc ב\u05bc"),
  (0xFB32, 0xFB36, "ג\u05bc ד\u05bc ה\u05bc ו\u05bc ז\u05bc"),
  (0xFB38, 0xFB3C, "ט\u05bc י\u05bc ך\u05bc כ\u05bc ל\u05bc"), (0xFB3E, 0xFB3E, "מ\u05bc"),
  (0xFB40, 0xFB41, "נ\u05bc ס\u05bc"), (0xFB43, 0xFB44, "ף\u05bc פ\u05bc"),
  (0xFB46, 0xFB50, "צ\u05bc ק\u05bc ר\u05bc ש\u05bc ת\u05bc ו\u05b9 ב\u05bf כ\u05bf פ\u05bf אל ٱ"),
  (0xFB51, 0xFB76, "ٱ ٻ ٻ ٻ ٻ پ پ پ پ ڀ ڀ ڀ ڀ ٺ ٺ ٺ ٺ ٿ ٿ ٿ ٿ ٹ ٹ ٹ ٹ ڤ ڤ ڤ ڤ ڦ ڦ ڦ ڦ ڄ ڄ ڄ ڄ ڃ"),
  (0xFB77, 0xFB9C, "ڃ ڃ ڃ چ چ چ چ ڇ ڇ ڇ ڇ ڍ ڍ ڌ ڌ ڎ ڎ ڈ ڈ ژ ژ ڑ ڑ ک ک ک ک گ گ گ گ ڳ ڳ ڳ ڳ ڱ ڱ ڱ"),
  (0xFB9D, 0xFBB1, "ڱ ں ں ڻ ڻ ڻ ڻ ە\u0654 ە\u0654 ہ ہ ہ ہ ھ ھ ھ ھ ے ے ے\u0654 ے\u0654"),
  (0xFBD3, 0xFBEC, "ڭ ڭ ڭ ڭ ۇ ۇ ۆ ۆ ۈ ۈ ۇٴ ۋ ۋ ۅ ۅ ۉ ۉ ې ې ې ې ى ى ي\u0654ا ي\u0654ا ي\u0654ە"),
  (0xFBED, 0xFBF4, "ي\u0654ە ي\u0654و ي\u0654و ي\u0654ۇ ي\u0654ۇ ي\u0654ۆ ي\u0654ۆ ي\u0654ۈ"),
  (0xFBF5, 0xFBFF, "ي\u0654ۈ ي\u0654ې ي\u0654ې ي\u0654ې ي\u0654ى ي\u0654ى ي\u0654ى ی ی ی ی"),
  (0xFC00, 0xFC0E, "ي\u0654ج ي\u0654ح ي\u0654م ي\u0654ى ي\u0654ي بج بح بخ بم بى بي تج تح تخ تم"),
  (0xFC0F, 0xFC27, "تى تي ثج ثم ثى ثي جح جم حج حم خج خح خم سج سح سخ سم صح صم ضج ضح ضخ ضم طح طم"),
  (0xFC28, 0xFC40, "ظم عج عم غج غم فج فح فخ فم فى في قح قم قى قي كا كج كح كخ كل كم كى كي لج لح"),
  (0xFC41, 0xFC59, "لخ لم لى لي مج مح مخ مم مى مي نج نح نخ نم نى ني هج هم هى هي يج يح يخ يم يى"),
  (0xFC5A, 0xFC5D, "يي ذ\u0670 ر\u0670 ى\u0670"),
  (0xFC64, 0xFC70, "ي\u0654ر ي\u0654ز ي\u0654م ي\u0654ن ي\u0654ى ي\u0654ي بر بز بم بن بى بي تر"),
  (0xFC71, 0xFC89, "تز تم تن تى تي ثر ثز ثم ثن ثى ثي فى في قى قي كا كل كم كى كي لم لى لي ما مم"),
  (0xFC8A, 0xFC99, "نر نز نم نن نى ني ى\u0670 ير يز يم ين يى يي ي\u0654ج ي\u0654ح ي\u0654خ"),
  (0xFC9A, 0xFCAE, "ي\u0654م ي\u0654ه بج بح بخ بم به تج تح تخ تم ته ثم جح جم حج حم خج خم سج سح"),
  (0xFCAF, 0xFCC7, "سخ سم صح صخ صم ضج ضح ضخ ضم طح ظم عج عم غج غم فج فح فخ فم قح قم كج كح كخ كل"),
  (0xFCC8, 0xFCDE, "كم لج لح لخ لم له مج مح مخ مم نج نح نخ نم نه هج هم ه\u0670 يج يح يخ يم يه"),
  (0xFCDF, 0xFCF1, "ي\u0654م ي\u0654ه بم به تم ته ثم ثه سم سه شم شه كل كم لم نم نه يم يه"),
  (0xFCF2, 0xFCFF, "ـ\u064e\u0651 ـ\u064f\u0651 ـ\u0650\u0651 طى طي عى عي غى غي سى سي شى شي حى"),
  (0xFD00, 0xFD18, "حي جى جي خى خي صى صي ضى ضي شج شح شخ شم شر سر صر ضر طى طي عى عي غى غي سى سي"),
  (0xFD19, 0xFD31, "شى شي حى حي جى جي خى خي صى صي ضى ضي شج شح شخ شم شر سر صر ضر شج شح شخ شم سه"),
  (0xFD32, 0xFD3D, "شه طم سج سح سخ شج شح شخ طم ظم ا\u064b ا\u064b"),
  (0xFD50, 0xFD62, "تجم تحج تحج تحم تخم تمج تمح تمخ جمح جمح حمي حمى سحج سجح سجى سمح سمح سمج سمم"),
  (0xFD63, 0xFD75, "سمم صحح صحح صمم شحم شحم شجي شمخ شمخ شمم شمم ضحى ضخم ضخم طمح طمح طمم طمي عجم"),
  (0xFD76, 0xFD88, "عمم عمم عمى غمم غمي غمى فخم فخم قمح قمم لحم لحي لحى لجج لجج لخم لخم لمح لمح"),
  (0xFD89, 0xFD8F, "محج محم محي مجح مجم مخج مخم"),
  (0xFD92, 0xFDA4, "مجخ همج همم نحم نحى نجم نجم نجى نمي نمى يمم يمم بخي تجي تجى تخي تخى تمي تمى"),
  (0xFDA5, 0xFDB7, "جمي جحى جمى سخى صحي شحي ضحي لجي لمي يحي يجي يمي ممي قمي نحي قمح لحم عمي كمي"),
  (0xFDB8, 0xFDC7, "نجح مخي لجم كمم لجم نجح جحي حجي مجي فمي بحي كمم عجم صمم سخي نجي"),
  (0xFDF0, 0xFDF9, "صلے قلے الله اكبر محمد صلعم رسول عليه وسلم صلى"), (0xFE33, 0xFE34, "_ _"),
  (0xFE4D, 0xFE4F, "_ _ _"), (0xFE71, 0xFE71, "ـ\u064b"), (0xFE77, 0xFE77, "ـ\u064e"),
  (0xFE79, 0xFE79, "ـ\u064f"), (0xFE7B, 0xFE7B, "ـ\u0650"), (0xFE7D, 0xFE7D, "ـ\u0651"),
  (0xFE7F, 0xFE88, "ـ\u0652 ء ا\u0653 ا\u0653 ا\u0654 ا\u0654 و\u0654 و\u0654 ا\u0655 ا\u0655"),
  (0xFE89, 0xFEA2, "ي\u0654 ي\u0654 ي\u0654 ي\u0654 ا ا ب ب ب ب ة ة ت ت ت ت ث ث ث ث ج ج ج ج ح ح"),
  (0xFEA3, 0xFEC8, "ح ح خ خ خ خ د د ذ ذ ر ر ز ز س س س س ش ش ش ش ص ص ص ص ض ض ض ض ط ط ط ط ظ ظ ظ ظ"),
  (0xFEC9, 0xFEEE, "ع ع ع ع غ غ غ غ ف ف ف ف ق ق ق ق ك ك ك ك ل ل ل ل م م م م ن ن ن ن ه ه ه ه و و"),
  (0xFEEF, 0xFEFC, "ى ى ي ي ي ي لا\u0653 لا\u0653 لا\u0654 لا\u0654 لا\u0655 لا\u0655 لا لا"),
  (0xFF10, 0xFF19, "0 1 2 3 4 5 6 7 8 9"),
  (0xFF21, 0xFF3A, "A B C D E F G H I J K L M N O P Q R S T U V W X Y Z"), (0xFF3F, 0xFF3F, "_"),
  (0xFF41, 0xFF5A, "a b c d e f g h i j k l m n o p q r s t u v w x y z"),
  (0xFF66, 0xFF8B, "ヲ ァ ィ ゥ ェ ォ ャ ュ ョ ッ ー ア イ ウ エ オ カ キ ク ケ コ サ シ ス セ ソ タ チ ツ テ ト ナ ニ ヌ ネ ノ ハ ヒ"),
  (0xFF8C, 0xFFAC, "フ ヘ ホ マ ミ ム メ モ ヤ ユ ヨ ラ リ ル レ ロ ワ ン \u3099 \u309a ᅠ ᄀ ᄁ ᆪ ᄂ ᆬ ᆭ ᄃ ᄄ ᄅ ᆰ ᆱ ᆲ"),
  (0xFFAD, 0xFFBE, "ᆳ ᆴ ᆵ ᄚ ᄆ ᄇ ᄈ ᄡ ᄉ ᄊ ᄋ ᄌ ᄍ ᄎ ᄏ ᄐ ᄑ ᄒ"), (0xFFC2, 0xFFC7, "ᅡ ᅢ ᅣ ᅤ ᅥ ᅦ"),
  (0xFFCA, 0xFFCF, "ᅧ ᅨ ᅩ ᅪ ᅫ ᅬ"), (0xFFD2, 0xFFD7, "ᅭ ᅮ ᅯ ᅰ ᅱ ᅲ"), (0xFFDA, 0xFFDC, "ᅳ ᅴ ᅵ"),
  (0x10781, 0x10785, "ː ˑ æ ʙ ɓ"),
  (0x10787, 0x107AB, "ʣ ꭦ ʥ ʤ ɖ ɗ ᶑ ɘ ɞ ʩ ɤ ɢ ɠ ʛ ħ ʜ ɧ ʄ ʪ ʫ ɬ 𝼄 ꞎ ɮ 𝼅 ʎ 𝼆 ø ɶ ɷ q ɺ 𝼈 ɽ ɾ ʀ ʨ"),
  (0x107AC, 0x107B0, "ʦ ꭧ ʧ ʈ ⱱ"), (0x107B2, 0x107BA, "ʏ ʡ ʢ ʘ ǀ ǁ ǂ 𝼊 𝼞"),
  (0x1109A, 0x1109A, "𑂚"), (0x1109C, 0x1109C, "𑂜"), (0x110AB, 0x110AB, "𑂫"),
  (0x1112E, 0x1112F, "𑄮 𑄯"), (0x1134B, 0x1134C, "𑍋 𑍌"), (0x114BB, 0x114BC, "𑒻 𑒼"),
  (0x114BE, 0x114BE, "𑒾"), (0x115BA, 0x115BB, "𑖺 𑖻"), (0x11938, 0x11938, "𑤸"),
  (0x1D400, 0x1D424, "A B C D E F G H I J K L M N O P Q R S T U V W X Y Z a b c d e f g h i j k"),
  (0x1D425, 0x1D449, "l m n o p q r s t u v w x y z A B C D E F G H I J K L M N O P Q R S T U V"),
  (0x1D44A, 0x1D454, "W X Y Z a b c d e f g"),
  (0x1D456, 0x1D47A, "i j k l m n o p q r s t u v w x y z A B C D E F G H I J K L M N O P Q R S"),
  (0x1D47B, 0x1D49C, "T U V W X Y Z a b c d e f g h i j k l m n o p q r s t u v w x y z A"),
  (0x1D49E, 0x1D49F, "C D"), (0x1D4A2, 0x1D4A2, "G"), (0x1D4A5, 0x1D4A6, "J K"),
  (0x1D4A9, 0x1D4AC, "N O P Q"), (0x1D4AE, 0x1D4B9, "S T U V W X Y Z a b c d"),
  (0x1D4BB, 0x1D4BB, "f"), (0x1D4BD, 0x1D4C3, "h i j k l m n"),
  (0x1D4C5, 0x1D4E9, "p q r s t u v w x y z A B C D E F G H I J K L M N O P Q R S T U V W X Y Z"),
  (0x1D4EA, 0x1D505, "a b c d e f g h i j k l m n o p q r s t u v w x y z A B"),
  (0x1D507, 0x1D50A, "D E F G"), (0x1D50D, 0x1D514, "J K L M N O P Q"),
  (0x1D516, 0x1D51C, "S T U V W X Y"),
  (0x1D51E, 0x1D539, "a b c d e f g h i j k l m n o p q r s t u v w x y z A B"),
  (0x1D53B, 0x1D53E, "D E F G"), (0x1D540, 0x1D544, "I J K L M"), (0x1D546, 0x1D546, "O"),
  (0x1D54A, 0x1D550, "S T U V W X Y"),
  (0x1D552, 0x1D576, "a b c d e f g h i j k l m n o p q r s t u v w x y z A B C D E F G H I J K"),
  (0x1D577, 0x1D59B, "L M N O P Q R S T U V W X Y Z a b c d e f g h i j k l m n o p q r s t u v"),
  (0x1D59C, 0x1D5C0, "w x y z A B C D E F G H I J K L M N O P Q R S T U V W X Y Z a b c d e f g"),
  (0x1D5C1, 0x1D5E5, "h i j k l m n o p q r s t u v w x y z A B C D E F G H I J K L M N O P Q R"),
  (0x1D5E6, 0x1D60A, "S T U V W X Y Z a b c d e f g h i j k l m n o p q r s t u v w x y z A B C"),
  (0x1D60B, 0x1D62F, "D E F G H I J K L M N O P Q R S T U V W X Y Z a b c d e f g h i j k l m n"),
  (0x1D630, 0x1D654, "o p q r s t u v w x y z A B C D E F G H I J K L M N O P Q R S T U V W X Y"),
  (0x1D655, 0x1D679, "Z a b c d e f g h i j k l m n o p q r s t u v w x y z A B C D E F G H I J"),
  (0x1D67A, 0x1D69E, "K L M N O P Q R S T U V W X Y Z a b c d e f g h i j k l m n o p q r s t u"),
  (0x1D69F, 0x1D6A5, "v w x y z ı ȷ"),
  (0x1D6A8, 0x1D6C0, "Α Β Γ Δ Ε Ζ Η Θ Ι Κ Λ Μ Ν Ξ Ο Π Ρ Θ Σ Τ Υ Φ Χ Ψ Ω"),
  (0x1D6C2, 0x1D6DA, "α β γ δ ε ζ η θ ι κ λ μ ν ξ ο π ρ ς σ τ υ φ χ ψ ω"),
  (0x1D6DC, 0x1D6FA, "ε θ κ φ ρ π Α Β Γ Δ Ε Ζ Η Θ Ι Κ Λ Μ Ν Ξ Ο Π Ρ Θ Σ Τ Υ Φ Χ Ψ Ω"),
  (0x1D6FC, 0x1D714, "α β γ δ ε ζ η θ ι κ λ μ ν ξ ο π ρ ς σ τ υ φ χ ψ ω"),
  (0x1D716, 0x1D734, "ε θ κ φ ρ π Α Β Γ Δ Ε Ζ Η Θ Ι Κ Λ Μ Ν Ξ Ο Π Ρ Θ Σ Τ Υ Φ Χ Ψ Ω"),
  (0x1D736, 0x1D74E, "α β γ δ ε ζ η θ ι κ λ μ ν ξ ο π ρ ς σ τ υ φ χ ψ ω"),
  (0x1D750, 0x1D76E, "ε θ κ φ ρ π Α Β Γ Δ Ε Ζ Η Θ Ι Κ Λ Μ Ν Ξ Ο Π Ρ Θ Σ Τ Υ Φ Χ Ψ Ω"),
  (0x1D770, 0x1D788, "α β γ δ ε ζ η θ ι κ λ μ ν ξ ο π ρ ς σ τ υ φ χ ψ ω"),
  (0x1D78A, 0x1D7A8, "ε θ κ φ ρ π Α Β Γ Δ Ε Ζ Η Θ Ι Κ Λ Μ Ν Ξ Ο Π Ρ Θ Σ Τ Υ Φ Χ Ψ Ω"),
  (0x1D7AA, 0x1D7C2, "α β γ δ ε ζ η θ ι κ λ μ ν ξ ο π ρ ς σ τ υ φ χ ψ ω"),
  (0x1D7C4, 0x1D7CB, "ε θ κ φ ρ π Ϝ ϝ"),
  (0x1D7CE, 0x1D7F2, "0 1 2 3 4 5 6 7 8 9 0 1 2 3 4 5 6 7 8 9 0 1 2 3 4 5 6 7 8 9 0 1 2 3 4 5 6"),
  (0x1D7F3, 0x1D7FF, "7 8 9 0 1 2 3 4 5 6 7 8 9"), (0x1EE00, 0x1EE03, "ا ب ج د"),
  (0x1EE05, 0x1EE1F, "و ز ح ط ي ك ل م ن س ع ف ص ق ر ش ت ث خ ذ ض ظ غ ٮ ں ڡ ٯ"),
  (0x1EE21, 0x1EE22, "ب ج"), (0x1EE24, 0x1EE24, "ه"), (0x1EE27, 0x1EE27, "ح"),
  (0x1EE29, 0x1EE32, "ي ك ل م ن س ع ف ص ق"), (0x1EE34, 0x1EE37, "ش ت ث خ"), (0x1EE39, 0x1EE39, "ض"),
  (0x1EE3B, 0x1EE3B, "غ"), (0x1EE42, 0x1EE42, "ج"), (0x1EE47, 0x1EE47, "ح"),
  (0x1EE49, 0x1EE49, "ي"), (0x1EE4B, 0x1EE4B, "ل"), (0x1EE4D, 0x1EE4F, "ن س ع"),
  (0x1EE51, 0x1EE52, "ص ق"), (0x1EE54, 0x1EE54, "ش"), (0x1EE57, 0x1EE57, "خ"),
  (0x1EE59, 0x1EE59, "ض"), (0x1EE5B, 0x1EE5B, "غ"), (0x1EE5D, 0x1EE5D, "ں"),
  (0x1EE5F, 0x1EE5F, "ٯ"), (0x1EE61, 0x1EE62, "ب ج"), (0x1EE64, 0x1EE64, "ه"),
  (0x1EE67, 0x1EE6A, "ح ط ي ك"), (0x1EE6C, 0x1EE72, "م ن س ع ف ص ق"), (0x1EE74, 0x1EE77, "ش ت ث خ"),
  (0x1EE79, 0x1EE7C, "ض ظ غ ٮ"), (0x1EE7E, 0x1EE7E, "ڡ"), (0x1EE80, 0x1EE89, "ا ب ج د ه و ز ح ط ي"),
  (0x1EE8B, 0x1EE9B, "ل م ن س ع ف ص ق ر ش ت ث خ ذ ض ظ غ"), (0x1EEA1, 0x1EEA3, "ب ج د"),
  (0x1EEA5, 0x1EEA9, "و ز ح ط ي"), (0x1EEAB, 0x1EEBB, "ل م ن س ع ف ص ق ر ش ت ث خ ذ ض ظ غ"),
  (0x1FBF0, 0x1FBF9, "0 1 2 3 4 5 6 7 8 9"),
  (0x2F800, 0x2F824, "丽 丸 乁 𠄢 你 侮 侻 倂 偺 備 僧 像 㒞 𠘺 免 兔 兤 具 𠔜 㒹 內 再 𠕋 冗 冤 仌 冬 况 𩇟 凵 刃 㓟 刻 剆 割 剷 㔕"),
  (0x2F825, 0x2F849, "勇 勉 勤 勺 包 匆 北 卉 卑 博 即 卽 卿 卿 卿 𠨬 灰 及 叟 𠭣 叫 叱 吆 咞 吸 呈 周 咢 哶 唐 啓 啣 善 善 喙 喫 喳"),
  (0x2F84A, 0x2F86E, "嗂 圖 嘆 圗 噑 噴 切 壮 城 埴 堍 型 堲 報 墬 𡓤 売 壷 夆 多 夢 奢 𡚨 𡛪 姬 娛 娧 姘 婦 㛮 㛼 嬈 嬾 嬾 𡧈 寃 寘"),
  (0x2F86F, 0x2F893, "寧 寳 𡬘 寿 将 当 尢 㞁 屠 屮 峀 岍 𡷤 嵃 𡷦 嵮 嵫 嵼 巡 巢 㠯 巽 帨 帽 幩 㡢 𢆃 㡼 庰 庳 庶 廊 𪎒 廾 𢌱 𢌱 舁"),
  (0x2F894, 0x2F8B8, "弢 弢 㣇 𣊸 𦇚 形 彫 㣣 徚 忍 志 忹 悁 㤺 㤜 悔 𢛔 惇 慈 慌 慎 慌 慺 憎 憲 憤 憯 懞 懲 懶 成 戛 扝 抱 拔 捐 𢬌"),
  (0x2F8B9, 0x2F8DD, "挽 拼 捨 掃 揤 𢯱 搢 揅 掩 㨮 摩 摾 撝 摷 㩬 敏 敬 𣀊 旣 書 晉 㬙 暑 㬈 㫤 冒 冕 最 暜 肭 䏙 朗 望 朡 杞 杓 𣏃"),
  (0x2F8DE, 0x2F902, "㭉 柺 枅 桒 梅 𣑭 梎 栟 椔 㮝 楂 榣 槪 檨 𣚣 櫛 㰘 次 𣢧 歔 㱎 歲 殟 殺 殻 𣪍 𡴋 𣫺 汎 𣲼 沿 泍 汧 洖 派 海 流"),
  (0x2F903, 0x2F927, "浩 浸 涅 𣴞 洴 港 湮 㴳 滋 滇 𣻑 淹 潮 𣽞 𣾎 濆 瀹 瀞 瀛 㶖 灊 災 灷 炭 𠔥 煅 𤉣 熜 𤎫 爨 爵 牐 𤘈 犀 犕 𤜵 𤠔"),
  (0x2F928, 0x2F94C, "獺 王 㺬 玥 㺸 㺸 瑇 瑜 瑱 璅 瓊 㼛 甤 𤰶 甾 𤲒 異 𢆟 瘐 𤾡 𤾸 𥁄 㿼 䀈 直 𥃳 𥃲 𥄙 𥄳 眞 真 真 睊 䀹 瞋 䁆 䂖"),
  (0x2F94D, 0x2F971, "𥐝 硎 碌 磌 䃣 𥘦 祖 𥚚 𥛅 福 秫 䄯 穀 穊 穏 𥥼 𥪧 𥪧 竮 䈂 𥮫 篆 築 䈧 𥲀 糒 䊠 糨 糣 紀 𥾆 絣 䌁 緇 縂 繅 䌴"),
  (0x2F972, 0x2F996, "𦈨 𦉇 䍙 𦋙 罺 𦌾 羕 翺 者 𦓚 𦔣 聠 𦖨 聰 𣍟 䏕 育 脃 䐋 脾 媵 𦞧 𦞵 𣎓 𣎜 舁 舄 辞 䑫 芑 芋 芝 劳 花 芳 芽 苦"),
  (0x2F997, 0x2F9BB, "𦬼 若 茝 荣 莭 茣 莽 菧 著 荓 菊 菌 菜 𦰶 𦵫 𦳕 䔫 蓱 蓳 蔖 𧏊 蕤 𦼬 䕝 䕡 𦾱 𧃒 䕫 虐 虜 虧 虩 蚩 蚈 蜎 蛢 蝹"),
  (0x2F9BC, 0x2F9E0, "蜨 蝫 螆 䗗 蟡 蠁 䗹 衠 衣 𧙧 裗 裞 䘵 裺 㒻 𧢮 𧥦 䚾 䛇 誠 諭 變 豕 𧲨 貫 賁 贛 起 𧼯 𠠄 跋 趼 跰 𠣞 軔 輸 𨗒"),
  (0x2F9E1, 0x2FA05, "𨗭 邔 郱 鄑 𨜮 鄛 鈸 鋗 鋘 鉼 鏹 鐕 𨯺 開 䦕 閷 𨵷 䧦 雃 嶲 霣 𩅅 𩈚 䩮 䩶 韠 𩐊 䪲 𩒖 頋 頋 頩 𩖶 飢 䬳 餩 馧"),
  (0x2FA06, 0x2FA1D, "駂 駾 䯎 𩬰 鬒 鱀 鳽 䳎 䳭 鵧 𪃎 䳸 𪄅 𪈎 𪊑 麻 䵖 黹 黾 鼅 鼏 鼖 鼻 𪘀")]

/-- Marks, each with words of two characters: one that the mark composes with, and what both compose
to. A mark can be listed several times. -/
def compositions : List (Nat × String) := [
  (0x300, "AÀ EÈ IÌ NǸ OÒ UÙ WẀ YỲ aà eè iì nǹ oò uù wẁ yỳ ÂẦ ÊỀ ÔỒ ÜǛ âầ êề ôồ üǜ ĂẰ ăằ ĒḔ ēḕ"),
  (0x300, "ŌṐ ōṑ ƠỜ ơờ ƯỪ ưừ ΑᾺ ΕῈ ΗῊ ΙῚ ΟῸ ΥῪ ΩῺ αὰ εὲ ηὴ ιὶ οὸ υὺ ωὼ ϊῒ ϋῢ ЕЀ ИЍ еѐ иѝ ἀἂ ἁἃ"),
  (0x300, "ἈἊ ἉἋ ἐἒ ἑἓ ἘἚ ἙἛ ἠἢ ἡἣ ἨἪ ἩἫ ἰἲ ἱἳ ἸἺ ἹἻ ὀὂ ὁὃ ὈὊ ὉὋ ὐὒ ὑὓ ὙὛ ὠὢ ὡὣ ὨὪ ὩὫ"),
  (0x301, "AÁ CĆ EÉ GǴ IÍ KḰ LĹ MḾ NŃ OÓ PṔ RŔ SŚ UÚ WẂ YÝ ZŹ aá cć eé gǵ ií kḱ lĺ mḿ nń oó pṕ"),
  (0x301, "rŕ sś uú wẃ yý zź ÂẤ ÅǺ ÆǼ ÇḈ ÊẾ ÏḮ ÔỐ ÕṌ ØǾ ÜǗ âấ åǻ æǽ çḉ êế ïḯ ôố õṍ øǿ üǘ ĂẮ ăắ"),
  (0x301, "ĒḖ ēḗ ŌṒ ōṓ ŨṸ ũṹ ƠỚ ơớ ƯỨ ưứ ΑΆ ΕΈ ΗΉ ΙΊ ΟΌ ΥΎ ΩΏ αά εέ ηή ιί οό υύ ωώ ϊΐ ϋΰ ϒϓ ГЃ"),
  (0x301, "КЌ гѓ кќ ἀἄ ἁἅ ἈἌ ἉἍ ἐἔ ἑἕ ἘἜ ἙἝ ἠἤ ἡἥ ἨἬ ἩἭ ἰἴ ἱἵ ἸἼ ἹἽ ὀὄ ὁὅ ὈὌ ὉὍ ὐὔ ὑὕ ὙὝ ὠὤ ὡὥ"),
  (0x301, "ὨὬ ὩὭ"),
  (0x302, "AÂ CĈ EÊ GĜ HĤ IÎ JĴ OÔ SŜ UÛ WŴ YŶ ZẐ aâ cĉ eê gĝ hĥ iî jĵ oô sŝ uû wŵ yŷ zẑ ẠẬ ạậ"),
  (0x302, "ẸỆ ẹệ ỌỘ ọộ"),
  (0x303, "AÃ EẼ IĨ NÑ OÕ UŨ VṼ YỸ aã eẽ iĩ nñ oõ uũ vṽ yỹ ÂẪ ÊỄ ÔỖ âẫ êễ ôỗ ĂẴ ăẵ ƠỠ ơỡ ƯỮ ưữ"),
  (0x304, "AĀ EĒ GḠ IĪ OŌ UŪ YȲ aā eē gḡ iī oō uū yȳ ÄǞ ÆǢ ÕȬ ÖȪ ÜǕ äǟ æǣ õȭ öȫ üǖ ǪǬ ǫǭ ȦǠ ȧǡ"),
  (0x304, "ȮȰ ȯȱ ΑᾹ ΙῙ ΥῩ αᾱ ιῑ υῡ ИӢ УӮ иӣ уӯ ḶḸ ḷḹ ṚṜ ṛṝ"),
  (0x306, "AĂ EĔ GĞ IĬ OŎ UŬ aă eĕ gğ iĭ oŏ uŭ ȨḜ ȩḝ ΑᾸ ΙῘ ΥῨ αᾰ ιῐ υῠ АӐ ЕӖ ЖӁ ИЙ УЎ аӑ еӗ жӂ"),
  (0x306, "ий уў ẠẶ ạặ"),
  (0x307, "AȦ BḂ CĊ DḊ EĖ FḞ GĠ HḢ Iİ MṀ NṄ OȮ PṖ RṘ SṠ TṪ WẆ XẊ YẎ ZŻ aȧ bḃ cċ dḋ eė fḟ gġ hḣ"),
  (0x307, "mṁ nṅ oȯ pṗ rṙ sṡ tṫ wẇ xẋ yẏ zż ŚṤ śṥ ŠṦ šṧ ſẛ ṢṨ ṣṩ"),
  (0x308, "AÄ EË HḦ IÏ OÖ UÜ WẄ XẌ YŸ aä eë hḧ iï oö tẗ uü wẅ xẍ yÿ ÕṎ õṏ ŪṺ ūṻ ΙΪ ΥΫ ιϊ υϋ ϒϔ"),
  (0x308, "ІЇ АӒ ЕЁ ЖӜ ЗӞ ИӤ ОӦ УӰ ЧӴ ЫӸ ЭӬ аӓ её жӝ зӟ иӥ оӧ уӱ чӵ ыӹ эӭ ії ӘӚ әӛ ӨӪ өӫ"),
  (0x309, "AẢ EẺ IỈ OỎ UỦ YỶ aả eẻ iỉ oỏ uủ yỷ ÂẨ ÊỂ ÔỔ âẩ êể ôổ ĂẲ ăẳ ƠỞ ơở ƯỬ ưử"),
  (0x30A, "AÅ UŮ aå uů wẘ yẙ"), (0x30B, "OŐ UŰ oő uű УӲ уӳ"),
  (0x30C, "AǍ CČ DĎ EĚ GǦ HȞ IǏ KǨ LĽ NŇ OǑ RŘ SŠ TŤ UǓ ZŽ aǎ cč dď eě gǧ hȟ iǐ jǰ kǩ lľ nň oǒ"),
  (0x30C, "rř sš tť uǔ zž ÜǙ üǚ ƷǮ ʒǯ"), (0x30F, "AȀ EȄ IȈ OȌ RȐ UȔ aȁ eȅ iȉ oȍ rȑ uȕ ѴѶ ѵѷ"),
  (0x311, "AȂ EȆ IȊ OȎ RȒ UȖ aȃ eȇ iȋ oȏ rȓ uȗ"),
  (0x313, "ΑἈ ΕἘ ΗἨ ΙἸ ΟὈ ΩὨ αἀ εἐ ηἠ ιἰ οὀ ρῤ υὐ ωὠ"),
  (0x314, "ΑἉ ΕἙ ΗἩ ΙἹ ΟὉ ΡῬ ΥὙ ΩὩ αἁ εἑ ηἡ ιἱ οὁ ρῥ υὑ ωὡ"), (0x31B, "OƠ UƯ oơ uư"),
  (0x323, "AẠ BḄ DḌ EẸ HḤ IỊ KḲ LḶ MṂ NṆ OỌ RṚ SṢ TṬ UỤ VṾ WẈ YỴ ZẒ aạ bḅ dḍ eẹ hḥ iị kḳ lḷ mṃ"),
  (0x323, "nṇ oọ rṛ sṣ tṭ uụ vṿ wẉ yỵ zẓ ƠỢ ơợ ƯỰ ưự"), (0x324, "UṲ uṳ"), (0x325, "AḀ aḁ"),
  (0x326, "SȘ TȚ sș tț"),
  (0x327, "CÇ DḐ EȨ GĢ HḨ KĶ LĻ NŅ RŖ SŞ TŢ cç dḑ eȩ gģ hḩ kķ lļ nņ rŗ sş tţ"),
  (0x328, "AĄ EĘ IĮ OǪ UŲ aą eę iį oǫ uų"), (0x32D, "DḒ EḘ LḼ NṊ TṰ UṶ dḓ eḙ lḽ nṋ tṱ uṷ"),
  (0x32E, "HḪ hḫ"), (0x330, "EḚ IḬ UṴ eḛ iḭ uṵ"),
  (0x331, "BḆ DḎ KḴ LḺ NṈ RṞ TṮ ZẔ bḇ dḏ hẖ kḵ lḻ nṉ rṟ tṯ zẕ"),
  (0x342, "αᾶ ηῆ ιῖ υῦ ωῶ ϊῗ ϋῧ ἀἆ ἁἇ ἈἎ ἉἏ ἠἦ ἡἧ ἨἮ ἩἯ ἰἶ ἱἷ ἸἾ ἹἿ ὐὖ ὑὗ ὙὟ ὠὦ ὡὧ ὨὮ ὩὯ"),
  (0x345, "Αᾼ Ηῌ Ωῼ άᾴ ήῄ αᾳ ηῃ ωῳ ώῴ ἀᾀ ἁᾁ ἂᾂ ἃᾃ ἄᾄ ἅᾅ ἆᾆ ἇᾇ Ἀᾈ Ἁᾉ Ἂᾊ Ἃᾋ Ἄᾌ Ἅᾍ Ἆᾎ Ἇᾏ ἠᾐ ἡᾑ ἢᾒ"),
  (0x345, "ἣᾓ ἤᾔ ἥᾕ ἦᾖ ἧᾗ Ἠᾘ Ἡᾙ Ἢᾚ Ἣᾛ Ἤᾜ Ἥᾝ Ἦᾞ Ἧᾟ ὠᾠ ὡᾡ ὢᾢ ὣᾣ ὤᾤ ὥᾥ ὦᾦ ὧᾧ Ὠᾨ Ὡᾩ Ὢᾪ Ὣᾫ Ὤᾬ Ὥᾭ Ὦᾮ"),
  (0x345, "Ὧᾯ ὰᾲ ὴῂ ὼῲ ᾶᾷ ῆῇ ῶῷ"), (0x653, "اآ"), (0x654, "اأ وؤ يئ ہۂ ےۓ ەۀ"), (0x655, "اإ"),
  (0x93C, "नऩ रऱ ळऴ"), (0x9BE, "\u09c7\u09cb"), (0x9D7, "\u09c7\u09cc"), (0xB3E, "\u0b47\u0b4b"),
  (0xB56, "\u0b47\u0b48"), (0xB57, "\u0b47\u0b4c"), (0xBBE, "\u0bc6\u0bca \u0bc7\u0bcb"),
  (0xBD7, "ஒஔ \u0bc6\u0bcc"), (0xC56, "\u0c46\u0c48"), (0xCC2, "\u0cc6\u0cca"),
  (0xCD5, "\u0cbf\u0cc0 \u0cc6\u0cc7 \u0cca\u0ccb"), (0xCD6, "\u0cc6\u0cc8"),
  (0xD3E, "\u0d46\u0d4a \u0d47\u0d4b"), (0xD57, "\u0d46\u0d4c"),
  (0xDCA, "\u0dd9\u0dda \u0ddc\u0ddd"), (0xDCF, "\u0dd9\u0ddc"), (0xDDF, "\u0dd9\u0dde"),
  (0x102E, "ဥဦ"),
  (0x1B35, "ᬅᬆ ᬇᬈ ᬉᬊ ᬋᬌ ᬍᬎ ᬑᬒ \u1b3a\u1b3b \u1b3c\u1b3d \u1b3e\u1b40 \u1b3f\u1b41 \u1b42\u1b43"),
  (0x3099, "うゔ かが きぎ くぐ けげ こご さざ しじ すず せぜ そぞ ただ ちぢ つづ てで とど はば ひび ふぶ へべ ほぼ ゝゞ ウヴ カガ キギ クグ ケゲ コゴ"),
  (0x3099, "サザ シジ スズ セゼ ソゾ タダ チヂ ツヅ テデ トド ハバ ヒビ フブ ヘベ ホボ ワヷ ヰヸ ヱヹ ヲヺ ヽヾ"),
  (0x309A, "はぱ ひぴ ふぷ へぺ ほぽ ハパ ヒピ フプ ヘペ ホポ"), (0x110BA, "𑂙𑂚 𑂛𑂜 𑂥𑂫"), (0x11127, "𑄱𑄮 𑄲𑄯"),
  (0x1133E, "𑍇𑍋"), (0x11357, "𑍇𑍌"), (0x114B0, "𑒹𑒼"), (0x114BA, "𑒹𑒻"), (0x114BD, "𑒹𑒾"),
  (0x115AF, "𑖸𑖺 𑖹𑖻"), (0x11930, "𑤵𑤸")]

end Text

end OwnerBinding
