import Elevation.Text.Printable

/-!
The direction in which characters are written, and what directions a label may mix.

A label with a character of a script that runs from right to left has to start with a letter, must
not mix two kinds of numbers, and must end with a letter or number of its own direction, marks left
aside. A label without such a character is free.
-/
namespace Elevation.Standin.Hostname

inductive Direction where
  | left
  | right
  | arabic
  | arabicNumber
  | number
  | separator
  | mark
  | neutral
  | boundary
  deriving DecidableEq, Repr

/-- The directions of the characters that a label may hold, by runs in increasing order. -/
def directionRuns : Array (Nat × Nat × Direction) := #[
  (0x2d, 0x2d, .separator), (0x30, 0x39, .number), (0x61, 0x7a, .left), (0xb7, 0xb7, .neutral),
  (0xdf, 0x2af, .left), (0x2b9, 0x2ba, .neutral), (0x2bb, 0x2c1, .left), (0x2c6, 0x2cf, .neutral),
  (0x2d0, 0x2d1, .left), (0x2ec, 0x2ec, .neutral), (0x2ee, 0x2ee, .left), (0x300, 0x36f, .mark),
  (0x371, 0x373, .left), (0x375, 0x375, .neutral), (0x377, 0x481, .left), (0x483, 0x487, .mark),
  (0x48b, 0x588, .left), (0x591, 0x5c7, .mark), (0x5d0, 0x5f4, .right), (0x610, 0x61a, .mark),
  (0x620, 0x64a, .arabic), (0x64b, 0x65f, .mark), (0x660, 0x669, .arabicNumber),
  (0x66e, 0x66f, .arabic), (0x670, 0x670, .mark), (0x671, 0x6d5, .arabic), (0x6d6, 0x6e4, .mark),
  (0x6e5, 0x6e6, .arabic), (0x6e7, 0x6ed, .mark), (0x6ee, 0x6ef, .arabic), (0x6f0, 0x6f9, .number),
  (0x6fa, 0x710, .arabic), (0x711, 0x711, .mark), (0x712, 0x72f, .arabic), (0x730, 0x74a, .mark),
  (0x74d, 0x7a5, .arabic), (0x7a6, 0x7b0, .mark), (0x7b1, 0x7b1, .arabic), (0x7c0, 0x7ea, .right),
  (0x7eb, 0x7f3, .mark), (0x7f4, 0x7f5, .right), (0x7fd, 0x7fd, .mark), (0x800, 0x815, .right),
  (0x816, 0x819, .mark), (0x81a, 0x81a, .right), (0x81b, 0x823, .mark), (0x824, 0x824, .right),
  (0x825, 0x827, .mark), (0x828, 0x828, .right), (0x829, 0x82d, .mark), (0x840, 0x858, .right),
  (0x859, 0x85b, .mark), (0x860, 0x88e, .arabic), (0x898, 0x89f, .mark), (0x8a0, 0x8c9, .arabic),
  (0x8ca, 0x902, .mark), (0x903, 0x939, .left), (0x93a, 0x93a, .mark), (0x93b, 0x93b, .left),
  (0x93c, 0x93c, .mark), (0x93d, 0x940, .left), (0x941, 0x948, .mark), (0x949, 0x94c, .left),
  (0x94d, 0x94d, .mark), (0x94e, 0x950, .left), (0x951, 0x957, .mark), (0x960, 0x961, .left),
  (0x962, 0x963, .mark), (0x966, 0x980, .left), (0x981, 0x981, .mark), (0x982, 0x9b9, .left),
  (0x9bc, 0x9bc, .mark), (0x9bd, 0x9c0, .left), (0x9c1, 0x9c4, .mark), (0x9c7, 0x9cc, .left),
  (0x9cd, 0x9cd, .mark), (0x9ce, 0x9e1, .left), (0x9e2, 0x9e3, .mark), (0x9e6, 0x9fc, .left),
  (0x9fe, 0xa02, .mark), (0xa03, 0xa39, .left), (0xa3c, 0xa3c, .mark), (0xa3e, 0xa40, .left),
  (0xa41, 0xa51, .mark), (0xa5c, 0xa6f, .left), (0xa70, 0xa71, .mark), (0xa72, 0xa74, .left),
  (0xa75, 0xa82, .mark), (0xa83, 0xab9, .left), (0xabc, 0xabc, .mark), (0xabd, 0xac0, .left),
  (0xac1, 0xac8, .mark), (0xac9, 0xacc, .left), (0xacd, 0xacd, .mark), (0xad0, 0xae1, .left),
  (0xae2, 0xae3, .mark), (0xae6, 0xaf9, .left), (0xafa, 0xb01, .mark), (0xb02, 0xb39, .left),
  (0xb3c, 0xb3c, .mark), (0xb3d, 0xb3e, .left), (0xb3f, 0xb3f, .mark), (0xb40, 0xb40, .left),
  (0xb41, 0xb44, .mark), (0xb47, 0xb4c, .left), (0xb4d, 0xb56, .mark), (0xb57, 0xb61, .left),
  (0xb62, 0xb63, .mark), (0xb66, 0xb71, .left), (0xb82, 0xb82, .mark), (0xb83, 0xbbf, .left),
  (0xbc0, 0xbc0, .mark), (0xbc1, 0xbcc, .left), (0xbcd, 0xbcd, .mark), (0xbd0, 0xbef, .left),
  (0xc00, 0xc00, .mark), (0xc01, 0xc03, .left), (0xc04, 0xc04, .mark), (0xc05, 0xc39, .left),
  (0xc3c, 0xc3c, .mark), (0xc3d, 0xc3d, .left), (0xc3e, 0xc40, .mark), (0xc41, 0xc44, .left),
  (0xc46, 0xc56, .mark), (0xc58, 0xc5a, .left), (0xc5d, 0xc61, .left), (0xc62, 0xc63, .mark),
  (0xc66, 0xc80, .left), (0xc81, 0xc81, .mark), (0xc82, 0xcb9, .left), (0xcbc, 0xcbc, .mark),
  (0xcbd, 0xccb, .left), (0xccc, 0xccd, .mark), (0xcd5, 0xcd6, .left), (0xcdd, 0xce1, .left),
  (0xce2, 0xce3, .mark), (0xce6, 0xcf2, .left), (0xd00, 0xd01, .mark), (0xd02, 0xd3a, .left),
  (0xd3b, 0xd3c, .mark), (0xd3d, 0xd40, .left), (0xd41, 0xd44, .mark), (0xd46, 0xd4c, .left),
  (0xd4d, 0xd4d, .mark), (0xd4e, 0xd61, .left), (0xd62, 0xd63, .mark), (0xd66, 0xd7f, .left),
  (0xd81, 0xd81, .mark), (0xd82, 0xdc6, .left), (0xdca, 0xdca, .mark), (0xdcf, 0xdd1, .left),
  (0xdd2, 0xdd6, .mark), (0xdd8, 0xe30, .left), (0xe31, 0xe31, .mark), (0xe32, 0xe32, .left),
  (0xe34, 0xe3a, .mark), (0xe40, 0xe46, .left), (0xe47, 0xe4e, .mark), (0xe50, 0xeb0, .left),
  (0xeb1, 0xeb1, .mark), (0xeb2, 0xeb2, .left), (0xeb4, 0xebc, .mark), (0xebd, 0xec6, .left),
  (0xec8, 0xecd, .mark), (0xed0, 0xf0b, .left), (0xf18, 0xf19, .mark), (0xf20, 0xf29, .left),
  (0xf35, 0xf39, .mark), (0xf3e, 0xf6c, .left), (0xf71, 0xf7e, .mark), (0xf7f, 0xf7f, .left),
  (0xf80, 0xf87, .mark), (0xf88, 0xf8c, .left), (0xf8d, 0xfc6, .mark), (0x1000, 0x102c, .left),
  (0x102d, 0x1030, .mark), (0x1031, 0x1031, .left), (0x1032, 0x1037, .mark),
  (0x1038, 0x1038, .left), (0x1039, 0x103a, .mark), (0x103b, 0x103c, .left),
  (0x103d, 0x103e, .mark), (0x103f, 0x1057, .left), (0x1058, 0x1059, .mark),
  (0x105a, 0x105d, .left), (0x105e, 0x1060, .mark), (0x1061, 0x1070, .left),
  (0x1071, 0x1074, .mark), (0x1075, 0x1081, .left), (0x1082, 0x1082, .mark),
  (0x1083, 0x1084, .left), (0x1085, 0x1086, .mark), (0x1087, 0x108c, .left),
  (0x108d, 0x108d, .mark), (0x108e, 0x109c, .left), (0x109d, 0x109d, .mark),
  (0x10d0, 0x135a, .left), (0x135d, 0x135f, .mark), (0x1380, 0x1711, .left),
  (0x1712, 0x1714, .mark), (0x1715, 0x1731, .left), (0x1732, 0x1733, .mark),
  (0x1734, 0x1751, .left), (0x1752, 0x1753, .mark), (0x1760, 0x1770, .left),
  (0x1772, 0x1773, .mark), (0x1780, 0x17b6, .left), (0x17b7, 0x17bd, .mark),
  (0x17be, 0x17c5, .left), (0x17c6, 0x17c6, .mark), (0x17c7, 0x17c8, .left),
  (0x17c9, 0x17d3, .mark), (0x17d7, 0x17dc, .left), (0x17dd, 0x17dd, .mark),
  (0x17e0, 0x1884, .left), (0x1885, 0x1886, .mark), (0x1887, 0x18a8, .left),
  (0x18a9, 0x18a9, .mark), (0x18aa, 0x191e, .left), (0x1920, 0x1922, .mark),
  (0x1923, 0x1926, .left), (0x1927, 0x1928, .mark), (0x1929, 0x1931, .left),
  (0x1932, 0x1932, .mark), (0x1933, 0x1938, .left), (0x1939, 0x193b, .mark),
  (0x1946, 0x1a16, .left), (0x1a17, 0x1a18, .mark), (0x1a19, 0x1a1a, .left),
  (0x1a1b, 0x1a1b, .mark), (0x1a20, 0x1a55, .left), (0x1a56, 0x1a56, .mark),
  (0x1a57, 0x1a57, .left), (0x1a58, 0x1a60, .mark), (0x1a61, 0x1a61, .left),
  (0x1a62, 0x1a62, .mark), (0x1a63, 0x1a64, .left), (0x1a65, 0x1a6c, .mark),
  (0x1a6d, 0x1a72, .left), (0x1a73, 0x1a7f, .mark), (0x1a80, 0x1aa7, .left),
  (0x1ab0, 0x1ace, .mark), (0x1b00, 0x1b03, .mark), (0x1b04, 0x1b33, .left),
  (0x1b34, 0x1b34, .mark), (0x1b35, 0x1b35, .left), (0x1b36, 0x1b3a, .mark),
  (0x1b3b, 0x1b3b, .left), (0x1b3c, 0x1b3c, .mark), (0x1b3d, 0x1b41, .left),
  (0x1b42, 0x1b42, .mark), (0x1b43, 0x1b59, .left), (0x1b6b, 0x1b81, .mark),
  (0x1b82, 0x1ba1, .left), (0x1ba2, 0x1ba5, .mark), (0x1ba6, 0x1ba7, .left),
  (0x1ba8, 0x1ba9, .mark), (0x1baa, 0x1baa, .left), (0x1bab, 0x1bad, .mark),
  (0x1bae, 0x1be5, .left), (0x1be6, 0x1be6, .mark), (0x1be7, 0x1be7, .left),
  (0x1be8, 0x1be9, .mark), (0x1bea, 0x1bec, .left), (0x1bed, 0x1bed, .mark),
  (0x1bee, 0x1bee, .left), (0x1bef, 0x1bf1, .mark), (0x1bf2, 0x1c2b, .left),
  (0x1c2c, 0x1c33, .mark), (0x1c34, 0x1c35, .left), (0x1c36, 0x1c37, .mark),
  (0x1c40, 0x1c7d, .left), (0x1cd0, 0x1ce0, .mark), (0x1ce1, 0x1ce1, .left),
  (0x1ce2, 0x1ce8, .mark), (0x1ce9, 0x1cec, .left), (0x1ced, 0x1ced, .mark),
  (0x1cee, 0x1cf3, .left), (0x1cf4, 0x1cf4, .mark), (0x1cf5, 0x1cf7, .left),
  (0x1cf8, 0x1cf9, .mark), (0x1cfa, 0x1d9a, .left), (0x1dc0, 0x1dff, .mark),
  (0x1e01, 0x1ff6, .left), (0x200c, 0x200d, .boundary), (0x214e, 0x2cee, .left),
  (0x2cef, 0x2cf1, .mark), (0x2cf3, 0x2d67, .left), (0x2d7f, 0x2d7f, .mark),
  (0x2d80, 0x2dde, .left), (0x2de0, 0x2dff, .mark), (0x2e2f, 0x2e2f, .neutral),
  (0x3005, 0x3007, .left), (0x302a, 0x302d, .mark), (0x303c, 0x3096, .left),
  (0x3099, 0x309a, .mark), (0x309d, 0x30fa, .left), (0x30fb, 0x30fb, .neutral),
  (0x30fc, 0xa66e, .left), (0xa66f, 0xa67d, .mark), (0xa67f, 0xa67f, .neutral),
  (0xa681, 0xa69b, .left), (0xa69e, 0xa69f, .mark), (0xa6a0, 0xa6e5, .left),
  (0xa6f0, 0xa6f1, .mark), (0xa717, 0xa71f, .neutral), (0xa723, 0xa787, .left),
  (0xa788, 0xa788, .neutral), (0xa78c, 0xa7ca, .left), (0xa7d1, 0xa7d9, .left),
  (0xa7f6, 0xa801, .left), (0xa802, 0xa802, .mark), (0xa803, 0xa805, .left),
  (0xa806, 0xa806, .mark), (0xa807, 0xa80a, .left), (0xa80b, 0xa80b, .mark),
  (0xa80c, 0xa824, .left), (0xa825, 0xa826, .mark), (0xa827, 0xa827, .left),
  (0xa82c, 0xa82c, .mark), (0xa840, 0xa8c3, .left), (0xa8c4, 0xa8c5, .mark),
  (0xa8d0, 0xa8d9, .left), (0xa8e0, 0xa8f1, .mark), (0xa8f2, 0xa8fe, .left),
  (0xa8ff, 0xa8ff, .mark), (0xa900, 0xa925, .left), (0xa926, 0xa92d, .mark),
  (0xa930, 0xa946, .left), (0xa947, 0xa951, .mark), (0xa952, 0xa953, .left),
  (0xa980, 0xa982, .mark), (0xa983, 0xa9b2, .left), (0xa9b3, 0xa9b3, .mark),
  (0xa9b4, 0xa9b5, .left), (0xa9b6, 0xa9b9, .mark), (0xa9ba, 0xa9bb, .left),
  (0xa9bc, 0xa9bd, .mark), (0xa9be, 0xa9e4, .left), (0xa9e5, 0xa9e5, .mark),
  (0xa9e6, 0xaa28, .left), (0xaa29, 0xaa2e, .mark), (0xaa2f, 0xaa30, .left),
  (0xaa31, 0xaa32, .mark), (0xaa33, 0xaa34, .left), (0xaa35, 0xaa36, .mark),
  (0xaa40, 0xaa42, .left), (0xaa43, 0xaa43, .mark), (0xaa44, 0xaa4b, .left),
  (0xaa4c, 0xaa4c, .mark), (0xaa4d, 0xaa7b, .left), (0xaa7c, 0xaa7c, .mark),
  (0xaa7d, 0xaaaf, .left), (0xaab0, 0xaab0, .mark), (0xaab1, 0xaab1, .left),
  (0xaab2, 0xaab4, .mark), (0xaab5, 0xaab6, .left), (0xaab7, 0xaab8, .mark),
  (0xaab9, 0xaabd, .left), (0xaabe, 0xaabf, .mark), (0xaac0, 0xaac0, .left),
  (0xaac1, 0xaac1, .mark), (0xaac2, 0xaaeb, .left), (0xaaec, 0xaaed, .mark),
  (0xaaee, 0xaaf5, .left), (0xaaf6, 0xaaf6, .mark), (0xab01, 0xabe4, .left),
  (0xabe5, 0xabe5, .mark), (0xabe6, 0xabe7, .left), (0xabe8, 0xabe8, .mark),
  (0xabe9, 0xabec, .left), (0xabed, 0xabed, .mark), (0xabf0, 0xfa29, .left),
  (0xfb1e, 0xfe2f, .mark), (0xfe73, 0xfe73, .arabic), (0x10000, 0x100fa, .left),
  (0x101fd, 0x101fd, .mark), (0x10280, 0x102d0, .left), (0x102e0, 0x102e0, .mark),
  (0x10300, 0x10375, .left), (0x10376, 0x1037a, .mark), (0x10380, 0x105bc, .left),
  (0x10600, 0x10780, .left), (0x10800, 0x10939, .right), (0x10980, 0x10a00, .right),
  (0x10a01, 0x10a0f, .mark), (0x10a10, 0x10a35, .right), (0x10a38, 0x10a3f, .mark),
  (0x10a60, 0x10ae4, .right), (0x10ae5, 0x10ae6, .mark), (0x10b00, 0x10cf2, .right),
  (0x10d00, 0x10d23, .arabic), (0x10d24, 0x10d27, .mark), (0x10d30, 0x10d39, .arabicNumber),
  (0x10e80, 0x10ea9, .right), (0x10eab, 0x10eac, .mark), (0x10eb0, 0x10eb1, .right),
  (0x10f00, 0x10f27, .right), (0x10f30, 0x10f45, .arabic), (0x10f46, 0x10f50, .mark),
  (0x10f70, 0x10f81, .right), (0x10f82, 0x10f85, .mark), (0x10fb0, 0x10ff6, .right),
  (0x11000, 0x11000, .left), (0x11001, 0x11001, .mark), (0x11002, 0x11037, .left),
  (0x11038, 0x11046, .mark), (0x11066, 0x1106f, .left), (0x11070, 0x11070, .mark),
  (0x11071, 0x11072, .left), (0x11073, 0x11074, .mark), (0x11075, 0x11075, .left),
  (0x1107f, 0x11081, .mark), (0x11082, 0x110b2, .left), (0x110b3, 0x110b6, .mark),
  (0x110b7, 0x110b8, .left), (0x110b9, 0x110c2, .mark), (0x110d0, 0x110f9, .left),
  (0x11100, 0x11102, .mark), (0x11103, 0x11126, .left), (0x11127, 0x1112b, .mark),
  (0x1112c, 0x1112c, .left), (0x1112d, 0x11134, .mark), (0x11136, 0x11172, .left),
  (0x11173, 0x11173, .mark), (0x11176, 0x11176, .left), (0x11180, 0x11181, .mark),
  (0x11182, 0x111b5, .left), (0x111b6, 0x111be, .mark), (0x111bf, 0x111c4, .left),
  (0x111c9, 0x111cc, .mark), (0x111ce, 0x111ce, .left), (0x111cf, 0x111cf, .mark),
  (0x111d0, 0x1122e, .left), (0x1122f, 0x11231, .mark), (0x11232, 0x11233, .left),
  (0x11234, 0x11234, .mark), (0x11235, 0x11235, .left), (0x11236, 0x1123e, .mark),
  (0x11280, 0x112de, .left), (0x112df, 0x112df, .mark), (0x112e0, 0x112e2, .left),
  (0x112e3, 0x112ea, .mark), (0x112f0, 0x112f9, .left), (0x11300, 0x11301, .mark),
  (0x11302, 0x11339, .left), (0x1133b, 0x1133c, .mark), (0x1133d, 0x1133f, .left),
  (0x11340, 0x11340, .mark), (0x11341, 0x11363, .left), (0x11366, 0x11374, .mark),
  (0x11400, 0x11437, .left), (0x11438, 0x1143f, .mark), (0x11440, 0x11441, .left),
  (0x11442, 0x11444, .mark), (0x11445, 0x11445, .left), (0x11446, 0x11446, .mark),
  (0x11447, 0x11459, .left), (0x1145e, 0x1145e, .mark), (0x1145f, 0x114b2, .left),
  (0x114b3, 0x114b8, .mark), (0x114b9, 0x114b9, .left), (0x114ba, 0x114ba, .mark),
  (0x114bb, 0x114be, .left), (0x114bf, 0x114c0, .mark), (0x114c1, 0x114c1, .left),
  (0x114c2, 0x114c3, .mark), (0x114c4, 0x115b1, .left), (0x115b2, 0x115b5, .mark),
  (0x115b8, 0x115bb, .left), (0x115bc, 0x115bd, .mark), (0x115be, 0x115be, .left),
  (0x115bf, 0x115c0, .mark), (0x115d8, 0x115db, .left), (0x115dc, 0x115dd, .mark),
  (0x11600, 0x11632, .left), (0x11633, 0x1163a, .mark), (0x1163b, 0x1163c, .left),
  (0x1163d, 0x1163d, .mark), (0x1163e, 0x1163e, .left), (0x1163f, 0x11640, .mark),
  (0x11644, 0x116aa, .left), (0x116ab, 0x116ab, .mark), (0x116ac, 0x116ac, .left),
  (0x116ad, 0x116ad, .mark), (0x116ae, 0x116af, .left), (0x116b0, 0x116b5, .mark),
  (0x116b6, 0x116b6, .left), (0x116b7, 0x116b7, .mark), (0x116b8, 0x116c9, .left),
  (0x11700, 0x1171a, .left), (0x1171d, 0x1171f, .mark), (0x11720, 0x11721, .left),
  (0x11722, 0x11725, .mark), (0x11726, 0x11726, .left), (0x11727, 0x1172b, .mark),
  (0x11730, 0x1182e, .left), (0x1182f, 0x11837, .mark), (0x11838, 0x11838, .left),
  (0x11839, 0x1183a, .mark), (0x118c0, 0x11938, .left), (0x1193b, 0x1193c, .mark),
  (0x1193d, 0x1193d, .left), (0x1193e, 0x1193e, .mark), (0x1193f, 0x11942, .left),
  (0x11943, 0x11943, .mark), (0x11950, 0x119d3, .left), (0x119d4, 0x119db, .mark),
  (0x119dc, 0x119df, .left), (0x119e0, 0x119e0, .mark), (0x119e1, 0x11a00, .left),
  (0x11a01, 0x11a06, .mark), (0x11a07, 0x11a08, .left), (0x11a09, 0x11a0a, .mark),
  (0x11a0b, 0x11a32, .left), (0x11a33, 0x11a38, .mark), (0x11a39, 0x11a3a, .left),
  (0x11a3b, 0x11a47, .mark), (0x11a50, 0x11a50, .left), (0x11a51, 0x11a56, .mark),
  (0x11a57, 0x11a58, .left), (0x11a59, 0x11a5b, .mark), (0x11a5c, 0x11a89, .left),
  (0x11a8a, 0x11a96, .mark), (0x11a97, 0x11a97, .left), (0x11a98, 0x11a99, .mark),
  (0x11a9d, 0x11af8, .left), (0x11c00, 0x11c2f, .left), (0x11c30, 0x11c3d, .mark),
  (0x11c3e, 0x11c8f, .left), (0x11c92, 0x11ca7, .mark), (0x11ca9, 0x11ca9, .left),
  (0x11caa, 0x11cb0, .mark), (0x11cb1, 0x11cb1, .left), (0x11cb2, 0x11cb3, .mark),
  (0x11cb4, 0x11cb4, .left), (0x11cb5, 0x11cb6, .mark), (0x11d00, 0x11d30, .left),
  (0x11d31, 0x11d45, .mark), (0x11d46, 0x11d46, .left), (0x11d47, 0x11d47, .mark),
  (0x11d50, 0x11d8e, .left), (0x11d90, 0x11d91, .mark), (0x11d93, 0x11d94, .left),
  (0x11d95, 0x11d95, .mark), (0x11d96, 0x11d96, .left), (0x11d97, 0x11d97, .mark),
  (0x11d98, 0x11da9, .left), (0x11ee0, 0x11ef2, .left), (0x11ef3, 0x11ef4, .mark),
  (0x11ef5, 0x11ef6, .left), (0x11fb0, 0x1342e, .left), (0x14400, 0x14646, .left),
  (0x16800, 0x16aed, .left), (0x16af0, 0x16af4, .mark), (0x16b00, 0x16b2f, .left),
  (0x16b30, 0x16b36, .mark), (0x16b40, 0x16b8f, .left), (0x16e60, 0x16e7f, .left),
  (0x16f00, 0x16f4a, .left), (0x16f4f, 0x16f4f, .mark), (0x16f50, 0x16f87, .left),
  (0x16f8f, 0x16f92, .mark), (0x16f93, 0x16fe3, .left), (0x16fe4, 0x16fe4, .mark),
  (0x16ff0, 0x16ff1, .left), (0x17000, 0x187f7, .left), (0x18800, 0x18cd5, .left),
  (0x18d00, 0x18d08, .left), (0x1aff0, 0x1b122, .left), (0x1b150, 0x1b152, .left),
  (0x1b164, 0x1bc99, .left), (0x1bc9d, 0x1daaf, .mark), (0x1df00, 0x1df1e, .left),
  (0x1e000, 0x1e02a, .mark), (0x1e100, 0x1e12c, .left), (0x1e130, 0x1e136, .mark),
  (0x1e137, 0x1e2ad, .left), (0x1e2ae, 0x1e2ae, .mark), (0x1e2c0, 0x1e2eb, .left),
  (0x1e2ec, 0x1e2ef, .mark), (0x1e2f0, 0x1e2f9, .left), (0x1e7e0, 0x1e7fe, .left),
  (0x1e800, 0x1e8c4, .right), (0x1e8d0, 0x1e8d6, .mark), (0x1e922, 0x1e943, .right),
  (0x1e944, 0x1e94a, .mark), (0x1e94b, 0x1e959, .right), (0x20000, 0x2b738, .left),
  (0x2b740, 0x2cea1, .left), (0x2ceb0, 0x2ebe0, .left), (0x30000, 0x3134a, .left)]

/-- The direction of a character that a label may hold; the latest characters have none yet. -/
def direction? (code : Nat) : Option Direction := Text.valueAt? directionRuns code

namespace Direction

/-- Whether a character of this direction makes the rules of mixed directions apply. -/
def isRightward : Direction → Bool
  | right | arabic | arabicNumber => true
  | _ => false

def fitsRight (direction : Direction) : Bool := direction ≠ left

def fitsLeft (direction : Direction) : Bool := !direction.isRightward

def endsRight : Direction → Bool
  | right | arabic | number | arabicNumber => true
  | _ => false

def endsLeft : Direction → Bool
  | left | number => true
  | _ => false

def isNumeral (direction : Direction) : Bool := direction = number || direction = arabicNumber

end Direction

/-- How a label breaks the rules of mixed directions; places are counted from one. -/
inductive DirectionFault where
  | unknown (place : Nat)
  | firstCharacter
  | withinRight (place : Nat)
  | withinLeft (place : Nat)
  | mixedNumerals
  | lastCharacter
  deriving DecidableEq, Repr

def directionsFrom (place : Nat) : List Nat → Except DirectionFault (List Direction)
  | [] => .ok []
  | code :: rest =>
    match direction? code with
    | none => .error (.unknown place)
    | some direction => (directionsFrom (place + 1) rest).map (direction :: ·)

/-- Checks a label from right to left, `numeral` being the kind of numbers met so far. -/
def checkRight (place : Nat) (numeral : Option Direction) : List Direction → Option DirectionFault
  | [] => none
  | direction :: rest =>
    if !direction.fitsRight then some (.withinRight place)
    else if direction.isNumeral then
      if numeral.isSome && numeral ≠ some direction then some .mixedNumerals
      else checkRight (place + 1) (some direction) rest
    else checkRight (place + 1) numeral rest

def checkLeft (place : Nat) : List Direction → Option DirectionFault
  | [] => none
  | direction :: rest =>
    if !direction.fitsLeft then some (.withinLeft place) else checkLeft (place + 1) rest

/-- The last direction, marks left aside, has to be one at which a label may end. -/
def checkEnd (mayEnd : Direction → Bool) (directions : List Direction) : Option DirectionFault :=
  match directions.reverse.find? (· ≠ .mark) with
  | some last => if mayEnd last then none else some .lastCharacter
  | none => some .lastCharacter

def directionFault? (label : List Nat) : Option DirectionFault :=
  match directionsFrom 1 label with
  | .error fault => some fault
  | .ok directions =>
    if directions.any Direction.isRightward then
      match directions.head? with
      | some .right | some .arabic =>
        (checkRight 1 none directions).or (checkEnd Direction.endsRight directions)
      | some .left => (checkLeft 1 directions).or (checkEnd Direction.endsLeft directions)
      | _ => some .firstCharacter
    else none

end Elevation.Standin.Hostname
