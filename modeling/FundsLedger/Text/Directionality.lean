import FundsLedger.Text.Mark

/-!
# Directions of characters

Letters run from left to right or from right to left. Digits run from left to right also in a text
that does not, and what is between letters and digits takes the direction around it.
-/

namespace FundsLedger.Text

inductive Directionality where
  | leftToRight
  | rightToLeft
  | europeanNumber
  | arabicNumber
  | nonspacing
  | neutral
deriving DecidableEq, Repr

/-- The code points with a class among `R` and `AL`, those of scripts from right to left that are
not assigned included. -/
def rightToLeftLetters : CharSet where
  turns := [
    0x590, 0x591, 0x5be, 0x5bf, 0x5c0, 0x5c1, 0x5c3, 0x5c4, 0x5c6, 0x5c7, 0x5c8, 0x600, 0x608,
    0x609, 0x60b, 0x60c, 0x60d, 0x60e, 0x61b, 0x64b, 0x66d, 0x670, 0x671, 0x6d6, 0x6e5, 0x6e7,
    0x6ee, 0x6f0, 0x6fa, 0x711, 0x712, 0x730, 0x74b, 0x7a6, 0x7b1, 0x7eb, 0x7f4, 0x7f6, 0x7fa,
    0x7fd, 0x7fe, 0x816, 0x81a, 0x81b, 0x824, 0x825, 0x828, 0x829, 0x82e, 0x859, 0x85c, 0x890,
    0x892, 0x897, 0x8a0, 0x8ca, 0x200f, 0x2010, 0xfb1d, 0xfb1e, 0xfb1f, 0xfb29, 0xfb2a, 0xfbc3,
    0xfbd3, 0xfd3e, 0xfd50, 0xfd90, 0xfd92, 0xfdc8, 0xfdf0, 0xfdfd, 0xfe70, 0xfeff, 0x10800,
    0x1091f, 0x10920, 0x10a01, 0x10a04, 0x10a05, 0x10a07, 0x10a0c, 0x10a10, 0x10a38, 0x10a3b,
    0x10a3f, 0x10a40, 0x10ae5, 0x10ae7, 0x10b39, 0x10b40, 0x10d24, 0x10d28, 0x10d30, 0x10d3a,
    0x10d40, 0x10d4a, 0x10d69, 0x10d6f, 0x10e60, 0x10e7f, 0x10eab, 0x10ead, 0x10ed0, 0x10ed9,
    0x10efa, 0x10f00, 0x10f46, 0x10f51, 0x10f82, 0x10f86, 0x11000, 0x1e800, 0x1e8d0, 0x1e8d7,
    0x1e944, 0x1e94b, 0x1eef0, 0x1eef2, 0x1f000]

/-- The code points of the class `EN`. -/
def europeanNumbers : CharSet where
  turns := [
    0x30, 0x3a, 0xb2, 0xb4, 0xb9, 0xba, 0x6f0, 0x6fa, 0x2070, 0x2071, 0x2074, 0x207a, 0x2080,
    0x208a, 0x2488, 0x249c, 0xff10, 0xff1a, 0x102e1, 0x102fc, 0x1ccf0, 0x1ccfa, 0x1d7ce, 0x1d800,
    0x1f100, 0x1f10b, 0x1fbf0, 0x1fbfa]

/-- The code points of the class `AN`. -/
def arabicNumbers : CharSet where
  turns := [
    0x600, 0x606, 0x660, 0x66a, 0x66b, 0x66d, 0x6dd, 0x6de, 0x890, 0x892, 0x8e2, 0x8e3, 0x10d30,
    0x10d3a, 0x10d40, 0x10d4a, 0x10e60, 0x10e7f]

/-- The code points of all the classes without a direction of their own, marks and numbers
excepted. -/
def neutrals : CharSet where
  turns := [
    0x0, 0x30, 0x3a, 0x41, 0x5b, 0x61, 0x7b, 0xaa, 0xab, 0xb2, 0xb4, 0xb5, 0xb6, 0xb9, 0xbb, 0xc0,
    0xd7, 0xd8, 0xf7, 0xf8, 0x2b9, 0x2bb, 0x2c2, 0x2d0, 0x2d2, 0x2e0, 0x2e5, 0x2ee, 0x2ef, 0x300,
    0x374, 0x376, 0x37e, 0x37f, 0x384, 0x386, 0x387, 0x388, 0x3f6, 0x3f7, 0x58a, 0x58b, 0x58d,
    0x590, 0x606, 0x608, 0x609, 0x60b, 0x60c, 0x60d, 0x60e, 0x610, 0x66a, 0x66b, 0x6de, 0x6df,
    0x6e9, 0x6ea, 0x7f6, 0x7fa, 0x9f2, 0x9f4, 0x9fb, 0x9fc, 0xaf1, 0xaf2, 0xbf3, 0xbfb, 0xc78,
    0xc7f, 0xe3f, 0xe40, 0xf3a, 0xf3e, 0x1390, 0x139a, 0x1400, 0x1401, 0x1680, 0x1681, 0x169b,
    0x169d, 0x17db, 0x17dc, 0x17f0, 0x17fa, 0x1800, 0x180b, 0x180e, 0x180f, 0x1940, 0x1941, 0x1944,
    0x1946, 0x19de, 0x1a00, 0x1fbd, 0x1fbe, 0x1fbf, 0x1fc2, 0x1fcd, 0x1fd0, 0x1fdd, 0x1fe0, 0x1fed,
    0x1ff0, 0x1ffd, 0x1fff, 0x2000, 0x200e, 0x2010, 0x2070, 0x207a, 0x207f, 0x208a, 0x208f, 0x20a0,
    0x20d0, 0x2100, 0x2102, 0x2103, 0x2107, 0x2108, 0x210a, 0x2114, 0x2115, 0x2116, 0x2119, 0x211e,
    0x2124, 0x2125, 0x2126, 0x2127, 0x2128, 0x2129, 0x212a, 0x212e, 0x212f, 0x213a, 0x213c, 0x2140,
    0x2145, 0x214a, 0x214e, 0x2150, 0x2160, 0x2189, 0x218c, 0x2190, 0x2336, 0x237b, 0x2395, 0x2396,
    0x242a, 0x2440, 0x244b, 0x2460, 0x2488, 0x24ea, 0x26ac, 0x26ad, 0x2800, 0x2900, 0x2b74, 0x2b76,
    0x2c00, 0x2ce5, 0x2ceb, 0x2cf9, 0x2d00, 0x2e00, 0x2e5e, 0x2e80, 0x2e9a, 0x2e9b, 0x2ef4, 0x2f00,
    0x2fd6, 0x2ff0, 0x3005, 0x3008, 0x3021, 0x3030, 0x3031, 0x3036, 0x3038, 0x303d, 0x3040, 0x309b,
    0x309d, 0x30a0, 0x30a1, 0x30fb, 0x30fc, 0x31c0, 0x31e6, 0x31ef, 0x31f0, 0x321d, 0x321f, 0x3250,
    0x3260, 0x327c, 0x327f, 0x32b1, 0x32c0, 0x32cc, 0x32d0, 0x3377, 0x337b, 0x33de, 0x33e0, 0x33ff,
    0x3400, 0x4dc0, 0x4e00, 0xa490, 0xa4c7, 0xa60d, 0xa610, 0xa673, 0xa674, 0xa67e, 0xa680, 0xa700,
    0xa722, 0xa788, 0xa789, 0xa828, 0xa82c, 0xa838, 0xa83a, 0xa874, 0xa878, 0xab6a, 0xab6c, 0xfb29,
    0xfb2a, 0xfbc3, 0xfbd3, 0xfd3e, 0xfd50, 0xfd90, 0xfd92, 0xfdc8, 0xfdf0, 0xfdfd, 0xfe00, 0xfe10,
    0xfe1a, 0xfe30, 0xfe53, 0xfe54, 0xfe67, 0xfe68, 0xfe6c, 0xfeff, 0xff00, 0xff01, 0xff10, 0xff1a,
    0xff21, 0xff3b, 0xff41, 0xff5b, 0xff66, 0xffe0, 0xffe7, 0xffe8, 0xffef, 0xfff0, 0x10000,
    0x10101, 0x10102, 0x10140, 0x1018d, 0x10190, 0x1019d, 0x101a0, 0x101a1, 0x1091f, 0x10920,
    0x10b39, 0x10b40, 0x10d6e, 0x10d6f, 0x10ed0, 0x10ed9, 0x11052, 0x11066, 0x11660, 0x1166d,
    0x11fd5, 0x11ff2, 0x16fe2, 0x16fe3, 0x1bca0, 0x1bca4, 0x1cc00, 0x1ccd6, 0x1ccfa, 0x1ccfd,
    0x1cd00, 0x1ceb4, 0x1ceba, 0x1ced1, 0x1cee0, 0x1cef1, 0x1d173, 0x1d17b, 0x1d1e9, 0x1d1eb,
    0x1d200, 0x1d242, 0x1d245, 0x1d246, 0x1d300, 0x1d357, 0x1d6db, 0x1d6dc, 0x1d715, 0x1d716,
    0x1d74f, 0x1d750, 0x1d789, 0x1d78a, 0x1d7c3, 0x1d7c4, 0x1e2ff, 0x1e300, 0x1eef0, 0x1eef2,
    0x1f000, 0x1f02c, 0x1f030, 0x1f094, 0x1f0a0, 0x1f0af, 0x1f0b1, 0x1f0c0, 0x1f0c1, 0x1f0d0,
    0x1f0d1, 0x1f0f6, 0x1f10b, 0x1f110, 0x1f12f, 0x1f130, 0x1f16a, 0x1f170, 0x1f1ad, 0x1f1ae,
    0x1f260, 0x1f266, 0x1f300, 0x1f6d9, 0x1f6dc, 0x1f6ed, 0x1f6f0, 0x1f6fd, 0x1f700, 0x1f7da,
    0x1f7e0, 0x1f7ec, 0x1f7f0, 0x1f7f1, 0x1f800, 0x1f80c, 0x1f810, 0x1f848, 0x1f850, 0x1f85a,
    0x1f860, 0x1f888, 0x1f890, 0x1f8ae, 0x1f8b0, 0x1f8bc, 0x1f8c0, 0x1f8c2, 0x1f8d0, 0x1f8d9,
    0x1f900, 0x1fa58, 0x1fa60, 0x1fa6e, 0x1fa70, 0x1fa7d, 0x1fa80, 0x1fa8b, 0x1fa8e, 0x1fac7,
    0x1fac8, 0x1fac9, 0x1facd, 0x1fadd, 0x1fadf, 0x1faeb, 0x1faef, 0x1faf9, 0x1fb00, 0x1fb93,
    0x1fb94, 0x1fbf0, 0x1fbfa, 0x1fbfb, 0x1fffe, 0x20000, 0x2fffe, 0x30000, 0x3fffe, 0x40000,
    0x4fffe, 0x50000, 0x5fffe, 0x60000, 0x6fffe, 0x70000, 0x7fffe, 0x80000, 0x8fffe, 0x90000,
    0x9fffe, 0xa0000, 0xafffe, 0xb0000, 0xbfffe, 0xc0000, 0xcfffe, 0xd0000, 0xdfffe, 0xe0100,
    0xe01f0, 0xe1000, 0xefffe, 0xf0000, 0xffffe, 0x100000, 0x10fffe, 0x110000]

def leftToRightMarks : List Nat :=
  [0xcbf, 0xcc6, 0x11a07, 0x11a08, 0x11c3f]

def directionality (c : Char) : Directionality :=
  if rightToLeftLetters.contains c then .rightToLeft
  else if europeanNumbers.contains c then .europeanNumber
  else if arabicNumbers.contains c then .arabicNumber
  else if neutrals.contains c then .neutral
  else if isNonspacingMark c && !leftToRightMarks.contains c.toNat then .nonspacing
  else .leftToRight

end FundsLedger.Text
