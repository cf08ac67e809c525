/-!
Letters, digits and marks beyond ASCII: what may stand in a name.
-/
namespace ScriptBridge.Text

/-- Code points at which the characters of names begin and end again, in turns. -/
def letterTurns : List Nat := [
    0xaa, 0xab, 0xb5, 0xb6, 0xb7, 0xb8, 0xba, 0xbb, 0xc0, 0xd7, 0xd8, 0xf7, 0xf8, 0x2c2, 0x2c6,
    0x2d2, 0x2e0, 0x2e5, 0x2ec, 0x2ed, 0x2ee, 0x2ef, 0x300, 0x375, 0x376, 0x37a, 0x37b, 0x37e,
    0x37f, 0x384, 0x386, 0x3f6, 0x3f7, 0x482, 0x483, 0x488, 0x48a, 0x55a, 0x560, 0x589, 0x591,
    0x5be, 0x5bf, 0x5c0, 0x5c1, 0x5c3, 0x5c4, 0x5c6, 0x5c7, 0x5f3, 0x610, 0x61b, 0x620, 0x66a,
    0x66e, 0x6d4, 0x6d5, 0x6dd, 0x6df, 0x6e9, 0x6ea, 0x6fd, 0x6ff, 0x700, 0x710, 0x7f6, 0x7fa,
    0x7fe, 0x800, 0x830, 0x840, 0x85e, 0x860, 0x888, 0x889, 0x890, 0x898, 0x8e2, 0x8e3, 0x964,
    0x966, 0x970, 0x971, 0x9f2, 0x9fc, 0x9fd, 0x9fe, 0xa76, 0xa81, 0xaf0, 0xaf9, 0xb70, 0xb71,
    0xb72, 0xb82, 0xbf0, 0xc00, 0xc77, 0xc80, 0xc84, 0xc85, 0xd4f, 0xd54, 0xd58, 0xd5f, 0xd70,
    0xd7a, 0xdf4, 0xe01, 0xe3f, 0xe40, 0xe4f, 0xe50, 0xe5a, 0xe81, 0xf01, 0xf18, 0xf1a, 0xf20,
    0xf2a, 0xf35, 0xf36, 0xf37, 0xf38, 0xf39, 0xf3a, 0xf3e, 0xf85, 0xf86, 0xfbe, 0xfc6, 0xfc7,
    0x1000, 0x104a, 0x1050, 0x109e, 0x10a0, 0x10fb, 0x10fc, 0x1360, 0x1369, 0x1372, 0x1380,
    0x1390, 0x13a0, 0x1400, 0x1401, 0x166d, 0x166f, 0x1680, 0x1681, 0x169b, 0x16a0, 0x16eb,
    0x16ee, 0x1735, 0x1740, 0x17d4, 0x17d7, 0x17d8, 0x17dc, 0x17f0, 0x180b, 0x180e, 0x180f,
    0x1940, 0x1946, 0x19de, 0x1a00, 0x1a1e, 0x1a20, 0x1aa0, 0x1aa7, 0x1aa8, 0x1ab0, 0x1abe,
    0x1abf, 0x1b5a, 0x1b6b, 0x1b74, 0x1b80, 0x1bfc, 0x1c00, 0x1c3b, 0x1c40, 0x1c7e, 0x1c80,
    0x1cc0, 0x1cd0, 0x1cd3, 0x1cd4, 0x1fbd, 0x1fbe, 0x1fbf, 0x1fc2, 0x1fcd, 0x1fd0, 0x1fdd,
    0x1fe0, 0x1fed, 0x1ff2, 0x1ffd, 0x203f, 0x2041, 0x2054, 0x2055, 0x2071, 0x2074, 0x207f,
    0x2080, 0x2090, 0x20a0, 0x20d0, 0x20dd, 0x20e1, 0x20e2, 0x20e5, 0x2100, 0x2102, 0x2103,
    0x2107, 0x2108, 0x210a, 0x2114, 0x2115, 0x2116, 0x2118, 0x211e, 0x2124, 0x2125, 0x2126,
    0x2127, 0x2128, 0x2129, 0x212a, 0x213a, 0x213c, 0x2140, 0x2145, 0x214a, 0x214e, 0x214f,
    0x2160, 0x2189, 0x2c00, 0x2ce5, 0x2ceb, 0x2cf9, 0x2d00, 0x2d70, 0x2d7f, 0x2e00, 0x3005,
    0x3008, 0x3021, 0x3030, 0x3031, 0x3036, 0x3038, 0x303d, 0x3041, 0x309b, 0x309d, 0x30a0,
    0x30a1, 0x30fb, 0x30fc, 0x3190, 0x31a0, 0x31c0, 0x31f0, 0x3200, 0x3400, 0x4dc0, 0x4e00,
    0xa490, 0xa4d0, 0xa4fe, 0xa500, 0xa60d, 0xa610, 0xa670, 0xa674, 0xa67e, 0xa67f, 0xa6f2,
    0xa717, 0xa720, 0xa722, 0xa789, 0xa78b, 0xa828, 0xa82c, 0xa830, 0xa840, 0xa874, 0xa880,
    0xa8ce, 0xa8d0, 0xa8f8, 0xa8fb, 0xa8fc, 0xa8fd, 0xa92e, 0xa930, 0xa95f, 0xa960, 0xa9c1,
    0xa9cf, 0xa9de, 0xa9e0, 0xaa5c, 0xaa60, 0xaa77, 0xaa7a, 0xaade, 0xaae0, 0xaaf0, 0xaaf2,
    0xab5b, 0xab5c, 0xab6a, 0xab70, 0xabeb, 0xabec, 0xd800, 0xf900, 0xfb29, 0xfb2a, 0xfbb2,
    0xfbd3, 0xfc5e, 0xfc64, 0xfd3e, 0xfd50, 0xfdcf, 0xfdf0, 0xfdfa, 0xfe00, 0xfe10, 0xfe20,
    0xfe30, 0xfe33, 0xfe35, 0xfe4d, 0xfe50, 0xfe71, 0xfe72, 0xfe73, 0xfe74, 0xfe77, 0xfe78,
    0xfe79, 0xfe7a, 0xfe7b, 0xfe7c, 0xfe7d, 0xfe7e, 0xfe7f, 0xfeff, 0xff10, 0xff1a, 0xff21,
    0xff3b, 0xff3f, 0xff40, 0xff41, 0xff5b, 0xff66, 0xffe0, 0x10000, 0x10100, 0x10140, 0x10175,
    0x101fd, 0x102e1, 0x10300, 0x10320, 0x1032d, 0x1039f, 0x103a0, 0x103d0, 0x103d1, 0x1056f,
    0x10570, 0x10857, 0x10860, 0x10877, 0x10880, 0x108a7, 0x108e0, 0x108fb, 0x10900, 0x10916,
    0x10920, 0x1093f, 0x10980, 0x109bc, 0x109be, 0x109c0, 0x10a00, 0x10a40, 0x10a60, 0x10a7d,
    0x10a80, 0x10a9d, 0x10ac0, 0x10ac8, 0x10ac9, 0x10aeb, 0x10b00, 0x10b39, 0x10b40, 0x10b58,
    0x10b60, 0x10b78, 0x10b80, 0x10b99, 0x10c00, 0x10cfa, 0x10d00, 0x10e60, 0x10e80, 0x10ead,
    0x10eb0, 0x10f1d, 0x10f27, 0x10f51, 0x10f70, 0x10f86, 0x10fb0, 0x10fc5, 0x10fe0, 0x11047,
    0x11066, 0x110bb, 0x110c2, 0x110cd, 0x110d0, 0x11140, 0x11144, 0x11174, 0x11176, 0x111c5,
    0x111c9, 0x111cd, 0x111ce, 0x111db, 0x111dc, 0x111dd, 0x11200, 0x11238, 0x1123e, 0x112a9,
    0x112b0, 0x1144b, 0x11450, 0x1145a, 0x1145e, 0x114c6, 0x114c7, 0x115c1, 0x115d8, 0x11641,
    0x11644, 0x11660, 0x11680, 0x116b9, 0x116c0, 0x1173a, 0x11740, 0x1183b, 0x118a0, 0x118ea,
    0x118ff, 0x11944, 0x11950, 0x119e2, 0x119e3, 0x11a3f, 0x11a47, 0x11a9a, 0x11a9d, 0x11a9e,
    0x11ab0, 0x11c41, 0x11c50, 0x11c5a, 0x11c72, 0x11ef7, 0x11fb0, 0x11fc0, 0x12000, 0x12470,
    0x12480, 0x12ff1, 0x13000, 0x13430, 0x14400, 0x16a6e, 0x16a70, 0x16af5, 0x16b00, 0x16b37,
    0x16b40, 0x16b44, 0x16b50, 0x16b5b, 0x16b63, 0x16e80, 0x16f00, 0x16fe2, 0x16fe3, 0x1bc9c,
    0x1bc9d, 0x1bc9f, 0x1cf00, 0x1cf50, 0x1d165, 0x1d16a, 0x1d16d, 0x1d173, 0x1d17b, 0x1d183,
    0x1d185, 0x1d18c, 0x1d1aa, 0x1d1ae, 0x1d242, 0x1d245, 0x1d400, 0x1d6c1, 0x1d6c2, 0x1d6db,
    0x1d6dc, 0x1d6fb, 0x1d6fc, 0x1d715, 0x1d716, 0x1d735, 0x1d736, 0x1d74f, 0x1d750, 0x1d76f,
    0x1d770, 0x1d789, 0x1d78a, 0x1d7a9, 0x1d7aa, 0x1d7c3, 0x1d7c4, 0x1d800, 0x1da00, 0x1da37,
    0x1da3b, 0x1da6d, 0x1da75, 0x1da76, 0x1da84, 0x1da85, 0x1da9b, 0x1e14f, 0x1e290, 0x1e2ff,
    0x1e7e0, 0x1e8c7, 0x1e8d0, 0x1e95e, 0x1ee00, 0x1eef0, 0x1fbf0, 0xe0001, 0xe0100, 0xf0000]

/-- Does a character beyond ASCII belong to names?  An odd number of turns lies at or below it. -/
def isLetterPoint (n : Nat) : Bool :=
  (letterTurns.takeWhile fun turn => turn ≤ n).length % 2 == 1

end ScriptBridge.Text
