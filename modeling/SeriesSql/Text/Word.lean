import SeriesSql.Text.CodeSet

/-!
# Letters, numbers and word characters

Letters are the alphabetic characters of every script, some of which are marks or symbols.  Numbers
are the decimal digits of every script, the numbers made of letters, and others such as fractions
and superscripts.  Word characters are the letters, the decimal digits, all marks, the connector
punctuation and the two joiners.
-/

namespace SeriesSql.Text

def letterSet : CodeSet := ⟨[
  0x41, 0x5b, 0x61, 0x7b, 0xaa, 0xab, 0xb5, 0xb6, 0xba, 0xbb, 0xc0, 0xd7, 0xd8, 0xf7, 0xf8,
  0x2c2, 0x2c6, 0x2d2, 0x2e0, 0x2e5, 0x2ec, 0x2ed, 0x2ee, 0x2ef, 0x345, 0x346, 0x363, 0x375,
  0x376, 0x378, 0x37a, 0x37e, 0x37f, 0x380, 0x386, 0x387, 0x388, 0x38b, 0x38c, 0x38d, 0x38e,
  0x3a2, 0x3a3, 0x3f6, 0x3f7, 0x482, 0x48a, 0x530, 0x531, 0x557, 0x559, 0x55a, 0x560, 0x589,
  0x5b0, 0x5be, 0x5bf, 0x5c0, 0x5c1, 0x5c3, 0x5c4, 0x5c6, 0x5c7, 0x5c8, 0x5d0, 0x5eb, 0x5ef,
  0x5f3, 0x610, 0x61b, 0x620, 0x658, 0x659, 0x660, 0x66e, 0x6d4, 0x6d5, 0x6dd, 0x6e1, 0x6e9,
  0x6ed, 0x6f0, 0x6fa, 0x6fd, 0x6ff, 0x700, 0x710, 0x740, 0x74d, 0x7b2, 0x7ca, 0x7eb, 0x7f4,
  0x7f6, 0x7fa, 0x7fb, 0x800, 0x818, 0x81a, 0x82d, 0x840, 0x859, 0x860, 0x86b, 0x870, 0x888,
  0x889, 0x88f, 0x897, 0x898, 0x8a0, 0x8ca, 0x8d4, 0x8e0, 0x8e3, 0x8ea, 0x8f0, 0x93c, 0x93d,
  0x94d, 0x94e, 0x951, 0x955, 0x964, 0x971, 0x984, 0x985, 0x98d, 0x98f, 0x991, 0x993, 0x9a9,
  0x9aa, 0x9b1, 0x9b2, 0x9b3, 0x9b6, 0x9ba, 0x9bd, 0x9c5, 0x9c7, 0x9c9, 0x9cb, 0x9cd, 0x9ce,
  0x9cf, 0x9d7, 0x9d8, 0x9dc, 0x9de, 0x9df, 0x9e4, 0x9f0, 0x9f2, 0x9fc, 0x9fd, 0xa01, 0xa04,
  0xa05, 0xa0b, 0xa0f, 0xa11, 0xa13, 0xa29, 0xa2a, 0xa31, 0xa32, 0xa34, 0xa35, 0xa37, 0xa38,
  0xa3a, 0xa3e, 0xa43, 0xa47, 0xa49, 0xa4b, 0xa4d, 0xa51, 0xa52, 0xa59, 0xa5d, 0xa5e, 0xa5f,
  0xa70, 0xa76, 0xa81, 0xa84, 0xa85, 0xa8e, 0xa8f, 0xa92, 0xa93, 0xaa9, 0xaaa, 0xab1, 0xab2,
  0xab4, 0xab5, 0xaba, 0xabd, 0xac6, 0xac7, 0xaca, 0xacb, 0xacd, 0xad0, 0xad1, 0xae0, 0xae4,
  0xaf9, 0xafd, 0xb01, 0xb04, 0xb05, 0xb0d, 0xb0f, 0xb11, 0xb13, 0xb29, 0xb2a, 0xb31, 0xb32,
  0xb34, 0xb35, 0xb3a, 0xb3d, 0xb45, 0xb47, 0xb49, 0xb4b, 0xb4d, 0xb56, 0xb58, 0xb5c, 0xb5e,
  0xb5f, 0xb64, 0xb71, 0xb72, 0xb82, 0xb84, 0xb85, 0xb8b, 0xb8e, 0xb91, 0xb92, 0xb96, 0xb99,
  0xb9b, 0xb9c, 0xb9d, 0xb9e, 0xba0, 0xba3, 0xba5, 0xba8, 0xbab, 0xbae, 0xbba, 0xbbe, 0xbc3,
  0xbc6, 0xbc9, 0xbca, 0xbcd, 0xbd0, 0xbd1, 0xbd7, 0xbd8, 0xc00, 0xc0d, 0xc0e, 0xc11, 0xc12,
  0xc29, 0xc2a, 0xc3a, 0xc3d, 0xc45, 0xc46, 0xc49, 0xc4a, 0xc4d, 0xc55, 0xc57, 0xc58, 0xc5b,
  0xc5d, 0xc5e, 0xc60, 0xc64, 0xc80, 0xc84, 0xc85, 0xc8d, 0xc8e, 0xc91, 0xc92, 0xca9, 0xcaa,
  0xcb4, 0xcb5, 0xcba, 0xcbd, 0xcc5, 0xcc6, 0xcc9, 0xcca, 0xccd, 0xcd5, 0xcd7, 0xcdd, 0xcdf,
  0xce0, 0xce4, 0xcf1, 0xcf4, 0xd00, 0xd0d, 0xd0e, 0xd11, 0xd12, 0xd3b, 0xd3d, 0xd45, 0xd46,
  0xd49, 0xd4a, 0xd4d, 0xd4e, 0xd4f, 0xd54, 0xd58, 0xd5f, 0xd64, 0xd7a, 0xd80, 0xd81, 0xd84,
  0xd85, 0xd97, 0xd9a, 0xdb2, 0xdb3, 0xdbc, 0xdbd, 0xdbe, 0xdc0, 0xdc7, 0xdcf, 0xdd5, 0xdd6,
  0xdd7, 0xdd8, 0xde0, 0xdf2, 0xdf4, 0xe01, 0xe3b, 0xe40, 0xe47, 0xe4d, 0xe4e, 0xe81, 0xe83,
  0xe84, 0xe85, 0xe86, 0xe8b, 0xe8c, 0xea4, 0xea5, 0xea6, 0xea7, 0xeba, 0xebb, 0xebe, 0xec0,
  0xec5, 0xec6, 0xec7, 0xecd, 0xece, 0xedc, 0xee0, 0xf00, 0xf01, 0xf40, 0xf48, 0xf49, 0xf6d,
  0xf71, 0xf84, 0xf88, 0xf98, 0xf99, 0xfbd, 0x1000, 0x1037, 0x1038, 0x1039, 0x103b, 0x1040,
  0x1050, 0x1090, 0x109a, 0x109e, 0x10a0, 0x10c6, 0x10c7, 0x10c8, 0x10cd, 0x10ce, 0x10d0, 0x10fb,
  0x10fc, 0x1249, 0x124a, 0x124e, 0x1250, 0x1257, 0x1258, 0x1259, 0x125a, 0x125e, 0x1260, 0x1289,
  0x128a, 0x128e, 0x1290, 0x12b1, 0x12b2, 0x12b6, 0x12b8, 0x12bf, 0x12c0, 0x12c1, 0x12c2, 0x12c6,
  0x12c8, 0x12d7, 0x12d8, 0x1311, 0x1312, 0x1316, 0x1318, 0x135b, 0x1380, 0x1390, 0x13a0, 0x13f6,
  0x13f8, 0x13fe, 0x1401, 0x166d, 0x166f, 0x1680, 0x1681, 0x169b, 0x16a0, 0x16eb, 0x16ee, 0x16f9,
  0x1700, 0x1714, 0x171f, 0x1734, 0x1740, 0x1754, 0x1760, 0x176d, 0x176e, 0x1771, 0x1772, 0x1774,
  0x1780, 0x17b4, 0x17b6, 0x17c9, 0x17d7, 0x17d8, 0x17dc, 0x17dd, 0x1820, 0x1879, 0x1880, 0x18ab,
  0x18b0, 0x18f6, 0x1900, 0x191f, 0x1920, 0x192c, 0x1930, 0x1939, 0x1950, 0x196e, 0x1970, 0x1975,
  0x1980, 0x19ac, 0x19b0, 0x19ca, 0x1a00, 0x1a1c, 0x1a20, 0x1a5f, 0x1a61, 0x1a75, 0x1aa7, 0x1aa8,
  0x1abf, 0x1ac1, 0x1acc, 0x1acf, 0x1b00, 0x1b34, 0x1b35, 0x1b44, 0x1b45, 0x1b4d, 0x1b80, 0x1baa,
  0x1bac, 0x1bb0, 0x1bba, 0x1be6, 0x1be7, 0x1bf2, 0x1c00, 0x1c37, 0x1c4d, 0x1c50, 0x1c5a, 0x1c7e,
  0x1c80, 0x1c8b, 0x1c90, 0x1cbb, 0x1cbd, 0x1cc0, 0x1ce9, 0x1ced, 0x1cee, 0x1cf4, 0x1cf5, 0x1cf7,
  0x1cfa, 0x1cfb, 0x1d00, 0x1dc0, 0x1dd3, 0x1df5, 0x1e00, 0x1f16, 0x1f18, 0x1f1e, 0x1f20, 0x1f46,
  0x1f48, 0x1f4e, 0x1f50, 0x1f58, 0x1f59, 0x1f5a, 0x1f5b, 0x1f5c, 0x1f5d, 0x1f5e, 0x1f5f, 0x1f7e,
  0x1f80, 0x1fb5, 0x1fb6, 0x1fbd, 0x1fbe, 0x1fbf, 0x1fc2, 0x1fc5, 0x1fc6, 0x1fcd, 0x1fd0, 0x1fd4,
  0x1fd6, 0x1fdc, 0x1fe0, 0x1fed, 0x1ff2, 0x1ff5, 0x1ff6, 0x1ffd, 0x2071, 0x2072, 0x207f, 0x2080,
  0x2090, 0x209d, 0x2102, 0x2103, 0x2107, 0x2108, 0x210a, 0x2114, 0x2115, 0x2116, 0x2119, 0x211e,
  0x2124, 0x2125, 0x2126, 0x2127, 0x2128, 0x2129, 0x212a, 0x212e, 0x212f, 0x213a, 0x213c, 0x2140,
  0x2145, 0x214a, 0x214e, 0x214f, 0x2160, 0x2189, 0x24b6, 0x24ea, 0x2c00, 0x2ce5, 0x2ceb, 0x2cef,
  0x2cf2, 0x2cf4, 0x2d00, 0x2d26, 0x2d27, 0x2d28, 0x2d2d, 0x2d2e, 0x2d30, 0x2d68, 0x2d6f, 0x2d70,
  0x2d80, 0x2d97, 0x2da0, 0x2da7, 0x2da8, 0x2daf, 0x2db0, 0x2db7, 0x2db8, 0x2dbf, 0x2dc0, 0x2dc7,
  0x2dc8, 0x2dcf, 0x2dd0, 0x2dd7, 0x2dd8, 0x2ddf, 0x2de0, 0x2e00, 0x2e2f, 0x2e30, 0x3005, 0x3008,
  0x3021, 0x302a, 0x3031, 0x3036, 0x3038, 0x303d, 0x3041, 0x3097, 0x309d, 0x30a0, 0x30a1, 0x30fb,
  0x30fc, 0x3100, 0x3105, 0x3130, 0x3131, 0x318f, 0x31a0, 0x31c0, 0x31f0, 0x3200, 0x3400, 0x4dc0,
  0x4e00, 0xa48d, 0xa4d0, 0xa4fe, 0xa500, 0xa60d, 0xa610, 0xa620, 0xa62a, 0xa62c, 0xa640, 0xa66f,
  0xa674, 0xa67c, 0xa67f, 0xa6f0, 0xa717, 0xa720, 0xa722, 0xa789, 0xa78b, 0xa7ce, 0xa7d0, 0xa7d2,
  0xa7d3, 0xa7d4, 0xa7d5, 0xa7dd, 0xa7f2, 0xa806, 0xa807, 0xa828, 0xa840, 0xa874, 0xa880, 0xa8c4,
  0xa8c5, 0xa8c6, 0xa8f2, 0xa8f8, 0xa8fb, 0xa8fc, 0xa8fd, 0xa900, 0xa90a, 0xa92b, 0xa930, 0xa953,
  0xa960, 0xa97d, 0xa980, 0xa9b3, 0xa9b4, 0xa9c0, 0xa9cf, 0xa9d0, 0xa9e0, 0xa9f0, 0xa9fa, 0xa9ff,
  0xaa00, 0xaa37, 0xaa40, 0xaa4e, 0xaa60, 0xaa77, 0xaa7a, 0xaabf, 0xaac0, 0xaac1, 0xaac2, 0xaac3,
  0xaadb, 0xaade, 0xaae0, 0xaaf0, 0xaaf2, 0xaaf6, 0xab01, 0xab07, 0xab09, 0xab0f, 0xab11, 0xab17,
  0xab20, 0xab27, 0xab28, 0xab2f, 0xab30, 0xab5b, 0xab5c, 0xab6a, 0xab70, 0xabeb, 0xac00, 0xd7a4,
  0xd7b0, 0xd7c7, 0xd7cb, 0xd7fc, 0xf900, 0xfa6e, 0xfa70, 0xfada, 0xfb00, 0xfb07, 0xfb13, 0xfb18,
  0xfb1d, 0xfb29, 0xfb2a, 0xfb37, 0xfb38, 0xfb3d, 0xfb3e, 0xfb3f, 0xfb40, 0xfb42, 0xfb43, 0xfb45,
  0xfb46, 0xfbb2, 0xfbd3, 0xfd3e, 0xfd50, 0xfd90, 0xfd92, 0xfdc8, 0xfdf0, 0xfdfc, 0xfe70, 0xfe75,
  0xfe76, 0xfefd, 0xff21, 0xff3b, 0xff41, 0xff5b, 0xff66, 0xffbf, 0xffc2, 0xffc8, 0xffca, 0xffd0,
  0xffd2, 0xffd8, 0xffda, 0xffdd, 0x10000, 0x1000c, 0x1000d, 0x10027, 0x10028, 0x1003b, 0x1003c,
  0x1003e, 0x1003f, 0x1004e, 0x10050, 0x1005e, 0x10080, 0x100fb, 0x10140, 0x10175, 0x10280,
  0x1029d, 0x102a0, 0x102d1, 0x10300, 0x10320, 0x1032d, 0x1034b, 0x10350, 0x1037b, 0x10380,
  0x1039e, 0x103a0, 0x103c4, 0x103c8, 0x103d0, 0x103d1, 0x103d6, 0x10400, 0x1049e, 0x104b0,
  0x104d4, 0x104d8, 0x104fc, 0x10500, 0x10528, 0x10530, 0x10564, 0x10570, 0x1057b, 0x1057c,
  0x1058b, 0x1058c, 0x10593, 0x10594, 0x10596, 0x10597, 0x105a2, 0x105a3, 0x105b2, 0x105b3,
  0x105ba, 0x105bb, 0x105bd, 0x105c0, 0x105f4, 0x10600, 0x10737, 0x10740, 0x10756, 0x10760,
  0x10768, 0x10780, 0x10786, 0x10787, 0x107b1, 0x107b2, 0x107bb, 0x10800, 0x10806, 0x10808,
  0x10809, 0x1080a, 0x10836, 0x10837, 0x10839, 0x1083c, 0x1083d, 0x1083f, 0x10856, 0x10860,
  0x10877, 0x10880, 0x1089f, 0x108e0, 0x108f3, 0x108f4, 0x108f6, 0x10900, 0x10916, 0x10920,
  0x1093a, 0x10980, 0x109b8, 0x109be, 0x109c0, 0x10a00, 0x10a04, 0x10a05, 0x10a07, 0x10a0c,
  0x10a14, 0x10a15, 0x10a18, 0x10a19, 0x10a36, 0x10a60, 0x10a7d, 0x10a80, 0x10a9d, 0x10ac0,
  0x10ac8, 0x10ac9, 0x10ae5, 0x10b00, 0x10b36, 0x10b40, 0x10b56, 0x10b60, 0x10b73, 0x10b80,
  0x10b92, 0x10c00, 0x10c49, 0x10c80, 0x10cb3, 0x10cc0, 0x10cf3, 0x10d00, 0x10d28, 0x10d4a,
  0x10d66, 0x10d69, 0x10d6a, 0x10d6f, 0x10d86, 0x10e80, 0x10eaa, 0x10eab, 0x10ead, 0x10eb0,
  0x10eb2, 0x10ec2, 0x10ec5, 0x10efc, 0x10efd, 0x10f00, 0x10f1d, 0x10f27, 0x10f28, 0x10f30,
  0x10f46, 0x10f70, 0x10f82, 0x10fb0, 0x10fc5, 0x10fe0, 0x10ff7, 0x11000, 0x11046, 0x11071,
  0x11076, 0x11080, 0x110b9, 0x110c2, 0x110c3, 0x110d0, 0x110e9, 0x11100, 0x11133, 0x11144,
  0x11148, 0x11150, 0x11173, 0x11176, 0x11177, 0x11180, 0x111c0, 0x111c1, 0x111c5, 0x111ce,
  0x111d0, 0x111da, 0x111db, 0x111dc, 0x111dd, 0x11200, 0x11212, 0x11213, 0x11235, 0x11237,
  0x11238, 0x1123e, 0x11242, 0x11280, 0x11287, 0x11288, 0x11289, 0x1128a, 0x1128e, 0x1128f,
  0x1129e, 0x1129f, 0x112a9, 0x112b0, 0x112e9, 0x11300, 0x11304, 0x11305, 0x1130d, 0x1130f,
  0x11311, 0x11313, 0x11329, 0x1132a, 0x11331, 0x11332, 0x11334, 0x11335, 0x1133a, 0x1133d,
  0x11345, 0x11347, 0x11349, 0x1134b, 0x1134d, 0x11350, 0x11351, 0x11357, 0x11358, 0x1135d,
  0x11364, 0x11380, 0x1138a, 0x1138b, 0x1138c, 0x1138e, 0x1138f, 0x11390, 0x113b6, 0x113b7,
  0x113c1, 0x113c2, 0x113c3, 0x113c5, 0x113c6, 0x113c7, 0x113cb, 0x113cc, 0x113ce, 0x113d1,
  0x113d2, 0x113d3, 0x113d4, 0x11400, 0x11442, 0x11443, 0x11446, 0x11447, 0x1144b, 0x1145f,
  0x11462, 0x11480, 0x114c2, 0x114c4, 0x114c6, 0x114c7, 0x114c8, 0x11580, 0x115b6, 0x115b8,
  0x115bf, 0x115d8, 0x115de, 0x11600, 0x1163f, 0x11640, 0x11641, 0x11644, 0x11645, 0x11680,
  0x116b6, 0x116b8, 0x116b9, 0x11700, 0x1171b, 0x1171d, 0x1172b, 0x11740, 0x11747, 0x11800,
  0x11839, 0x118a0, 0x118e0, 0x118ff, 0x11907, 0x11909, 0x1190a, 0x1190c, 0x11914, 0x11915,
  0x11917, 0x11918, 0x11936, 0x11937, 0x11939, 0x1193b, 0x1193d, 0x1193f, 0x11943, 0x119a0,
  0x119a8, 0x119aa, 0x119d8, 0x119da, 0x119e0, 0x119e1, 0x119e2, 0x119e3, 0x119e5, 0x11a00,
  0x11a33, 0x11a35, 0x11a3f, 0x11a50, 0x11a98, 0x11a9d, 0x11a9e, 0x11ab0, 0x11af9, 0x11bc0,
  0x11be1, 0x11c00, 0x11c09, 0x11c0a, 0x11c37, 0x11c38, 0x11c3f, 0x11c40, 0x11c41, 0x11c72,
  0x11c90, 0x11c92, 0x11ca8, 0x11ca9, 0x11cb7, 0x11d00, 0x11d07, 0x11d08, 0x11d0a, 0x11d0b,
  0x11d37, 0x11d3a, 0x11d3b, 0x11d3c, 0x11d3e, 0x11d3f, 0x11d42, 0x11d43, 0x11d44, 0x11d46,
  0x11d48, 0x11d60, 0x11d66, 0x11d67, 0x11d69, 0x11d6a, 0x11d8f, 0x11d90, 0x11d92, 0x11d93,
  0x11d97, 0x11d98, 0x11d99, 0x11ee0, 0x11ef7, 0x11f00, 0x11f11, 0x11f12, 0x11f3b, 0x11f3e,
  0x11f41, 0x11fb0, 0x11fb1, 0x12000, 0x1239a, 0x12400, 0x1246f, 0x12480, 0x12544, 0x12f90,
  0x12ff1, 0x13000, 0x13430, 0x13441, 0x13447, 0x13460, 0x143fb, 0x14400, 0x14647, 0x16100,
  0x1612f, 0x16800, 0x16a39, 0x16a40, 0x16a5f, 0x16a70, 0x16abf, 0x16ad0, 0x16aee, 0x16b00,
  0x16b30, 0x16b40, 0x16b44, 0x16b63, 0x16b78, 0x16b7d, 0x16b90, 0x16d40, 0x16d6d, 0x16e40,
  0x16e80, 0x16f00, 0x16f4b, 0x16f4f, 0x16f88, 0x16f8f, 0x16fa0, 0x16fe0, 0x16fe2, 0x16fe3,
  0x16fe4, 0x16ff0, 0x16ff2, 0x17000, 0x187f8, 0x18800, 0x18cd6, 0x18cff, 0x18d09, 0x1aff0,
  0x1aff4, 0x1aff5, 0x1affc, 0x1affd, 0x1afff, 0x1b000, 0x1b123, 0x1b132, 0x1b133, 0x1b150,
  0x1b153, 0x1b155, 0x1b156, 0x1b164, 0x1b168, 0x1b170, 0x1b2fc, 0x1bc00, 0x1bc6b, 0x1bc70,
  0x1bc7d, 0x1bc80, 0x1bc89, 0x1bc90, 0x1bc9a, 0x1bc9e, 0x1bc9f, 0x1d400, 0x1d455, 0x1d456,
  0x1d49d, 0x1d49e, 0x1d4a0, 0x1d4a2, 0x1d4a3, 0x1d4a5, 0x1d4a7, 0x1d4a9, 0x1d4ad, 0x1d4ae,
  0x1d4ba, 0x1d4bb, 0x1d4bc, 0x1d4bd, 0x1d4c4, 0x1d4c5, 0x1d506, 0x1d507, 0x1d50b, 0x1d50d,
  0x1d515, 0x1d516, 0x1d51d, 0x1d51e, 0x1d53a, 0x1d53b, 0x1d53f, 0x1d540, 0x1d545, 0x1d546,
  0x1d547, 0x1d54a, 0x1d551, 0x1d552, 0x1d6a6, 0x1d6a8, 0x1d6c1, 0x1d6c2, 0x1d6db, 0x1d6dc,
  0x1d6fb, 0x1d6fc, 0x1d715, 0x1d716, 0x1d735, 0x1d736, 0x1d74f, 0x1d750, 0x1d76f, 0x1d770,
  0x1d789, 0x1d78a, 0x1d7a9, 0x1d7aa, 0x1d7c3, 0x1d7c4, 0x1d7cc, 0x1df00, 0x1df1f, 0x1df25,
  0x1df2b, 0x1e000, 0x1e007, 0x1e008, 0x1e019, 0x1e01b, 0x1e022, 0x1e023, 0x1e025, 0x1e026,
  0x1e02b, 0x1e030, 0x1e06e, 0x1e08f, 0x1e090, 0x1e100, 0x1e12d, 0x1e137, 0x1e13e, 0x1e14e,
  0x1e14f, 0x1e290, 0x1e2ae, 0x1e2c0, 0x1e2ec, 0x1e4d0, 0x1e4ec, 0x1e5d0, 0x1e5ee, 0x1e5f0,
  0x1e5f1, 0x1e7e0, 0x1e7e7, 0x1e7e8, 0x1e7ec, 0x1e7ed, 0x1e7ef, 0x1e7f0, 0x1e7ff, 0x1e800,
  0x1e8c5, 0x1e900, 0x1e944, 0x1e947, 0x1e948, 0x1e94b, 0x1e94c, 0x1ee00, 0x1ee04, 0x1ee05,
  0x1ee20, 0x1ee21, 0x1ee23, 0x1ee24, 0x1ee25, 0x1ee27, 0x1ee28, 0x1ee29, 0x1ee33, 0x1ee34,
  0x1ee38, 0x1ee39, 0x1ee3a, 0x1ee3b, 0x1ee3c, 0x1ee42, 0x1ee43, 0x1ee47, 0x1ee48, 0x1ee49,
  0x1ee4a, 0x1ee4b, 0x1ee4c, 0x1ee4d, 0x1ee50, 0x1ee51, 0x1ee53, 0x1ee54, 0x1ee55, 0x1ee57,
  0x1ee58, 0x1ee59, 0x1ee5a, 0x1ee5b, 0x1ee5c, 0x1ee5d, 0x1ee5e, 0x1ee5f, 0x1ee60, 0x1ee61,
  0x1ee63, 0x1ee64, 0x1ee65, 0x1ee67, 0x1ee6b, 0x1ee6c, 0x1ee73, 0x1ee74, 0x1ee78, 0x1ee79,
  0x1ee7d, 0x1ee7e, 0x1ee7f, 0x1ee80, 0x1ee8a, 0x1ee8b, 0x1ee9c, 0x1eea1, 0x1eea4, 0x1eea5,
  0x1eeaa, 0x1eeab, 0x1eebc, 0x1f130, 0x1f14a, 0x1f150, 0x1f16a, 0x1f170, 0x1f18a, 0x20000,
  0x2a6e0, 0x2a700, 0x2b73a, 0x2b740, 0x2b81e, 0x2b820, 0x2cea2, 0x2ceb0, 0x2ebe1, 0x2ebf0,
  0x2ee5e, 0x2f800, 0x2fa1e, 0x30000, 0x3134b, 0x31350, 0x323b0]⟩

def digitSet : CodeSet := ⟨[
  0x30, 0x3a, 0x660, 0x66a, 0x6f0, 0x6fa, 0x7c0, 0x7ca, 0x966, 0x970, 0x9e6, 0x9f0, 0xa66, 0xa70,
  0xae6, 0xaf0, 0xb66, 0xb70, 0xbe6, 0xbf0, 0xc66, 0xc70, 0xce6, 0xcf0, 0xd66, 0xd70, 0xde6,
  0xdf0, 0xe50, 0xe5a, 0xed0, 0xeda, 0xf20, 0xf2a, 0x1040, 0x104a, 0x1090, 0x109a, 0x17e0,
  0x17ea, 0x1810, 0x181a, 0x1946, 0x1950, 0x19d0, 0x19da, 0x1a80, 0x1a8a, 0x1a90, 0x1a9a, 0x1b50,
  0x1b5a, 0x1bb0, 0x1bba, 0x1c40, 0x1c4a, 0x1c50, 0x1c5a, 0xa620, 0xa62a, 0xa8d0, 0xa8da, 0xa900,
  0xa90a, 0xa9d0, 0xa9da, 0xa9f0, 0xa9fa, 0xaa50, 0xaa5a, 0xabf0, 0xabfa, 0xff10, 0xff1a,
  0x104a0, 0x104aa, 0x10d30, 0x10d3a, 0x10d40, 0x10d4a, 0x11066, 0x11070, 0x110f0, 0x110fa,
  0x11136, 0x11140, 0x111d0, 0x111da, 0x112f0, 0x112fa, 0x11450, 0x1145a, 0x114d0, 0x114da,
  0x11650, 0x1165a, 0x116c0, 0x116ca, 0x116d0, 0x116e4, 0x11730, 0x1173a, 0x118e0, 0x118ea,
  0x11950, 0x1195a, 0x11bf0, 0x11bfa, 0x11c50, 0x11c5a, 0x11d50, 0x11d5a, 0x11da0, 0x11daa,
  0x11f50, 0x11f5a, 0x16130, 0x1613a, 0x16a60, 0x16a6a, 0x16ac0, 0x16aca, 0x16b50, 0x16b5a,
  0x16d70, 0x16d7a, 0x1ccf0, 0x1ccfa, 0x1d7ce, 0x1d800, 0x1e140, 0x1e14a, 0x1e2f0, 0x1e2fa,
  0x1e4f0, 0x1e4fa, 0x1e5f1, 0x1e5fb, 0x1e950, 0x1e95a, 0x1fbf0, 0x1fbfa]⟩

/-- The numbers that are no decimal digits. -/
def otherNumberSet : CodeSet := ⟨[
  0xb2, 0xb4, 0xb9, 0xba, 0xbc, 0xbf, 0x9f4, 0x9fa, 0xb72, 0xb78, 0xbf0, 0xbf3, 0xc78, 0xc7f,
  0xd58, 0xd5f, 0xd70, 0xd79, 0xf2a, 0xf34, 0x1369, 0x137d, 0x16ee, 0x16f1, 0x17f0, 0x17fa,
  0x19da, 0x19db, 0x2070, 0x2071, 0x2074, 0x207a, 0x2080, 0x208a, 0x2150, 0x2183, 0x2185, 0x218a,
  0x2460, 0x249c, 0x24ea, 0x2500, 0x2776, 0x2794, 0x2cfd, 0x2cfe, 0x3007, 0x3008, 0x3021, 0x302a,
  0x3038, 0x303b, 0x3192, 0x3196, 0x3220, 0x322a, 0x3248, 0x3250, 0x3251, 0x3260, 0x3280, 0x328a,
  0x32b1, 0x32c0, 0xa6e6, 0xa6f0, 0xa830, 0xa836, 0x10107, 0x10134, 0x10140, 0x10179, 0x1018a,
  0x1018c, 0x102e1, 0x102fc, 0x10320, 0x10324, 0x10341, 0x10342, 0x1034a, 0x1034b, 0x103d1,
  0x103d6, 0x10858, 0x10860, 0x10879, 0x10880, 0x108a7, 0x108b0, 0x108fb, 0x10900, 0x10916,
  0x1091c, 0x109bc, 0x109be, 0x109c0, 0x109d0, 0x109d2, 0x10a00, 0x10a40, 0x10a49, 0x10a7d,
  0x10a7f, 0x10a9d, 0x10aa0, 0x10aeb, 0x10af0, 0x10b58, 0x10b60, 0x10b78, 0x10b80, 0x10ba9,
  0x10bb0, 0x10cfa, 0x10d00, 0x10e60, 0x10e7f, 0x10f1d, 0x10f27, 0x10f51, 0x10f55, 0x10fc5,
  0x10fcc, 0x11052, 0x11066, 0x111e1, 0x111f5, 0x1173a, 0x1173c, 0x118ea, 0x118f3, 0x11c5a,
  0x11c6d, 0x11fc0, 0x11fd5, 0x12400, 0x1246f, 0x16b5b, 0x16b62, 0x16e80, 0x16e97, 0x1d2c0,
  0x1d2d4, 0x1d2e0, 0x1d2f4, 0x1d360, 0x1d379, 0x1e8c7, 0x1e8d0, 0x1ec71, 0x1ecac, 0x1ecad,
  0x1ecb0, 0x1ecb1, 0x1ecb5, 0x1ed01, 0x1ed2e, 0x1ed2f, 0x1ed3e, 0x1f100, 0x1f10d]⟩

/-- The word characters that are neither letters nor decimal digits. -/
def otherWordSet : CodeSet := ⟨[
  0x5f, 0x60, 0x300, 0x345, 0x346, 0x363, 0x483, 0x48a, 0x591, 0x5b0, 0x658, 0x659, 0x6df, 0x6e1,
  0x6ea, 0x6ed, 0x740, 0x74b, 0x7eb, 0x7f4, 0x7fd, 0x7fe, 0x818, 0x81a, 0x82d, 0x82e, 0x859,
  0x85c, 0x898, 0x8a0, 0x8ca, 0x8d4, 0x8e0, 0x8e2, 0x8ea, 0x8f0, 0x93c, 0x93d, 0x94d, 0x94e,
  0x951, 0x955, 0x9bc, 0x9bd, 0x9cd, 0x9ce, 0x9fe, 0x9ff, 0xa3c, 0xa3d, 0xa4d, 0xa4e, 0xabc,
  0xabd, 0xacd, 0xace, 0xafd, 0xb00, 0xb3c, 0xb3d, 0xb4d, 0xb4e, 0xb55, 0xb56, 0xbcd, 0xbce,
  0xc3c, 0xc3d, 0xc4d, 0xc4e, 0xcbc, 0xcbd, 0xccd, 0xcce, 0xd3b, 0xd3d, 0xd4d, 0xd4e, 0xdca,
  0xdcb, 0xe47, 0xe4d, 0xe4e, 0xe4f, 0xeba, 0xebb, 0xec8, 0xecd, 0xece, 0xecf, 0xf18, 0xf1a,
  0xf35, 0xf36, 0xf37, 0xf38, 0xf39, 0xf3a, 0xf3e, 0xf40, 0xf84, 0xf85, 0xf86, 0xf88, 0xfc6,
  0xfc7, 0x1037, 0x1038, 0x1039, 0x103b, 0x135d, 0x1360, 0x1714, 0x1716, 0x1734, 0x1735, 0x17b4,
  0x17b6, 0x17c9, 0x17d4, 0x17dd, 0x17de, 0x180b, 0x180e, 0x180f, 0x1810, 0x1939, 0x193c, 0x1a60,
  0x1a61, 0x1a75, 0x1a7d, 0x1a7f, 0x1a80, 0x1ab0, 0x1abf, 0x1ac1, 0x1acc, 0x1b34, 0x1b35, 0x1b44,
  0x1b45, 0x1b6b, 0x1b74, 0x1baa, 0x1bac, 0x1be6, 0x1be7, 0x1bf2, 0x1bf4, 0x1c37, 0x1c38, 0x1cd0,
  0x1cd3, 0x1cd4, 0x1ce9, 0x1ced, 0x1cee, 0x1cf4, 0x1cf5, 0x1cf7, 0x1cfa, 0x1dc0, 0x1dd3, 0x1df5,
  0x1e00, 0x200c, 0x200e, 0x203f, 0x2041, 0x2054, 0x2055, 0x20d0, 0x20f1, 0x2cef, 0x2cf2, 0x2d7f,
  0x2d80, 0x302a, 0x3030, 0x3099, 0x309b, 0xa66f, 0xa673, 0xa67c, 0xa67e, 0xa6f0, 0xa6f2, 0xa806,
  0xa807, 0xa82c, 0xa82d, 0xa8c4, 0xa8c5, 0xa8e0, 0xa8f2, 0xa92b, 0xa92e, 0xa953, 0xa954, 0xa9b3,
  0xa9b4, 0xa9c0, 0xa9c1, 0xaabf, 0xaac0, 0xaac1, 0xaac2, 0xaaf6, 0xaaf7, 0xabec, 0xabee, 0xfe00,
  0xfe10, 0xfe20, 0xfe30, 0xfe33, 0xfe35, 0xfe4d, 0xfe50, 0xff3f, 0xff40, 0x101fd, 0x101fe,
  0x102e0, 0x102e1, 0x10a38, 0x10a3b, 0x10a3f, 0x10a40, 0x10ae5, 0x10ae7, 0x10d6a, 0x10d6e,
  0x10efd, 0x10f00, 0x10f46, 0x10f51, 0x10f82, 0x10f86, 0x11046, 0x11047, 0x11070, 0x11071,
  0x1107f, 0x11080, 0x110b9, 0x110bb, 0x11133, 0x11135, 0x11173, 0x11174, 0x111c0, 0x111c1,
  0x111c9, 0x111cd, 0x11235, 0x11237, 0x112e9, 0x112eb, 0x1133b, 0x1133d, 0x1134d, 0x1134e,
  0x11366, 0x1136d, 0x11370, 0x11375, 0x113ce, 0x113d1, 0x113d2, 0x113d3, 0x113e1, 0x113e3,
  0x11442, 0x11443, 0x11446, 0x11447, 0x1145e, 0x1145f, 0x114c2, 0x114c4, 0x115bf, 0x115c1,
  0x1163f, 0x11640, 0x116b6, 0x116b8, 0x1172b, 0x1172c, 0x11839, 0x1183b, 0x1193d, 0x1193f,
  0x11943, 0x11944, 0x119e0, 0x119e1, 0x11a33, 0x11a35, 0x11a47, 0x11a48, 0x11a98, 0x11a9a,
  0x11c3f, 0x11c40, 0x11d42, 0x11d43, 0x11d44, 0x11d46, 0x11d97, 0x11d98, 0x11f41, 0x11f43,
  0x11f5a, 0x11f5b, 0x13440, 0x13441, 0x13447, 0x13456, 0x1612f, 0x16130, 0x16af0, 0x16af5,
  0x16b30, 0x16b37, 0x16fe4, 0x16fe5, 0x1bc9d, 0x1bc9e, 0x1cf00, 0x1cf2e, 0x1cf30, 0x1cf47,
  0x1d165, 0x1d16a, 0x1d16d, 0x1d173, 0x1d17b, 0x1d183, 0x1d185, 0x1d18c, 0x1d1aa, 0x1d1ae,
  0x1d242, 0x1d245, 0x1da00, 0x1da37, 0x1da3b, 0x1da6d, 0x1da75, 0x1da76, 0x1da84, 0x1da85,
  0x1da9b, 0x1daa0, 0x1daa1, 0x1dab0, 0x1e130, 0x1e137, 0x1e2ae, 0x1e2af, 0x1e2ec, 0x1e2f0,
  0x1e4ec, 0x1e4f0, 0x1e5ee, 0x1e5f0, 0x1e8d0, 0x1e8d7, 0x1e944, 0x1e947, 0x1e948, 0x1e94b,
  0xe0100, 0xe01f0]⟩

/-- ASCII is decided without the table. -/
def isLetter (c : Char) : Bool :=
  if c.toNat < 0x80 then c.isAlpha else letterSet.contains c

@[inherit_doc isLetter]
def isDecimalDigit (c : Char) : Bool :=
  if c.toNat < 0x80 then c.isDigit else digitSet.contains c

def isNumber (c : Char) : Bool :=
  isDecimalDigit c || otherNumberSet.contains c

def isWord (c : Char) : Bool :=
  isLetter c || isDecimalDigit c || otherWordSet.contains c

end SeriesSql.Text
