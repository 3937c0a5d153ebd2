/-!
Code points by the columns that they take on a terminal: two, none, or two only as part of an emoji.
-/
namespace ScreenNavigation.Text

/-- Points whose East Asian width is wide or full. -/
def widePoints : Array Nat := #[
  0x1100, 0x1160, 0x231a, 0x231c, 0x2329, 0x232b, 0x23e9, 0x23ed, 0x23f0, 0x23f1, 0x23f3, 0x23f4,
  0x25fd, 0x25ff, 0x2614, 0x2616, 0x2630, 0x2638, 0x2648, 0x2654, 0x267f, 0x2680, 0x268a, 0x2690,
  0x2693, 0x2694, 0x26a1, 0x26a2, 0x26aa, 0x26ac, 0x26bd, 0x26bf, 0x26c4, 0x26c6, 0x26ce, 0x26cf,
  0x26d4, 0x26d5, 0x26ea, 0x26eb, 0x26f2, 0x26f4, 0x26f5, 0x26f6, 0x26fa, 0x26fb, 0x26fd, 0x26fe,
  0x2705, 0x2706, 0x270a, 0x270c, 0x2728, 0x2729, 0x274c, 0x274d, 0x274e, 0x274f, 0x2753, 0x2756,
  0x2757, 0x2758, 0x2795, 0x2798, 0x27b0, 0x27b1, 0x27bf, 0x27c0, 0x2b1b, 0x2b1d, 0x2b50, 0x2b51,
  0x2b55, 0x2b56, 0x2e80, 0x2e9a, 0x2e9b, 0x2ef4, 0x2f00, 0x2fd6, 0x2ff0, 0x303f, 0x3041, 0x3097,
  0x3099, 0x3100, 0x3105, 0x3130, 0x3131, 0x318f, 0x3190, 0x31e6, 0x31ef, 0x321f, 0x3220, 0x3248,
  0x3250, 0xa48d, 0xa490, 0xa4c7, 0xa960, 0xa97d, 0xac00, 0xd7a4, 0xf900, 0xfb00, 0xfe10, 0xfe1a,
  0xfe30, 0xfe53, 0xfe54, 0xfe67, 0xfe68, 0xfe6c, 0xff01, 0xff61, 0xffe0, 0xffe7, 0x16fe0,
  0x16fe5, 0x16ff0, 0x16ff7, 0x17000, 0x18cd6, 0x18cff, 0x18d1f, 0x18d80, 0x18df3, 0x1aff0,
  0x1aff4, 0x1aff5, 0x1affc, 0x1affd, 0x1afff, 0x1b000, 0x1b123, 0x1b132, 0x1b133, 0x1b150,
  0x1b153, 0x1b155, 0x1b156, 0x1b164, 0x1b168, 0x1b170, 0x1b2fc, 0x1d300, 0x1d357, 0x1d360,
  0x1d377, 0x1f004, 0x1f005, 0x1f0cf, 0x1f0d0, 0x1f18e, 0x1f18f, 0x1f191, 0x1f19b, 0x1f200,
  0x1f203, 0x1f210, 0x1f23c, 0x1f240, 0x1f249, 0x1f250, 0x1f252, 0x1f260, 0x1f266, 0x1f300,
  0x1f321, 0x1f32d, 0x1f336, 0x1f337, 0x1f37d, 0x1f37e, 0x1f394, 0x1f3a0, 0x1f3cb, 0x1f3cf,
  0x1f3d4, 0x1f3e0, 0x1f3f1, 0x1f3f4, 0x1f3f5, 0x1f3f8, 0x1f43f, 0x1f440, 0x1f441, 0x1f442,
  0x1f4fd, 0x1f4ff, 0x1f53e, 0x1f54b, 0x1f54f, 0x1f550, 0x1f568, 0x1f57a, 0x1f57b, 0x1f595,
  0x1f597, 0x1f5a4, 0x1f5a5, 0x1f5fb, 0x1f650, 0x1f680, 0x1f6c6, 0x1f6cc, 0x1f6cd, 0x1f6d0,
  0x1f6d3, 0x1f6d5, 0x1f6d9, 0x1f6dc, 0x1f6e0, 0x1f6eb, 0x1f6ed, 0x1f6f4, 0x1f6fd, 0x1f7e0,
  0x1f7ec, 0x1f7f0, 0x1f7f1, 0x1f90c, 0x1f93b, 0x1f93c, 0x1f946, 0x1f947, 0x1fa00, 0x1fa70,
  0x1fa7d, 0x1fa80, 0x1fa8b, 0x1fa8e, 0x1fac7, 0x1fac8, 0x1fac9, 0x1facd, 0x1fadd, 0x1fadf,
  0x1faeb, 0x1faef, 0x1faf9, 0x20000, 0x2fffe, 0x30000, 0x3fffe]

/-- Points without a width of their own that attach to no character: ignorable points, the vowels
and final consonants of Hangul syllables in pieces, and signs written around the next letters. -/
def widthlessPoints : Array Nat := #[
  0xad, 0xae, 0x34f, 0x350, 0x605, 0x606, 0x61c, 0x61d, 0x70f, 0x710, 0x890, 0x892, 0x8e2, 0x8e3,
  0xcc0, 0xcc1, 0xcc7, 0xcc9, 0xcca, 0xccc, 0xd4e, 0xd4f, 0x1160, 0x1200, 0x17b4, 0x17b6, 0x180b,
  0x1810, 0x1b3b, 0x1b3c, 0x1b3d, 0x1b3e, 0x1b43, 0x1b44, 0x200b, 0x2010, 0x202a, 0x202f, 0x2060,
  0x2070, 0x3164, 0x3165, 0xa8fa, 0xa8fb, 0xd7b0, 0xd7c7, 0xd7cb, 0xd7fc, 0xfe00, 0xfe10, 0xfeff,
  0xff00, 0xffa0, 0xffa1, 0xfff0, 0xfff9, 0x111c2, 0x111c4, 0x113d1, 0x113d2, 0x1193f, 0x11940,
  0x11941, 0x11942, 0x11a84, 0x11a8a, 0x11d46, 0x11d47, 0x11f02, 0x11f03, 0x1bca0, 0x1bca4,
  0x1d173, 0x1d17b, 0xe0000, 0xe1000]

/-- Narrow points that the emoji variation selector makes wide. -/
def selectablePoints : Array Nat := #[
  0x23, 0x24, 0x2a, 0x2b, 0x30, 0x3a, 0xa9, 0xaa, 0xae, 0xaf, 0x203c, 0x203d, 0x2049, 0x204a,
  0x2122, 0x2123, 0x2139, 0x213a, 0x2194, 0x219a, 0x21a9, 0x21ab, 0x2328, 0x2329, 0x23cf, 0x23d0,
  0x23ed, 0x23f0, 0x23f1, 0x23f3, 0x23f8, 0x23fb, 0x24c2, 0x24c3, 0x25aa, 0x25ac, 0x25b6, 0x25b7,
  0x25c0, 0x25c1, 0x25fb, 0x25fd, 0x2600, 0x2605, 0x260e, 0x260f, 0x2611, 0x2612, 0x2618, 0x2619,
  0x261d, 0x261e, 0x2620, 0x2621, 0x2622, 0x2624, 0x2626, 0x2627, 0x262a, 0x262b, 0x262e, 0x2630,
  0x2638, 0x263b, 0x2640, 0x2641, 0x2642, 0x2643, 0x265f, 0x2661, 0x2663, 0x2664, 0x2665, 0x2667,
  0x2668, 0x2669, 0x267b, 0x267c, 0x267e, 0x267f, 0x2692, 0x2693, 0x2694, 0x2698, 0x2699, 0x269a,
  0x269b, 0x269d, 0x26a0, 0x26a1, 0x26a7, 0x26a8, 0x26b0, 0x26b2, 0x26c8, 0x26c9, 0x26cf, 0x26d0,
  0x26d1, 0x26d2, 0x26d3, 0x26d4, 0x26e9, 0x26ea, 0x26f0, 0x26f2, 0x26f4, 0x26f5, 0x26f7, 0x26fa,
  0x2702, 0x2703, 0x2708, 0x270a, 0x270c, 0x270e, 0x270f, 0x2710, 0x2712, 0x2713, 0x2714, 0x2715,
  0x2716, 0x2717, 0x271d, 0x271e, 0x2721, 0x2722, 0x2733, 0x2735, 0x2744, 0x2745, 0x2747, 0x2748,
  0x2763, 0x2765, 0x27a1, 0x27a2, 0x2934, 0x2936, 0x2b05, 0x2b08, 0x1f170, 0x1f172, 0x1f17e,
  0x1f180, 0x1f321, 0x1f322, 0x1f324, 0x1f32d, 0x1f336, 0x1f337, 0x1f37d, 0x1f37e, 0x1f396,
  0x1f398, 0x1f399, 0x1f39c, 0x1f39e, 0x1f3a0, 0x1f3cb, 0x1f3cf, 0x1f3d4, 0x1f3e0, 0x1f3f3,
  0x1f3f4, 0x1f3f5, 0x1f3f6, 0x1f3f7, 0x1f3f8, 0x1f43f, 0x1f440, 0x1f441, 0x1f442, 0x1f4fd,
  0x1f4fe, 0x1f549, 0x1f54b, 0x1f56f, 0x1f571, 0x1f573, 0x1f57a, 0x1f587, 0x1f588, 0x1f58a,
  0x1f58e, 0x1f590, 0x1f591, 0x1f5a5, 0x1f5a6, 0x1f5a8, 0x1f5a9, 0x1f5b1, 0x1f5b3, 0x1f5bc,
  0x1f5bd, 0x1f5c2, 0x1f5c5, 0x1f5d1, 0x1f5d4, 0x1f5dc, 0x1f5df, 0x1f5e1, 0x1f5e2, 0x1f5e3,
  0x1f5e4, 0x1f5e8, 0x1f5e9, 0x1f5ef, 0x1f5f0, 0x1f5f3, 0x1f5f4, 0x1f5fa, 0x1f5fb, 0x1f6cb,
  0x1f6cc, 0x1f6cd, 0x1f6d0, 0x1f6e0, 0x1f6e6, 0x1f6e9, 0x1f6ea, 0x1f6f0, 0x1f6f1, 0x1f6f3,
  0x1f6f4]

/-- Points of persons and hands, which a skin tone may follow. -/
def tonedPoints : Array Nat := #[
  0x261d, 0x261e, 0x26f9, 0x26fa, 0x270a, 0x270e, 0x1f385, 0x1f386, 0x1f3c2, 0x1f3c5, 0x1f3c7,
  0x1f3c8, 0x1f3ca, 0x1f3cd, 0x1f442, 0x1f444, 0x1f446, 0x1f451, 0x1f466, 0x1f479, 0x1f47c,
  0x1f47d, 0x1f481, 0x1f484, 0x1f485, 0x1f488, 0x1f48f, 0x1f490, 0x1f491, 0x1f492, 0x1f4aa,
  0x1f4ab, 0x1f574, 0x1f576, 0x1f57a, 0x1f57b, 0x1f590, 0x1f591, 0x1f595, 0x1f597, 0x1f645,
  0x1f648, 0x1f64b, 0x1f650, 0x1f6a3, 0x1f6a4, 0x1f6b4, 0x1f6b7, 0x1f6c0, 0x1f6c1, 0x1f6cc,
  0x1f6cd, 0x1f90c, 0x1f90d, 0x1f90f, 0x1f910, 0x1f918, 0x1f920, 0x1f926, 0x1f927, 0x1f930,
  0x1f93a, 0x1f93c, 0x1f93f, 0x1f977, 0x1f978, 0x1f9b5, 0x1f9b7, 0x1f9b8, 0x1f9ba, 0x1f9bb,
  0x1f9bc, 0x1f9cd, 0x1f9d0, 0x1f9d1, 0x1f9de, 0x1fac3, 0x1fac6, 0x1faf0, 0x1faf9]

end ScreenNavigation.Text
