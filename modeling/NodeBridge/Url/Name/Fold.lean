/-
This file folds characters that stand for letters, digits and marks of ASCII.
The tables follow the mapping of international domain names.
-/

namespace NodeBridge.Url.Name

/-- The first and the last character of a run come with the character that the first one becomes. -/
def foldRuns : List (Nat × Nat × Nat) :=
  [(0x41, 0x5A, 0x61), (0xA0, 0xA0, 0x20), (0xAA, 0xAA, 0x61), (0xB2, 0xB3, 0x32),
   (0xB9, 0xB9, 0x31), (0xBA, 0xBA, 0x6F), (0x17F, 0x17F, 0x73), (0x2B0, 0x2B0, 0x68),
   (0x2B2, 0x2B2, 0x6A), (0x2B3, 0x2B3, 0x72), (0x2B7, 0x2B7, 0x77), (0x2B8, 0x2B8, 0x79),
   (0x2E1, 0x2E1, 0x6C), (0x2E2, 0x2E2, 0x73), (0x2E3, 0x2E3, 0x78), (0x37E, 0x37E, 0x3B),
   (0x1D2C, 0x1D2C, 0x61), (0x1D2E, 0x1D2E, 0x62), (0x1D30, 0x1D31, 0x64), (0x1D33, 0x1D3A, 0x67),
   (0x1D3C, 0x1D3C, 0x6F), (0x1D3E, 0x1D3E, 0x70), (0x1D3F, 0x1D3F, 0x72), (0x1D40, 0x1D41, 0x74),
   (0x1D42, 0x1D42, 0x77), (0x1D43, 0x1D43, 0x61), (0x1D47, 0x1D47, 0x62), (0x1D48, 0x1D49, 0x64),
   (0x1D4D, 0x1D4D, 0x67), (0x1D4F, 0x1D4F, 0x6B), (0x1D50, 0x1D50, 0x6D), (0x1D52, 0x1D52, 0x6F),
   (0x1D56, 0x1D56, 0x70), (0x1D57, 0x1D58, 0x74), (0x1D5B, 0x1D5B, 0x76), (0x1D62, 0x1D62, 0x69),
   (0x1D63, 0x1D63, 0x72), (0x1D64, 0x1D65, 0x75), (0x1D9C, 0x1D9C, 0x63), (0x1DA0, 0x1DA0, 0x66),
   (0x1DBB, 0x1DBB, 0x7A), (0x1FEF, 0x1FEF, 0x60), (0x2000, 0x2000, 0x20), (0x2001, 0x2001, 0x20),
   (0x2002, 0x2002, 0x20), (0x2003, 0x2003, 0x20), (0x2004, 0x2004, 0x20), (0x2005, 0x2005, 0x20),
   (0x2006, 0x2006, 0x20), (0x2007, 0x2007, 0x20), (0x2008, 0x2008, 0x20), (0x2009, 0x2009, 0x20),
   (0x200A, 0x200A, 0x20), (0x202F, 0x202F, 0x20), (0x205F, 0x205F, 0x20), (0x2070, 0x2070, 0x30),
   (0x2071, 0x2071, 0x69), (0x2074, 0x2079, 0x34), (0x207A, 0x207A, 0x2B), (0x207C, 0x207C, 0x3D),
   (0x207D, 0x207E, 0x28), (0x207F, 0x207F, 0x6E), (0x2080, 0x2089, 0x30), (0x208A, 0x208A, 0x2B),
   (0x208C, 0x208C, 0x3D), (0x208D, 0x208E, 0x28), (0x2090, 0x2090, 0x61), (0x2091, 0x2091, 0x65),
   (0x2092, 0x2092, 0x6F), (0x2093, 0x2093, 0x78), (0x2095, 0x2095, 0x68), (0x2096, 0x2099, 0x6B),
   (0x209A, 0x209A, 0x70), (0x209B, 0x209C, 0x73), (0x2102, 0x2102, 0x63), (0x210A, 0x210B, 0x67),
   (0x210C, 0x210C, 0x68), (0x210D, 0x210D, 0x68), (0x210E, 0x210E, 0x68), (0x2110, 0x2110, 0x69),
   (0x2111, 0x2111, 0x69), (0x2112, 0x2112, 0x6C), (0x2113, 0x2113, 0x6C), (0x2115, 0x2115, 0x6E),
   (0x2119, 0x211B, 0x70), (0x211C, 0x211C, 0x72), (0x211D, 0x211D, 0x72), (0x2124, 0x2124, 0x7A),
   (0x2128, 0x2128, 0x7A), (0x212A, 0x212A, 0x6B), (0x212C, 0x212D, 0x62), (0x212F, 0x212F, 0x65),
   (0x2130, 0x2131, 0x65), (0x2133, 0x2133, 0x6D), (0x2134, 0x2134, 0x6F), (0x2139, 0x2139, 0x69),
   (0x2145, 0x2145, 0x64), (0x2146, 0x2147, 0x64), (0x2148, 0x2149, 0x69), (0x2160, 0x2160, 0x69),
   (0x2164, 0x2164, 0x76), (0x2169, 0x2169, 0x78), (0x216C, 0x216C, 0x6C), (0x216D, 0x216E, 0x63),
   (0x216F, 0x216F, 0x6D), (0x2170, 0x2170, 0x69), (0x2174, 0x2174, 0x76), (0x2179, 0x2179, 0x78),
   (0x217C, 0x217C, 0x6C), (0x217D, 0x217E, 0x63), (0x217F, 0x217F, 0x6D), (0x2460, 0x2468, 0x31),
   (0x24B6, 0x24CF, 0x61), (0x24D0, 0x24E9, 0x61), (0x24EA, 0x24EA, 0x30), (0x2C7C, 0x2C7C, 0x6A),
   (0x2C7D, 0x2C7D, 0x76), (0x3000, 0x3000, 0x20), (0x3002, 0x3002, 0x2E), (0xA7F1, 0xA7F1, 0x73),
   (0xA7F2, 0xA7F2, 0x63), (0xA7F3, 0xA7F3, 0x66), (0xA7F4, 0xA7F4, 0x71), (0xFB29, 0xFB29, 0x2B),
   (0xFE10, 0xFE10, 0x2C), (0xFE13, 0xFE14, 0x3A), (0xFE15, 0xFE15, 0x21), (0xFE16, 0xFE16, 0x3F),
   (0xFE33, 0xFE33, 0x5F), (0xFE34, 0xFE34, 0x5F), (0xFE35, 0xFE36, 0x28), (0xFE37, 0xFE37, 0x7B),
   (0xFE38, 0xFE38, 0x7D), (0xFE47, 0xFE47, 0x5B), (0xFE48, 0xFE48, 0x5D), (0xFE4D, 0xFE4D, 0x5F),
   (0xFE4E, 0xFE4E, 0x5F), (0xFE4F, 0xFE4F, 0x5F), (0xFE50, 0xFE50, 0x2C), (0xFE54, 0xFE54, 0x3B),
   (0xFE55, 0xFE55, 0x3A), (0xFE56, 0xFE56, 0x3F), (0xFE57, 0xFE57, 0x21), (0xFE59, 0xFE5A, 0x28),
   (0xFE5B, 0xFE5B, 0x7B), (0xFE5C, 0xFE5C, 0x7D), (0xFE5F, 0xFE5F, 0x23), (0xFE60, 0xFE60, 0x26),
   (0xFE61, 0xFE62, 0x2A), (0xFE63, 0xFE63, 0x2D), (0xFE64, 0xFE64, 0x3C), (0xFE65, 0xFE65, 0x3E),
   (0xFE66, 0xFE66, 0x3D), (0xFE68, 0xFE68, 0x5C), (0xFE69, 0xFE6A, 0x24), (0xFE6B, 0xFE6B, 0x40),
   (0xFF01, 0xFF20, 0x21), (0xFF21, 0xFF3A, 0x61), (0xFF3B, 0xFF5E, 0x5B), (0xFF61, 0xFF61, 0x2E),
   (0x107A5, 0x107A5, 0x71), (0x1CCD6, 0x1CCEF, 0x61), (0x1CCF0, 0x1CCF9, 0x30),
   (0x1D400, 0x1D419, 0x61), (0x1D41A, 0x1D433, 0x61), (0x1D434, 0x1D44D, 0x61),
   (0x1D44E, 0x1D454, 0x61), (0x1D456, 0x1D467, 0x69), (0x1D468, 0x1D481, 0x61),
   (0x1D482, 0x1D49B, 0x61), (0x1D49C, 0x1D49C, 0x61), (0x1D49E, 0x1D49F, 0x63),
   (0x1D4A2, 0x1D4A2, 0x67), (0x1D4A5, 0x1D4A6, 0x6A), (0x1D4A9, 0x1D4AC, 0x6E),
   (0x1D4AE, 0x1D4B5, 0x73), (0x1D4B6, 0x1D4B9, 0x61), (0x1D4BB, 0x1D4BB, 0x66),
   (0x1D4BD, 0x1D4C3, 0x68), (0x1D4C5, 0x1D4CF, 0x70), (0x1D4D0, 0x1D4E9, 0x61),
   (0x1D4EA, 0x1D503, 0x61), (0x1D504, 0x1D505, 0x61), (0x1D507, 0x1D50A, 0x64),
   (0x1D50D, 0x1D514, 0x6A), (0x1D516, 0x1D51C, 0x73), (0x1D51E, 0x1D537, 0x61),
   (0x1D538, 0x1D539, 0x61), (0x1D53B, 0x1D53E, 0x64), (0x1D540, 0x1D544, 0x69),
   (0x1D546, 0x1D546, 0x6F), (0x1D54A, 0x1D550, 0x73), (0x1D552, 0x1D56B, 0x61),
   (0x1D56C, 0x1D585, 0x61), (0x1D586, 0x1D59F, 0x61), (0x1D5A0, 0x1D5B9, 0x61),
   (0x1D5BA, 0x1D5D3, 0x61), (0x1D5D4, 0x1D5ED, 0x61), (0x1D5EE, 0x1D607, 0x61),
   (0x1D608, 0x1D621, 0x61), (0x1D622, 0x1D63B, 0x61), (0x1D63C, 0x1D655, 0x61),
   (0x1D656, 0x1D66F, 0x61), (0x1D670, 0x1D689, 0x61), (0x1D68A, 0x1D6A3, 0x61),
   (0x1D7CE, 0x1D7D7, 0x30), (0x1D7D8, 0x1D7E1, 0x30), (0x1D7E2, 0x1D7EB, 0x30),
   (0x1D7EC, 0x1D7F5, 0x30), (0x1D7F6, 0x1D7FF, 0x30), (0x1F12B, 0x1F12B, 0x63),
   (0x1F12C, 0x1F12C, 0x72), (0x1F130, 0x1F149, 0x61), (0x1FBF0, 0x1FBF9, 0x30)]

/-- These characters stand for several letters or digits. -/
def foldTexts : List (Nat × String) :=
  [(0x132, "ij"), (0x133, "ij"), (0x1C7, "lj"), (0x1C8, "lj"), (0x1C9, "lj"), (0x1CA, "nj"),
   (0x1CB, "nj"), (0x1CC, "nj"), (0x1F1, "dz"), (0x1F2, "dz"), (0x1F3, "dz"), (0x203C, "!!"),
   (0x20A8, "rs"), (0x2116, "no"), (0x2120, "sm"), (0x2121, "tel"), (0x2122, "tm"), (0x213B, "fax"),
   (0x2161, "ii"), (0x2162, "iii"), (0x2163, "iv"), (0x2165, "vi"), (0x2166, "vii"),
   (0x2167, "viii"), (0x2168, "ix"), (0x216A, "xi"), (0x216B, "xii"), (0x2171, "ii"),
   (0x2172, "iii"), (0x2173, "iv"), (0x2175, "vi"), (0x2176, "vii"), (0x2177, "viii"),
   (0x2178, "ix"), (0x217A, "xi"), (0x217B, "xii"), (0x2469, "10"), (0x246A, "11"), (0x246B, "12"),
   (0x246C, "13"), (0x246D, "14"), (0x246E, "15"), (0x246F, "16"), (0x2470, "17"), (0x2471, "18"),
   (0x2472, "19"), (0x2473, "20"), (0x2474, "(1)"), (0x2475, "(2)"), (0x2476, "(3)"),
   (0x2477, "(4)"), (0x2478, "(5)"), (0x2479, "(6)"), (0x247A, "(7)"), (0x247B, "(8)"),
   (0x247C, "(9)"), (0x247D, "(10)"), (0x247E, "(11)"), (0x247F, "(12)"), (0x2480, "(13)"),
   (0x2481, "(14)"), (0x2482, "(15)"), (0x2483, "(16)"), (0x2484, "(17)"), (0x2485, "(18)"),
   (0x2486, "(19)"), (0x2487, "(20)"), (0x249C, "(a)"), (0x249D, "(b)"), (0x249E, "(c)"),
   (0x249F, "(d)"), (0x24A0, "(e)"), (0x24A1, "(f)"), (0x24A2, "(g)"), (0x24A3, "(h)"),
   (0x24A4, "(i)"), (0x24A5, "(j)"), (0x24A6, "(k)"), (0x24A7, "(l)"), (0x24A8, "(m)"),
   (0x24A9, "(n)"), (0x24AA, "(o)"), (0x24AB, "(p)"), (0x24AC, "(q)"), (0x24AD, "(r)"),
   (0x24AE, "(s)"), (0x24AF, "(t)"), (0x24B0, "(u)"), (0x24B1, "(v)"), (0x24B2, "(w)"),
   (0x24B3, "(x)"), (0x24B4, "(y)"), (0x24B5, "(z)"), (0x2A75, "=="), (0x2A76, "==="),
   (0x3250, "pte"), (0x3251, "21"), (0x3252, "22"), (0x3253, "23"), (0x3254, "24"), (0x3255, "25"),
   (0x3256, "26"), (0x3257, "27"), (0x3258, "28"), (0x3259, "29"), (0x325A, "30"), (0x325B, "31"),
   (0x325C, "32"), (0x325D, "33"), (0x325E, "34"), (0x325F, "35"), (0x32B1, "36"), (0x32B2, "37"),
   (0x32B3, "38"), (0x32B4, "39"), (0x32B5, "40"), (0x32B6, "41"), (0x32B7, "42"), (0x32B8, "43"),
   (0x32B9, "44"), (0x32BA, "45"), (0x32BB, "46"), (0x32BC, "47"), (0x32BD, "48"), (0x32BE, "49"),
   (0x32BF, "50"), (0x32CC, "hg"), (0x32CD, "erg"), (0x32CE, "ev"), (0x32CF, "ltd"),
   (0x3371, "hpa"), (0x3372, "da"), (0x3373, "au"), (0x3374, "bar"), (0x3375, "ov"), (0x3376, "pc"),
   (0x3377, "dm"), (0x3378, "dm2"), (0x3379, "dm3"), (0x337A, "iu"), (0x3380, "pa"), (0x3381, "na"),
   (0x3383, "ma"), (0x3384, "ka"), (0x3385, "kb"), (0x3386, "mb"), (0x3387, "gb"), (0x3388, "cal"),
   (0x3389, "kcal"), (0x338A, "pf"), (0x338B, "nf"), (0x338E, "mg"), (0x338F, "kg"), (0x3390, "hz"),
   (0x3391, "khz"), (0x3392, "mhz"), (0x3393, "ghz"), (0x3394, "thz"), (0x3396, "ml"),
   (0x3397, "dl"), (0x3398, "kl"), (0x3399, "fm"), (0x339A, "nm"), (0x339C, "mm"), (0x339D, "cm"),
   (0x339E, "km"), (0x339F, "mm2"), (0x33A0, "cm2"), (0x33A1, "m2"), (0x33A2, "km2"),
   (0x33A3, "mm3"), (0x33A4, "cm3"), (0x33A5, "m3"), (0x33A6, "km3"), (0x33A9, "pa"),
   (0x33AA, "kpa"), (0x33AB, "mpa"), (0x33AC, "gpa"), (0x33AD, "rad"), (0x33B0, "ps"),
   (0x33B1, "ns"), (0x33B3, "ms"), (0x33B4, "pv"), (0x33B5, "nv"), (0x33B7, "mv"), (0x33B8, "kv"),
   (0x33B9, "mv"), (0x33BA, "pw"), (0x33BB, "nw"), (0x33BD, "mw"), (0x33BE, "kw"), (0x33BF, "mw"),
   (0x33C3, "bq"), (0x33C4, "cc"), (0x33C5, "cd"), (0x33C8, "db"), (0x33C9, "gy"), (0x33CA, "ha"),
   (0x33CB, "hp"), (0x33CC, "in"), (0x33CD, "kk"), (0x33CE, "km"), (0x33CF, "kt"), (0x33D0, "lm"),
   (0x33D1, "ln"), (0x33D2, "log"), (0x33D3, "lx"), (0x33D4, "mb"), (0x33D5, "mil"),
   (0x33D6, "mol"), (0x33D7, "ph"), (0x33D9, "ppm"), (0x33DA, "pr"), (0x33DB, "sr"), (0x33DC, "sv"),
   (0x33DD, "wb"), (0x33FF, "gal"), (0xFB00, "ff"), (0xFB01, "fi"), (0xFB02, "fl"), (0xFB03, "ffi"),
   (0xFB04, "ffl"), (0xFB05, "st"), (0xFB06, "st"), (0x1F101, "0,"), (0x1F102, "1,"),
   (0x1F103, "2,"), (0x1F104, "3,"), (0x1F105, "4,"), (0x1F106, "5,"), (0x1F107, "6,"),
   (0x1F108, "7,"), (0x1F109, "8,"), (0x1F10A, "9,"), (0x1F110, "(a)"), (0x1F111, "(b)"),
   (0x1F112, "(c)"), (0x1F113, "(d)"), (0x1F114, "(e)"), (0x1F115, "(f)"), (0x1F116, "(g)"),
   (0x1F117, "(h)"), (0x1F118, "(i)"), (0x1F119, "(j)"), (0x1F11A, "(k)"), (0x1F11B, "(l)"),
   (0x1F11C, "(m)"), (0x1F11D, "(n)"), (0x1F11E, "(o)"), (0x1F11F, "(p)"), (0x1F120, "(q)"),
   (0x1F121, "(r)"), (0x1F122, "(s)"), (0x1F123, "(t)"), (0x1F124, "(u)"), (0x1F125, "(v)"),
   (0x1F126, "(w)"), (0x1F127, "(x)"), (0x1F128, "(y)"), (0x1F129, "(z)"), (0x1F12D, "cd"),
   (0x1F12E, "wz"), (0x1F14A, "hv"), (0x1F14B, "mv"), (0x1F14C, "sd"), (0x1F14D, "ss"),
   (0x1F14E, "ppv"), (0x1F14F, "wc"), (0x1F16A, "mc"), (0x1F16B, "md"), (0x1F16C, "mr"),
   (0x1F190, "dj")]

/-- A run keeps the distance between its characters and what they become. -/
def foldRun? (code : Nat) : Option Char :=
  (foldRuns.find? fun run => run.1 ≤ code && code ≤ run.2.1).map fun run =>
    Char.ofNat (run.2.2 + (code - run.1))

/-- Characters that are not folded are kept. -/
def fold (character : Char) : List Char :=
  let code := character.toNat
  match foldRun? code with
  | some folded => [folded]
  | none =>
      match foldTexts.lookup code with
      | some folded => folded.toList
      | none => [character]

end NodeBridge.Url.Name
