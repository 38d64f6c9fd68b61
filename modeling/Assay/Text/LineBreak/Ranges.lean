import Assay.Text.LineBreak.Class

/-!
# Line breaking classes beyond ASCII

The ranges of code points above U+007F whose line breaking class is not the one of letters, in
ascending order. The syllables of Hangul are left out: their class follows from their number. A
conditional starter counts as a non-starter. The characters of a script that needs a dictionary,
marks among them, count as letters.
-/

namespace Assay.Text.LineBreak

/-- The ranges from U+0080 to U+135F. -/
def rangesA : Array (Nat × Nat × BreakClass) := #[
  (0x80, 0x84, .cm), (0x85, 0x85, .nl), (0x86, 0x9F, .cm), (0xA0, 0xA0, .gl), (0xA1, 0xA1, .op),
  (0xA2, 0xA2, .po), (0xA3, 0xA5, .pr), (0xAB, 0xAB, .qu), (0xAD, 0xAD, .ba), (0xB0, 0xB0, .po),
  (0xB1, 0xB1, .pr), (0xB4, 0xB4, .bb), (0xBB, 0xBB, .qu), (0xBF, 0xBF, .op), (0x2C8, 0x2C8, .bb),
  (0x2CC, 0x2CC, .bb), (0x2DF, 0x2DF, .bb), (0x300, 0x34E, .cm), (0x34F, 0x34F, .gl),
  (0x350, 0x35B, .cm), (0x35C, 0x362, .gl), (0x363, 0x36F, .cm), (0x37E, 0x37E, .infixSep),
  (0x483, 0x489, .cm), (0x589, 0x589, .infixSep), (0x58A, 0x58A, .ba), (0x58F, 0x58F, .pr),
  (0x591, 0x5BD, .cm), (0x5BE, 0x5BE, .ba), (0x5BF, 0x5BF, .cm), (0x5C1, 0x5C2, .cm),
  (0x5C4, 0x5C5, .cm), (0x5C6, 0x5C6, .ex), (0x5C7, 0x5C7, .cm), (0x5D0, 0x5EA, .hl),
  (0x5EF, 0x5F2, .hl), (0x609, 0x60B, .po), (0x60C, 0x60D, .infixSep), (0x610, 0x61A, .cm),
  (0x61B, 0x61B, .ex), (0x61C, 0x61C, .cm), (0x61D, 0x61F, .ex), (0x64B, 0x65F, .cm),
  (0x660, 0x669, .nu), (0x66A, 0x66A, .po), (0x66B, 0x66C, .nu), (0x670, 0x670, .cm),
  (0x6D4, 0x6D4, .ex), (0x6D6, 0x6DC, .cm), (0x6DF, 0x6E4, .cm), (0x6E7, 0x6E8, .cm),
  (0x6EA, 0x6ED, .cm), (0x6F0, 0x6F9, .nu), (0x711, 0x711, .cm), (0x730, 0x74A, .cm),
  (0x7A6, 0x7B0, .cm), (0x7C0, 0x7C9, .nu), (0x7EB, 0x7F3, .cm), (0x7F8, 0x7F8, .infixSep),
  (0x7F9, 0x7F9, .ex), (0x7FD, 0x7FD, .cm), (0x7FE, 0x7FF, .pr), (0x816, 0x819, .cm),
  (0x81B, 0x823, .cm), (0x825, 0x827, .cm), (0x829, 0x82D, .cm), (0x859, 0x85B, .cm),
  (0x898, 0x89F, .cm), (0x8CA, 0x8E1, .cm), (0x8E3, 0x903, .cm), (0x93A, 0x93C, .cm),
  (0x93E, 0x94F, .cm), (0x951, 0x957, .cm), (0x962, 0x963, .cm), (0x964, 0x965, .ba),
  (0x966, 0x96F, .nu), (0x981, 0x983, .cm), (0x9BC, 0x9BC, .cm), (0x9BE, 0x9C4, .cm),
  (0x9C7, 0x9C8, .cm), (0x9CB, 0x9CD, .cm), (0x9D7, 0x9D7, .cm), (0x9E2, 0x9E3, .cm),
  (0x9E6, 0x9EF, .nu), (0x9F2, 0x9F3, .po), (0x9F9, 0x9F9, .po), (0x9FB, 0x9FB, .pr),
  (0x9FE, 0x9FE, .cm), (0xA01, 0xA03, .cm), (0xA3C, 0xA3C, .cm), (0xA3E, 0xA42, .cm),
  (0xA47, 0xA48, .cm), (0xA4B, 0xA4D, .cm), (0xA51, 0xA51, .cm), (0xA66, 0xA6F, .nu),
  (0xA70, 0xA71, .cm), (0xA75, 0xA75, .cm), (0xA81, 0xA83, .cm), (0xABC, 0xABC, .cm),
  (0xABE, 0xAC5, .cm), (0xAC7, 0xAC9, .cm), (0xACB, 0xACD, .cm), (0xAE2, 0xAE3, .cm),
  (0xAE6, 0xAEF, .nu), (0xAF1, 0xAF1, .pr), (0xAFA, 0xAFF, .cm), (0xB01, 0xB03, .cm),
  (0xB3C, 0xB3C, .cm), (0xB3E, 0xB44, .cm), (0xB47, 0xB48, .cm), (0xB4B, 0xB4D, .cm),
  (0xB55, 0xB57, .cm), (0xB62, 0xB63, .cm), (0xB66, 0xB6F, .nu), (0xB82, 0xB82, .cm),
  (0xBBE, 0xBC2, .cm), (0xBC6, 0xBC8, .cm), (0xBCA, 0xBCD, .cm), (0xBD7, 0xBD7, .cm),
  (0xBE6, 0xBEF, .nu), (0xBF9, 0xBF9, .pr), (0xC00, 0xC04, .cm), (0xC3C, 0xC3C, .cm),
  (0xC3E, 0xC44, .cm), (0xC46, 0xC48, .cm), (0xC4A, 0xC4D, .cm), (0xC55, 0xC56, .cm),
  (0xC62, 0xC63, .cm), (0xC66, 0xC6F, .nu), (0xC77, 0xC77, .bb), (0xC81, 0xC83, .cm),
  (0xC84, 0xC84, .bb), (0xCBC, 0xCBC, .cm), (0xCBE, 0xCC4, .cm), (0xCC6, 0xCC8, .cm),
  (0xCCA, 0xCCD, .cm), (0xCD5, 0xCD6, .cm), (0xCE2, 0xCE3, .cm), (0xCE6, 0xCEF, .nu),
  (0xCF3, 0xCF3, .cm), (0xD00, 0xD03, .cm), (0xD3B, 0xD3C, .cm), (0xD3E, 0xD44, .cm),
  (0xD46, 0xD48, .cm), (0xD4A, 0xD4D, .cm), (0xD57, 0xD57, .cm), (0xD62, 0xD63, .cm),
  (0xD66, 0xD6F, .nu), (0xD79, 0xD79, .po), (0xD81, 0xD83, .cm), (0xDCA, 0xDCA, .cm),
  (0xDCF, 0xDD4, .cm), (0xDD6, 0xDD6, .cm), (0xDD8, 0xDDF, .cm), (0xDE6, 0xDEF, .nu),
  (0xDF2, 0xDF3, .cm), (0xE3F, 0xE3F, .pr), (0xE50, 0xE59, .nu), (0xE5A, 0xE5B, .ba),
  (0xED0, 0xED9, .nu), (0xF01, 0xF04, .bb), (0xF06, 0xF07, .bb), (0xF08, 0xF08, .gl),
  (0xF09, 0xF0A, .bb), (0xF0B, 0xF0B, .ba), (0xF0C, 0xF0C, .gl), (0xF0D, 0xF11, .ex),
  (0xF12, 0xF12, .gl), (0xF14, 0xF14, .ex), (0xF18, 0xF19, .cm), (0xF20, 0xF29, .nu),
  (0xF34, 0xF34, .ba), (0xF35, 0xF35, .cm), (0xF37, 0xF37, .cm), (0xF39, 0xF39, .cm),
  (0xF3A, 0xF3A, .op), (0xF3B, 0xF3B, .cl), (0xF3C, 0xF3C, .op), (0xF3D, 0xF3D, .cl),
  (0xF3E, 0xF3F, .cm), (0xF71, 0xF7E, .cm), (0xF7F, 0xF7F, .ba), (0xF80, 0xF84, .cm),
  (0xF85, 0xF85, .ba), (0xF86, 0xF87, .cm), (0xF8D, 0xF97, .cm), (0xF99, 0xFBC, .cm),
  (0xFBE, 0xFBF, .ba), (0xFC6, 0xFC6, .cm), (0xFD0, 0xFD1, .bb), (0xFD2, 0xFD2, .ba),
  (0xFD3, 0xFD3, .bb), (0xFD9, 0xFDA, .gl), (0x1040, 0x1049, .nu), (0x104A, 0x104B, .ba),
  (0x1090, 0x1099, .nu), (0x1100, 0x115F, .jl), (0x1160, 0x11A7, .jv), (0x11A8, 0x11FF, .jt),
  (0x135D, 0x135F, .cm)]

/-- The ranges from U+1361 to U+2996. -/
def rangesB : Array (Nat × Nat × BreakClass) := #[
  (0x1361, 0x1361, .ba), (0x1400, 0x1400, .ba), (0x1680, 0x1680, .ba), (0x169B, 0x169B, .op),
  (0x169C, 0x169C, .cl), (0x16EB, 0x16ED, .ba), (0x1712, 0x1715, .cm), (0x1732, 0x1734, .cm),
  (0x1735, 0x1736, .ba), (0x1752, 0x1753, .cm), (0x1772, 0x1773, .cm), (0x17D4, 0x17D5, .ba),
  (0x17D6, 0x17D6, .ns), (0x17D8, 0x17D8, .ba), (0x17DA, 0x17DA, .ba), (0x17DB, 0x17DB, .pr),
  (0x17E0, 0x17E9, .nu), (0x1802, 0x1803, .ex), (0x1804, 0x1805, .ba), (0x1806, 0x1806, .bb),
  (0x1808, 0x1809, .ex), (0x180B, 0x180D, .cm), (0x180E, 0x180E, .gl), (0x180F, 0x180F, .cm),
  (0x1810, 0x1819, .nu), (0x1885, 0x1886, .cm), (0x18A9, 0x18A9, .cm), (0x1920, 0x192B, .cm),
  (0x1930, 0x193B, .cm), (0x1944, 0x1945, .ex), (0x1946, 0x194F, .nu), (0x19D0, 0x19D9, .nu),
  (0x1A17, 0x1A1B, .cm), (0x1A7F, 0x1A7F, .cm), (0x1A80, 0x1A89, .nu), (0x1A90, 0x1A99, .nu),
  (0x1AB0, 0x1ACE, .cm), (0x1B00, 0x1B04, .cm), (0x1B34, 0x1B44, .cm), (0x1B50, 0x1B59, .nu),
  (0x1B5A, 0x1B5B, .ba), (0x1B5D, 0x1B60, .ba), (0x1B6B, 0x1B73, .cm), (0x1B7D, 0x1B7E, .ba),
  (0x1B80, 0x1B82, .cm), (0x1BA1, 0x1BAD, .cm), (0x1BB0, 0x1BB9, .nu), (0x1BE6, 0x1BF3, .cm),
  (0x1C24, 0x1C37, .cm), (0x1C3B, 0x1C3F, .ba), (0x1C40, 0x1C49, .nu), (0x1C50, 0x1C59, .nu),
  (0x1C7E, 0x1C7F, .ba), (0x1CD0, 0x1CD2, .cm), (0x1CD4, 0x1CE8, .cm), (0x1CED, 0x1CED, .cm),
  (0x1CF4, 0x1CF4, .cm), (0x1CF7, 0x1CF9, .cm), (0x1DC0, 0x1DCC, .cm), (0x1DCD, 0x1DCD, .gl),
  (0x1DCE, 0x1DFB, .cm), (0x1DFC, 0x1DFC, .gl), (0x1DFD, 0x1DFF, .cm), (0x1FFD, 0x1FFD, .bb),
  (0x2000, 0x2006, .ba), (0x2007, 0x2007, .gl), (0x2008, 0x200A, .ba), (0x200B, 0x200B, .zw),
  (0x200C, 0x200C, .cm), (0x200D, 0x200D, .zwj), (0x200E, 0x200F, .cm), (0x2010, 0x2010, .ba),
  (0x2011, 0x2011, .gl), (0x2012, 0x2013, .ba), (0x2014, 0x2014, .b2), (0x2018, 0x2019, .qu),
  (0x201A, 0x201A, .op), (0x201B, 0x201D, .qu), (0x201E, 0x201E, .op), (0x201F, 0x201F, .qu),
  (0x2024, 0x2026, .inseparable), (0x2027, 0x2027, .ba), (0x2028, 0x2029, .bk),
  (0x202A, 0x202E, .cm), (0x202F, 0x202F, .gl), (0x2030, 0x2037, .po), (0x2039, 0x203A, .qu),
  (0x203C, 0x203D, .ns), (0x2044, 0x2044, .infixSep), (0x2045, 0x2045, .op), (0x2046, 0x2046, .cl),
  (0x2047, 0x2049, .ns), (0x2056, 0x2056, .ba), (0x2057, 0x2057, .po), (0x2058, 0x205B, .ba),
  (0x205D, 0x205F, .ba), (0x2060, 0x2060, .wj), (0x2066, 0x206F, .cm), (0x207D, 0x207D, .op),
  (0x207E, 0x207E, .cl), (0x208D, 0x208D, .op), (0x208E, 0x208E, .cl), (0x20A0, 0x20A6, .pr),
  (0x20A7, 0x20A7, .po), (0x20A8, 0x20B5, .pr), (0x20B6, 0x20B6, .po), (0x20B7, 0x20BA, .pr),
  (0x20BB, 0x20BB, .po), (0x20BC, 0x20BD, .pr), (0x20BE, 0x20BE, .po), (0x20BF, 0x20BF, .pr),
  (0x20C0, 0x20C0, .po), (0x20C1, 0x20CF, .pr), (0x20D0, 0x20F0, .cm), (0x2103, 0x2103, .po),
  (0x2109, 0x2109, .po), (0x2116, 0x2116, .pr), (0x2212, 0x2213, .pr),
  (0x22EF, 0x22EF, .inseparable), (0x2308, 0x2308, .op), (0x2309, 0x2309, .cl),
  (0x230A, 0x230A, .op), (0x230B, 0x230B, .cl), (0x231A, 0x231B, .ideographic),
  (0x2329, 0x2329, .op), (0x232A, 0x232A, .cl), (0x23F0, 0x23F3, .ideographic),
  (0x2600, 0x2603, .ideographic), (0x2614, 0x2615, .ideographic), (0x2618, 0x2618, .ideographic),
  (0x261A, 0x261C, .ideographic), (0x261D, 0x261D, .emojiBase), (0x261E, 0x261F, .ideographic),
  (0x2639, 0x263B, .ideographic), (0x2668, 0x2668, .ideographic), (0x267F, 0x267F, .ideographic),
  (0x26BD, 0x26C8, .ideographic), (0x26CD, 0x26CD, .ideographic), (0x26CF, 0x26D1, .ideographic),
  (0x26D3, 0x26D4, .ideographic), (0x26D8, 0x26D9, .ideographic), (0x26DC, 0x26DC, .ideographic),
  (0x26DF, 0x26E1, .ideographic), (0x26EA, 0x26EA, .ideographic), (0x26F1, 0x26F5, .ideographic),
  (0x26F7, 0x26F8, .ideographic), (0x26F9, 0x26F9, .emojiBase), (0x26FA, 0x26FA, .ideographic),
  (0x26FD, 0x2704, .ideographic), (0x2708, 0x2709, .ideographic), (0x270A, 0x270D, .emojiBase),
  (0x275B, 0x2760, .qu), (0x2762, 0x2763, .ex), (0x2764, 0x2764, .ideographic),
  (0x2768, 0x2768, .op), (0x2769, 0x2769, .cl), (0x276A, 0x276A, .op), (0x276B, 0x276B, .cl),
  (0x276C, 0x276C, .op), (0x276D, 0x276D, .cl), (0x276E, 0x276E, .op), (0x276F, 0x276F, .cl),
  (0x2770, 0x2770, .op), (0x2771, 0x2771, .cl), (0x2772, 0x2772, .op), (0x2773, 0x2773, .cl),
  (0x2774, 0x2774, .op), (0x2775, 0x2775, .cl), (0x27C5, 0x27C5, .op), (0x27C6, 0x27C6, .cl),
  (0x27E6, 0x27E6, .op), (0x27E7, 0x27E7, .cl), (0x27E8, 0x27E8, .op), (0x27E9, 0x27E9, .cl),
  (0x27EA, 0x27EA, .op), (0x27EB, 0x27EB, .cl), (0x27EC, 0x27EC, .op), (0x27ED, 0x27ED, .cl),
  (0x27EE, 0x27EE, .op), (0x27EF, 0x27EF, .cl), (0x2983, 0x2983, .op), (0x2984, 0x2984, .cl),
  (0x2985, 0x2985, .op), (0x2986, 0x2986, .cl), (0x2987, 0x2987, .op), (0x2988, 0x2988, .cl),
  (0x2989, 0x2989, .op), (0x298A, 0x298A, .cl), (0x298B, 0x298B, .op), (0x298C, 0x298C, .cl),
  (0x298D, 0x298D, .op), (0x298E, 0x298E, .cl), (0x298F, 0x298F, .op), (0x2990, 0x2990, .cl),
  (0x2991, 0x2991, .op), (0x2992, 0x2992, .cl), (0x2993, 0x2993, .op), (0x2994, 0x2994, .cl),
  (0x2995, 0x2995, .op), (0x2996, 0x2996, .cl)]

/-- The ranges from U+2997 to U+FB1D. -/
def rangesC : Array (Nat × Nat × BreakClass) := #[
  (0x2997, 0x2997, .op), (0x2998, 0x2998, .cl), (0x29D8, 0x29D8, .op), (0x29D9, 0x29D9, .cl),
  (0x29DA, 0x29DA, .op), (0x29DB, 0x29DB, .cl), (0x29FC, 0x29FC, .op), (0x29FD, 0x29FD, .cl),
  (0x2CEF, 0x2CF1, .cm), (0x2CF9, 0x2CF9, .ex), (0x2CFA, 0x2CFC, .ba), (0x2CFE, 0x2CFE, .ex),
  (0x2CFF, 0x2CFF, .ba), (0x2D70, 0x2D70, .ba), (0x2D7F, 0x2D7F, .cm), (0x2DE0, 0x2DFF, .cm),
  (0x2E00, 0x2E0D, .qu), (0x2E0E, 0x2E15, .ba), (0x2E17, 0x2E17, .ba), (0x2E18, 0x2E18, .op),
  (0x2E19, 0x2E19, .ba), (0x2E1C, 0x2E1D, .qu), (0x2E20, 0x2E21, .qu), (0x2E22, 0x2E22, .op),
  (0x2E23, 0x2E23, .cl), (0x2E24, 0x2E24, .op), (0x2E25, 0x2E25, .cl), (0x2E26, 0x2E26, .op),
  (0x2E27, 0x2E27, .cl), (0x2E28, 0x2E28, .op), (0x2E29, 0x2E29, .cl), (0x2E2A, 0x2E2D, .ba),
  (0x2E2E, 0x2E2E, .ex), (0x2E30, 0x2E31, .ba), (0x2E33, 0x2E34, .ba), (0x2E3A, 0x2E3B, .b2),
  (0x2E3C, 0x2E3E, .ba), (0x2E40, 0x2E41, .ba), (0x2E42, 0x2E42, .op), (0x2E43, 0x2E4A, .ba),
  (0x2E4C, 0x2E4C, .ba), (0x2E4E, 0x2E4F, .ba), (0x2E53, 0x2E54, .ex), (0x2E55, 0x2E55, .op),
  (0x2E56, 0x2E56, .cl), (0x2E57, 0x2E57, .op), (0x2E58, 0x2E58, .cl), (0x2E59, 0x2E59, .op),
  (0x2E5A, 0x2E5A, .cl), (0x2E5B, 0x2E5B, .op), (0x2E5C, 0x2E5C, .cl), (0x2E5D, 0x2E5D, .ba),
  (0x2E80, 0x2E99, .ideographic), (0x2E9B, 0x2EF3, .ideographic), (0x2F00, 0x2FD5, .ideographic),
  (0x2FF0, 0x2FFB, .ideographic), (0x3000, 0x3000, .ba), (0x3001, 0x3002, .cl),
  (0x3003, 0x3004, .ideographic), (0x3005, 0x3005, .ns), (0x3006, 0x3007, .ideographic),
  (0x3008, 0x3008, .op), (0x3009, 0x3009, .cl), (0x300A, 0x300A, .op), (0x300B, 0x300B, .cl),
  (0x300C, 0x300C, .op), (0x300D, 0x300D, .cl), (0x300E, 0x300E, .op), (0x300F, 0x300F, .cl),
  (0x3010, 0x3010, .op), (0x3011, 0x3011, .cl), (0x3012, 0x3013, .ideographic),
  (0x3014, 0x3014, .op), (0x3015, 0x3015, .cl), (0x3016, 0x3016, .op), (0x3017, 0x3017, .cl),
  (0x3018, 0x3018, .op), (0x3019, 0x3019, .cl), (0x301A, 0x301A, .op), (0x301B, 0x301B, .cl),
  (0x301C, 0x301C, .ns), (0x301D, 0x301D, .op), (0x301E, 0x301F, .cl),
  (0x3020, 0x3029, .ideographic), (0x302A, 0x302F, .cm), (0x3030, 0x3034, .ideographic),
  (0x3035, 0x3035, .cm), (0x3036, 0x303A, .ideographic), (0x303B, 0x303C, .ns),
  (0x303D, 0x303F, .ideographic), (0x3041, 0x3041, .ns), (0x3042, 0x3042, .ideographic),
  (0x3043, 0x3043, .ns), (0x3044, 0x3044, .ideographic), (0x3045, 0x3045, .ns),
  (0x3046, 0x3046, .ideographic), (0x3047, 0x3047, .ns), (0x3048, 0x3048, .ideographic),
  (0x3049, 0x3049, .ns), (0x304A, 0x3062, .ideographic), (0x3063, 0x3063, .ns),
  (0x3064, 0x3082, .ideographic), (0x3083, 0x3083, .ns), (0x3084, 0x3084, .ideographic),
  (0x3085, 0x3085, .ns), (0x3086, 0x3086, .ideographic), (0x3087, 0x3087, .ns),
  (0x3088, 0x308D, .ideographic), (0x308E, 0x308E, .ns), (0x308F, 0x3094, .ideographic),
  (0x3095, 0x3096, .ns), (0x3099, 0x309A, .cm), (0x309B, 0x309E, .ns),
  (0x309F, 0x309F, .ideographic), (0x30A0, 0x30A1, .ns), (0x30A2, 0x30A2, .ideographic),
  (0x30A3, 0x30A3, .ns), (0x30A4, 0x30A4, .ideographic), (0x30A5, 0x30A5, .ns),
  (0x30A6, 0x30A6, .ideographic), (0x30A7, 0x30A7, .ns), (0x30A8, 0x30A8, .ideographic),
  (0x30A9, 0x30A9, .ns), (0x30AA, 0x30C2, .ideographic), (0x30C3, 0x30C3, .ns),
  (0x30C4, 0x30E2, .ideographic), (0x30E3, 0x30E3, .ns), (0x30E4, 0x30E4, .ideographic),
  (0x30E5, 0x30E5, .ns), (0x30E6, 0x30E6, .ideographic), (0x30E7, 0x30E7, .ns),
  (0x30E8, 0x30ED, .ideographic), (0x30EE, 0x30EE, .ns), (0x30EF, 0x30F4, .ideographic),
  (0x30F5, 0x30F6, .ns), (0x30F7, 0x30FA, .ideographic), (0x30FB, 0x30FE, .ns),
  (0x30FF, 0x30FF, .ideographic), (0x3105, 0x312F, .ideographic), (0x3131, 0x318E, .ideographic),
  (0x3190, 0x31E3, .ideographic), (0x31F0, 0x31FF, .ns), (0x3200, 0x321E, .ideographic),
  (0x3220, 0x3247, .ideographic), (0x3250, 0x4DBF, .ideographic), (0x4E00, 0xA014, .ideographic),
  (0xA015, 0xA015, .ns), (0xA016, 0xA48C, .ideographic), (0xA490, 0xA4C6, .ideographic),
  (0xA4FE, 0xA4FF, .ba), (0xA60D, 0xA60D, .ba), (0xA60E, 0xA60E, .ex), (0xA60F, 0xA60F, .ba),
  (0xA620, 0xA629, .nu), (0xA66F, 0xA672, .cm), (0xA674, 0xA67D, .cm), (0xA69E, 0xA69F, .cm),
  (0xA6F0, 0xA6F1, .cm), (0xA6F3, 0xA6F7, .ba), (0xA802, 0xA802, .cm), (0xA806, 0xA806, .cm),
  (0xA80B, 0xA80B, .cm), (0xA823, 0xA827, .cm), (0xA82C, 0xA82C, .cm), (0xA838, 0xA838, .po),
  (0xA874, 0xA875, .bb), (0xA876, 0xA877, .ex), (0xA880, 0xA881, .cm), (0xA8B4, 0xA8C5, .cm),
  (0xA8CE, 0xA8CF, .ba), (0xA8D0, 0xA8D9, .nu), (0xA8E0, 0xA8F1, .cm), (0xA8FC, 0xA8FC, .bb),
  (0xA8FF, 0xA8FF, .cm), (0xA900, 0xA909, .nu), (0xA926, 0xA92D, .cm), (0xA92E, 0xA92F, .ba),
  (0xA947, 0xA953, .cm), (0xA960, 0xA97C, .jl), (0xA980, 0xA983, .cm), (0xA9B3, 0xA9C0, .cm),
  (0xA9C7, 0xA9C9, .ba), (0xA9D0, 0xA9D9, .nu), (0xA9F0, 0xA9F9, .nu), (0xAA29, 0xAA36, .cm),
  (0xAA43, 0xAA43, .cm), (0xAA4C, 0xAA4D, .cm), (0xAA50, 0xAA59, .nu), (0xAA5D, 0xAA5F, .ba),
  (0xAAEB, 0xAAEF, .cm), (0xAAF0, 0xAAF1, .ba), (0xAAF5, 0xAAF6, .cm), (0xABE3, 0xABEA, .cm),
  (0xABEB, 0xABEB, .ba), (0xABEC, 0xABED, .cm), (0xABF0, 0xABF9, .nu), (0xD7B0, 0xD7C6, .jv),
  (0xD7CB, 0xD7FB, .jt), (0xF900, 0xFAFF, .ideographic), (0xFB1D, 0xFB1D, .hl)]

/-- The ranges from U+FB1E to U+1193E. -/
def rangesD : Array (Nat × Nat × BreakClass) := #[
  (0xFB1E, 0xFB1E, .cm), (0xFB1F, 0xFB28, .hl), (0xFB2A, 0xFB36, .hl), (0xFB38, 0xFB3C, .hl),
  (0xFB3E, 0xFB3E, .hl), (0xFB40, 0xFB41, .hl), (0xFB43, 0xFB44, .hl), (0xFB46, 0xFB4F, .hl),
  (0xFD3E, 0xFD3E, .cl), (0xFD3F, 0xFD3F, .op), (0xFDFC, 0xFDFC, .po), (0xFE00, 0xFE0F, .cm),
  (0xFE10, 0xFE10, .infixSep), (0xFE11, 0xFE12, .cl), (0xFE13, 0xFE14, .infixSep),
  (0xFE15, 0xFE16, .ex), (0xFE17, 0xFE17, .op), (0xFE18, 0xFE18, .cl),
  (0xFE19, 0xFE19, .inseparable), (0xFE20, 0xFE2F, .cm), (0xFE30, 0xFE34, .ideographic),
  (0xFE35, 0xFE35, .op), (0xFE36, 0xFE36, .cl), (0xFE37, 0xFE37, .op), (0xFE38, 0xFE38, .cl),
  (0xFE39, 0xFE39, .op), (0xFE3A, 0xFE3A, .cl), (0xFE3B, 0xFE3B, .op), (0xFE3C, 0xFE3C, .cl),
  (0xFE3D, 0xFE3D, .op), (0xFE3E, 0xFE3E, .cl), (0xFE3F, 0xFE3F, .op), (0xFE40, 0xFE40, .cl),
  (0xFE41, 0xFE41, .op), (0xFE42, 0xFE42, .cl), (0xFE43, 0xFE43, .op), (0xFE44, 0xFE44, .cl),
  (0xFE45, 0xFE46, .ideographic), (0xFE47, 0xFE47, .op), (0xFE48, 0xFE48, .cl),
  (0xFE49, 0xFE4F, .ideographic), (0xFE50, 0xFE50, .cl), (0xFE51, 0xFE51, .ideographic),
  (0xFE52, 0xFE52, .cl), (0xFE54, 0xFE55, .ns), (0xFE56, 0xFE57, .ex),
  (0xFE58, 0xFE58, .ideographic), (0xFE59, 0xFE59, .op), (0xFE5A, 0xFE5A, .cl),
  (0xFE5B, 0xFE5B, .op), (0xFE5C, 0xFE5C, .cl), (0xFE5D, 0xFE5D, .op), (0xFE5E, 0xFE5E, .cl),
  (0xFE5F, 0xFE66, .ideographic), (0xFE68, 0xFE68, .ideographic), (0xFE69, 0xFE69, .pr),
  (0xFE6A, 0xFE6A, .po), (0xFE6B, 0xFE6B, .ideographic), (0xFEFF, 0xFEFF, .wj),
  (0xFF01, 0xFF01, .ex), (0xFF02, 0xFF03, .ideographic), (0xFF04, 0xFF04, .pr),
  (0xFF05, 0xFF05, .po), (0xFF06, 0xFF07, .ideographic), (0xFF08, 0xFF08, .op),
  (0xFF09, 0xFF09, .cl), (0xFF0A, 0xFF0B, .ideographic), (0xFF0C, 0xFF0C, .cl),
  (0xFF0D, 0xFF0D, .ideographic), (0xFF0E, 0xFF0E, .cl), (0xFF0F, 0xFF19, .ideographic),
  (0xFF1A, 0xFF1B, .ns), (0xFF1C, 0xFF1E, .ideographic), (0xFF1F, 0xFF1F, .ex),
  (0xFF20, 0xFF3A, .ideographic), (0xFF3B, 0xFF3B, .op), (0xFF3C, 0xFF3C, .ideographic),
  (0xFF3D, 0xFF3D, .cl), (0xFF3E, 0xFF5A, .ideographic), (0xFF5B, 0xFF5B, .op),
  (0xFF5C, 0xFF5C, .ideographic), (0xFF5D, 0xFF5D, .cl), (0xFF5E, 0xFF5E, .ideographic),
  (0xFF5F, 0xFF5F, .op), (0xFF60, 0xFF61, .cl), (0xFF62, 0xFF62, .op), (0xFF63, 0xFF64, .cl),
  (0xFF65, 0xFF65, .ns), (0xFF66, 0xFF66, .ideographic), (0xFF67, 0xFF70, .ns),
  (0xFF71, 0xFF9D, .ideographic), (0xFF9E, 0xFF9F, .ns), (0xFFA0, 0xFFBE, .ideographic),
  (0xFFC2, 0xFFC7, .ideographic), (0xFFCA, 0xFFCF, .ideographic), (0xFFD2, 0xFFD7, .ideographic),
  (0xFFDA, 0xFFDC, .ideographic), (0xFFE0, 0xFFE0, .po), (0xFFE1, 0xFFE1, .pr),
  (0xFFE2, 0xFFE4, .ideographic), (0xFFE5, 0xFFE6, .pr), (0xFFF9, 0xFFFB, .cm),
  (0xFFFC, 0xFFFC, .cb), (0x10100, 0x10102, .ba), (0x101FD, 0x101FD, .cm), (0x102E0, 0x102E0, .cm),
  (0x10376, 0x1037A, .cm), (0x1039F, 0x1039F, .ba), (0x103D0, 0x103D0, .ba),
  (0x104A0, 0x104A9, .nu), (0x10857, 0x10857, .ba), (0x1091F, 0x1091F, .ba),
  (0x10A01, 0x10A03, .cm), (0x10A05, 0x10A06, .cm), (0x10A0C, 0x10A0F, .cm),
  (0x10A38, 0x10A3A, .cm), (0x10A3F, 0x10A3F, .cm), (0x10A50, 0x10A57, .ba),
  (0x10AE5, 0x10AE6, .cm), (0x10AF0, 0x10AF5, .ba), (0x10AF6, 0x10AF6, .inseparable),
  (0x10B39, 0x10B3F, .ba), (0x10D24, 0x10D27, .cm), (0x10D30, 0x10D39, .nu),
  (0x10EAB, 0x10EAC, .cm), (0x10EAD, 0x10EAD, .ba), (0x10EFD, 0x10EFF, .cm),
  (0x10F46, 0x10F50, .cm), (0x10F82, 0x10F85, .cm), (0x11000, 0x11002, .cm),
  (0x11038, 0x11046, .cm), (0x11047, 0x11048, .ba), (0x11066, 0x1106F, .nu),
  (0x11070, 0x11070, .cm), (0x11073, 0x11074, .cm), (0x1107F, 0x11082, .cm),
  (0x110B0, 0x110BA, .cm), (0x110BE, 0x110C1, .ba), (0x110C2, 0x110C2, .cm),
  (0x110F0, 0x110F9, .nu), (0x11100, 0x11102, .cm), (0x11127, 0x11134, .cm),
  (0x11136, 0x1113F, .nu), (0x11140, 0x11143, .ba), (0x11145, 0x11146, .cm),
  (0x11173, 0x11173, .cm), (0x11175, 0x11175, .bb), (0x11180, 0x11182, .cm),
  (0x111B3, 0x111C0, .cm), (0x111C5, 0x111C6, .ba), (0x111C8, 0x111C8, .ba),
  (0x111C9, 0x111CC, .cm), (0x111CE, 0x111CF, .cm), (0x111D0, 0x111D9, .nu),
  (0x111DB, 0x111DB, .bb), (0x111DD, 0x111DF, .ba), (0x1122C, 0x11237, .cm),
  (0x11238, 0x11239, .ba), (0x1123B, 0x1123C, .ba), (0x1123E, 0x1123E, .cm),
  (0x11241, 0x11241, .cm), (0x112A9, 0x112A9, .ba), (0x112DF, 0x112EA, .cm),
  (0x112F0, 0x112F9, .nu), (0x11300, 0x11303, .cm), (0x1133B, 0x1133C, .cm),
  (0x1133E, 0x11344, .cm), (0x11347, 0x11348, .cm), (0x1134B, 0x1134D, .cm),
  (0x11357, 0x11357, .cm), (0x11362, 0x11363, .cm), (0x11366, 0x1136C, .cm),
  (0x11370, 0x11374, .cm), (0x11435, 0x11446, .cm), (0x1144B, 0x1144E, .ba),
  (0x11450, 0x11459, .nu), (0x1145A, 0x1145B, .ba), (0x1145E, 0x1145E, .cm),
  (0x114B0, 0x114C3, .cm), (0x114D0, 0x114D9, .nu), (0x115AF, 0x115B5, .cm),
  (0x115B8, 0x115C0, .cm), (0x115C1, 0x115C1, .bb), (0x115C2, 0x115C3, .ba),
  (0x115C4, 0x115C5, .ex), (0x115C9, 0x115D7, .ba), (0x115DC, 0x115DD, .cm),
  (0x11630, 0x11640, .cm), (0x11641, 0x11642, .ba), (0x11650, 0x11659, .nu),
  (0x11660, 0x1166C, .bb), (0x116AB, 0x116B7, .cm), (0x116C0, 0x116C9, .nu),
  (0x11730, 0x11739, .nu), (0x1173C, 0x1173E, .ba), (0x1182C, 0x1183A, .cm),
  (0x118E0, 0x118E9, .nu), (0x11930, 0x11935, .cm), (0x11937, 0x11938, .cm),
  (0x1193B, 0x1193E, .cm)]

/-- The ranges from U+11940 to U+1F6C0. -/
def rangesE : Array (Nat × Nat × BreakClass) := #[
  (0x11940, 0x11940, .cm), (0x11942, 0x11943, .cm), (0x11944, 0x11946, .ba),
  (0x11950, 0x11959, .nu), (0x119D1, 0x119D7, .cm), (0x119DA, 0x119E0, .cm),
  (0x119E2, 0x119E2, .bb), (0x119E4, 0x119E4, .cm), (0x11A01, 0x11A0A, .cm),
  (0x11A33, 0x11A39, .cm), (0x11A3B, 0x11A3E, .cm), (0x11A3F, 0x11A3F, .bb),
  (0x11A41, 0x11A44, .ba), (0x11A45, 0x11A45, .bb), (0x11A47, 0x11A47, .cm),
  (0x11A51, 0x11A5B, .cm), (0x11A8A, 0x11A99, .cm), (0x11A9A, 0x11A9C, .ba),
  (0x11A9E, 0x11AA0, .bb), (0x11AA1, 0x11AA2, .ba), (0x11B00, 0x11B09, .bb),
  (0x11C2F, 0x11C36, .cm), (0x11C38, 0x11C3F, .cm), (0x11C41, 0x11C45, .ba),
  (0x11C50, 0x11C59, .nu), (0x11C70, 0x11C70, .bb), (0x11C71, 0x11C71, .ex),
  (0x11C92, 0x11CA7, .cm), (0x11CA9, 0x11CB6, .cm), (0x11D31, 0x11D36, .cm),
  (0x11D3A, 0x11D3A, .cm), (0x11D3C, 0x11D3D, .cm), (0x11D3F, 0x11D45, .cm),
  (0x11D47, 0x11D47, .cm), (0x11D50, 0x11D59, .nu), (0x11D8A, 0x11D8E, .cm),
  (0x11D90, 0x11D91, .cm), (0x11D93, 0x11D97, .cm), (0x11DA0, 0x11DA9, .nu),
  (0x11EF3, 0x11EF6, .cm), (0x11F00, 0x11F01, .cm), (0x11F03, 0x11F03, .cm),
  (0x11F34, 0x11F3A, .cm), (0x11F3E, 0x11F42, .cm), (0x11F43, 0x11F44, .ba),
  (0x11F45, 0x11F4F, .ideographic), (0x11F50, 0x11F59, .nu), (0x11FDD, 0x11FE0, .po),
  (0x11FFF, 0x11FFF, .ba), (0x12470, 0x12474, .ba), (0x13258, 0x1325A, .op),
  (0x1325B, 0x1325D, .cl), (0x13282, 0x13282, .cl), (0x13286, 0x13286, .op),
  (0x13287, 0x13287, .cl), (0x13288, 0x13288, .op), (0x13289, 0x13289, .cl),
  (0x13379, 0x13379, .op), (0x1337A, 0x1337B, .cl), (0x13430, 0x13436, .gl),
  (0x13437, 0x13437, .op), (0x13438, 0x13438, .cl), (0x13439, 0x1343B, .gl),
  (0x1343C, 0x1343C, .op), (0x1343D, 0x1343D, .cl), (0x1343E, 0x1343E, .op),
  (0x1343F, 0x1343F, .cl), (0x13440, 0x13440, .cm), (0x13447, 0x13455, .cm),
  (0x145CE, 0x145CE, .op), (0x145CF, 0x145CF, .cl), (0x16A60, 0x16A69, .nu),
  (0x16A6E, 0x16A6F, .ba), (0x16AC0, 0x16AC9, .nu), (0x16AF0, 0x16AF4, .cm),
  (0x16AF5, 0x16AF5, .ba), (0x16B30, 0x16B36, .cm), (0x16B37, 0x16B39, .ba),
  (0x16B44, 0x16B44, .ba), (0x16B50, 0x16B59, .nu), (0x16E97, 0x16E98, .ba),
  (0x16F4F, 0x16F4F, .cm), (0x16F51, 0x16F87, .cm), (0x16F8F, 0x16F92, .cm),
  (0x16FE0, 0x16FE3, .ns), (0x16FE4, 0x16FE4, .gl), (0x16FF0, 0x16FF1, .cm),
  (0x17000, 0x187F7, .ideographic), (0x18800, 0x18AFF, .ideographic),
  (0x18D00, 0x18D08, .ideographic), (0x1B000, 0x1B122, .ideographic), (0x1B132, 0x1B132, .ns),
  (0x1B150, 0x1B152, .ns), (0x1B155, 0x1B155, .ns), (0x1B164, 0x1B167, .ns),
  (0x1B170, 0x1B2FB, .ideographic), (0x1BC9D, 0x1BC9E, .cm), (0x1BC9F, 0x1BC9F, .ba),
  (0x1BCA0, 0x1BCA3, .cm), (0x1CF00, 0x1CF2D, .cm), (0x1CF30, 0x1CF46, .cm),
  (0x1D165, 0x1D169, .cm), (0x1D16D, 0x1D182, .cm), (0x1D185, 0x1D18B, .cm),
  (0x1D1AA, 0x1D1AD, .cm), (0x1D242, 0x1D244, .cm), (0x1D7CE, 0x1D7FF, .nu),
  (0x1DA00, 0x1DA36, .cm), (0x1DA3B, 0x1DA6C, .cm), (0x1DA75, 0x1DA75, .cm),
  (0x1DA84, 0x1DA84, .cm), (0x1DA87, 0x1DA8A, .ba), (0x1DA9B, 0x1DA9F, .cm),
  (0x1DAA1, 0x1DAAF, .cm), (0x1E000, 0x1E006, .cm), (0x1E008, 0x1E018, .cm),
  (0x1E01B, 0x1E021, .cm), (0x1E023, 0x1E024, .cm), (0x1E026, 0x1E02A, .cm),
  (0x1E08F, 0x1E08F, .cm), (0x1E130, 0x1E136, .cm), (0x1E140, 0x1E149, .nu),
  (0x1E2AE, 0x1E2AE, .cm), (0x1E2EC, 0x1E2EF, .cm), (0x1E2F0, 0x1E2F9, .nu),
  (0x1E2FF, 0x1E2FF, .pr), (0x1E4EC, 0x1E4EF, .cm), (0x1E4F0, 0x1E4F9, .nu),
  (0x1E8D0, 0x1E8D6, .cm), (0x1E944, 0x1E94A, .cm), (0x1E950, 0x1E959, .nu),
  (0x1E95E, 0x1E95F, .op), (0x1ECAC, 0x1ECAC, .po), (0x1ECB0, 0x1ECB0, .po),
  (0x1F000, 0x1F0FF, .ideographic), (0x1F10D, 0x1F10F, .ideographic),
  (0x1F16D, 0x1F16F, .ideographic), (0x1F1AD, 0x1F1E5, .ideographic), (0x1F1E6, 0x1F1FF, .ri),
  (0x1F200, 0x1F384, .ideographic), (0x1F385, 0x1F385, .emojiBase),
  (0x1F386, 0x1F39B, .ideographic), (0x1F39E, 0x1F3B4, .ideographic),
  (0x1F3B7, 0x1F3BB, .ideographic), (0x1F3BD, 0x1F3C1, .ideographic),
  (0x1F3C2, 0x1F3C4, .emojiBase), (0x1F3C5, 0x1F3C6, .ideographic), (0x1F3C7, 0x1F3C7, .emojiBase),
  (0x1F3C8, 0x1F3C9, .ideographic), (0x1F3CA, 0x1F3CC, .emojiBase),
  (0x1F3CD, 0x1F3FA, .ideographic), (0x1F3FB, 0x1F3FF, .emojiModifier),
  (0x1F400, 0x1F441, .ideographic), (0x1F442, 0x1F443, .emojiBase),
  (0x1F444, 0x1F445, .ideographic), (0x1F446, 0x1F450, .emojiBase),
  (0x1F451, 0x1F465, .ideographic), (0x1F466, 0x1F478, .emojiBase),
  (0x1F479, 0x1F47B, .ideographic), (0x1F47C, 0x1F47C, .emojiBase),
  (0x1F47D, 0x1F480, .ideographic), (0x1F481, 0x1F483, .emojiBase),
  (0x1F484, 0x1F484, .ideographic), (0x1F485, 0x1F487, .emojiBase),
  (0x1F488, 0x1F48E, .ideographic), (0x1F48F, 0x1F48F, .emojiBase),
  (0x1F490, 0x1F490, .ideographic), (0x1F491, 0x1F491, .emojiBase),
  (0x1F492, 0x1F49F, .ideographic), (0x1F4A1, 0x1F4A1, .ideographic),
  (0x1F4A3, 0x1F4A3, .ideographic), (0x1F4A5, 0x1F4A9, .ideographic),
  (0x1F4AA, 0x1F4AA, .emojiBase), (0x1F4AB, 0x1F4AE, .ideographic),
  (0x1F4B0, 0x1F4B0, .ideographic), (0x1F4B3, 0x1F4FF, .ideographic),
  (0x1F507, 0x1F516, .ideographic), (0x1F525, 0x1F531, .ideographic),
  (0x1F54A, 0x1F573, .ideographic), (0x1F574, 0x1F575, .emojiBase),
  (0x1F576, 0x1F579, .ideographic), (0x1F57A, 0x1F57A, .emojiBase),
  (0x1F57B, 0x1F58F, .ideographic), (0x1F590, 0x1F590, .emojiBase),
  (0x1F591, 0x1F594, .ideographic), (0x1F595, 0x1F596, .emojiBase),
  (0x1F597, 0x1F5D3, .ideographic), (0x1F5DC, 0x1F5F3, .ideographic),
  (0x1F5FA, 0x1F644, .ideographic), (0x1F645, 0x1F647, .emojiBase),
  (0x1F648, 0x1F64A, .ideographic), (0x1F64B, 0x1F64F, .emojiBase), (0x1F676, 0x1F678, .qu),
  (0x1F679, 0x1F67B, .ns), (0x1F680, 0x1F6A2, .ideographic), (0x1F6A3, 0x1F6A3, .emojiBase),
  (0x1F6A4, 0x1F6B3, .ideographic), (0x1F6B4, 0x1F6B6, .emojiBase),
  (0x1F6B7, 0x1F6BF, .ideographic), (0x1F6C0, 0x1F6C0, .emojiBase)]

/-- The ranges from U+1F6C1 to U+E01EF. -/
def rangesF : Array (Nat × Nat × BreakClass) := #[
  (0x1F6C1, 0x1F6CB, .ideographic), (0x1F6CC, 0x1F6CC, .emojiBase),
  (0x1F6CD, 0x1F6FF, .ideographic), (0x1F774, 0x1F77F, .ideographic),
  (0x1F7D5, 0x1F7FF, .ideographic), (0x1F80C, 0x1F80F, .ideographic),
  (0x1F848, 0x1F84F, .ideographic), (0x1F85A, 0x1F85F, .ideographic),
  (0x1F888, 0x1F88F, .ideographic), (0x1F8AE, 0x1F8FF, .ideographic),
  (0x1F90C, 0x1F90C, .emojiBase), (0x1F90D, 0x1F90E, .ideographic), (0x1F90F, 0x1F90F, .emojiBase),
  (0x1F910, 0x1F917, .ideographic), (0x1F918, 0x1F91F, .emojiBase),
  (0x1F920, 0x1F925, .ideographic), (0x1F926, 0x1F926, .emojiBase),
  (0x1F927, 0x1F92F, .ideographic), (0x1F930, 0x1F939, .emojiBase),
  (0x1F93A, 0x1F93B, .ideographic), (0x1F93C, 0x1F93E, .emojiBase),
  (0x1F93F, 0x1F976, .ideographic), (0x1F977, 0x1F977, .emojiBase),
  (0x1F978, 0x1F9B4, .ideographic), (0x1F9B5, 0x1F9B6, .emojiBase),
  (0x1F9B7, 0x1F9B7, .ideographic), (0x1F9B8, 0x1F9B9, .emojiBase),
  (0x1F9BA, 0x1F9BA, .ideographic), (0x1F9BB, 0x1F9BB, .emojiBase),
  (0x1F9BC, 0x1F9CC, .ideographic), (0x1F9CD, 0x1F9CF, .emojiBase),
  (0x1F9D0, 0x1F9D0, .ideographic), (0x1F9D1, 0x1F9DD, .emojiBase),
  (0x1F9DE, 0x1F9FF, .ideographic), (0x1FA54, 0x1FAC2, .ideographic),
  (0x1FAC3, 0x1FAC5, .emojiBase), (0x1FAC6, 0x1FAEF, .ideographic), (0x1FAF0, 0x1FAF8, .emojiBase),
  (0x1FAF9, 0x1FAFF, .ideographic), (0x1FBF0, 0x1FBF9, .nu), (0x1FC00, 0x1FFFD, .ideographic),
  (0x20000, 0x2FFFD, .ideographic), (0x30000, 0x3FFFD, .ideographic), (0xE0001, 0xE0001, .cm),
  (0xE0020, 0xE007F, .cm), (0xE0100, 0xE01EF, .cm)]

/-- All ranges. -/
def ranges : Array (Nat × Nat × BreakClass) :=
  rangesA ++ rangesB ++ rangesC ++ rangesD ++ rangesE ++ rangesF

end Assay.Text.LineBreak
