import RegistrySync.Text.Cut
import RegistrySync.Url.Fault
import RegistrySync.Url.Punycode

/-!
Names of hosts in any script.

A name is brought to one spelling, character by character: capital letters become small ones, wide
forms narrow ones, some characters are dropped and some are refused. The labels between its points
that then go beyond ASCII are written in ASCII with a mark in front. The table covers the Latin,
Greek, Cyrillic and Armenian letters, punctuation and wide forms; other characters stand as they are.
-/

namespace RegistrySync.Url

/-- What becomes of a character in a name. -/
inductive Treatment where
  /-- The character this far away. -/
  | shift (distance : Int)
  /-- One of two neighbours, of which the second stands for both. -/
  | pair
  | drop
  | refuse
  /-- The characters with these numbers. -/
  | text (numbers : List Nat)
  deriving DecidableEq, Repr

/-- Ranges of characters that are not kept, by their first and last ones. -/
def treatments : List (Nat × Nat × Treatment) := [
  (0x80, 0x9F, .refuse), (0xA0, 0xA0, .shift (-128)), (0xA8, 0xA8, .text [0x20, 0x308]),
  (0xAA, 0xAA, .shift (-73)), (0xAD, 0xAD, .drop), (0xAF, 0xAF, .text [0x20, 0x304]),
  (0xB2, 0xB3, .shift (-128)), (0xB4, 0xB4, .text [0x20, 0x301]), (0xB5, 0xB5, .shift 775),
  (0xB8, 0xB8, .text [0x20, 0x327]), (0xB9, 0xB9, .shift (-136)), (0xBA, 0xBA, .shift (-75)),
  (0xBC, 0xBC, .text [0x31, 0x2044, 0x34]), (0xBD, 0xBD, .text [0x31, 0x2044, 0x32]),
  (0xBE, 0xBE, .text [0x33, 0x2044, 0x34]), (0xC0, 0xD6, .shift 32), (0xD8, 0xDE, .shift 32),
  (0x100, 0x12F, .pair), (0x130, 0x130, .text [0x69, 0x307]), (0x132, 0x132, .text [0x69, 0x6A]),
  (0x133, 0x133, .text [0x69, 0x6A]), (0x134, 0x137, .pair), (0x139, 0x13E, .pair),
  (0x13F, 0x13F, .text [0x6C, 0xB7]), (0x140, 0x140, .text [0x6C, 0xB7]), (0x141, 0x148, .pair),
  (0x149, 0x149, .text [0x2BC, 0x6E]), (0x14A, 0x177, .pair), (0x178, 0x178, .shift (-121)),
  (0x179, 0x17E, .pair), (0x17F, 0x17F, .shift (-268)), (0x181, 0x181, .shift 210),
  (0x182, 0x185, .pair), (0x186, 0x186, .shift 206), (0x187, 0x187, .shift 1),
  (0x189, 0x18A, .shift 205), (0x18B, 0x18B, .shift 1), (0x18E, 0x18E, .shift 79),
  (0x18F, 0x18F, .shift 202), (0x190, 0x190, .shift 203), (0x191, 0x191, .shift 1),
  (0x193, 0x193, .shift 205), (0x194, 0x194, .shift 207), (0x196, 0x196, .shift 211),
  (0x197, 0x197, .shift 209), (0x198, 0x198, .shift 1), (0x19C, 0x19C, .shift 211),
  (0x19D, 0x19D, .shift 213), (0x19F, 0x19F, .shift 214), (0x1A0, 0x1A5, .pair),
  (0x1A6, 0x1A6, .shift 218), (0x1A7, 0x1A7, .shift 1), (0x1A9, 0x1A9, .shift 218),
  (0x1AC, 0x1AC, .shift 1), (0x1AE, 0x1AE, .shift 218), (0x1AF, 0x1AF, .shift 1),
  (0x1B1, 0x1B2, .shift 217), (0x1B3, 0x1B6, .pair), (0x1B7, 0x1B7, .shift 219),
  (0x1B8, 0x1B8, .shift 1), (0x1BC, 0x1BC, .shift 1), (0x1C4, 0x1C4, .text [0x64, 0x17E]),
  (0x1C5, 0x1C5, .text [0x64, 0x17E]), (0x1C6, 0x1C6, .text [0x64, 0x17E]),
  (0x1C7, 0x1C7, .text [0x6C, 0x6A]), (0x1C8, 0x1C8, .text [0x6C, 0x6A]),
  (0x1C9, 0x1C9, .text [0x6C, 0x6A]), (0x1CA, 0x1CA, .text [0x6E, 0x6A]),
  (0x1CB, 0x1CB, .text [0x6E, 0x6A]), (0x1CC, 0x1CC, .text [0x6E, 0x6A]), (0x1CD, 0x1DC, .pair),
  (0x1DE, 0x1EF, .pair), (0x1F1, 0x1F1, .text [0x64, 0x7A]), (0x1F2, 0x1F2, .text [0x64, 0x7A]),
  (0x1F3, 0x1F3, .text [0x64, 0x7A]), (0x1F4, 0x1F4, .shift 1), (0x1F6, 0x1F6, .shift (-97)),
  (0x1F7, 0x1F7, .shift (-56)), (0x1F8, 0x21F, .pair), (0x220, 0x220, .shift (-130)),
  (0x222, 0x233, .pair), (0x23A, 0x23A, .shift 10795), (0x23B, 0x23B, .shift 1),
  (0x23D, 0x23D, .shift (-163)), (0x23E, 0x23E, .shift 10792), (0x241, 0x241, .shift 1),
  (0x243, 0x243, .shift (-195)), (0x244, 0x244, .shift 69), (0x245, 0x245, .shift 71),
  (0x246, 0x24F, .pair), (0x2B0, 0x2B0, .shift (-584)), (0x2B1, 0x2B1, .shift (-75)),
  (0x2B2, 0x2B2, .shift (-584)), (0x2B3, 0x2B3, .shift (-577)), (0x2B4, 0x2B4, .shift (-59)),
  (0x2B5, 0x2B5, .shift (-58)), (0x2B6, 0x2B6, .shift (-53)), (0x2B7, 0x2B7, .shift (-576)),
  (0x2B8, 0x2B8, .shift (-575)), (0x2D8, 0x2D8, .text [0x20, 0x306]),
  (0x2D9, 0x2D9, .text [0x20, 0x307]), (0x2DA, 0x2DA, .text [0x20, 0x30A]),
  (0x2DB, 0x2DB, .text [0x20, 0x328]), (0x2DC, 0x2DC, .text [0x20, 0x303]),
  (0x2DD, 0x2DD, .text [0x20, 0x30B]), (0x2E0, 0x2E0, .shift (-125)),
  (0x2E1, 0x2E1, .shift (-629)), (0x2E2, 0x2E2, .shift (-623)), (0x2E3, 0x2E3, .shift (-619)),
  (0x2E4, 0x2E4, .shift (-79)), (0x340, 0x341, .shift (-64)), (0x343, 0x343, .shift (-48)),
  (0x344, 0x344, .text [0x308, 0x301]), (0x345, 0x345, .shift 116), (0x34F, 0x34F, .drop),
  (0x370, 0x373, .pair), (0x374, 0x374, .shift (-187)), (0x376, 0x376, .shift 1),
  (0x378, 0x379, .refuse), (0x37A, 0x37A, .text [0x20, 0x3B9]), (0x37E, 0x37E, .shift (-835)),
  (0x37F, 0x37F, .shift 116), (0x380, 0x383, .refuse), (0x384, 0x384, .text [0x20, 0x301]),
  (0x385, 0x385, .text [0x20, 0x308, 0x301]), (0x386, 0x386, .shift 38),
  (0x387, 0x387, .shift (-720)), (0x388, 0x38A, .shift 37), (0x38B, 0x38B, .refuse),
  (0x38C, 0x38C, .shift 64), (0x38D, 0x38D, .refuse), (0x38E, 0x38F, .shift 63),
  (0x391, 0x3A1, .shift 32), (0x3A2, 0x3A2, .refuse), (0x3A3, 0x3AB, .shift 32),
  (0x3CF, 0x3CF, .shift 8), (0x3D0, 0x3D0, .shift (-30)), (0x3D1, 0x3D1, .shift (-25)),
  (0x3D2, 0x3D2, .shift (-13)), (0x3D3, 0x3D3, .shift (-6)), (0x3D4, 0x3D4, .shift (-9)),
  (0x3D5, 0x3D5, .shift (-15)), (0x3D6, 0x3D6, .shift (-22)), (0x3D8, 0x3EF, .pair),
  (0x3F0, 0x3F0, .shift (-54)), (0x3F1, 0x3F1, .shift (-48)), (0x3F2, 0x3F2, .shift (-47)),
  (0x3F4, 0x3F4, .shift (-60)), (0x3F5, 0x3F5, .shift (-64)), (0x3F7, 0x3F7, .shift 1),
  (0x3F9, 0x3F9, .shift (-54)), (0x3FA, 0x3FA, .shift 1), (0x3FD, 0x3FF, .shift (-130)),
  (0x400, 0x40F, .shift 80), (0x410, 0x42F, .shift 32), (0x460, 0x481, .pair),
  (0x48A, 0x4BF, .pair), (0x4C0, 0x4C0, .shift 15), (0x4C1, 0x4CE, .pair), (0x4D0, 0x52F, .pair),
  (0x531, 0x556, .shift 48), (0x557, 0x558, .refuse), (0x587, 0x587, .text [0x565, 0x582]),
  (0x1E00, 0x1E95, .pair), (0x1E9A, 0x1E9A, .text [0x61, 0x2BE]), (0x1E9B, 0x1E9B, .shift (-58)),
  (0x1E9E, 0x1E9E, .shift (-7615)), (0x1EA0, 0x1EFF, .pair), (0x2000, 0x2000, .shift (-8160)),
  (0x2001, 0x2001, .shift (-8161)), (0x2002, 0x2002, .shift (-8162)),
  (0x2003, 0x2003, .shift (-8163)), (0x2004, 0x2004, .shift (-8164)),
  (0x2005, 0x2005, .shift (-8165)), (0x2006, 0x2006, .shift (-8166)),
  (0x2007, 0x2007, .shift (-8167)), (0x2008, 0x2008, .shift (-8168)),
  (0x2009, 0x2009, .shift (-8169)), (0x200A, 0x200A, .shift (-8170)), (0x200B, 0x200B, .drop),
  (0x200E, 0x200F, .refuse), (0x2011, 0x2011, .shift (-1)), (0x2017, 0x2017, .text [0x20, 0x333]),
  (0x2024, 0x2026, .refuse), (0x2028, 0x202E, .refuse), (0x202F, 0x202F, .shift (-8207)),
  (0x2033, 0x2033, .text [0x2032, 0x2032]), (0x2034, 0x2034, .text [0x2032, 0x2032, 0x2032]),
  (0x2036, 0x2036, .text [0x2035, 0x2035]), (0x2037, 0x2037, .text [0x2035, 0x2035, 0x2035]),
  (0x203C, 0x203C, .text [0x21, 0x21]), (0x203E, 0x203E, .text [0x20, 0x305]),
  (0x2047, 0x2047, .text [0x3F, 0x3F]), (0x2048, 0x2048, .text [0x3F, 0x21]),
  (0x2049, 0x2049, .text [0x21, 0x3F]), (0x2057, 0x2057, .text [0x2032, 0x2032, 0x2032, 0x2032]),
  (0x205F, 0x205F, .shift (-8255)), (0x2060, 0x2064, .drop), (0x2065, 0x2069, .refuse),
  (0x206A, 0x206F, .drop), (0x2100, 0x2100, .text [0x61, 0x2F, 0x63]),
  (0x2101, 0x2101, .text [0x61, 0x2F, 0x73]), (0x2102, 0x2102, .shift (-8351)),
  (0x2103, 0x2103, .text [0xB0, 0x63]), (0x2105, 0x2105, .text [0x63, 0x2F, 0x6F]),
  (0x2106, 0x2106, .text [0x63, 0x2F, 0x75]), (0x2107, 0x2107, .shift (-7852)),
  (0x2109, 0x2109, .text [0xB0, 0x66]), (0x210A, 0x210B, .shift (-8355)),
  (0x210C, 0x210C, .shift (-8356)), (0x210D, 0x210D, .shift (-8357)),
  (0x210E, 0x210E, .shift (-8358)), (0x210F, 0x210F, .shift (-8168)),
  (0x2110, 0x2110, .shift (-8359)), (0x2111, 0x2111, .shift (-8360)),
  (0x2112, 0x2112, .shift (-8358)), (0x2113, 0x2113, .shift (-8359)),
  (0x2115, 0x2115, .shift (-8359)), (0x2116, 0x2116, .text [0x6E, 0x6F]),
  (0x2119, 0x211B, .shift (-8361)), (0x211C, 0x211C, .shift (-8362)),
  (0x211D, 0x211D, .shift (-8363)), (0x2120, 0x2120, .text [0x73, 0x6D]),
  (0x2121, 0x2121, .text [0x74, 0x65, 0x6C]), (0x2122, 0x2122, .text [0x74, 0x6D]),
  (0x2124, 0x2124, .shift (-8362)), (0x2126, 0x2126, .shift (-7517)),
  (0x2128, 0x2128, .shift (-8366)), (0x212A, 0x212A, .shift (-8383)),
  (0x212B, 0x212B, .shift (-8262)), (0x212C, 0x212D, .shift (-8394)),
  (0x212F, 0x212F, .shift (-8394)), (0x2130, 0x2131, .shift (-8395)), (0x2132, 0x2132, .shift 28),
  (0x2133, 0x2133, .shift (-8390)), (0x2134, 0x2134, .shift (-8389)),
  (0x2135, 0x2138, .shift (-7013)), (0x2139, 0x2139, .shift (-8400)),
  (0x213B, 0x213B, .text [0x66, 0x61, 0x78]), (0x213C, 0x213C, .shift (-7548)),
  (0x213D, 0x213D, .shift (-7562)), (0x213E, 0x213E, .shift (-7563)),
  (0x213F, 0x213F, .shift (-7551)), (0x2140, 0x2140, .shift 209), (0x2145, 0x2145, .shift (-8417)),
  (0x2146, 0x2147, .shift (-8418)), (0x2148, 0x2149, .shift (-8415)),
  (0x2150, 0x2150, .text [0x31, 0x2044, 0x37]), (0x2151, 0x2151, .text [0x31, 0x2044, 0x39]),
  (0x2152, 0x2152, .text [0x31, 0x2044, 0x31, 0x30]), (0x2153, 0x2153, .text [0x31, 0x2044, 0x33]),
  (0x2154, 0x2154, .text [0x32, 0x2044, 0x33]), (0x2155, 0x2155, .text [0x31, 0x2044, 0x35]),
  (0x2156, 0x2156, .text [0x32, 0x2044, 0x35]), (0x2157, 0x2157, .text [0x33, 0x2044, 0x35]),
  (0x2158, 0x2158, .text [0x34, 0x2044, 0x35]), (0x2159, 0x2159, .text [0x31, 0x2044, 0x36]),
  (0x215A, 0x215A, .text [0x35, 0x2044, 0x36]), (0x215B, 0x215B, .text [0x31, 0x2044, 0x38]),
  (0x215C, 0x215C, .text [0x33, 0x2044, 0x38]), (0x215D, 0x215D, .text [0x35, 0x2044, 0x38]),
  (0x215E, 0x215E, .text [0x37, 0x2044, 0x38]), (0x215F, 0x215F, .text [0x31, 0x2044]),
  (0x2160, 0x2160, .shift (-8439)), (0x2161, 0x2161, .text [0x69, 0x69]),
  (0x2162, 0x2162, .text [0x69, 0x69, 0x69]), (0x2163, 0x2163, .text [0x69, 0x76]),
  (0x2164, 0x2164, .shift (-8430)), (0x2165, 0x2165, .text [0x76, 0x69]),
  (0x2166, 0x2166, .text [0x76, 0x69, 0x69]), (0x2167, 0x2167, .text [0x76, 0x69, 0x69, 0x69]),
  (0x2168, 0x2168, .text [0x69, 0x78]), (0x2169, 0x2169, .shift (-8433)),
  (0x216A, 0x216A, .text [0x78, 0x69]), (0x216B, 0x216B, .text [0x78, 0x69, 0x69]),
  (0x216C, 0x216C, .shift (-8448)), (0x216D, 0x216E, .shift (-8458)),
  (0x216F, 0x216F, .shift (-8450)), (0x2170, 0x2170, .shift (-8455)),
  (0x2171, 0x2171, .text [0x69, 0x69]), (0x2172, 0x2172, .text [0x69, 0x69, 0x69]),
  (0x2173, 0x2173, .text [0x69, 0x76]), (0x2174, 0x2174, .shift (-8446)),
  (0x2175, 0x2175, .text [0x76, 0x69]), (0x2176, 0x2176, .text [0x76, 0x69, 0x69]),
  (0x2177, 0x2177, .text [0x76, 0x69, 0x69, 0x69]), (0x2178, 0x2178, .text [0x69, 0x78]),
  (0x2179, 0x2179, .shift (-8449)), (0x217A, 0x217A, .text [0x78, 0x69]),
  (0x217B, 0x217B, .text [0x78, 0x69, 0x69]), (0x217C, 0x217C, .shift (-8464)),
  (0x217D, 0x217E, .shift (-8474)), (0x217F, 0x217F, .shift (-8466)), (0x2183, 0x2183, .shift 1),
  (0x2189, 0x2189, .text [0x30, 0x2044, 0x33]), (0x218C, 0x218F, .refuse),
  (0x3000, 0x3000, .shift (-12256)), (0x3002, 0x3002, .shift (-12244)),
  (0x3036, 0x3036, .shift (-36)), (0x3038, 0x3038, .shift 8969), (0x3039, 0x303A, .shift 8971),
  (0xE000, 0xF8FF, .refuse), (0xFB00, 0xFB00, .text [0x66, 0x66]),
  (0xFB01, 0xFB01, .text [0x66, 0x69]), (0xFB02, 0xFB02, .text [0x66, 0x6C]),
  (0xFB03, 0xFB03, .text [0x66, 0x66, 0x69]), (0xFB04, 0xFB04, .text [0x66, 0x66, 0x6C]),
  (0xFB05, 0xFB05, .text [0x73, 0x74]), (0xFB06, 0xFB06, .text [0x73, 0x74]),
  (0xFE00, 0xFE0F, .drop), (0xFEFF, 0xFEFF, .drop), (0xFF00, 0xFF00, .refuse),
  (0xFF01, 0xFF20, .shift (-65248)), (0xFF21, 0xFF3A, .shift (-65216)),
  (0xFF3B, 0xFF5E, .shift (-65248)), (0xFF5F, 0xFF60, .shift (-54746)),
  (0xFF61, 0xFF61, .shift (-65331)), (0xFF62, 0xFF63, .shift (-53078)),
  (0xFF64, 0xFF64, .shift (-53091)), (0xFF65, 0xFF65, .shift (-52842)),
  (0xFF66, 0xFF66, .shift (-52852)), (0xFF67, 0xFF67, .shift (-52934)),
  (0xFF68, 0xFF68, .shift (-52933)), (0xFF69, 0xFF69, .shift (-52932)),
  (0xFF6A, 0xFF6A, .shift (-52931)), (0xFF6B, 0xFF6B, .shift (-52930)),
  (0xFF6C, 0xFF6C, .shift (-52873)), (0xFF6D, 0xFF6D, .shift (-52872)),
  (0xFF6E, 0xFF6E, .shift (-52871)), (0xFF6F, 0xFF6F, .shift (-52908)),
  (0xFF70, 0xFF70, .shift (-52852)), (0xFF71, 0xFF71, .shift (-52943)),
  (0xFF72, 0xFF72, .shift (-52942)), (0xFF73, 0xFF73, .shift (-52941)),
  (0xFF74, 0xFF74, .shift (-52940)), (0xFF75, 0xFF76, .shift (-52939)),
  (0xFF77, 0xFF77, .shift (-52938)), (0xFF78, 0xFF78, .shift (-52937)),
  (0xFF79, 0xFF79, .shift (-52936)), (0xFF7A, 0xFF7A, .shift (-52935)),
  (0xFF7B, 0xFF7B, .shift (-52934)), (0xFF7C, 0xFF7C, .shift (-52933)),
  (0xFF7D, 0xFF7D, .shift (-52932)), (0xFF7E, 0xFF7E, .shift (-52931)),
  (0xFF7F, 0xFF7F, .shift (-52930)), (0xFF80, 0xFF80, .shift (-52929)),
  (0xFF81, 0xFF81, .shift (-52928)), (0xFF82, 0xFF82, .shift (-52926)),
  (0xFF83, 0xFF83, .shift (-52925)), (0xFF84, 0xFF84, .shift (-52924)),
  (0xFF85, 0xFF8A, .shift (-52923)), (0xFF8B, 0xFF8B, .shift (-52921)),
  (0xFF8C, 0xFF8C, .shift (-52919)), (0xFF8D, 0xFF8D, .shift (-52917)),
  (0xFF8E, 0xFF8E, .shift (-52915)), (0xFF8F, 0xFF93, .shift (-52913)),
  (0xFF94, 0xFF94, .shift (-52912)), (0xFF95, 0xFF95, .shift (-52911)),
  (0xFF96, 0xFF9B, .shift (-52910)), (0xFF9C, 0xFF9C, .shift (-52909)),
  (0xFF9D, 0xFF9D, .shift (-52906)), (0xFF9E, 0xFF9F, .shift (-52997)), (0xFFA0, 0xFFA0, .drop),
  (0xFFA1, 0xFFA2, .shift (-61089)), (0xFFA3, 0xFFA3, .shift (-60921)),
  (0xFFA4, 0xFFA4, .shift (-61090)), (0xFFA5, 0xFFA6, .shift (-60921)),
  (0xFFA7, 0xFFA9, .shift (-61092)), (0xFFAA, 0xFFAF, .shift (-60922)),
  (0xFFB0, 0xFFB0, .shift (-61078)), (0xFFB1, 0xFFB3, .shift (-61099)),
  (0xFFB4, 0xFFB4, .shift (-61075)), (0xFFB5, 0xFFBE, .shift (-61100)), (0xFFBF, 0xFFC1, .refuse),
  (0xFFC2, 0xFFC7, .shift (-61025)), (0xFFC8, 0xFFC9, .refuse), (0xFFCA, 0xFFCF, .shift (-61027)),
  (0xFFD0, 0xFFD1, .refuse), (0xFFD2, 0xFFD7, .shift (-61029)), (0xFFD8, 0xFFD9, .refuse),
  (0xFFDA, 0xFFDC, .shift (-61031)), (0xFFDD, 0xFFDF, .refuse), (0xFFE0, 0xFFE1, .shift (-65342)),
  (0xFFE2, 0xFFE2, .shift (-65334)), (0xFFE3, 0xFFE3, .text [0x20, 0x304]),
  (0xFFE4, 0xFFE4, .shift (-65342)), (0xFFE5, 0xFFE5, .shift (-65344)),
  (0xFFE6, 0xFFE6, .shift (-57149)), (0xFFE7, 0xFFE7, .refuse), (0xFFE8, 0xFFE8, .shift (-56038)),
  (0xFFE9, 0xFFEC, .shift (-56921)), (0xFFED, 0xFFED, .shift (-55885)),
  (0xFFEE, 0xFFEE, .shift (-55843)), (0xFFEF, 0xFFFF, .refuse)]

/-- What becomes of the character `n` of a range that starts at `first`. -/
def Treatment.numbers (first n : Nat) : Treatment → Option (List Nat)
  | .shift d => some [((n : Int) + d).toNat]
  | .pair => some [if (n - first) % 2 = 0 then n + 1 else n]
  | .drop => some []
  | .refuse => none
  | .text ns => some ns

/-- The spelling of a character; none if it may not stand in a name. -/
def spelling (c : Char) : Option (List Char) :=
  let n := c.toNat
  if n < 0x80 then some [c.toLower]
  else match treatments.find? fun r => r.1 ≤ n && n ≤ r.2.1 with
    | some (first, _, t) => (t.numbers first n).map (·.map Char.ofNat)
    | none => some [c]

def isAscii (cs : List Char) : Bool := cs.all Punycode.isBasic

/-- The mark of labels that are written in ASCII though they go beyond it. -/
def asciiMark : List Char := ['x', 'n', '-', '-']

/-- A label in ASCII. One that has the mark already has to be the ASCII form of a label beyond
ASCII in its one spelling. -/
def asciiLabel (label : List Char) : Except Fault (List Char) :=
  match Text.stripLead asciiMark label with
  | none => .ok (if isAscii label then label else asciiMark ++ Punycode.encode label)
  | some coded =>
    match Punycode.decode coded with
    | none => .error .badName
    | some cs =>
      if !isAscii cs && cs.mapM spelling == some (cs.map ([·])) then .ok label
      else .error .badName

/-- A name in ASCII. -/
def asciiName (name : List Char) : Except Fault (List Char) := do
  match name.mapM spelling with
  | none => throw .badName
  | some parts =>
    let labels ← (Text.pieces '.' parts.flatten).mapM asciiLabel
    return ['.'].intercalate labels

end RegistrySync.Url
