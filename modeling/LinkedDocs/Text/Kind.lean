import LinkedDocs.Text.Case
import LinkedDocs.Text.Digit
import LinkedDocs.Text.Letter

/-! Kinds of letters and numbers, and the changes of case that depend on them.

    Most capitals and small letters are told by the mapping to the other case; the tables hold those
    that have none. A few letters are a capital and a small letter in one: they are neither, but the
    form that a word begins with. -/

namespace LinkedDocs.Text

/-- Letters that are capitals although no mapping takes them to another case. -/
def capitalRanges : List (Nat × Nat) :=
  [(0x3d2, 0x3d4), (0x2102, 0x2102), (0x2107, 0x2107), (0x210b, 0x210d), (0x2110, 0x2112),
   (0x2115, 0x2115), (0x2119, 0x211d), (0x2124, 0x2124), (0x2128, 0x2128), (0x212c, 0x212d),
   (0x2130, 0x2131), (0x2133, 0x2133), (0x213e, 0x213f), (0x2145, 0x2145), (0x1d400, 0x1d419),
   (0x1d434, 0x1d44d), (0x1d468, 0x1d481), (0x1d49c, 0x1d49c), (0x1d49e, 0x1d49f),
   (0x1d4a2, 0x1d4a2), (0x1d4a5, 0x1d4a6), (0x1d4a9, 0x1d4ac), (0x1d4ae, 0x1d4b5),
   (0x1d4d0, 0x1d4e9), (0x1d504, 0x1d505), (0x1d507, 0x1d50a), (0x1d50d, 0x1d514),
   (0x1d516, 0x1d51c), (0x1d538, 0x1d539), (0x1d53b, 0x1d53e), (0x1d540, 0x1d544),
   (0x1d546, 0x1d546), (0x1d54a, 0x1d550), (0x1d56c, 0x1d585), (0x1d5a0, 0x1d5b9),
   (0x1d5d4, 0x1d5ed), (0x1d608, 0x1d621), (0x1d63c, 0x1d655), (0x1d670, 0x1d689),
   (0x1d6a8, 0x1d6c0), (0x1d6e2, 0x1d6fa), (0x1d71c, 0x1d734), (0x1d756, 0x1d76e),
   (0x1d790, 0x1d7a8), (0x1d7ca, 0x1d7ca), (0x1f130, 0x1f149), (0x1f150, 0x1f169),
   (0x1f170, 0x1f189)]

/-- Letters that are small although no mapping takes them to another case. -/
def smallRanges : List (Nat × Nat) :=
  [(0xaa, 0xaa), (0xba, 0xba), (0x138, 0x138), (0x18d, 0x18d), (0x19b, 0x19b), (0x1aa, 0x1ab),
   (0x1ba, 0x1ba), (0x1be, 0x1be), (0x221, 0x221), (0x234, 0x239), (0x255, 0x255), (0x258, 0x258),
   (0x25a, 0x25a), (0x25d, 0x25f), (0x262, 0x262), (0x264, 0x264), (0x267, 0x267), (0x26d, 0x26e),
   (0x270, 0x270), (0x273, 0x274), (0x276, 0x27c), (0x27e, 0x27f), (0x281, 0x281), (0x284, 0x286),
   (0x28d, 0x291), (0x293, 0x293), (0x295, 0x29c), (0x29f, 0x2b8), (0x2c0, 0x2c1), (0x2e0, 0x2e4),
   (0x37a, 0x37a), (0x3fc, 0x3fc), (0x560, 0x560), (0x588, 0x588), (0x1d00, 0x1d78),
   (0x1d7a, 0x1d7c), (0x1d7e, 0x1d8d), (0x1d8f, 0x1dbf), (0x1e9c, 0x1e9d), (0x1e9f, 0x1e9f),
   (0x2071, 0x2071), (0x207f, 0x207f), (0x2090, 0x209c), (0x210a, 0x210a), (0x210e, 0x210f),
   (0x2113, 0x2113), (0x212f, 0x212f), (0x2134, 0x2134), (0x2139, 0x2139), (0x213c, 0x213d),
   (0x2146, 0x2149), (0x2c71, 0x2c71), (0x2c74, 0x2c74), (0x2c77, 0x2c7d), (0x2ce4, 0x2ce4),
   (0xa69c, 0xa69d), (0xa730, 0xa731), (0xa770, 0xa778), (0xa78e, 0xa78e), (0xa795, 0xa795),
   (0xa7af, 0xa7af), (0xa7d3, 0xa7d3), (0xa7d5, 0xa7d5), (0xa7f8, 0xa7fa), (0xab30, 0xab52),
   (0xab54, 0xab5a), (0xab5c, 0xab68), (0x10780, 0x10780), (0x10783, 0x10785), (0x10787, 0x107b0),
   (0x107b2, 0x107ba), (0x1d41a, 0x1d433), (0x1d44e, 0x1d454), (0x1d456, 0x1d467),
   (0x1d482, 0x1d49b), (0x1d4b6, 0x1d4b9), (0x1d4bb, 0x1d4bb), (0x1d4bd, 0x1d4c3),
   (0x1d4c5, 0x1d4cf), (0x1d4ea, 0x1d503), (0x1d51e, 0x1d537), (0x1d552, 0x1d56b),
   (0x1d586, 0x1d59f), (0x1d5ba, 0x1d5d3), (0x1d5ee, 0x1d607), (0x1d622, 0x1d63b),
   (0x1d656, 0x1d66f), (0x1d68a, 0x1d6a5), (0x1d6c2, 0x1d6da), (0x1d6dc, 0x1d6e1),
   (0x1d6fc, 0x1d714), (0x1d716, 0x1d71b), (0x1d736, 0x1d74e), (0x1d750, 0x1d755),
   (0x1d770, 0x1d788), (0x1d78a, 0x1d78f), (0x1d7aa, 0x1d7c2), (0x1d7c4, 0x1d7c9),
   (0x1d7cb, 0x1d7cb), (0x1df00, 0x1df09), (0x1df0b, 0x1df1e)]

/-- Numbers that are no decimal digits and no letters. -/
def numberRanges : List (Nat × Nat) :=
  [(0xb2, 0xb3), (0xb9, 0xb9), (0xbc, 0xbe), (0x9f4, 0x9f9), (0xb72, 0xb77), (0xbf0, 0xbf2),
   (0xc78, 0xc7e), (0xd58, 0xd5e), (0xd70, 0xd78), (0xf2a, 0xf33), (0x1369, 0x137c),
   (0x16ee, 0x16f0), (0x17f0, 0x17f9), (0x19da, 0x19da), (0x2070, 0x2070), (0x2074, 0x2079),
   (0x2080, 0x2089), (0x2150, 0x2182), (0x2185, 0x2189), (0x2460, 0x249b), (0x24ea, 0x24ff),
   (0x2776, 0x2793), (0x2cfd, 0x2cfd), (0x3007, 0x3007), (0x3021, 0x3029), (0x3038, 0x303a),
   (0x3192, 0x3195), (0x3220, 0x3229), (0x3248, 0x324f), (0x3251, 0x325f), (0x3280, 0x3289),
   (0x32b1, 0x32bf), (0xa6e6, 0xa6ef), (0xa830, 0xa835), (0x10107, 0x10133), (0x10140, 0x10178),
   (0x1018a, 0x1018b), (0x102e1, 0x102fb), (0x10320, 0x10323), (0x10341, 0x10341),
   (0x1034a, 0x1034a), (0x103d1, 0x103d5), (0x10858, 0x1085f), (0x10879, 0x1087f),
   (0x108a7, 0x108af), (0x108fb, 0x108ff), (0x10916, 0x1091b), (0x109bc, 0x109bd),
   (0x109c0, 0x109cf), (0x109d2, 0x109ff), (0x10a40, 0x10a48), (0x10a7d, 0x10a7e),
   (0x10a9d, 0x10a9f), (0x10aeb, 0x10aef), (0x10b58, 0x10b5f), (0x10b78, 0x10b7f),
   (0x10ba9, 0x10baf), (0x10cfa, 0x10cff), (0x10e60, 0x10e7e), (0x10f1d, 0x10f26),
   (0x10f51, 0x10f54), (0x10fc5, 0x10fcb), (0x11052, 0x11065), (0x111e1, 0x111f4),
   (0x1173a, 0x1173b), (0x118ea, 0x118f2), (0x11c5a, 0x11c6c), (0x11fc0, 0x11fd4),
   (0x12400, 0x1246e), (0x16b5b, 0x16b61), (0x16e80, 0x16e96), (0x1d2e0, 0x1d2f3),
   (0x1d360, 0x1d378), (0x1e8c7, 0x1e8cf), (0x1ec71, 0x1ecab), (0x1ecad, 0x1ecaf),
   (0x1ecb1, 0x1ecb4), (0x1ed01, 0x1ed2d), (0x1ed2f, 0x1ed3d), (0x1f100, 0x1f10c)]

/-- Letters that are numbers, too. -/
def numberLetterRanges : List (Nat × Nat) :=
  [(0x3405, 0x3405), (0x3483, 0x3483), (0x382a, 0x382a), (0x3b4d, 0x3b4d), (0x4e00, 0x4e00),
   (0x4e03, 0x4e03), (0x4e07, 0x4e07), (0x4e09, 0x4e09), (0x4e5d, 0x4e5d), (0x4e8c, 0x4e8c),
   (0x4e94, 0x4e94), (0x4e96, 0x4e96), (0x4ebf, 0x4ec0), (0x4edf, 0x4edf), (0x4ee8, 0x4ee8),
   (0x4f0d, 0x4f0d), (0x4f70, 0x4f70), (0x5104, 0x5104), (0x5146, 0x5146), (0x5169, 0x5169),
   (0x516b, 0x516b), (0x516d, 0x516d), (0x5341, 0x5341), (0x5343, 0x5345), (0x534c, 0x534c),
   (0x53c1, 0x53c4), (0x56db, 0x56db), (0x58f1, 0x58f1), (0x58f9, 0x58f9), (0x5e7a, 0x5e7a),
   (0x5efe, 0x5eff), (0x5f0c, 0x5f0e), (0x5f10, 0x5f10), (0x62fe, 0x62fe), (0x634c, 0x634c),
   (0x67d2, 0x67d2), (0x6f06, 0x6f06), (0x7396, 0x7396), (0x767e, 0x767e), (0x8086, 0x8086),
   (0x842c, 0x842c), (0x8cae, 0x8cae), (0x8cb3, 0x8cb3), (0x8d30, 0x8d30), (0x9621, 0x9621),
   (0x9646, 0x9646), (0x964c, 0x964c), (0x9678, 0x9678), (0x96f6, 0x96f6), (0xf96b, 0xf96b),
   (0xf973, 0xf973), (0xf978, 0xf978), (0xf9b2, 0xf9b2), (0xf9d1, 0xf9d1), (0xf9d3, 0xf9d3),
   (0xf9fd, 0xf9fd), (0x20001, 0x20001), (0x20064, 0x20064), (0x200e2, 0x200e2),
   (0x20121, 0x20121), (0x2092a, 0x2092a), (0x20983, 0x20983), (0x2098c, 0x2098c),
   (0x2099c, 0x2099c), (0x20aea, 0x20aea), (0x20afd, 0x20afd), (0x20b19, 0x20b19),
   (0x22390, 0x22390), (0x22998, 0x22998), (0x23b1b, 0x23b1b), (0x2626d, 0x2626d),
   (0x2f890, 0x2f890)]

/-- Digits that are no decimal ones. -/
def digitRanges : List (Nat × Nat) :=
  [(0xb2, 0xb3), (0xb9, 0xb9), (0x1369, 0x1371), (0x19da, 0x19da), (0x2070, 0x2070),
   (0x2074, 0x2079), (0x2080, 0x2089), (0x2460, 0x2468), (0x2474, 0x247c), (0x2488, 0x2490),
   (0x24ea, 0x24ea), (0x24f5, 0x24fd), (0x24ff, 0x24ff), (0x2776, 0x277e), (0x2780, 0x2788),
   (0x278a, 0x2792), (0x10a40, 0x10a43), (0x10e60, 0x10e68), (0x11052, 0x1105a),
   (0x1f100, 0x1f10a)]

def isWithin (ranges : List (Nat × Nat)) (c : Char) : Bool :=
  ranges.any fun r => r.1 ≤ c.toNat && c.toNat ≤ r.2

/-- The form of a letter at the beginning of a word, where that is a letter of its own. -/
def titleForm? (c : Char) : Option Char :=
  let n := c.toNat
  if 0x1c4 ≤ n ∧ n ≤ 0x1cc then some (Char.ofNat (0x1c5 + (n - 0x1c4) / 3 * 3))
  else if 0x1f1 ≤ n ∧ n ≤ 0x1f3 then some (Char.ofNat 0x1f2)
  else if 0x1f80 ≤ n ∧ n ≤ 0x1faf then some (Char.ofNat (n / 16 * 16 + 8 + n % 8))
  else if n = 0x1fb3 ∨ n = 0x1fc3 ∨ n = 0x1ff3 then some (Char.ofNat (n + 9))
  else if n = 0x1fbc ∨ n = 0x1fcc ∨ n = 0x1ffc then some c
  else none

/-- Whether a letter is one that only begins words. -/
def isTitleForm (c : Char) : Bool := titleForm? c == some c

def isUpper (c : Char) : Bool :=
  ((lower c != c || c == 'İ') && !isTitleForm c) || isWithin capitalRanges c

def isLower (c : Char) : Bool := (upper c != [c] && !isTitleForm c) || isWithin smallRanges c

/-- Whether a letter has a case. -/
def hasCase (c : Char) : Bool := isUpper c || isLower c || isTitleForm c

/-- Whether a character is a letter and not only a number. -/
def isAlpha (c : Char) : Bool := isLetter c && !isDigit c && !isWithin numberRanges c

def isNumeric (c : Char) : Bool :=
  isDigit c || isWithin numberRanges c || isWithin numberLetterRanges c

/-- Whether a character is a digit, of a position or on its own. -/
def isDigitLike (c : Char) : Bool := isDigit c || isWithin digitRanges c

/-- The lower case of a letter, of several ones in one case. -/
def lowerFull (c : Char) : List Char := if c = 'İ' then ['i', '\u0307'] else [lower c]

/-- The first letter of a word. Where the upper case is several letters, only the first one is a
    capital, and an iota goes below it. -/
def capital (c : Char) : List Char :=
  if (0x10d0 ≤ c.toNat ∧ c.toNat ≤ 0x10ff) then [c]
  else if c = 'ŉ' then upper c
  else
    match titleForm? c, upper c with
    | some d, _ => [d]
    | none, d :: ds => d :: ds.map fun d => if d = 'Ι' then '\u0345' else lower d
    | none, [] => []

/-- The form in which letters are compared without regard to case. -/
def folded (c : Char) : List Char :=
  let n := c.toNat
  if c = 'ı' then [c]
  else if c = 'ẞ' then ['s', 's']
  else if (0x13a0 ≤ n ∧ n ≤ 0x13fd) ∨ (0xab70 ≤ n ∧ n ≤ 0xabbf) then upper c
  else (upper c).flatMap lowerFull

example : capital 'ß' = ['S', 's'] ∧ folded 'ß' = ['s', 's'] := by decide +kernel

end LinkedDocs.Text
