import WorkflowCanvas.Text.Unassigned
import WorkflowCanvas.Web.Host.AsciiForm

/-! The characters of host names: those that no name holds, those that are left out, and those that stand
for others. -/
namespace WorkflowCanvas.Host

open Text

/-- Characters beyond ASCII that no name holds. -/
def refused : Ranges := [
  (0x80, 0xA0), (0xA8, 0xA8), (0xAF, 0xAF), (0xB4, 0xB4), (0xB8, 0xB8), (0x2D8, 0x2DD),
  (0x37A, 0x37A), (0x384, 0x385), (0x600, 0x605), (0x61C, 0x61C), (0x6DD, 0x6DD), (0x70F, 0x70F),
  (0x890, 0x891), (0x8E2, 0x8E2), (0x1680, 0x1680), (0x1FBD, 0x1FBD), (0x1FBF, 0x1FC1),
  (0x1FCD, 0x1FCF), (0x1FDD, 0x1FDF), (0x1FED, 0x1FEE), (0x1FFD, 0x1FFE), (0x2000, 0x200A),
  (0x200E, 0x200F), (0x2017, 0x2017), (0x2024, 0x2026), (0x2028, 0x202F), (0x203E, 0x203E),
  (0x2047, 0x2049), (0x205F, 0x205F), (0x2066, 0x2069), (0x2100, 0x2101), (0x2105, 0x2106),
  (0x2488, 0x249B), (0x2A74, 0x2A74), (0x2FF0, 0x3000), (0x309B, 0x309C), (0x31EF, 0x31EF),
  (0x33C2, 0x33C2), (0x33C7, 0x33C7), (0x33D8, 0x33D8), (0xE000, 0xF8FF), (0xFC5E, 0xFC63),
  (0xFDFA, 0xFDFB), (0xFE12, 0xFE13), (0xFE16, 0xFE16), (0xFE19, 0xFE19), (0xFE30, 0xFE30),
  (0xFE47, 0xFE4C), (0xFE52, 0xFE52), (0xFE55, 0xFE56), (0xFE5F, 0xFE5F), (0xFE64, 0xFE65),
  (0xFE68, 0xFE68), (0xFE6A, 0xFE6B), (0xFE70, 0xFE70), (0xFE72, 0xFE72), (0xFE74, 0xFE74),
  (0xFE76, 0xFE76), (0xFE78, 0xFE78), (0xFE7A, 0xFE7A), (0xFE7C, 0xFE7C), (0xFE7E, 0xFE7E),
  (0xFF03, 0xFF03), (0xFF05, 0xFF05), (0xFF0F, 0xFF0F), (0xFF1A, 0xFF1A), (0xFF1C, 0xFF1C),
  (0xFF1E, 0xFF20), (0xFF3B, 0xFF3E), (0xFF5C, 0xFF5C), (0xFFE3, 0xFFE3), (0xFFF9, 0xFFFD),
  (0x110BD, 0x110BD), (0x110CD, 0x110CD), (0x13430, 0x1343F), (0x1F100, 0x1F100),
  (0xE0001, 0xE0001), (0xE0020, 0xE007F), (0xF0000, 0xFFFFD), (0x100000, 0x10FFFD)]

/-- Characters that are left out of a name. -/
def leftOut : Ranges := [
  (0xAD, 0xAD), (0x34F, 0x34F), (0x115F, 0x1160), (0x17B4, 0x17B5), (0x180B, 0x180F),
  (0x200B, 0x200B), (0x2060, 0x2064), (0x206A, 0x206F), (0x3164, 0x3164), (0xFE00, 0xFE0F),
  (0xFEFF, 0xFEFF), (0xFFA0, 0xFFA0), (0x1BCA0, 0x1BCA3), (0x1D173, 0x1D17A), (0xE0100, 0xE01EF)]

/-- Characters beyond ASCII that stand for others beyond ASCII, such as capital letters: first, last and
the step from one to the next. -/
def replaced : List (Nat × Nat × Nat) := [
  (0xB5, 0xB5, 1), (0xBC, 0xBE, 1), (0xC0, 0xD6, 1), (0xD8, 0xDE, 1), (0x100, 0x130, 2),
  (0x134, 0x136, 2), (0x139, 0x13F, 2), (0x140, 0x141, 1), (0x143, 0x149, 2), (0x14A, 0x178, 2),
  (0x179, 0x17D, 2), (0x181, 0x182, 1), (0x184, 0x186, 2), (0x187, 0x189, 2), (0x18A, 0x18B, 1),
  (0x18E, 0x191, 1), (0x193, 0x194, 1), (0x196, 0x198, 1), (0x19C, 0x19D, 1), (0x19F, 0x1A0, 1),
  (0x1A2, 0x1A6, 2), (0x1A7, 0x1A9, 2), (0x1AC, 0x1AE, 2), (0x1AF, 0x1B1, 2), (0x1B2, 0x1B3, 1),
  (0x1B5, 0x1B7, 2), (0x1B8, 0x1B8, 1), (0x1BC, 0x1BC, 1), (0x1C4, 0x1C6, 1), (0x1CD, 0x1DB, 2),
  (0x1DE, 0x1EE, 2), (0x1F4, 0x1F6, 2), (0x1F7, 0x1F8, 1), (0x1FA, 0x232, 2), (0x23A, 0x23B, 1),
  (0x23D, 0x23E, 1), (0x241, 0x243, 2), (0x244, 0x246, 1), (0x248, 0x24E, 2), (0x2B1, 0x2B1, 1),
  (0x2B4, 0x2B6, 1), (0x2E0, 0x2E0, 1), (0x2E4, 0x2E4, 1), (0x340, 0x341, 1), (0x343, 0x345, 1),
  (0x370, 0x376, 2), (0x37F, 0x37F, 1), (0x386, 0x38A, 1), (0x38C, 0x38E, 2), (0x38F, 0x391, 2),
  (0x392, 0x3A1, 1), (0x3A3, 0x3AB, 1), (0x3CF, 0x3D6, 1), (0x3D8, 0x3F0, 2), (0x3F1, 0x3F2, 1),
  (0x3F4, 0x3F5, 1), (0x3F7, 0x3F9, 2), (0x3FA, 0x3FA, 1), (0x3FD, 0x42F, 1), (0x460, 0x480, 2),
  (0x48A, 0x4C0, 2), (0x4C1, 0x4CD, 2), (0x4D0, 0x52E, 2), (0x531, 0x556, 1), (0x587, 0x587, 1),
  (0x675, 0x678, 1), (0x958, 0x95F, 1), (0x9DC, 0x9DD, 1), (0x9DF, 0x9DF, 1), (0xA33, 0xA33, 1),
  (0xA36, 0xA36, 1), (0xA59, 0xA5B, 1), (0xA5E, 0xA5E, 1), (0xB5C, 0xB5D, 1), (0xE33, 0xE33, 1),
  (0xEB3, 0xEB3, 1), (0xEDC, 0xEDD, 1), (0xF0C, 0xF0C, 1), (0xF43, 0xF43, 1), (0xF4D, 0xF4D, 1),
  (0xF52, 0xF52, 1), (0xF57, 0xF57, 1), (0xF5C, 0xF5C, 1), (0xF69, 0xF69, 1), (0xF73, 0xF75, 2),
  (0xF76, 0xF79, 1), (0xF81, 0xF81, 1), (0xF93, 0xF93, 1), (0xF9D, 0xF9D, 1), (0xFA2, 0xFA2, 1),
  (0xFA7, 0xFA7, 1), (0xFAC, 0xFAC, 1), (0xFB9, 0xFB9, 1), (0x10A0, 0x10C5, 1), (0x10C7, 0x10C7, 1),
  (0x10CD, 0x10CD, 1), (0x10FC, 0x10FC, 1), (0x13F8, 0x13FD, 1), (0x1C80, 0x1C89, 1),
  (0x1C90, 0x1CBA, 1), (0x1CBD, 0x1CBF, 1), (0x1D2D, 0x1D2D, 1), (0x1D32, 0x1D32, 1),
  (0x1D3D, 0x1D3D, 1), (0x1D44, 0x1D46, 1), (0x1D4A, 0x1D4C, 1), (0x1D51, 0x1D53, 2),
  (0x1D54, 0x1D55, 1), (0x1D59, 0x1D5A, 1), (0x1D5C, 0x1D61, 1), (0x1D66, 0x1D6A, 1),
  (0x1D78, 0x1D78, 1), (0x1D9B, 0x1D9D, 2), (0x1D9E, 0x1D9F, 1), (0x1DA1, 0x1DBA, 1),
  (0x1DBC, 0x1DBF, 1), (0x1E00, 0x1E94, 2), (0x1E9A, 0x1E9B, 1), (0x1E9E, 0x1EFE, 2),
  (0x1F08, 0x1F0F, 1), (0x1F18, 0x1F1D, 1), (0x1F28, 0x1F2F, 1), (0x1F38, 0x1F3F, 1),
  (0x1F48, 0x1F4D, 1), (0x1F59, 0x1F5F, 2), (0x1F68, 0x1F6F, 1), (0x1F71, 0x1F7D, 2),
  (0x1F80, 0x1FAF, 1), (0x1FB2, 0x1FB4, 1), (0x1FB7, 0x1FBC, 1), (0x1FBE, 0x1FBE, 1),
  (0x1FC2, 0x1FC4, 1), (0x1FC7, 0x1FCC, 1), (0x1FD3, 0x1FD3, 1), (0x1FD8, 0x1FDB, 1),
  (0x1FE3, 0x1FE3, 1), (0x1FE8, 0x1FEC, 1), (0x1FF2, 0x1FF4, 1), (0x1FF7, 0x1FFC, 1),
  (0x2011, 0x2011, 1), (0x2033, 0x2034, 1), (0x2036, 0x2037, 1), (0x2057, 0x2057, 1),
  (0x207B, 0x207B, 1), (0x208B, 0x208B, 1), (0x2094, 0x2094, 1), (0x2103, 0x2103, 1),
  (0x2107, 0x2109, 2), (0x210F, 0x210F, 1), (0x2126, 0x2126, 1), (0x212B, 0x212B, 1),
  (0x2132, 0x2132, 1), (0x2135, 0x2138, 1), (0x213C, 0x2140, 1), (0x2150, 0x215F, 1),
  (0x2183, 0x2183, 1), (0x2189, 0x2189, 1), (0x222C, 0x222D, 1), (0x222F, 0x2230, 1),
  (0x2329, 0x232A, 1), (0x2A0C, 0x2A0C, 1), (0x2ADC, 0x2ADC, 1), (0x2C00, 0x2C2F, 1),
  (0x2C60, 0x2C62, 2), (0x2C63, 0x2C64, 1), (0x2C67, 0x2C6D, 2), (0x2C6E, 0x2C70, 1),
  (0x2C72, 0x2C72, 1), (0x2C75, 0x2C75, 1), (0x2C7E, 0x2C80, 1), (0x2C82, 0x2CE2, 2),
  (0x2CEB, 0x2CED, 2), (0x2CF2, 0x2CF2, 1), (0x2D6F, 0x2D6F, 1), (0x2E9F, 0x2E9F, 1),
  (0x2EF3, 0x2EF3, 1), (0x2F00, 0x2FD5, 1), (0x3036, 0x3038, 2), (0x3039, 0x303A, 1),
  (0x309F, 0x309F, 1), (0x30FF, 0x30FF, 1), (0x3131, 0x3163, 1), (0x3165, 0x318E, 1),
  (0x3192, 0x319F, 1), (0x3200, 0x321E, 1), (0x3220, 0x3247, 1), (0x3260, 0x327E, 1),
  (0x3280, 0x32B0, 1), (0x32C0, 0x32CB, 1), (0x32D0, 0x3370, 1), (0x337B, 0x337F, 1),
  (0x3382, 0x3382, 1), (0x338C, 0x338D, 1), (0x3395, 0x3395, 1), (0x339B, 0x339B, 1),
  (0x33A7, 0x33A8, 1), (0x33AE, 0x33AF, 1), (0x33B2, 0x33B2, 1), (0x33B6, 0x33B6, 1),
  (0x33BC, 0x33BC, 1), (0x33C0, 0x33C1, 1), (0x33C6, 0x33C6, 1), (0x33DE, 0x33FE, 1),
  (0xA640, 0xA66C, 2), (0xA680, 0xA69C, 2), (0xA69D, 0xA69D, 1), (0xA722, 0xA72E, 2),
  (0xA732, 0xA770, 2), (0xA779, 0xA77D, 2), (0xA77E, 0xA786, 2), (0xA78B, 0xA78D, 2),
  (0xA790, 0xA792, 2), (0xA796, 0xA7AA, 2), (0xA7AB, 0xA7AE, 1), (0xA7B0, 0xA7B4, 1),
  (0xA7B6, 0xA7C4, 2), (0xA7C5, 0xA7C7, 1), (0xA7C9, 0xA7CB, 2), (0xA7CC, 0xA7DC, 2),
  (0xA7F5, 0xA7F5, 1), (0xA7F8, 0xA7F9, 1), (0xAB5C, 0xAB5F, 1), (0xAB69, 0xAB69, 1),
  (0xAB70, 0xABBF, 1), (0xF900, 0xFA0D, 1), (0xFA10, 0xFA12, 2), (0xFA15, 0xFA1E, 1),
  (0xFA20, 0xFA22, 2), (0xFA25, 0xFA26, 1), (0xFA2A, 0xFA6D, 1), (0xFA70, 0xFAD9, 1),
  (0xFB13, 0xFB17, 1), (0xFB1D, 0xFB1F, 2), (0xFB20, 0xFB28, 1), (0xFB2A, 0xFB36, 1),
  (0xFB38, 0xFB3C, 1), (0xFB3E, 0xFB40, 2), (0xFB41, 0xFB43, 2), (0xFB44, 0xFB46, 2),
  (0xFB47, 0xFBB1, 1), (0xFBD3, 0xFC5D, 1), (0xFC64, 0xFD3D, 1), (0xFD50, 0xFD8F, 1),
  (0xFD92, 0xFDC7, 1), (0xFDF0, 0xFDF9, 1), (0xFDFC, 0xFDFC, 1), (0xFE11, 0xFE11, 1),
  (0xFE17, 0xFE18, 1), (0xFE31, 0xFE32, 1), (0xFE39, 0xFE44, 1), (0xFE51, 0xFE51, 1),
  (0xFE58, 0xFE58, 1), (0xFE5D, 0xFE5E, 1), (0xFE71, 0xFE71, 1), (0xFE77, 0xFE7F, 2),
  (0xFE80, 0xFEFC, 1), (0xFF5F, 0xFF60, 1), (0xFF62, 0xFF9F, 1), (0xFFA1, 0xFFBE, 1),
  (0xFFC2, 0xFFC7, 1), (0xFFCA, 0xFFCF, 1), (0xFFD2, 0xFFD7, 1), (0xFFDA, 0xFFDC, 1),
  (0xFFE0, 0xFFE2, 1), (0xFFE4, 0xFFE6, 1), (0xFFE8, 0xFFEE, 1), (0x10400, 0x10427, 1),
  (0x104B0, 0x104D3, 1), (0x10570, 0x1057A, 1), (0x1057C, 0x1058A, 1), (0x1058C, 0x10592, 1),
  (0x10594, 0x10595, 1), (0x10781, 0x10785, 1), (0x10787, 0x107A4, 1), (0x107A6, 0x107B0, 1),
  (0x107B2, 0x107BA, 1), (0x10C80, 0x10CB2, 1), (0x10D50, 0x10D65, 1), (0x118A0, 0x118BF, 1),
  (0x16E40, 0x16E5F, 1), (0x16EA0, 0x16EB8, 1), (0x1D15E, 0x1D164, 1), (0x1D1BB, 0x1D1C0, 1),
  (0x1D6A4, 0x1D6A5, 1), (0x1D6A8, 0x1D7CB, 1), (0x1E030, 0x1E06D, 1), (0x1E900, 0x1E921, 1),
  (0x1EE00, 0x1EE03, 1), (0x1EE05, 0x1EE1F, 1), (0x1EE21, 0x1EE22, 1), (0x1EE24, 0x1EE24, 1),
  (0x1EE27, 0x1EE29, 2), (0x1EE2A, 0x1EE32, 1), (0x1EE34, 0x1EE37, 1), (0x1EE39, 0x1EE3B, 2),
  (0x1EE42, 0x1EE42, 1), (0x1EE47, 0x1EE4D, 2), (0x1EE4E, 0x1EE4F, 1), (0x1EE51, 0x1EE52, 1),
  (0x1EE54, 0x1EE54, 1), (0x1EE57, 0x1EE61, 2), (0x1EE62, 0x1EE64, 2), (0x1EE67, 0x1EE6A, 1),
  (0x1EE6C, 0x1EE72, 1), (0x1EE74, 0x1EE77, 1), (0x1EE79, 0x1EE7C, 1), (0x1EE7E, 0x1EE80, 2),
  (0x1EE81, 0x1EE89, 1), (0x1EE8B, 0x1EE9B, 1), (0x1EEA1, 0x1EEA3, 1), (0x1EEA5, 0x1EEA9, 1),
  (0x1EEAB, 0x1EEBB, 1), (0x1F12A, 0x1F12A, 1), (0x1F200, 0x1F202, 1), (0x1F210, 0x1F23B, 1),
  (0x1F240, 0x1F248, 1), (0x1F250, 0x1F251, 1), (0x2F800, 0x2FA1D, 1)]

def isReplaced (c : Char) : Bool :=
  replaced.any fun (first, last, step) =>
    first ≤ c.toNat && c.toNat ≤ last && (c.toNat - first) % step == 0

/-- Characters of ASCII that no name holds, and no address of a request. -/
def isForbidden (c : Char) : Bool :=
  c.toNat ≤ 32 || c.toNat == 127
    || ['"', '#', '%', '/', ':', '<', '>', '?', '@', '[', '\\', ']', '^', '\x60', '{', '|', '}'].contains c

/-- What a character stands for in a name. Characters beyond ASCII are kept where they stand for others
beyond ASCII, as a name may hold the ones where it may hold the others. -/
def symbols? (c : Char) : Option (List Char) :=
  if c.toNat < 0x80 then if isForbidden c then none else some [c.toLower]
  else if leftOut.has c then some []
  else if refused.has c || !isAssigned c then none
  else some ((asciiForm? c).getD [c])

/-- Whether a character stands for itself. -/
def isSettled (c : Char) : Bool := symbols? c == some [c] && !isReplaced c

/-- The symbols of a name. A sign for less or greater is one symbol with the stroke that follows it. -/
def symbolsOf? : List Char → Option (List Char)
  | '<' :: '\u0338' :: cs => return '\u226e' :: (← symbolsOf? cs)
  | '>' :: '\u0338' :: cs => return '\u226f' :: (← symbolsOf? cs)
  | c :: cs => return (← symbols? c) ++ (← symbolsOf? cs)
  | [] => some []

end WorkflowCanvas.Host
