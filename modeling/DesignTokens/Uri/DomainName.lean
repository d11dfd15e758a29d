import DesignTokens.Text.LowerCase
import DesignTokens.Text.Split
import DesignTokens.Uri.Direction
import DesignTokens.Uri.Punycode

/-!
# DesignTokens.Uri.DomainName — domain names in ASCII

A label with characters beyond ASCII is written in Punycode after `xn--`.

1. **Characters** (`DomainName.isPlain`): which ones a name may hold in its normal form, and how
   others are brought to it (`DomainName.normal`).
2. **Labels** (`DomainName.decoded?`): one that is encoded already has to stand for a label in
   normal form that needs it.
3. **Names** (`DomainName.ofText?`).
-/

namespace DesignTokens.Uri.DomainName

/-! ## Characters -/

/-- The ranges of characters beyond ASCII, capitals apart, that no name holds in its normal form:
those that stand for others, and those without a place in names. -/
def refusedRanges : List (Nat × Nat) :=
  [(0x80, 0xA0), (0xA8, 0xA8), (0xAA, 0xAA), (0xAD, 0xAD), (0xAF, 0xAF), (0xB2, 0xB5), (0xB8, 0xBA),
   (0xBC, 0xBE), (0x133, 0x133), (0x140, 0x140), (0x149, 0x149), (0x17F, 0x17F), (0x1C6, 0x1C6),
   (0x1C9, 0x1C9), (0x1CC, 0x1CC), (0x1F3, 0x1F3), (0x2B0, 0x2B8), (0x2D8, 0x2DD), (0x2E0, 0x2E4),
   (0x340, 0x341), (0x343, 0x345), (0x34F, 0x34F), (0x374, 0x374), (0x37A, 0x37A), (0x37E, 0x37E),
   (0x384, 0x385), (0x387, 0x387), (0x3D0, 0x3D6), (0x3F0, 0x3F2), (0x3F5, 0x3F5), (0x587, 0x587),
   (0x600, 0x605), (0x61C, 0x61C), (0x675, 0x678), (0x6DD, 0x6DD), (0x70F, 0x70F), (0x890, 0x891),
   (0x8E2, 0x8E2), (0x958, 0x95F), (0x9DC, 0x9DF), (0xA33, 0xA33), (0xA36, 0xA36), (0xA59, 0xA5B),
   (0xA5E, 0xA5E), (0xB5C, 0xB5D), (0xE33, 0xE33), (0xEB3, 0xEB3), (0xEDC, 0xEDD), (0xF0C, 0xF0C),
   (0xF43, 0xF43), (0xF4D, 0xF4D), (0xF52, 0xF52), (0xF57, 0xF57), (0xF5C, 0xF5C), (0xF69, 0xF69),
   (0xF73, 0xF73), (0xF75, 0xF79), (0xF81, 0xF81), (0xF93, 0xF93), (0xF9D, 0xF9D), (0xFA2, 0xFA2),
   (0xFA7, 0xFA7), (0xFAC, 0xFAC), (0xFB9, 0xFB9), (0x10FC, 0x10FC), (0x115F, 0x1160),
   (0x13F8, 0x13FD), (0x1680, 0x1680), (0x17B4, 0x17B5), (0x1806, 0x1806), (0x180B, 0x180F),
   (0x1C80, 0x1C88), (0x1D2C, 0x1D2E), (0x1D30, 0x1D3A), (0x1D3C, 0x1D4D), (0x1D4F, 0x1D6A),
   (0x1D78, 0x1D78), (0x1D9B, 0x1DBF), (0x1E9A, 0x1E9B), (0x1F71, 0x1F71), (0x1F73, 0x1F73),
   (0x1F75, 0x1F75), (0x1F77, 0x1F77), (0x1F79, 0x1F79), (0x1F7B, 0x1F7B), (0x1F7D, 0x1F87),
   (0x1F90, 0x1F97), (0x1FA0, 0x1FA7), (0x1FB2, 0x1FB4), (0x1FB7, 0x1FB7), (0x1FBD, 0x1FC4),
   (0x1FC7, 0x1FC7), (0x1FCD, 0x1FCF), (0x1FD3, 0x1FD3), (0x1FDD, 0x1FDF), (0x1FE3, 0x1FE3),
   (0x1FED, 0x1FF4), (0x1FF7, 0x1FF7), (0x1FFD, 0x200B), (0x200D, 0x200F), (0x2011, 0x2011),
   (0x2017, 0x2017), (0x2024, 0x2026), (0x2028, 0x202F), (0x2033, 0x2034), (0x2036, 0x2037),
   (0x203C, 0x203C), (0x203E, 0x203E), (0x2047, 0x2049), (0x2057, 0x2057), (0x205F, 0x209C),
   (0x20A8, 0x20A8), (0x2100, 0x2103), (0x2105, 0x2107), (0x2109, 0x2113), (0x2115, 0x2116),
   (0x2119, 0x211D), (0x2120, 0x2122), (0x2124, 0x2124), (0x2128, 0x2128), (0x212C, 0x212D),
   (0x212F, 0x2131), (0x2133, 0x2139), (0x213B, 0x2140), (0x2145, 0x2149), (0x2150, 0x215F),
   (0x2170, 0x217F), (0x2189, 0x2189), (0x222C, 0x222D), (0x222F, 0x2230), (0x2329, 0x232A),
   (0x2460, 0x24B5), (0x24D0, 0x24EA), (0x2A0C, 0x2A0C), (0x2A74, 0x2A76), (0x2ADC, 0x2ADC),
   (0x2C7C, 0x2C7D), (0x2D6F, 0x2D6F), (0x2E9F, 0x2E9F), (0x2EF3, 0x3000), (0x3002, 0x3002),
   (0x3036, 0x3036), (0x3038, 0x303A), (0x309B, 0x309C), (0x309F, 0x309F), (0x30FF, 0x30FF),
   (0x3131, 0x318E), (0x3192, 0x319F), (0x31EF, 0x31EF), (0x3200, 0x3247), (0x3250, 0x327E),
   (0x3280, 0x33FF), (0xA69C, 0xA69D), (0xA770, 0xA770), (0xA7F2, 0xA7F4), (0xA7F8, 0xA7F9),
   (0xAB5C, 0xAB5F), (0xAB69, 0xAB69), (0xAB70, 0xABBF), (0xE000, 0xFA0D), (0xFA10, 0xFA10),
   (0xFA12, 0xFA12), (0xFA15, 0xFA1E), (0xFA20, 0xFA20), (0xFA22, 0xFA22), (0xFA25, 0xFA26),
   (0xFA2A, 0xFB1D), (0xFB1F, 0xFBB1), (0xFBD3, 0xFD3D), (0xFD50, 0xFDC7), (0xFDF0, 0xFDFC),
   (0xFE00, 0xFE19), (0xFE30, 0xFE44), (0xFE47, 0xFE72), (0xFE74, 0xFF20), (0xFF3B, 0xFFFD),
   (0x10781, 0x107BA), (0x110BD, 0x110BD), (0x110CD, 0x110CD), (0x13430, 0x1343F),
   (0x1BCA0, 0x1BCA3), (0x1CCD6, 0x1CCF9), (0x1D15E, 0x1D164), (0x1D173, 0x1D17A),
   (0x1D1BB, 0x1D1C0), (0x1D400, 0x1D7FF), (0x1E030, 0x1E06D), (0x1EE00, 0x1EEBB),
   (0x1F100, 0x1F10A), (0x1F110, 0x1F12E), (0x1F130, 0x1F14F), (0x1F16A, 0x1F16C),
   (0x1F190, 0x1F190), (0x1F200, 0x1F251), (0x1FBF0, 0x1FBF9), (0x2EBF0, 0x2EE5D),
   (0x2F800, 0x2FA1D), (0xE0001, 0xE01EF), (0xF0000, 0x10FFFD)]

/-- A character of ASCII that no name holds. -/
def isForbidden (c : Char) : Bool :=
  c ≤ ' ' || c == '\x7f' || "#%/:<>?@[\\]^|".toList.contains c

/-- Whether a letter has a small form that names use instead. The Cherokee letters are written in
capitals. -/
def isFolded (c : Char) : Bool :=
  c == 'İ' || (Text.lowerChar c != c && !('\u13a0' ≤ c && c ≤ '\u13f5'))

/-- A character beyond ASCII that a name may hold in its normal form. -/
def isPlain (c : Char) : Bool :=
  Text.isAssigned c && !isFolded c &&
    !refusedRanges.any fun (first, last) => first ≤ c.toNat && c.toNat ≤ last

/-- A character that is left out of names: a soft hyphen, a joiner without effect, or a selector of
variants. -/
def isIgnored (c : Char) : Bool :=
  c == '\u00ad' || c == '\u034f' || c == '\u200b' || c == '\u2060' || c == '\u2064' ||
    c == '\ufeff' || ('\u180b' ≤ c && c ≤ '\u180d') || ('\ufe00' ≤ c && c ≤ '\ufe0f')

/-- The normal form of a character: small letters, and the dots and the wide forms of ASCII as
ASCII. -/
def normal (c : Char) : List Char :=
  if isIgnored c then []
  else if c == '\u3002' || c == '\uff61' then ['.']
  else
    let narrow := if '\uff01' ≤ c && c ≤ '\uff5e' then Char.ofNat (c.toNat - 0xfee0) else c
    if isFolded narrow then (Text.lowerAfter [] [narrow]) else [narrow]

/-! ## Labels -/

/-- Whether a label with characters beyond ASCII is in normal form; it may not start with a mark. -/
def isNormalLabel (label : List Char) : Bool :=
  label.all (fun c => if c.toNat < 128 then !isForbidden c && c != '.' else isPlain c) &&
    !label.head?.any Direction.isMark

/-- What a label stands for. What is encoded and ends in a hyphen stands for ASCII alone, which
needs no encoding. -/
def decoded? (label : List Char) : Option (List Char) :=
  match label with
  | 'x' :: 'n' :: '-' :: '-' :: encoded =>
    if encoded.isEmpty || encoded.getLast? == some '-' then none
    else (Punycode.decode? encoded).filter isNormalLabel
  | label =>
    let isAscii := label.all (·.toNat < 128)
    if (if isAscii then !label.any isForbidden else isNormalLabel label) then some label else none

def encoded (label : List Char) : List Char :=
  if label.all (·.toNat < 128) then label else ['x', 'n', '-', '-'] ++ Punycode.encode label

/-! ## Names -/

/-- A name in ASCII; `none` if some label of it is not one. -/
def ofText? (text : List Char) : Option (List Char) :=
  let labels := Text.splitOn '.' (text.flatMap normal)
  ((labels.mapM decoded?).filter Direction.areSettled).map fun _ =>
    ((labels.map encoded).intersperse ['.']).flatten

end DesignTokens.Uri.DomainName
