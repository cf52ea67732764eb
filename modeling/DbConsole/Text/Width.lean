import DbConsole.Text.CodePoints
import DbConsole.Text.WidthTable

/-!
How many columns a text takes on a terminal. A text is measured from its end: what stands to the
right of a character (a variation selector, the second half of a ligature, the rest of an emoji
sequence) decides whether it takes its own width.
-/
set_option autoImplicit false

namespace DbConsole.Text

/-- What the characters to the right let the next character to the left do. -/
inductive Following where
  /-- Nothing. -/
  | plain
  | lineFeed
  | emojiPresentation
  | textPresentation
  | alef
  | hebrewLamed (joined : Bool)
  | bugineseYa (joined : Bool)
  | bugineseVowelYa
  | tifinagh (joined : Bool)
  | tifinaghJoined
  | lisuTone
  | oldTurkicI (joined : Bool)
  | khmerCoeng
  | kiratRaiE
  | kiratRaiAi
  | modifier
  | regional
  | severalRegional
  | emoji
  /-- A joiner and then an emoji. -/
  | joinedEmoji
  | joinedKeycap
  /-- An emoji presentation selector before a joiner and an emoji. -/
  | selectedJoinedEmoji
  | selectedJoinedKeycap
  | joinedRegional
  | joinedRegionalEven
  | joinedRegionalOdd
  | tagEnd
  | tagDigits (count : Nat)
  | tagLetters (count : Nat)
  deriving DecidableEq, Repr

def isTifinaghConsonant (n : Nat) : Bool :=
  (0x2D31 ≤ n && n ≤ 0x2D65) || n == 0x2D6F

def isRegional (n : Nat) : Bool :=
  0x1F1E6 ≤ n && n ≤ 0x1F1FF

def isModifier (n : Nat) : Bool :=
  0x1F3FB ≤ n && n ≤ 0x1F3FF

/-- The Khmer letters that may stand under a coeng sign. -/
def khmerCoengRanges : List (Nat × Nat) :=
  [(0x1780, 0x1782), (0x1784, 0x1787), (0x1789, 0x178C), (0x178E, 0x1793), (0x1795, 0x1798),
   (0x179B, 0x179D), (0x17A0, 0x17A0), (0x17A2, 0x17A2), (0x17A7, 0x17A7), (0x17AB, 0x17AC),
   (0x17AF, 0x17AF)]

/-- Combining marks that nothing draws, which leave a ligature whole. -/
def ligatureTransparentRanges : List (Nat × Nat) :=
  [(0x34F, 0x34F), (0x17B4, 0x17B5), (0x180B, 0x180D), (0x180F, 0x180F), (0x200D, 0x200D),
   (0xFE00, 0xFE0F), (0xE0100, 0xE01EF)]

/-- Width of a character by itself, and what it lets the character before it do. -/
def ownWidth (n : Nat) : Int × Following :=
  if n = 0xFE0E then (0, .textPresentation)
  else if n = 0xFE0F then (0, .emojiPresentation)
  else if n = 0x115F ∨ n = 0x17A4 then (2, .plain)
  else if n = 0x17D8 then (3, .plain)
  else if n = 0x5DC then (1, .hebrewLamed false)
  else if covers alefRanges n then (1, .alef)
  else if covers khmerCoengRanges n then (1, .khmerCoeng)
  else if n = 0x1A10 then (1, .bugineseYa false)
  else if isTifinaghConsonant n then (1, .tifinagh false)
  else if n = 0x2D7F then (1, .plain)
  else if n = 0xA4FC ∨ n = 0xA4FD then (1, .lisuTone)
  else if n = 0x10C03 then (1, .oldTurkicI false)
  else if n = 0x16D67 then (1, .kiratRaiE)
  else if n = 0x16D68 then (1, .kiratRaiE)
  else if n = 0x16D69 then (1, .kiratRaiAi)
  else if isRegional n then (1, .regional)
  else if isModifier n then (2, .modifier)
  else if covers zeroWidthRanges n then (0, .plain)
  else if covers emojiPresentationRanges n then (2, .emoji)
  else if covers wideRanges n then (2, .plain)
  else (1, .plain)

/-- The follower that a joiner makes of a ligature's second half. -/
def Following.joined : Following → Following
  | .hebrewLamed _ => .hebrewLamed true
  | .bugineseYa _ => .bugineseYa true
  | .tifinagh _ => .tifinagh true
  | .oldTurkicI _ => .oldTurkicI true
  | f => f

/-- Whether joiners and undrawn marks may stand inside the ligature that has begun. -/
def Following.seesThroughMarks : Following → Bool
  | .hebrewLamed _ | .bugineseYa _ | .bugineseVowelYa | .tifinagh _ | .tifinaghJoined | .lisuTone
  | .oldTurkicI _ | .khmerCoeng => true
  | _ => false

/-- The change of width where a character joins what follows it into one sign, if it does. -/
def Following.join? (f : Following) (n : Nat) : Option (Int × Following) :=
  match f with
  | .alef =>
    if covers lamRanges n then some (0, .plain)
    else if covers joinTransparentRanges n && covers zeroWidthRanges n then some (0, .alef)
    else none
  | .hebrewLamed true => if n = 0x5D0 then some (0, .plain) else none
  | .khmerCoeng => if n = 0x17D2 then some (-1, .plain) else none
  | .bugineseYa true => if n = 0x1A17 then some (0, .bugineseVowelYa) else none
  | .bugineseVowelYa => if n = 0x1A15 then some (0, .plain) else none
  | .tifinagh joined =>
    if n = 0x2D7F then some (1, .tifinaghJoined)
    else if joined && isTifinaghConsonant n then some (0, .plain)
    else none
  | .tifinaghJoined => if isTifinaghConsonant n then some (-1, .plain) else none
  | .lisuTone => if 0xA4F8 ≤ n ∧ n ≤ 0xA4FB then some (0, .plain) else none
  | .oldTurkicI true => if n = 0x10C32 then some (0, .plain) else none
  | .kiratRaiE =>
    if n = 0x16D63 then some (0, .plain)
    else if n = 0x16D67 then some (0, .kiratRaiAi)
    else none
  | .kiratRaiAi => if n = 0x16D63 then some (0, .plain) else none
  | .modifier =>
    if covers emojiModifierBaseRanges n then some (0, .emoji)
    else if n = 0x200D then some (0, .joinedEmoji)
    else none
  | .regional => if isRegional n then some (1, .severalRegional) else none
  | .severalRegional =>
    if isRegional n then some (1, .severalRegional)
    else if n = 0x200D then some (0, .joinedEmoji)
    else none
  | .emoji => if n = 0x200D then some (0, .joinedEmoji) else none
  | .selectedJoinedEmoji => if covers emojiRanges n then some (0, .emoji) else none
  | .selectedJoinedKeycap =>
    if (0x30 ≤ n ∧ n ≤ 0x39) ∨ n = 0x23 ∨ n = 0x2A then some (0, .emoji) else none
  | .joinedEmoji =>
    if n = 0x20E3 then some (0, .joinedKeycap)
    else if isRegional n then some (1, .joinedRegional)
    else if isModifier n then some (0, .modifier)
    else if n = 0xE007F then some (0, .tagEnd)
    else if (ownWidth n).2 = .emoji then some (0, .emoji)
    else none
  | .joinedRegional => if isRegional n then some (-1, .joinedRegionalEven) else none
  | .joinedRegionalEven =>
    if isRegional n then some (3, .joinedRegionalOdd)
    else if n = 0x200D then some (0, .joinedEmoji)
    else none
  | .joinedRegionalOdd =>
    if isRegional n then some (-3, .joinedRegionalEven)
    else if n = 0x200D then some (0, .joinedEmoji)
    else none
  | .tagEnd =>
    if 0xE0061 ≤ n ∧ n ≤ 0xE007A then some (0, .tagLetters 1)
    else if 0xE0030 ≤ n ∧ n ≤ 0xE0039 then some (0, .tagDigits 1)
    else none
  | .tagLetters k =>
    if 0xE0061 ≤ n ∧ n ≤ 0xE007A ∧ k < 6 then some (0, .tagLetters (k + 1))
    else if 0xE0030 ≤ n ∧ n ≤ 0xE0039 ∧ k < 4 then some (0, .tagDigits 1)
    else if n = 0x1F3F4 ∧ 3 ≤ k then some (0, .emoji)
    else none
  | .tagDigits k =>
    if 0xE0030 ≤ n ∧ n ≤ 0xE0039 ∧ k < 3 then some (0, .tagDigits (k + 1))
    else if n = 0x1F3F4 ∧ k = 3 then some (0, .emoji)
    else none
  | _ => none

/-- Width of a character above U+00A0, given what follows it. -/
def widthBefore (f : Following) (n : Nat) : Int × Following :=
  if n = 0xFE0F then
    match f with
    | .joinedEmoji => (0, .selectedJoinedEmoji)
    | .joinedKeycap => (0, .selectedJoinedKeycap)
    | _ => (0, .emojiPresentation)
  else if n = 0xFE0E then (0, .textPresentation)
  else if f = .textPresentation ∧ covers textPresentationRanges n then (1, .plain)
  else if f.seesThroughMarks ∧ n = 0x200D then (0, f.joined)
  else if f.seesThroughMarks ∧ covers ligatureTransparentRanges n then (0, f)
  else
    match f.join? n with
    | some r => r
    | none => ownWidth n

/-- Width that one more character to the left adds, and what it lets the next one do. -/
def stepWidth (f : Following) (c : Char) : Int × Following :=
  let n := c.toNat
  if f = .emojiPresentation ∧ covers emojiRanges n then (2, .emoji)
  else if f = .selectedJoinedEmoji ∧ covers emojiRanges n then (0, .emoji)
  else if f = .selectedJoinedKeycap ∧ covers emojiRanges n then (0, .emoji)
  else if n ≤ 0xA0 then
    if n = 0x0A then (1, .lineFeed)
    else if n = 0x0D ∧ f = .lineFeed then (0, .plain)
    else (1, .plain)
  else widthBefore f n

def measure : List Char → Int × Following
  | [] => (0, .plain)
  | c :: rest =>
    let right := measure rest
    let here := stepWidth right.2 c
    (right.1 + here.1, here.2)

/-- The number of columns that a text takes. -/
def width (s : String) : Nat :=
  (measure s.toList).1.toNat

end DbConsole.Text
