import Stepwise.Text.Emoji
import Stepwise.Text.Joining
import Stepwise.Text.Wide

/-!
# The width of a text

How many cells of a screen a text takes. Mostly that is the sum over its characters, but some
characters are drawn together with what follows them: emoji that form another emoji, and letters
that form a ligature. So the width is added up from the end, and at each character it is known how
the text after it starts.
-/

namespace Stepwise.Text

/-! ## Characters on their own -/

/-- The number of cells that a character beyond ASCII takes on its own. -/
def charWidth (c : Char) : Nat :=
  if isZeroWidth c then 0
  else if c.toNat == 0x17d8 then 3
  else if isWide c then 2
  else 1

/-- The marks that are not shown; a ligature is formed across them. -/
def hiddenMarkRanges : CodeRanges :=
  #[
   (0x34f, 0x34f), (0x17b4, 0x17b5), (0x180b, 0x180d), (0x180f, 0x180f), (0xfe00, 0xfe0f),
   (0xe0100, 0xe01ef)]

/-- The Khmer letters that can be written below another. -/
def subscriptRanges : CodeRanges :=
  #[
   (0x1780, 0x1782), (0x1784, 0x1787), (0x1789, 0x178c), (0x178e, 0x1793), (0x1795, 0x1798),
   (0x179b, 0x179d), (0x17a0, 0x17a0), (0x17a2, 0x17a2), (0x17a7, 0x17a7), (0x17ab, 0x17ac),
   (0x17af, 0x17af)]

/-- Whether a character is a consonant of Tifinagh. -/
def isTifinagh (c : Char) : Bool :=
  (0x2d31 ≤ c.toNat && c.toNat ≤ 0x2d65) || c.toNat == 0x2d6f

/-- Whether a character is a letter within a tag. -/
def isTagLetter (c : Char) : Bool :=
  0xe0061 ≤ c.toNat && c.toNat ≤ 0xe007a

/-- Whether a character is a digit within a tag. -/
def isTagDigit (c : Char) : Bool :=
  0xe0030 ≤ c.toNat && c.toNat ≤ 0xe0039

/-! ## How a text starts -/

/-- What letters before it may form a ligature with. -/
inductive Ligature where
  /-- An Arabic alef. -/
  | alef
  /-- The Hebrew letter lamed. -/
  | lamed
  /-- A Khmer letter that can be written below another. -/
  | subscript
  /-- The Buginese letter ya. -/
  | ya
  /-- The Buginese vowel sign i, a joiner and the letter ya. -/
  | vowelYa
  /-- A Tifinagh consonant. -/
  | consonant
  /-- The sign that joins two Tifinagh consonants, and the second of them. -/
  | linkedConsonant
  /-- The second part of a Lisu tone. -/
  | tone
  /-- The Old Turkic letter i. -/
  | orkhonI
deriving DecidableEq, Repr

/-- How a text starts, as far as the width of what stands before it hangs on that. -/
inductive Start where
  /-- With nothing of interest. -/
  | plain
  /-- With a line feed. -/
  | lineFeed
  /-- With a skin tone. -/
  | skinTone
  /-- With one letter of a flag. -/
  | flagLetter
  /-- With several letters of flags. -/
  | flagLetters
  /-- With an emoji. -/
  | emoji
  /-- With a joiner and an emoji. -/
  | joined
  /-- With the frame of a key, a joiner and an emoji. -/
  | joinedKey
  /-- With one letter of a flag, a joiner and an emoji. -/
  | joinedLetter
  /-- With an even number of letters of flags, a joiner and an emoji. -/
  | joinedFlags
  /-- With an odd number of letters of flags, three at least, a joiner and an emoji. -/
  | joinedFlagsLetter
  /-- With so many tag letters, the end of a tag, a joiner and an emoji. -/
  | tagLetters (count : Nat)
  /-- With so many tag digits, the rest of a tag, a joiner and an emoji. -/
  | tagDigits (count : Nat)
  /-- With something that forms a ligature, and whether a joiner stands before that. -/
  | ligature (kind : Ligature) (hasJoiner : Bool)
deriving DecidableEq, Repr

/-- The start of a text that begins with this character and goes on with nothing of interest. -/
def Start.ofChar (c : Char) : Start :=
  let code := c.toNat
  if isFlagLetter c then flagLetter
  else if isSkinTone c then skinTone
  else if isEmoji c then emoji
  else if code == 0x5dc then ligature .lamed false
  else if alefRanges.covers c then ligature .alef false
  else if subscriptRanges.covers c then ligature .subscript false
  else if code == 0x1a10 then ligature .ya false
  else if isTifinagh c then ligature .consonant false
  else if code == 0xa4fc || code == 0xa4fd then ligature .tone false
  else if code == 0x10c03 then ligature .orkhonI false
  else plain

/-- The choice between two forms of the character before it. -/
inductive Selector where
  | text
  | emoji
deriving DecidableEq, Repr

/-- The text after a character. -/
structure Ahead where
  /-- How it starts, not counting a selector. -/
  start : Start := .plain
  /-- The selector before that. -/
  selector : Option Selector := none
deriving DecidableEq, Repr

/-! ## What a character adds -/

/-- What a character adds in front of something that forms a ligature with it, and how the text
starts from there. -/
def Ligature.add? (kind : Ligature) (hasJoiner : Bool) (c : Char) : Option (Int × Start) :=
  let code := c.toNat
  match kind with
  | alef =>
    if lamRanges.covers c then some (0, .plain)
    else if isTransparent c then some (0, .ligature alef hasJoiner)
    else none
  | lamed => if hasJoiner && code == 0x5d0 then some (0, .plain) else none
  | subscript => if code == 0x17d2 then some (-1, .plain) else none
  | ya => if hasJoiner && code == 0x1a17 then some (0, .ligature vowelYa true) else none
  | vowelYa => if code == 0x1a15 then some (0, .plain) else none
  | consonant =>
    if code == 0x2d7f then some (1, .ligature linkedConsonant true)
    else if hasJoiner && isTifinagh c then some (0, .plain)
    else none
  | linkedConsonant => if isTifinagh c then some (-1, .plain) else none
  | tone => if 0xa4f8 ≤ code && code ≤ 0xa4fb then some (0, .plain) else none
  | orkhonI => if hasJoiner && code == 0x10c32 then some (0, .plain) else none

/-- What a character adds in front of a text with this start, and how the text starts from there,
if it is drawn together with it. -/
def Start.add? (start : Start) (c : Char) : Option (Int × Start) :=
  let isJoiner := c.toNat == 0x200d
  match start with
  | plain | lineFeed | joinedKey => none
  | skinTone =>
    if isTintable c then some (0, emoji) else if isJoiner then some (0, joined) else none
  | flagLetter => if isFlagLetter c then some (1, flagLetters) else none
  | flagLetters =>
    if isFlagLetter c then some (1, flagLetters)
    else if isJoiner then some (0, joined)
    else none
  | emoji => if isJoiner then some (0, joined) else none
  | joined =>
    if c.toNat == 0x20e3 then some (0, joinedKey)
    else if isFlagLetter c then some (1, joinedLetter)
    else if isSkinTone c then some (0, skinTone)
    else if c.toNat == 0xe007f then some (0, tagLetters 0)
    else if isEmoji c then some (0, emoji)
    else none
  | joinedLetter => if isFlagLetter c then some (-1, joinedFlags) else none
  | joinedFlags =>
    if isFlagLetter c then some (3, joinedFlagsLetter)
    else if isJoiner then some (0, joined)
    else none
  | joinedFlagsLetter =>
    if isFlagLetter c then some (-1, joinedFlags)
    else if isJoiner then some (0, joined)
    else none
  | tagLetters count =>
    if isTagLetter c && count < 6 then some (0, tagLetters (count + 1))
    else if isTagDigit c && count < 5 then some (0, tagDigits 1)
    else if c.toNat == 0x1f3f4 && 3 ≤ count then some (0, emoji)
    else none
  | tagDigits count =>
    if isTagDigit c && count < 3 then some (0, tagDigits (count + 1))
    else if c.toNat == 0x1f3f4 && count == 3 then some (0, emoji)
    else none
  | ligature kind hasJoiner =>
    if kind != .alef && isJoiner then some (0, ligature kind true)
    else if kind != .alef && hiddenMarkRanges.covers c then some (0, ligature kind hasJoiner)
    else kind.add? hasJoiner c

namespace Ahead

/-- The start that is left of a text once a selector for emoji in front of it has had no effect. -/
def unselected (ahead : Ahead) : Ahead :=
  match ahead.selector, ahead.start with
  | some .emoji, .ligature kind hasJoiner => { start := .ligature kind hasJoiner }
  | some .emoji, _ => {}
  | _, _ => ahead

/-- The text with a selector in front of it. -/
def select (ahead : Ahead) (selector : Selector) : Ahead :=
  match selector, ahead.start with
  | _, .ligature kind hasJoiner => ⟨.ligature kind hasJoiner, some selector⟩
  | .emoji, .joined => ⟨.joined, some .emoji⟩
  | .emoji, .joinedKey => ⟨.joinedKey, some .emoji⟩
  | _, _ => ⟨.plain, some selector⟩

/-- What a character of ASCII or a control character adds. Line ends add nothing. -/
def addPlain (ahead : Ahead) (c : Char) : Int × Ahead :=
  if c == '\n' then (0, { start := .lineFeed })
  else if c == '\r' && ahead.start == .lineFeed then (0, {})
  else (1, {})

/-- What any other character adds. -/
def addOther (ahead : Ahead) (c : Char) : Int × Ahead :=
  if c.toNat == 0xfe0f then (0, ahead.select .emoji)
  else if c.toNat == 0xfe0e then (0, ahead.select .text)
  else if ahead.selector == some .text && isSelectable c && isEmoji c
      && !(0x1f200 ≤ c.toNat && c.toNat ≤ 0x1f2ff) then (1, {})
  else
    match ahead.start.add? c with
    | some (cells, start) => (cells, { start := start })
    | none => (charWidth c, { start := .ofChar c })

/-- What a character adds to the width of a text in front of it, and the text with it. -/
def add (ahead : Ahead) (c : Char) : Int × Ahead :=
  if ahead.selector == some .emoji && isSelectable c then
    (if ahead.start == .joined || ahead.start == .joinedKey then 0 else 2, { start := .emoji })
  else if c.toNat ≤ 0xa0 then ahead.unselected.addPlain c
  else ahead.unselected.addOther c

end Ahead

/-! ## The width -/

/-- The width of a text and how it starts. -/
def measure (cs : List Char) : Int × Ahead :=
  cs.foldr (fun c (cells, ahead) =>
    let (added, ahead) := ahead.add c
    (cells + added, ahead)) (0, {})

/-- The number of cells that a text takes. -/
def width (cs : List Char) : Nat :=
  (measure cs).1.toNat

end Stepwise.Text
