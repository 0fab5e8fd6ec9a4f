/-!
# Blank characters

The characters that separate words and that may end a line without being part of it: the
`White_Space` property of Unicode. It is wider than the class that core calls white space, as
it has the vertical tab, the form feed, the next-line character and the spaces outside ASCII.
-/

namespace Stepwise.Text

/-- Whether a character is blank. -/
def isBlank (c : Char) : Bool :=
  let n := c.toNat
  (0x9 ≤ n && n ≤ 0xd) || n == 0x20 || n == 0x85 || n == 0xa0 || n == 0x1680 ||
    (0x2000 ≤ n && n ≤ 0x200a) || n == 0x2028 || n == 0x2029 || n == 0x202f || n == 0x205f ||
    n == 0x3000

/-- Whether a text has nothing but blanks, or nothing at all. -/
def isBlankText (cs : List Char) : Bool :=
  cs.all isBlank

/-- A text without the blanks at its end. -/
def trimEnd (cs : List Char) : List Char :=
  (cs.reverse.dropWhile isBlank).reverse

/-- A line break is blank. -/
theorem isBlank_newline : isBlank '\n' = true := by decide

end Stepwise.Text
