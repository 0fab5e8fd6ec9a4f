import Stepwise.Screen.Glyph
import Stepwise.Token
import Stepwise.Viewer.Theme

/-!
# Highlighting

A line of program text is shown in pieces: words, as long as they go, and single other
characters. A word knows whether an opening parenthesis follows it. Main statement: the pieces
of a line make up the line (`flatMap_text_ofLine`).
-/

namespace Stepwise

/-- A piece of a line of program text. -/
inductive Piece where
  /-- A run of word characters, and whether an opening parenthesis follows it. -/
  | word (text : List Char) (called : Bool)
  /-- Any other character. -/
  | mark (c : Char)
deriving DecidableEq, Repr

namespace Piece

/-- The characters of a piece. -/
def text : Piece → List Char
  | word text _ => text
  | mark c => [c]

/-- The piece of a word that is written backwards; no characters make no piece. -/
def ofWord (backwards : List Char) (called : Bool) : List Piece :=
  if backwards.isEmpty then [] else [word backwards.reverse called]

/-- The pieces of a line that goes on from the word characters `backwards`, last one first. -/
def ofLineFrom (backwards : List Char) : List Char → List Piece
  | [] => ofWord backwards false
  | c :: cs =>
    if Token.isWordChar c then ofLineFrom (c :: backwards) cs
    else ofWord backwards (c == '(') ++ mark c :: ofLineFrom [] cs

/-- The pieces of a line, in order. -/
def ofLine (line : List Char) : List Piece :=
  ofLineFrom [] line

theorem flatMap_text_ofWord (backwards : List Char) (called : Bool) :
    (ofWord backwards called).flatMap text = backwards.reverse := by
  cases backwards <;> simp [ofWord, text]

theorem flatMap_text_ofLineFrom (backwards line : List Char) :
    (ofLineFrom backwards line).flatMap text = backwards.reverse ++ line := by
  induction line generalizing backwards with
  | nil => simp [ofLineFrom, flatMap_text_ofWord]
  | cons c cs ih =>
    rw [ofLineFrom]
    split
    · rw [ih]
      simp
    · rw [List.flatMap_append, flatMap_text_ofWord, List.flatMap_cons, ih]
      simp [text]

/-- The pieces of a line make up the line. -/
theorem flatMap_text_ofLine (line : List Char) : (ofLine line).flatMap text = line := by
  simp [ofLine, flatMap_text_ofLineFrom]

/-- The words that show as keywords. -/
def keywords : List String :=
  ["return", "if", "else", "while", "for"]

/-- The names that always show as functions. -/
def streamNames : List String :=
  ["cin", "cout", "endl", "putchar"]

/-- Whether a word starts with a digit. -/
def startsWithDigit : List Char → Bool
  | [] => false
  | c :: _ => Text.isDigit c

/-- The style of a word. -/
def wordStyle (text : List Char) (called : Bool) : Style :=
  let word := String.ofList text
  if word = "int" then Theme.ink Theme.typeName
  else if word ∈ keywords then Theme.boldInk Theme.keyword
  else if word ∈ streamNames then Theme.ink Theme.function
  else if startsWithDigit text then Theme.ink Theme.number
  else if called then Theme.ink Theme.function
  else Theme.ink Theme.text

/-- Whether a character is a bracket. -/
def isBracket (c : Char) : Bool :=
  c ∈ ['{', '}', '(', ')', '[', ']']

/-- The style of a piece. -/
def style : Piece → Style
  | word text called => wordStyle text called
  | mark c => Theme.ink (if isBracket c then Theme.accent else Theme.text)

/-- A piece as a span. -/
def span (piece : Piece) : Span :=
  ⟨String.ofList piece.text, piece.style⟩

end Piece

/-- The spans of a line of program text. -/
def highlight (line : List Char) : List Span :=
  (Piece.ofLine line).map Piece.span

end Stepwise
