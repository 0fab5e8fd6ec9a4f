/-!
# Lines

A text is cut into lines at its line feeds. A carriage return right before a line feed belongs
to the line end; a carriage return anywhere else, also at the very end of the text, is part of
its line. A text that ends in a line feed has no empty line after it.
-/

namespace Stepwise.Text

/-- A line that is written backwards, without the carriage return that it may end in. -/
def dropReturn : List Char → List Char
  | '\r' :: line => line
  | line => line

/-- The lines of a text whose current line already holds the characters `line`, last one
first. -/
def linesFrom (line : List Char) : List Char → List (List Char)
  | [] => if line.isEmpty then [] else [line.reverse]
  | c :: cs =>
    if c = '\n' then (dropReturn line).reverse :: linesFrom [] cs
    else linesFrom (c :: line) cs

/-- The lines of a text, without their ends. -/
def lines (text : String) : List (List Char) :=
  linesFrom [] text.toList

/-- The pieces between line feeds of a text whose current piece already holds the characters
`piece`, last one first. -/
def piecesFrom (piece : List Char) : List Char → List (List Char)
  | [] => [piece.reverse]
  | c :: cs =>
    if c = '\n' then piece.reverse :: piecesFrom [] cs
    else piecesFrom (c :: piece) cs

/-- The pieces of a text between its line feeds; there is one more of them than line feeds. -/
def pieces (cs : List Char) : List (List Char) :=
  piecesFrom [] cs

/-- Pairs each line with its number, the first one being `first`. -/
def numberFrom (first : Nat) : List (List Char) → List (Nat × List Char)
  | [] => []
  | line :: rest => (first, line) :: numberFrom (first + 1) rest

@[simp] theorem length_numberFrom (first : Nat) (lines : List (List Char)) :
    (numberFrom first lines).length = lines.length := by
  induction lines generalizing first with
  | nil => rfl
  | cons line lines ih => simp [numberFrom, ih]

theorem getElem?_numberFrom (first : Nat) (lines : List (List Char)) (k : Nat) :
    (numberFrom first lines)[k]? = lines[k]?.map fun line => (first + k, line) := by
  induction lines generalizing first k with
  | nil => rfl
  | cons line lines ih =>
    cases k with
    | zero => rfl
    | succ k => simp [numberFrom, ih, Nat.add_assoc, Nat.add_comm 1]

/-- The lines of a text with their numbers, counted from one. -/
def numberedLines (text : String) : List (Nat × List Char) :=
  numberFrom 1 (lines text)

end Stepwise.Text
