import Stepwise.Text.Blank
import Stepwise.Text.Numeral
import Stepwise.Text.Quoted

/-!
# Raw input

The input of a run begins with a count and as many integers, between blanks of any kind. What
follows the last of them on its line is passed over; the program starts on the next line.
-/

namespace Stepwise

/-- The parts of a raw input. -/
structure Header where
  /-- The integers for the program to read. -/
  inputs : List Int32
  /-- The text of the program. -/
  program : String
deriving DecidableEq, Repr

/-- Why a raw input cannot be divided. -/
inductive HeaderFault where
  /-- The count is missing or is none. -/
  | badCount (found : Option String) (line : Nat)
  /-- The integer with this number, counted from one, is missing or is none. -/
  | badInput (index : Nat) (found : Option String) (line : Nat)
  /-- The count is one for which no memory can be set aside. -/
  | hugeCount (count : Nat)
deriving DecidableEq, Repr

/-- The text of the error. -/
def HeaderFault.message : HeaderFault → String
  | badCount found line =>
    s!"Expected the input count at line {line}, found {Text.quotedOption found}"
  | badInput index found line =>
    s!"Expected integer input #{index} at line {line}, found {Text.quotedOption found}"
  | hugeCount count => s!"No room for {count} inputs"

namespace Header

/-- Counts are 64-bit numbers. -/
def countBound : Nat := Nat.pow 2 64

/-- Four bytes are set aside for each integer, and fewer than `2 ^ 63` bytes in all. -/
def capacityBound : Nat := Nat.pow 2 61

/-- What is left of a text, and the line on which it starts. -/
structure Cursor where
  /-- The characters that are left. -/
  rest : List Char
  /-- The number of the current line. -/
  line : Nat := 1

/-- The number of line feeds in a text. -/
def newlines (cs : List Char) : Nat :=
  cs.count '\n'

/-- The next word, blanks before it being passed over, and the cursor right after it. -/
def Cursor.word? (cursor : Cursor) : Option (List Char × Cursor) :=
  let blanks := cursor.rest.takeWhile Text.isBlank
  let rest := cursor.rest.dropWhile Text.isBlank
  match rest with
  | [] => none
  | _ =>
    let word := rest.takeWhile (!Text.isBlank ·)
    some (word, ⟨rest.dropWhile (!Text.isBlank ·), cursor.line + newlines blanks⟩)

/-- Reads `due` more integers; those before them are given last one first. -/
def readInputs (index : Nat) (read : List Int32) (cursor : Cursor) :
    Nat → Except HeaderFault (List Int32 × Cursor)
  | 0 => .ok (read.reverse, cursor)
  | due + 1 =>
    match cursor.word? with
    | none => .error (.badInput index none cursor.line)
    | some (word, cursor) =>
      match Text.int32? word with
      | none => .error (.badInput index (some (String.ofList word)) cursor.line)
      | some value => readInputs (index + 1) (value :: read) cursor due

/-- The lines after the current one. -/
def Cursor.nextLines (cursor : Cursor) : List Char :=
  (cursor.rest.dropWhile (· != '\n')).drop 1

/-- Divides a raw input. -/
def split (text : String) : Except HeaderFault Header :=
  let cursor : Cursor := { rest := text.toList }
  match cursor.word? with
  | none => .error (.badCount none 1)
  | some (word, cursor) =>
    match Text.natural? countBound word with
    | none => .error (.badCount (some (String.ofList word)) cursor.line)
    | some count =>
      if count < capacityBound then
        match readInputs 1 [] cursor count with
        | .error fault => .error fault
        | .ok (inputs, cursor) => .ok ⟨inputs, String.ofList cursor.nextLines⟩
      else .error (.hugeCount count)

end Header

end Stepwise
