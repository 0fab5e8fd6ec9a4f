/-!
# Keys
-/

namespace Stepwise

/-- A key that is pressed. -/
inductive Key where
  | left
  | right
  | up
  | down
  | home
  | finish
  | enter
  | backspace
  | tab
  | escape
  /-- A key that writes a character. -/
  | char (c : Char)
  /-- Any other key. -/
  | other
deriving DecidableEq, Repr

/-- The key with a name; a name of one character is that character's key. -/
def Key.ofName (name : String) : Key :=
  match name with
  | "Left" => left
  | "Right" => right
  | "Up" => up
  | "Down" => down
  | "Home" => home
  | "End" => finish
  | "Enter" => enter
  | "Backspace" => backspace
  | "Tab" => tab
  | "Esc" => escape
  | _ =>
    match name.toList with
    | [c] => char c
    | _ => other

end Stepwise
