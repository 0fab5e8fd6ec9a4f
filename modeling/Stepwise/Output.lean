import Stepwise.Text.Lines
import Stepwise.Text.Numeral
import Stepwise.Text.Utf8

/-!
# Output

What a program prints is kept as bytes, since single bytes can be printed that make no text.
-/

namespace Stepwise

/-- The bytes printed so far. -/
structure Output where
  /-- The bytes in the order of printing. -/
  bytes : Array UInt8 := #[]
deriving DecidableEq, Repr, Inhabited

namespace Output

/-- The number of bytes printed. -/
def size (out : Output) : Nat :=
  out.bytes.size

/-- Whether nothing has been printed. -/
def isEmpty (out : Output) : Bool :=
  out.bytes.isEmpty

/-- Prints one byte. -/
def putByte (out : Output) (byte : UInt8) : Output :=
  ⟨out.bytes.push byte⟩

/-- Prints a line break. -/
def newline (out : Output) : Output :=
  out.putByte 10

/-- Prints an integer in decimal. -/
def putInt (out : Output) (value : Int32) : Output :=
  ⟨out.bytes ++ (Text.decimal value).toUTF8.data⟩

/-- What has been printed, as text. -/
def text (out : Output) : String :=
  String.ofList (Text.decode out.bytes.toList)

/-- The lines of the first `size` bytes. A line break at the very end starts no further line. -/
def linesUpTo (out : Output) (size : Nat) : List String :=
  let pieces := Text.pieces (Text.decode (out.bytes.toList.take size))
  let pieces := if pieces.getLast? = some [] then pieces.dropLast else pieces
  pieces.map String.ofList

end Output

end Stepwise
