/-!
# Bytes as text

Bytes are read as UTF-8. Where they are not valid, each longest run of bytes that could have
started a character gives one replacement character, and so does each byte that starts none.
-/

namespace Stepwise.Text

/-- The character that stands for bytes that are no text. -/
def replacement : Char :=
  Char.ofNat 0xfffd

/-- A character of which some bytes have been read. -/
structure Unfinished where
  /-- How many bytes are still due. -/
  due : Nat
  /-- The bits read so far. -/
  bits : Nat
  /-- The least byte that may come next. -/
  low : UInt8
  /-- The greatest byte that may come next. -/
  high : UInt8

/-- What a first byte starts: a character of one byte, one of several bytes, or none. -/
def startOf (b : UInt8) : Char ⊕ Unfinished :=
  if b < 0x80 then .inl (Char.ofNat b.toNat)
  else if b < 0xc2 then .inl replacement
  else if b < 0xe0 then .inr ⟨1, b.toNat - 0xc0, 0x80, 0xbf⟩
  else if b = 0xe0 then .inr ⟨2, 0, 0xa0, 0xbf⟩
  else if b = 0xed then .inr ⟨2, 0xd, 0x80, 0x9f⟩
  else if b < 0xf0 then .inr ⟨2, b.toNat - 0xe0, 0x80, 0xbf⟩
  else if b = 0xf0 then .inr ⟨3, 0, 0x90, 0xbf⟩
  else if b < 0xf4 then .inr ⟨3, b.toNat - 0xf0, 0x80, 0xbf⟩
  else if b = 0xf4 then .inr ⟨3, 4, 0x80, 0x8f⟩
  else .inl replacement

/-- The characters read and the one being read, after a byte that starts a new one. The
characters come last one first. -/
def start (done : List Char) (b : UInt8) : List Char × Option Unfinished :=
  match startOf b with
  | .inl c => (c :: done, none)
  | .inr p => (done, some p)

/-- Takes in one byte. -/
def takeByte (done : List Char) (reading : Option Unfinished) (b : UInt8) :
    List Char × Option Unfinished :=
  match reading with
  | none => start done b
  | some p =>
    if p.low ≤ b ∧ b ≤ p.high then
      let bits := 64 * p.bits + (b.toNat - 0x80)
      if p.due ≤ 1 then (Char.ofNat bits :: done, none)
      else (done, some ⟨p.due - 1, bits, 0x80, 0xbf⟩)
    else start (replacement :: done) b

/-- Reads bytes on from a given state, and gives the characters in order. -/
def decodeFrom (done : List Char) (reading : Option Unfinished) : List UInt8 → List Char
  | [] => (if reading.isSome then replacement :: done else done).reverse
  | b :: bs =>
    let (done, reading) := takeByte done reading b
    decodeFrom done reading bs

/-- The characters of bytes. -/
def decode (bytes : List UInt8) : List Char :=
  decodeFrom [] none bytes

end Stepwise.Text
