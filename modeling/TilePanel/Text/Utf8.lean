/-!
Bytes read as UTF-8. Bytes that are no part of a character show as U+FFFD: one for each longest
beginning of a character that does not go on.
-/

namespace TilePanel.Text

def utf8 (cs : List Char) : List UInt8 :=
  cs.flatMap String.utf8EncodeChar

/-- What stands for bytes that cannot be read. -/
def unreadable : Char := '\ufffd'

/-- The beginning of a character of more than one byte. -/
structure Begun where
  value : Nat
  /-- How many bytes are still to come, less one. -/
  left : Nat
  /-- The least and the greatest next byte. -/
  low : UInt8 := 0x80
  high : UInt8 := 0xBF
deriving DecidableEq, Repr

namespace Begun

/-- What a first byte begins. -/
def ofByte? (b : UInt8) : Option Begun :=
  if b < 0xC2 then none
  else if b < 0xE0 then some { value := b.toNat - 0xC0, left := 0 }
  else if b = 0xE0 then some { value := 0, left := 1, low := 0xA0 }
  else if b = 0xED then some { value := 0xD, left := 1, high := 0x9F }
  else if b < 0xF0 then some { value := b.toNat - 0xE0, left := 1 }
  else if b = 0xF0 then some { value := 0, left := 2, low := 0x90 }
  else if b < 0xF4 then some { value := b.toNat - 0xF0, left := 2 }
  else if b = 0xF4 then some { value := 4, left := 2, high := 0x8F }
  else none

/-- Whether a byte goes on with the character. -/
def takes (p : Begun) (b : UInt8) : Bool :=
  p.low ≤ b && b ≤ p.high

/-- The bits together with those of one more byte. -/
def valueWith (p : Begun) (b : UInt8) : Nat :=
  64 * p.value + b.toNat % 64

end Begun

/-- What a byte shows at once when no character has begun, and what it begins. -/
def readFirst (b : UInt8) : List Char × Option Begun :=
  if b < 0x80 then ([Char.ofNat b.toNat], none)
  else
    match Begun.ofByte? b with
    | some p => ([], some p)
    | none => ([unreadable], none)

/-- The characters of bytes that follow the beginning of a character, if one has begun. -/
def readAfter : Option Begun → List UInt8 → List Char
  | none, [] => []
  | some _, [] => [unreadable]
  | none, b :: bs => (readFirst b).1 ++ readAfter (readFirst b).2 bs
  | some p, b :: bs =>
    if p.takes b then
      match p.left with
      | 0 => Char.ofNat (p.valueWith b) :: readAfter none bs
      | left + 1 => readAfter (some { value := p.valueWith b, left }) bs
    else unreadable :: (readFirst b).1 ++ readAfter (readFirst b).2 bs

/-- The text that bytes show. -/
def ofUtf8 (bs : List UInt8) : String :=
  String.ofList (readAfter none bs)

end TilePanel.Text
