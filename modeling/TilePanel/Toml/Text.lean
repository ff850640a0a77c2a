import TilePanel.Text.Hexadecimal

/-!
The texts of a TOML document as they are read: what may stand in a comment and in a key, line
breaks, and the four forms of strings. A reader of a text gets what follows the opening quotes and
answers the text and what follows the closing ones.
-/

namespace TilePanel.Toml

open TilePanel.Text

/-- What a reader makes of the beginning of a text, and the rest; none if it cannot be read. -/
abbrev Reading (α : Type) := Option (α × List Char)

def isGap (c : Char) : Bool :=
  c = ' ' || c = '\t'

/-- Every character but control characters; the tab is allowed. -/
def isPlain (c : Char) : Bool :=
  c = '\t' || (32 ≤ c.toNat && c.toNat ≠ 127)

def isBare (c : Char) : Bool :=
  c.isAlphanum || c = '_' || c = '-'

def skipGaps (cs : List Char) : List Char :=
  cs.dropWhile isGap

/-- What follows a line break, which is a line feed alone or after a carriage return. -/
def lineBreak? : List Char → Option (List Char)
  | '\n' :: r => some r
  | '\r' :: '\n' :: r => some r
  | _ => none

/-- Skips a comment, if there is one; its line break stays. -/
def skipComment : List Char → List Char
  | '#' :: r => r.dropWhile isPlain
  | cs => cs

/-- The character with a code point, unless the code point is none of a character. -/
def charOf? (n : Nat) : Option Char :=
  if n.isValidChar then some (Char.ofNat n) else none

def escaped? (c : Char) : Option Char :=
  if c = 'b' then some '\x08'
  else if c = 't' then some '\t'
  else if c = 'n' then some '\n'
  else if c = 'f' then some '\x0c'
  else if c = 'r' then some '\r'
  else if c = '"' then some '"'
  else if c = '\\' then some '\\'
  else none

/-- The number of digits of a code point that a letter announces after a backslash. -/
def codeLength? (c : Char) : Option Nat :=
  if c = 'u' then some 4 else if c = 'U' then some 8 else none

def withFront (front : List Char) (reading : Reading (List Char)) : Reading (List Char) :=
  reading.map fun r => (front ++ r.1, r.2)

/-- Where a reader stands inside a string in double quotes on one line. -/
inductive Mode
  | plain
  | escape
  /-- Inside a code point: so many digits to come, and the number so far. -/
  | code (left value : Nat)
deriving DecidableEq, Repr

/-- The next stand after the digit `d` of a code point, and the character that it completes. -/
def codeDigit (left value d : Nat) : Option (Mode × List Char) :=
  if left ≤ 1 then (charOf? (16 * value + d)).map fun c => (.plain, [c])
  else some (.code (left - 1) (16 * value + d), [])

/-- The next stand after a backslash and one character, and the character that they stand for. -/
def afterBackslash (c : Char) : Option (Mode × List Char) :=
  match escaped? c with
  | some x => some (.plain, [x])
  | none => (codeLength? c).map fun n => (.code n 0, [])

/-- A string in double quotes on one line. -/
def quotedText : Mode → List Char → Reading (List Char)
  | _, [] => none
  | .plain, c :: r =>
    if c = '"' then some ([], r)
    else if c = '\\' then quotedText .escape r
    else if isPlain c then withFront [c] (quotedText .plain r)
    else none
  | .escape, c :: r =>
    match afterBackslash c with
    | none => none
    | some (mode, front) => withFront front (quotedText mode r)
  | .code left value, c :: r =>
    match (hexValue? c).bind (codeDigit left value) with
    | none => none
    | some (mode, front) => withFront front (quotedText mode r)

def literalText (cs : List Char) : Reading (List Char) :=
  let isInside (c : Char) : Bool := isPlain c && c ≠ '\x27'
  match cs.dropWhile isInside with
  | '\x27' :: r => some (cs.takeWhile isInside, r)
  | _ => none

/-- Where a reader stands inside a string between triple quotes. -/
inductive LongMode
  | plain
  /-- After a carriage return, which a line feed has to follow. -/
  | carriage
  /-- After so many quotes in a row. -/
  | quotes (count : Nat)
  | escape
  /-- Inside a code point: so many digits to come, and the number so far. -/
  | code (left value : Nat)
  /-- After a backslash and blanks; a line break has to follow. -/
  | gap
  | gapCarriage
  /-- After a backslash and a line break: blanks and line breaks vanish. -/
  | fold
  | foldCarriage
deriving DecidableEq, Repr

/-- Where the same stand is in a long string. -/
def Mode.long : Mode → LongMode
  | plain => .plain
  | escape => .escape
  | code left value => .code left value

/-- The next stand after a character other than the quote, and the characters that it gives. A
backslash is special between double quotes only. -/
def longPlain (quote c : Char) : Option (LongMode × List Char) :=
  if c = '\\' ∧ quote = '"' then some (.escape, [])
  else if c = '\n' then some (.plain, ['\n'])
  else if c = '\r' then some (.carriage, [])
  else if isPlain c then some (.plain, [c])
  else none

/-- The next stand after any character that may come where text may come. -/
def longStart (quote c : Char) : Option (LongMode × List Char) :=
  if c = quote then some (.quotes 1, []) else longPlain quote c

namespace LongMode

/-- The next stand after a character of a long string, and the characters that it gives. -/
def next (quote : Char) : LongMode → Char → Option (LongMode × List Char)
  | plain, c => longStart quote c
  | carriage, c => if c = '\n' then some (plain, ['\n']) else none
  | quotes n, c =>
    if c = quote then some (quotes (n + 1), [])
    else (longPlain quote c).map fun step => (step.1, List.replicate n quote ++ step.2)
  | escape, c =>
    if isGap c then some (gap, [])
    else if c = '\n' then some (fold, [])
    else if c = '\r' then some (gapCarriage, [])
    else (afterBackslash c).map fun step => (step.1.long, step.2)
  | code left value, c =>
    ((hexValue? c).bind (codeDigit left value)).map fun step => (step.1.long, step.2)
  | gap, c =>
    if isGap c then some (gap, [])
    else if c = '\n' then some (fold, [])
    else if c = '\r' then some (gapCarriage, [])
    else none
  | gapCarriage, c => if c = '\n' then some (fold, []) else none
  | fold, c =>
    if isGap c || c = '\n' then some (fold, [])
    else if c = '\r' then some (foldCarriage, [])
    else longStart quote c
  | foldCarriage, c => if c = '\n' then some (fold, []) else none

/-- Whether a string ends before a character: after three quotes or four, if no further one follows,
and after five. -/
def endsBefore (quote : Char) : LongMode → Char → Bool
  | quotes n, c => 5 ≤ n || (3 ≤ n && c ≠ quote)
  | _, _ => false

/-- The quotes of the text in front of the closing ones, of a string that ends here. -/
def ending? (quote : Char) : LongMode → Option (List Char)
  | quotes n => if 3 ≤ n then some (List.replicate (n - 3) quote) else none
  | _ => none

end LongMode

/-- A string between triple quotes of a kind. Of three to five quotes in a row the last three close
it. -/
def longText (quote : Char) : LongMode → List Char → Reading (List Char)
  | mode, [] => (mode.ending? quote).map fun front => (front, [])
  | mode, c :: r =>
    if mode.endsBefore quote c then (mode.ending? quote).map fun front => (front, c :: r)
    else
      match mode.next quote c with
      | none => none
      | some (mode', front) => withFront front (longText quote mode' r)

/-- Skips the line break that may follow the opening triple quotes. -/
def skipLineBreak (cs : List Char) : List Char :=
  (lineBreak? cs).getD cs

/-- A string of any form, with its opening quotes. -/
def string? : List Char → Reading (List Char)
  | '"' :: '"' :: '"' :: r => longText '"' .plain (skipLineBreak r)
  | '"' :: r => quotedText .plain r
  | '\x27' :: '\x27' :: '\x27' :: r => longText '\x27' .plain (skipLineBreak r)
  | '\x27' :: r => literalText r
  | _ => none

end TilePanel.Toml
