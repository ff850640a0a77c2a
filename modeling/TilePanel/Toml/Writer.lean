import TilePanel.Toml.Text

/-!
The written form of TOML documents: sections of keys with single values. A text takes the first form
that shows it without escapes, if there is one, and double quotes with escapes else.
-/

namespace TilePanel.Toml

open TilePanel.Text

def longestRun (c : Char) (cs : List Char) : Nat :=
  (cs.foldl (fun (run : Nat × Nat) d =>
    let now := if d = c then run.2 + 1 else 0
    (max run.1 now, now)) (0, 0)).1

/-- The longest run of one kind of quote that the writer can count. -/
def runLimit : Nat := 255

/-- Whether a text can be written as a value: the writer counts its quotes to choose a form. -/
def canWrite (cs : List Char) : Bool :=
  longestRun '\x27' cs ≤ runLimit && longestRun '"' cs ≤ runLimit

/-- The characters that only an escape can show: control characters without tab and line feed. -/
def needsEscape (c : Char) : Bool :=
  (c.toNat < 32 || c.toNat = 127) && c ≠ '\t' && c ≠ '\n'

def codeEscape (c : Char) : List Char :=
  ['\\', 'u', '0', '0', upperHexDigit (c.toNat / 16), upperHexDigit (c.toNat % 16)]

def escapeChar (c : Char) : List Char :=
  if c = '\t' then ['\\', 't']
  else if c = '\\' then ['\\', '\\']
  else if c = '\r' then ['\\', 'r']
  else if c = '\x08' then ['\\', 'b']
  else if c = '\x0c' then ['\\', 'f']
  else if needsEscape c then codeEscape c
  else [c]

def escapeLine (cs : List Char) : List Char :=
  cs.flatMap fun c =>
    if c = '"' then ['\\', '"'] else if c = '\n' then ['\\', 'n'] else escapeChar c

/-- The characters between triple double quotes; of three quotes in a row the third is escaped.
`run` counts the quotes in front. -/
def escapeLong : Nat → List Char → List Char
  | _, [] => []
  | run, c :: cs =>
    if c = '"' then
      if run = 2 then '\\' :: '"' :: escapeLong 0 cs else '"' :: escapeLong (run + 1) cs
    else if c = '\n' then '\n' :: escapeLong 0 cs
    else escapeChar c ++ escapeLong 0 cs

inductive Form
  | double
  | single
  | longDouble
  | longSingle
deriving DecidableEq, Repr

/-- The first form that shows a text without escapes, or else a form with escapes. -/
def formOf (cs : List Char) : Form :=
  let hasEscape := cs.any needsEscape
  let hasBackslash := cs.contains '\\'
  let hasBreak := cs.contains '\n'
  let singles := longestRun '\x27' cs
  let doubles := longestRun '"' cs
  if !hasEscape && !hasBackslash && doubles = 0 && !hasBreak then .double
  else if !hasEscape && singles = 0 && !hasBreak then .single
  else if !hasEscape && !hasBackslash && doubles ≤ 2 then .longDouble
  else if !hasEscape && singles ≤ 2 then .longSingle
  else if hasBreak then .longDouble
  else .double

/-- The line break after opening triple quotes, which a text with line breaks gets. -/
def opening (cs : List Char) : List Char :=
  if cs.contains '\n' then ['\n'] else []

def writeText (cs : List Char) : List Char :=
  match formOf cs with
  | .double => '"' :: escapeLine cs ++ ['"']
  | .single => '\x27' :: cs ++ ['\x27']
  | .longDouble => ['"', '"', '"'] ++ opening cs ++ escapeLong 0 cs ++ ['"', '"', '"']
  | .longSingle => ['\x27', '\x27', '\x27'] ++ opening cs ++ cs ++ ['\x27', '\x27', '\x27']

/-- How texts are written as values. A writer may give up on a text. -/
abbrev TextWriter := List Char → Option (List Char)

/-- The writer that chooses a form by counting quotes, as far as it can count. -/
def countingWriter : TextWriter := fun cs =>
  if canWrite cs then some (writeText cs) else none

def writeKey (cs : List Char) : List Char :=
  let hasEscape := cs.any fun c => needsEscape c || c = '\n'
  if !cs.isEmpty && cs.all isBare then cs
  else if !hasEscape && !cs.contains '\\' && !cs.contains '"' then '"' :: escapeLine cs ++ ['"']
  else if !hasEscape && !cs.contains '\x27' then '\x27' :: cs ++ ['\x27']
  else '"' :: escapeLine cs ++ ['"']

/-- A section of a document: its name, and its keys with their written values. -/
structure Section where
  name : String
  lines : List (String × List Char)

def writeLine (line : String × List Char) : List Char :=
  writeKey line.1.toList ++ [' ', '=', ' '] ++ line.2 ++ ['\n']

def writeSection (s : Section) : List Char :=
  '[' :: writeKey s.name.toList ++ [']', '\n'] ++ s.lines.flatMap writeLine

/-- The written form of a document, with a blank line between sections. -/
def writeSections : List Section → List Char
  | [] => []
  | [s] => writeSection s
  | s :: rest => writeSection s ++ '\n' :: writeSections rest

end TilePanel.Toml
