import TilePanel.Text.Blank

/-!
The lines that a shell remembers. The file that keeps them begins with a mark and has one line for
each, in which backslashes and line breaks are escaped.
-/

namespace TilePanel.Shell

open TilePanel.Text

/-- The lines, oldest first, and the number of those that the file does not hold yet. -/
structure History where
  entries : List String := []
  added : Nat := 0
deriving DecidableEq, Repr

namespace History

def limit : Nat := 100

def mark : String := "#V2"

/-- Whether a line is left out: an empty one, one that begins with a blank, and one that repeats the
line before. -/
def ignores (h : History) (line : String) : Bool :=
  match line.toList with
  | [] => true
  | c :: _ => isBlank c || h.entries.getLast? == some line

/-- Remembers a line, and forgets the oldest one if there are too many. -/
def add (h : History) (line : String) : History :=
  if h.ignores line then h
  else
    let entries := h.entries ++ [line]
    ⟨entries.drop (entries.length - limit), min (h.added + 1) limit⟩

def escapeChar (c : Char) : List Char :=
  if c = '\\' then ['\\', '\\'] else if c = '\n' then ['\\', 'n'] else [c]

def fileText (h : History) : String :=
  String.join ((mark :: h.entries.map fun e => String.ofList (e.toList.flatMap escapeChar)).map
    fun line => line ++ "\n")

/-- The line without its escapes; none if something else is escaped. -/
def unescape : List Char → Option (List Char)
  | [] => some []
  | '\\' :: 'n' :: cs => (unescape cs).map ('\n' :: ·)
  | '\\' :: '\\' :: cs => (unescape cs).map ('\\' :: ·)
  | c :: cs => if c = '\\' then none else (unescape cs).map (c :: ·)

/-- The lines of a text. A line ends at a line feed, in front of which a carriage return vanishes;
the last line need not end. -/
def linesOf (text : String) : List String :=
  let parts := text.splitOn "\n"
  let whole := parts.dropLast.map fun line =>
    if line.toList.getLast? = some '\r' then String.ofList line.toList.dropLast else line
  match parts.getLast? with
  | some rest => if rest = "" then whole else whole ++ [rest]
  | none => whole

def ofFileText (text : String) : History :=
  let lines := linesOf text
  let loaded : History := match lines with
    | [] => {}
    | first :: rest =>
      let isMarked := first == mark
      let read (line : String) : String :=
        if isMarked then ((unescape line.toList).map String.ofList).getD line else line
      (rest.filter fun line => line != "").foldl (fun (h : History) line => h.add (read line))
        (if isMarked then {} else ({} : History).add first)
  { loaded with added := 0 }

end History

end TilePanel.Shell
