import TilePanel.Settings.Table
import TilePanel.Text.Decimal

/-!
The text in which a settings database is kept in a file: a mark, and one line for each row with its
user, its name and its value, separated by tabs. What would be mistaken for a separator is escaped.
-/

namespace TilePanel

open TilePanel.Text

namespace SettingsTable

/-- The first line of the file of a database. -/
def imageMark : String := "settings table 1"

/-- How a character of a name or a value is written. -/
def imageChar (c : Char) : List Char :=
  if c = '\\' then ['\\', '\\']
  else if c = '\n' then ['\\', 'n']
  else if c = '\t' then ['\\', 't']
  else [c]

def imageText (s : String) : String :=
  String.ofList (s.toList.flatMap imageChar)

def readImageText : List Char → List Char
  | '\\' :: 'n' :: cs => '\n' :: readImageText cs
  | '\\' :: 't' :: cs => '\t' :: readImageText cs
  | '\\' :: '\\' :: cs => '\\' :: readImageText cs
  | c :: cs => c :: readImageText cs
  | [] => []

def imageCell : Cell → String
  | .null => "null"
  | .binary => "binary"
  | .text value => "text\t" ++ imageText value

def imageRow (r : Row) : String :=
  r.user.text ++ "\t" ++ imageText r.name ++ "\t" ++ imageCell r.cell

def image (t : SettingsTable) : String :=
  String.join ((imageMark :: t.rows.map imageRow).map fun line => line ++ "\n")

def readImageRow? (line : String) : Option Row :=
  let text (s : String) : String := String.ofList (readImageText s.toList)
  let row (user name : String) (cell : Cell) : Option Row :=
    (Decimal.readInt32? user.toList).map fun n => ⟨⟨n⟩, text name, cell⟩
  match line.splitOn "\t" with
  | [user, name, "null"] => row user name .null
  | [user, name, "binary"] => row user name .binary
  | [user, name, "text", value] => row user name (.text (text value))
  | _ => none

/-- The table in the text of a file; none if it is not such a text. -/
def ofImage? (s : String) : Option SettingsTable :=
  match s.splitOn "\n" with
  | mark :: lines =>
    if mark = imageMark then
      ((lines.filter fun line => line != "").mapM readImageRow?).map fun rows =>
        rows.foldl SettingsTable.replace {}
    else none
  | [] => none

end SettingsTable

end TilePanel
