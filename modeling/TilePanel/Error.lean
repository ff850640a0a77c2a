import TilePanel.Text.Decimal
import TilePanel.Tile.Kind

/-!
What can go wrong in the panel, by cause. `Error.message` is the sentence for people and
`Error.causes` is the same sentence followed by those of the deeper causes.
-/

namespace TilePanel

open TilePanel.Text

inductive FileFault
  | notFound
  | notADirectory
  | isADirectory
  | alreadyExists
  | nameTooLong
  | nulInName
  | notUtf8
  | other (text : String)
deriving DecidableEq, Repr

def FileFault.text : FileFault → String
  | notFound => "No such file or directory (os error 2)"
  | notADirectory => "Not a directory (os error 20)"
  | isADirectory => "Is a directory (os error 21)"
  | alreadyExists => "File exists (os error 17)"
  | nameTooLong => "File name too long (os error 36)"
  | nulInName => "file name contained an unexpected NUL byte"
  | notUtf8 => "stream did not contain valid UTF-8"
  | other text => text

inductive DatabaseFault
  /-- The path has a zero byte, in front of which there are so many others. -/
  | zeroInPath (position : Nat)
  /-- The path is a URI of another host. -/
  | hostUnknown (name : String)
  | systemUnknown (name : String)
  | cacheModeUnknown (name : String)
  | accessModeUnknown (name : String)
  /-- The path asks for more than it allowed before. -/
  | accessModeRefused (name : String)
  | cannotOpen (path : String)
  /-- The file that has to be written before the database itself cannot be made. -/
  | cannotOpenJournal
  /-- The file whose permissions are asked for cannot be looked up. -/
  | cannotLookUp
  | notADatabase
  | readOnly
  | tableMissing
  | valueNotText (column : Nat)
deriving DecidableEq, Repr

namespace DatabaseFault

def text : DatabaseFault → String
  | zeroInPath position =>
    "nul byte found in provided data at position: " ++ showNat position
  | hostUnknown name => "invalid uri authority: " ++ name
  | systemUnknown name => "no such vfs: " ++ name
  | cacheModeUnknown name => "no such cache mode: " ++ name
  | accessModeUnknown name => "no such access mode: " ++ name
  | accessModeRefused name => "access mode not allowed: " ++ name
  | cannotOpen path => "unable to open database file: " ++ path
  | cannotOpenJournal => "unable to open database file"
  | cannotLookUp => "disk I/O error"
  | notADatabase => "file is not a database"
  | readOnly => "attempt to write a readonly database"
  | tableMissing => "no such table: system"
  | valueNotText 0 => "Invalid column type Blob at index: 0, name: value"
  | valueNotText _ => "Invalid column type Blob at index: 1, name: value"

def cause? : DatabaseFault → Option String
  | zeroInPath position => some (zeroInPath position).text
  | hostUnknown _ | systemUnknown _ | cacheModeUnknown _ | accessModeUnknown _ | tableMissing =>
    some "Error code 1: SQL error or missing database"
  | accessModeRefused _ => some "Error code 3: Access permission denied"
  | readOnly => some "Error code 8: Attempt to write a readonly database"
  | cannotOpen _ | cannotOpenJournal => some "Error code 14: Unable to open the database file"
  | notADatabase => some "Error code 26: File opened that is not a database file"
  | cannotLookUp => some "Error code 1802: Error invoking fstat to get file metadata"
  | valueNotText _ => none

end DatabaseFault

inductive Error
  | tileNotBound (kind : TileKind)
  | database (fault : DatabaseFault)
  | io (fault : FileFault)
  | configUnreadable
  /-- A text of the configuration has no written form. -/
  | configUnwritable
deriving DecidableEq, Repr

namespace Error

def message : Error → String
  | tileNotBound kind => kind.name ++ " tile has no bound view"
  | database fault => "settings database error: " ++ fault.text
  | io fault => "IO error: " ++ fault.text
  | configUnreadable => "failed to parse config"
  | configUnwritable => "failed to write config"

/-- The message, then those of the deeper causes. -/
def causes (e : Error) : List String :=
  match e with
  | tileNotBound _ => [e.message]
  | database fault => [e.message, fault.text] ++ fault.cause?.toList
  | io fault => [e.message, fault.text]
  | configUnreadable => [e.message]
  | configUnwritable => [e.message]

end Error

end TilePanel
