import TilePanel.Disk.Basic
import TilePanel.Disk.DatabaseName

/-!
Opening the file of a settings database. The file is found by its path as it is written: a name
followed by ".." counts for nothing, whatever it names. A file may be made even if the database
cannot be opened.
-/

namespace TilePanel

open TilePanel.Text

structure OpenDatabase where
  table : SettingsTable := {}
  /-- The place of its file, if it has one. -/
  place : Option Location := none
  isReadOnly : Bool := false
deriving DecidableEq, Repr

namespace Disk

/-- The places to which the names of a path lead, one after the other. -/
def steps : Location → List String → List Location
  | _, [] => []
  | l, name :: rest =>
    let next := if name = "." then l else if name = ".." then l.dropLast else l ++ [name]
    next :: steps next rest

/-- The greatest size of the path of a database, in bytes. -/
def databasePathLimit : Nat := 504

/-- The greatest size of the path of a place on the way to it. -/
def stepPathLimit : Nat := 511

/-- Whether it can be told if something stands at a place on the way to a database. -/
def canLookUp (d : Disk) (l : Location) : Bool :=
  match d.follow [] l with
  | .ok _ | .error .notFound => (bytes (pathOf l)).length ≤ stepPathLimit
  | .error _ => false

/-- The place of the file of a database. -/
def databasePlace? (d : Disk) (path : String) : Option Location :=
  let steps := steps (d.origin path) (pathNames path)
  let place := steps.getLast?.getD (d.origin path)
  if steps.all d.canLookUp && place != [] &&
      (bytes (pathOf place)).length ≤ databasePathLimit then some place
  else none

/-- The place of a file beside another, whose name is longer by an ending. -/
def beside (l : Location) (ending : String) : Location :=
  l.dropLast ++ [l.getLast?.getD "" ++ ending]

/-- The place of the journal, which is written before the database and removed after it. -/
def journalPlace (l : Location) : Location :=
  beside l "-journal"

/-- The place of the log, which another way of writing uses. -/
def logPlace (l : Location) : Location :=
  beside l "-wal"

/-- Whether a file can be made and written at a place in a directory. -/
def canWriteAt (d : Disk) (l : Location) : Bool :=
  !isTooLong (l.getLast?.getD "") && d.entry? l != some .directory

/-- Whether a file looks like a journal of a program that did not end: it does not begin with a zero
byte. -/
def isHot : Entry → Bool
  | .text content => content.toList.head?.any fun c => c ≠ '\x00'
  | .binary | .database _ => true
  | .directory | .sink => false

/-- The disk without the journal of a program that did not end. -/
def withoutHotJournal (d : Disk) (n : DatabaseName) (l : Location) : Disk :=
  if !n.isReadOnly && (d.entry? (journalPlace l)).any isHot then d.remove (journalPlace l) else d

/-- Makes a database in an empty file, or says why the file stays empty. -/
def fillDatabase (d : Disk) (n : DatabaseName) (l : Location) :
    Except DatabaseFault OpenDatabase × Disk :=
  if n.isReadOnly then (.error .readOnly, d)
  else if d.canWriteAt (journalPlace l) then
    (.ok { place := some l },
      ((d.put l (.database (some {}))).remove (journalPlace l)).remove (logPlace l))
  else (.error .cannotOpenJournal, d)

/-- Opens the database at a place. `path` is the path as it was given. -/
def openDatabaseAt (d : Disk) (path : String) (n : DatabaseName) (l : Location) :
    Except DatabaseFault OpenDatabase × Disk :=
  match d.entry? l with
  | some (.database (some table)) =>
    (.ok { table, place := some l, isReadOnly := n.isReadOnly }, d.withoutHotJournal n l)
  | some (.database none) | some (.text "") => d.fillDatabase n l
  | some .directory => (.error (.cannotOpen path), d)
  | some _ => (.error .notADatabase, d.withoutHotJournal n l)
  | none =>
    if n.access = .create ∧ d.entry? l.dropLast = some .directory then
      (d.put l (.text "")).fillDatabase n l
    else (.error (.cannotOpen path), d)

/-- Opens the database that a path names; it is made if it is missing, as its table is. -/
def openDatabase (d : Disk) (path : String) : Except DatabaseFault OpenDatabase × Disk :=
  match DatabaseName.ofPath path with
  | .error fault => (.error fault, d)
  | .ok n =>
    if n.isPrivate then
      (if n.isReadOnly then .error .readOnly else .ok {}, d)
    else
      match d.databasePlace? n.path with
      | none => (.error (.cannotOpen path), d)
      | some l =>
        if n.model.all d.hasPath then d.openDatabaseAt path n l else (.error .cannotLookUp, d)

end Disk

end TilePanel
