import TilePanel.Error
import TilePanel.Settings.Table
import TilePanel.Text.ByteOrder
import TilePanel.Text.Pieces

/-!
The files that the program can see: a tree of directories, text files, other files and settings
databases. Relative paths begin in the working directory. The home directory, the working directory
and the directories above them always exist.
-/

namespace TilePanel

open TilePanel.Text

/-- A place in the tree: the names from the root down. -/
abbrev Location := List String

inductive Entry
  | directory
  | text (content : String)
  /-- A file that is not UTF-8 text. -/
  | binary
  /-- A settings database, with its table if it has one. -/
  | database (table : Option SettingsTable)
  /-- A file that stays empty whatever is written to it. -/
  | sink
deriving DecidableEq, Repr

structure Disk where
  home : Location
  here : Location
  entries : List (Location × Entry) := []
deriving DecidableEq, Repr

def pathNames (path : String) : List String :=
  (words (fun c => c = '/') path.toList).map String.ofList

def isAbsolute (path : String) : Bool :=
  path.toList.head? == some '/'

/-- Whether a path ends in a slash, which only directories allow. -/
def endsInSlash (path : String) : Bool :=
  path.toList.getLast? == some '/'

def isTooLong (name : String) : Bool :=
  255 < (bytes name).length

def pathFault? (path : String) : Option FileFault :=
  if path.toList.contains '\x00' then some .nulInName
  else if path = "" then some .notFound
  else if 4096 ≤ (bytes path).length then some .nameTooLong
  else none

namespace Disk

def entry? (d : Disk) (l : Location) : Option Entry :=
  if l.isPrefixOf d.home || l.isPrefixOf d.here then some .directory
  else (d.entries.find? fun e => e.1 == l).map Prod.snd

def put (d : Disk) (l : Location) (e : Entry) : Disk :=
  { d with entries := (l, e) :: d.entries.filter fun f => f.1 != l }

def remove (d : Disk) (l : Location) : Disk :=
  { d with entries := d.entries.filter fun f => f.1 != l }

def origin (d : Disk) (path : String) : Location :=
  if isAbsolute path then [] else d.here

def pass (d : Disk) (l : Location) : Except FileFault Unit :=
  match d.entry? l with
  | some .directory => .ok ()
  | some _ => .error .notADirectory
  | none => .error .notFound

def follow (d : Disk) : Location → List String → Except FileFault Location
  | l, [] => .ok l
  | l, name :: rest =>
    match d.pass l with
    | .error fault => .error fault
    | .ok _ =>
      if name = "." then d.follow l rest
      else if name = ".." then d.follow l.dropLast rest
      else if isTooLong name then .error .nameTooLong
      else d.follow (l ++ [name]) rest

def locate (d : Disk) (path : String) : Except FileFault Location :=
  match pathFault? path with
  | some fault => .error fault
  | none => d.follow (d.origin path) (pathNames path)

def find (d : Disk) (path : String) : Except FileFault (Location × Entry) :=
  match d.locate path with
  | .error fault => .error fault
  | .ok l =>
    match d.entry? l with
    | none => .error .notFound
    | some .directory => .ok (l, .directory)
    | some e => if endsInSlash path then .error .notADirectory else .ok (l, e)

def hasPath (d : Disk) (path : String) : Bool :=
  match d.find path with
  | .ok _ => true
  | .error _ => false

def readText (d : Disk) (path : String) : Except FileFault String :=
  match d.find path with
  | .error fault => .error fault
  | .ok (_, .directory) => .error .isADirectory
  | .ok (_, .text content) => .ok content
  | .ok (_, .binary) => .error .notUtf8
  | .ok (_, .database _) => .error .notUtf8
  | .ok (_, .sink) => .ok ""

/-- The place of a file that a path names to be made or written. Only the directory has to exist;
the last name must not be that of a directory. -/
def locateFile (d : Disk) (path : String) : Except FileFault Location :=
  match pathFault? path with
  | some fault => .error fault
  | none =>
    match (pathNames path).getLast? with
    | none => .error .isADirectory
    | some name => do
      let parent ← d.follow (d.origin path) (pathNames path).dropLast
      d.pass parent
      if name = "." ∨ name = ".." ∨ endsInSlash path then .error .isADirectory
      else if isTooLong name then .error .nameTooLong
      else .ok (parent ++ [name])

def writeText (d : Disk) (path : String) (content : String) : Except FileFault Disk :=
  match d.locateFile path with
  | .error fault => .error fault
  | .ok l =>
    match d.entry? l with
    | some .directory => .error .isADirectory
    | some .sink => .ok d
    | _ => .ok (d.put l (.text content))

/-- Makes the directories that are missing on the way down from a directory. -/
def makeDirectories (d : Disk) : Location → List String → Except FileFault Disk
  | _, [] => .ok d
  | l, part :: rest =>
    let next := l ++ [part]
    match d.entry? next with
    | some .directory => makeDirectories d next rest
    | some _ => .error (if rest.isEmpty then .alreadyExists else .notADirectory)
    | none => makeDirectories (d.put next .directory) next rest

def pathOf (l : Location) : String :=
  String.join (l.map fun part => "/" ++ part)

def configDirectory : List String :=
  [".config", "quicktiles"]

def dataDirectory : List String :=
  [".local", "share", "quicktiles"]

/-- The path of the configuration file, whose directory is made if it is missing. -/
def configPath (d : Disk) : Except FileFault (String × Disk) :=
  (d.makeDirectories d.home configDirectory).map fun d =>
    (pathOf (d.home ++ configDirectory ++ ["config.toml"]), d)

/-- The path of the settings database, whose directory is made if it is missing. -/
def databasePath (d : Disk) : Except FileFault (String × Disk) :=
  (d.makeDirectories d.home dataDirectory).map fun d =>
    (pathOf (d.home ++ dataDirectory ++ ["settings.db"]), d)

end Disk

end TilePanel
