import TilePanel.Error
import TilePanel.Text.ByteOrder
import TilePanel.Text.Hexadecimal
import TilePanel.Text.Pieces
import TilePanel.Text.Utf8

/-!
What the path of a settings database asks for. Most paths are the name of a file. A path that begins
with `file:` is a URI: bytes may be written as two hexadecimal digits after a percent sign, and
options may follow the name of the file. They tell whether the database may be written or made, and
which file system keeps it.
-/

namespace TilePanel

open TilePanel.Text

/-- How a database may be used. -/
inductive DatabaseAccess
  | readOnly
  /-- The file has to exist. -/
  | existing
  | create
  /-- The database lives in memory only. -/
  | memory
deriving DecidableEq, Repr

namespace DatabaseAccess

def ofName? (name : String) : Option DatabaseAccess :=
  if name = "ro" then some readOnly
  else if name = "rw" then some existing
  else if name = "rwc" then some create
  else if name = "memory" then some memory
  else none

/-- Whether an access may be asked for after another: it must not allow more. A database in memory
restricts nothing. -/
def permits : DatabaseAccess → DatabaseAccess → Bool
  | create, _ | memory, _ | _, memory | _, readOnly => true
  | existing, other => other = existing
  | readOnly, _ => false

end DatabaseAccess

structure DatabaseName where
  path : String
  access : DatabaseAccess := .create
  /-- The file system that keeps the database. -/
  system : String := "unix"
  isImmutable : Bool := false
  /-- A file whose permissions a new file gets. -/
  model : Option String := none
deriving DecidableEq, Repr

namespace DatabaseName

def memorySystem : String := "memdb"

def systems : List String :=
  ["unix", "unix-none", "unix-dotfile", "unix-excl", memorySystem]

/-- Whether the database has no file, whatever its file system. -/
def isFileless (n : DatabaseName) : Bool :=
  n.path == "" || n.path == ":memory:" || n.access == .memory

/-- Whether the database ends with the program. -/
def isPrivate (n : DatabaseName) : Bool :=
  n.isFileless || n.system == memorySystem

/-- Whether nothing may be written to the database. -/
def isReadOnly (n : DatabaseName) : Bool :=
  n.access == .readOnly || (n.isImmutable && !n.isFileless)

/-! The parts of a URI. -/

/-- The byte that a percent sign and two digits stand for. -/
def escapedByte? (high low : Char) : Option UInt8 :=
  match hexValue? high, hexValue? low with
  | some h, some l => some (UInt8.ofNat (16 * h + l))
  | _, _ => none

/-- The bytes of a part of a URI. A zero byte ends the part. -/
def decodeBytes : List Char → List UInt8
  | [] => []
  | '%' :: high :: low :: cs =>
    match escapedByte? high low with
    | some 0 => []
    | some b => b :: decodeBytes cs
    | none => utf8 ['%'] ++ decodeBytes (high :: low :: cs)
  | c :: cs => utf8 [c] ++ decodeBytes cs

theorem decodeBytes_of_not_mem {cs : List Char} (h : '%' ∉ cs) : decodeBytes cs = utf8 cs := by
  induction cs with
  | nil => rfl
  | cons c cs ih =>
    rw [List.mem_cons, not_or] at h
    have hc : decodeBytes (c :: cs) = utf8 [c] ++ decodeBytes cs := by
      rw [decodeBytes.eq_3]
      exact fun _ _ _ e _ => h.1 e.symm
    simp [hc, ih h.2, utf8]

def decode (cs : List Char) : String :=
  ofUtf8 (decodeBytes cs)

/-- What follows the scheme and the host of a URI. The host, if there is one, stands between two
slashes and the next, and only the own host is known. -/
def afterHost : List Char → Except DatabaseFault (List Char)
  | '/' :: '/' :: cs =>
    let host := String.ofList (cs.takeWhile fun c => c ≠ '/')
    if host = "" ∨ host = "localhost" then .ok (cs.dropWhile fun c => c ≠ '/')
    else .error (.hostUnknown host)
  | cs => .ok cs

def readOption (cs : List Char) : String × String :=
  (decode (cs.takeWhile fun c => c ≠ '='), decode ((cs.dropWhile fun c => c ≠ '=').drop 1))

def readOptions (cs : List Char) : List (String × String) :=
  ((pieces (fun c => c = '&') cs).map readOption).filter fun o => o.1 != ""

/-- The number at the beginning of a value, whose first character is a digit. -/
def leadingNumber (cs : List Char) : Nat :=
  let decimal := Decimal.value (cs.takeWhile Char.isDigit)
  match cs with
  | '0' :: x :: digits =>
    if (x = 'x' ∨ x = 'X') ∧ digits.head?.any isHexDigit then
      numberIn 16 (digits.takeWhile isHexDigit)
    else decimal
  | _ => decimal

/-- The truth that a value denotes; none if it is no such value. A number stands for truth unless
its last eight bits are zero; one that does not fit into 32 bits counts as zero. -/
def truthOf? (value : String) : Option Bool :=
  let lower := value.toLower
  if value.toList.head?.any Char.isDigit then
    let n := leadingNumber value.toList
    some (n < Nat.pow 2 31 && n % 256 ≠ 0)
  else if lower = "on" ∨ lower = "yes" ∨ lower = "true" then some true
  else if lower = "off" ∨ lower = "no" ∨ lower = "false" then some false
  else none

def apply (n : DatabaseName) (option : String × String) : Except DatabaseFault DatabaseName :=
  let (name, value) := option
  if name = "vfs" then .ok { n with system := value }
  else if name = "cache" then
    if value = "shared" ∨ value = "private" then .ok n else .error (.cacheModeUnknown value)
  else if name = "mode" then
    match DatabaseAccess.ofName? value with
    | none => .error (.accessModeUnknown value)
    | some access =>
      if n.access.permits access then .ok { n with access } else .error (.accessModeRefused value)
  else .ok n

/-- What a URI without its scheme asks for. What follows a number sign is ignored. -/
def ofUri (cs : List Char) : Except DatabaseFault DatabaseName := do
  let rest := (← afterHost cs).takeWhile fun c => c ≠ '#'
  let options := readOptions ((rest.dropWhile fun c => c ≠ '?').drop 1)
  let name : DatabaseName := {
    path := decode (rest.takeWhile fun c => c ≠ '?')
    isImmutable := ((options.lookup "immutable").bind truthOf?).getD false
    model := options.lookup "modeof" }
  let name ← options.foldlM apply name
  if systems.contains name.system then return name else throw (.systemUnknown name.system)

def ofPath (path : String) : Except DatabaseFault DatabaseName :=
  if path.toList.contains '\x00' then
    .error (.zeroInPath (byteSize (path.toList.takeWhile fun c => c ≠ '\x00')))
  else
    match path.toList with
    | 'f' :: 'i' :: 'l' :: 'e' :: ':' :: cs => ofUri cs
    | _ => .ok { path }

end DatabaseName

end TilePanel
