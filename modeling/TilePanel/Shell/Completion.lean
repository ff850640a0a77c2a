import TilePanel.Text.Blank
import TilePanel.Text.ByteOrder

/-!
Completion of command lines: the commands complete the first word and the subcommands of the first
word complete the second. Places in the line count UTF-8 bytes.
-/

namespace TilePanel.Shell

open TilePanel.Text

def commandTable : List (String × List String) := [
  ("panel", ["show", "battery", "user", "cert", "brightness-mode", "brightness", "switch-user",
    "refresh", "resources", "string"]),
  ("settings", ["get", "put", "list"]),
  ("config", ["show", "path", "init"]),
  ("help", []),
  ("exit", []),
  ("quit", [])]

def commandNames : List String :=
  commandTable.map Prod.fst

/-- The subcommands of a command; none if there is no such command. -/
def subcommandNames (command : List Char) : List String :=
  ((commandTable.find? fun entry => entry.1.toList == command).map Prod.snd).getD []

/-- The words that begin with given characters. -/
def beginningWith (start : List Char) (words : List String) : List String :=
  words.filter fun w => start.isPrefixOf w.toList

structure Completion where
  start : Nat
  words : List String
deriving DecidableEq, Repr

/-- The text up to the last space, that space included. -/
def throughLastSpace (cs : List Char) : List Char :=
  (cs.reverse.dropWhile fun c => c != ' ').reverse

/-- The words that may follow a text; only a space at the end, no other blank, begins a new word. -/
def candidates (text : List Char) : List String :=
  let endsInSpace := text.getLast? == some ' '
  match blankSeparated text, endsInSpace with
  | [], _ => commandNames
  | [command], false => beginningWith command commandNames
  | [command], true => subcommandNames command
  | [command, sub], false => beginningWith sub (subcommandNames command)
  | _, _ => []

/-- Completes a text with the cursor at its end. -/
def completeText (text : List Char) : Completion where
  start := byteSize (throughLastSpace text)
  words := candidates text

/-- Completes a line at a cursor; none if the cursor is beyond the end or inside a character. -/
def complete? (line : String) (cursor : Nat) : Option Completion :=
  (takeBytes? line.toList cursor).map completeText

end TilePanel.Shell
