import TilePanel.Text.Decimal
import TilePanel.Text.Hexadecimal

/-!
JSON values and their two written forms: one without white space, and one with a line for every
member, indented by two spaces a level. Members keep the order in which they are given.
-/

namespace TilePanel.Text

inductive Json
  | null
  | bool (value : Bool)
  | number (value : Int)
  | string (value : String)
  | array (items : List Json)
  | object (members : List (String × Json))

namespace Json

def ofText? : Option String → Json
  | none => null
  | some s => string s

def escapeChar (c : Char) : List Char :=
  if c = '"' then ['\\', '"']
  else if c = '\\' then ['\\', '\\']
  else if c = '\n' then ['\\', 'n']
  else if c = '\r' then ['\\', 'r']
  else if c = '\t' then ['\\', 't']
  else if c.toNat = 8 then ['\\', 'b']
  else if c.toNat = 12 then ['\\', 'f']
  else if c.toNat < 32 then ['\\', 'u', '0', '0', hexDigit (c.toNat / 16), hexDigit (c.toNat % 16)]
  else [c]

def literal (s : String) : List Char :=
  '"' :: s.toList.flatMap escapeChar ++ ['"']

def truth (b : Bool) : List Char :=
  if b then ['t', 'r', 'u', 'e'] else ['f', 'a', 'l', 's', 'e']

mutual

def compact : Json → List Char
  | null => ['n', 'u', 'l', 'l']
  | bool b => truth b
  | number n => Decimal.ofInt n
  | string s => literal s
  | array items => '[' :: compactItems items ++ [']']
  | object members => '\x7b' :: compactMembers members ++ ['\x7d']

def compactItems : List Json → List Char
  | [] => []
  | [v] => compact v
  | v :: vs => compact v ++ ',' :: compactItems vs

def compactMembers : List (String × Json) → List Char
  | [] => []
  | [(k, v)] => literal k ++ ':' :: compact v
  | (k, v) :: ms => literal k ++ ':' :: compact v ++ ',' :: compactMembers ms

end

def newLine (level : Nat) : List Char :=
  '\n' :: List.replicate (2 * level) ' '

mutual

def indented (level : Nat) : Json → List Char
  | null => ['n', 'u', 'l', 'l']
  | bool b => truth b
  | number n => Decimal.ofInt n
  | string s => literal s
  | array [] => ['[', ']']
  | array (v :: vs) => '[' :: indentedItems (level + 1) (v :: vs) ++ newLine level ++ [']']
  | object [] => ['\x7b', '\x7d']
  | object (m :: ms) =>
    '\x7b' :: indentedMembers (level + 1) (m :: ms) ++ newLine level ++ ['\x7d']

def indentedItems (level : Nat) : List Json → List Char
  | [] => []
  | [v] => newLine level ++ indented level v
  | v :: vs => newLine level ++ indented level v ++ ',' :: indentedItems level vs

def indentedMembers (level : Nat) : List (String × Json) → List Char
  | [] => []
  | [(k, v)] => newLine level ++ literal k ++ ':' :: ' ' :: indented level v
  | (k, v) :: ms =>
    newLine level ++ literal k ++ ':' :: ' ' :: indented level v ++ ',' :: indentedMembers level ms

end

def render (v : Json) : String :=
  String.ofList v.compact

def pretty (v : Json) : String :=
  String.ofList (v.indented 0)

end Json

end TilePanel.Text
