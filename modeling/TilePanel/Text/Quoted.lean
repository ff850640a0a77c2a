import TilePanel.Text.Hexadecimal
import TilePanel.Text.Hidden

/-!
Texts in double quotes, as the notices of the panel show them: quotes and backslashes escaped, the
common control characters by their letters, and every other hidden character by its code point.
-/

namespace TilePanel.Text

def quoteChar (c : Char) : List Char :=
  if c = '"' then ['\\', '"']
  else if c = '\\' then ['\\', '\\']
  else if c = '\n' then ['\\', 'n']
  else if c = '\r' then ['\\', 'r']
  else if c = '\t' then ['\\', 't']
  else if c.toNat = 0 then ['\\', '0']
  else if isHidden c then ['\\', 'u', '\x7b'] ++ hexDigits c.toNat ++ ['\x7d']
  else [c]

def quoted (s : String) : String :=
  String.ofList ('"' :: s.toList.flatMap quoteChar ++ ['"'])

end TilePanel.Text
