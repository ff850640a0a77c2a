/-!
Texts as sequences of UTF-8 bytes: the order by bytes, sorting by it, and beginnings and rests that
are measured in bytes.
-/

namespace TilePanel.Text

def bytes (s : String) : List UInt8 :=
  s.toByteArray.data.toList

/-- The order by UTF-8 bytes, as dictionaries order words. -/
def precedes (a b : String) : Bool :=
  decide (bytes a < bytes b)

theorem bytes_inj {a b : String} (h : bytes a = bytes b) : a = b := by
  have h' : a.toByteArray.data = b.toByteArray.data := Array.toList_inj.mp h
  exact String.toByteArray_inj.mp (ByteArray.ext h')

theorem precedes_irrefl (a : String) : precedes a a = false :=
  decide_eq_false (List.lt_irrefl _)

theorem precedes_trans {a b c : String} (h : precedes a b = true) (h' : precedes b c = true) :
    precedes a c = true :=
  decide_eq_true (List.lt_trans (of_decide_eq_true h) (of_decide_eq_true h'))

theorem precedes_of_ne {a b : String} (h : a ≠ b) (h' : precedes a b = false) :
    precedes b a = true := by
  have hab : ¬bytes a < bytes b := of_decide_eq_false h'
  refine decide_eq_true (Classical.byContradiction fun hba => h (bytes_inj ?_))
  exact List.le_antisymm (List.not_lt.mp hba) (List.not_lt.mp hab)

/-- Puts an entry in front of the first entry whose key does not come before its own. -/
def insertByKey {α : Type} (entry : String × α) : List (String × α) → List (String × α)
  | [] => [entry]
  | e :: es => if precedes e.1 entry.1 then e :: insertByKey entry es else entry :: e :: es

def sortByKey {α : Type} (entries : List (String × α)) : List (String × α) :=
  entries.foldr insertByKey []

/-- The number of UTF-8 bytes of a list of characters. -/
def byteSize (cs : List Char) : Nat :=
  cs.foldr (fun c n => c.utf8Size + n) 0

/-- The characters that fill exactly the first `n` bytes; none if the text is shorter or a character
crosses the limit. -/
def takeBytes? : List Char → Nat → Option (List Char)
  | _, 0 => some []
  | [], _ + 1 => none
  | c :: cs, n + 1 =>
    if c.utf8Size ≤ n + 1 then (takeBytes? cs (n + 1 - c.utf8Size)).map (c :: ·) else none

/-- The characters behind those that fill exactly the first `n` bytes; none if the text is shorter
or a character crosses the limit. -/
def dropBytes? : List Char → Nat → Option (List Char)
  | cs, 0 => some cs
  | [], _ + 1 => none
  | c :: cs, n + 1 => if c.utf8Size ≤ n + 1 then dropBytes? cs (n + 1 - c.utf8Size) else none

end TilePanel.Text
