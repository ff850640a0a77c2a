/-!
Decimal numerals: the shortest form of an integer, and a reader that takes an optional sign and
ASCII digits and refuses whatever does not fit into 32 bits.
-/

namespace TilePanel.Text.Decimal

/-- The digit that stands for a number below ten. -/
def digit (d : Nat) : Char :=
  Char.ofNat (48 + d)

/-- The decimal digits of a number, most significant first. -/
def digits (n : Nat) : List Char :=
  if n < 10 then [digit n] else digits (n / 10) ++ [digit (n % 10)]
termination_by n
decreasing_by omega

def ofInt : Int → List Char
  | .ofNat n => digits n
  | .negSucc n => '-' :: digits (n + 1)

def value (ds : List Char) : Nat :=
  ds.foldl (fun n d => 10 * n + (d.toNat - 48)) 0

def readDigits? (cs : List Char) : Option Nat :=
  if cs.isEmpty || !cs.all Char.isDigit then none else some (value cs)

/-- An optional sign, then one or more ASCII digits. -/
def readInt? : List Char → Option Int
  | [] => none
  | c :: cs =>
    if c = '-' then (readDigits? cs).map fun n => -(n : Int)
    else if c = '+' then (readDigits? cs).map Int.ofNat
    else (readDigits? (c :: cs)).map Int.ofNat

/-- The 32-bit integer equal to a given integer, if there is one. -/
def narrow? (n : Int) : Option Int32 :=
  if -2147483648 ≤ n ∧ n ≤ 2147483647 then some (Int32.ofInt n) else none

/-- A numeral whose value fits into 32 bits. -/
def readInt32? (cs : List Char) : Option Int32 :=
  (readInt? cs).bind narrow?

end TilePanel.Text.Decimal

namespace TilePanel.Text

def showInt (n : Int) : String :=
  String.ofList (Decimal.ofInt n)

def showNat (n : Nat) : String :=
  String.ofList (Decimal.digits n)

end TilePanel.Text
