import TilePanel.Toml.Text
import TilePanel.Toml.Value
import TilePanel.Text.Decimal

/-!
The values of TOML that are single words: truth values, integers, numbers with a fraction, dates and
times. A word is a longest run of the characters that they are made of, and has to be one of them as
a whole.
-/

namespace TilePanel.Toml

open TilePanel.Text

def isWordChar (c : Char) : Bool :=
  c.isAlphanum || c = '_' || c = '-' || c = '+' || c = '.' || c = ':'

/-- The digits of a run of digits in which single underscores may separate them. -/
def ungroup (isDigit : Char → Bool) : List Char → Option (List Char)
  | [] => none
  | [c] => if isDigit c then some [c] else none
  | c :: '_' :: r => if isDigit c then (ungroup isDigit r).map (c :: ·) else none
  | c :: r => if isDigit c then (ungroup isDigit r).map (c :: ·) else none

def splitSign : List Char → Bool × List Char
  | '-' :: r => (true, r)
  | '+' :: r => (false, r)
  | cs => (false, cs)

/-- The digits of a decimal integer without sign, which has no leading zeros. -/
def decimalDigits? (cs : List Char) : Option (List Char) :=
  match ungroup Char.isDigit cs with
  | some ['0'] => some ['0']
  | some ('0' :: _) => none
  | digits => digits

def isOctalDigit (c : Char) : Bool :=
  '0' ≤ c ∧ c ≤ '7'

def isBinaryDigit (c : Char) : Bool :=
  c = '0' || c = '1'

def integerOf? (cs : List Char) : Option Int :=
  match cs with
  | '0' :: 'x' :: r => (ungroup isHexDigit r).map fun ds => numberIn 16 ds
  | '0' :: 'o' :: r => (ungroup isOctalDigit r).map fun ds => numberIn 8 ds
  | '0' :: 'b' :: r => (ungroup isBinaryDigit r).map fun ds => numberIn 2 ds
  | _ =>
    let (negative, r) := splitSign cs
    (decimalDigits? r).map fun ds =>
      let n : Int := Decimal.value ds
      if negative then -n else n

def integer? (cs : List Char) : Option Int :=
  (integerOf? cs).filter fun n => -9223372036854775808 ≤ n ∧ n ≤ 9223372036854775807

/-- Whether `digits` times ten to the power `exponent` is so large that it rounds to infinity in
double precision. -/
def overflows (digits : Nat) (exponent : Int) : Bool :=
  let limit := Nat.pow 2 1024 - Nat.pow 2 970
  let size := (Decimal.digits digits).length + exponent
  if digits = 0 then false
  else if 310 < size then true
  else if size < 300 then false
  else if 0 ≤ exponent then limit ≤ digits * Nat.pow 10 exponent.toNat
  else limit * Nat.pow 10 (-exponent).toNat ≤ digits

/-- The digits of a fraction and the exponent, of what follows the whole part of a number; at least
one of the two has to be there. -/
def tail? (cs : List Char) : Option (List Char × Int) :=
  let exponent? (r : List Char) : Option Int :=
    let (negative, ds) := splitSign r
    (ungroup Char.isDigit ds).map fun ds =>
      let n : Int := Decimal.value ds
      if negative then -n else n
  let isExponent (c : Char) : Bool := c = 'e' || c = 'E'
  match cs with
  | '.' :: r =>
    (ungroup Char.isDigit (r.takeWhile fun c => !isExponent c)).bind fun ds =>
      match r.dropWhile fun c => !isExponent c with
      | [] => some (ds, 0)
      | _ :: e => (exponent? e).map fun n => (ds, n)
  | c :: r => if isExponent c then (exponent? r).map fun n => ([], n) else none
  | [] => none

/-- Whether a word is a number with a fraction or an exponent, or one of the special numbers.
Numbers that round to infinity are refused, unless they are negative. -/
def isFloat (cs : List Char) : Bool :=
  let (negative, r) := splitSign cs
  let isWhole (c : Char) : Bool := c.isDigit || c = '_'
  r == ['i', 'n', 'f'] || r == ['n', 'a', 'n'] ||
    match decimalDigits? (r.takeWhile isWhole), tail? (r.dropWhile isWhole) with
    | some whole, some (fraction, exponent) =>
      negative || !overflows (Decimal.value (whole ++ fraction)) (exponent - fraction.length)
    | _, _ => false

def twoDigits? (a b : Char) (first last : Nat) : Option Nat :=
  if a.isDigit && b.isDigit then
    (some (Decimal.value [a, b])).filter fun n => first ≤ n && n ≤ last
  else none

def daysOf (year month : Nat) : Nat :=
  if month = 2 then
    if year % 4 = 0 ∧ (year % 100 ≠ 0 ∨ year % 400 = 0) then 29 else 28
  else if month ∈ [4, 6, 9, 11] then 30
  else 31

def date? : List Char → Reading (List Char)
  | y₁ :: y₂ :: y₃ :: y₄ :: '-' :: m₁ :: m₂ :: '-' :: d₁ :: d₂ :: r =>
    let year := [y₁, y₂, y₃, y₄]
    if year.all Char.isDigit then
      (twoDigits? m₁ m₂ 1 12).bind fun month =>
        (twoDigits? d₁ d₂ 1 (daysOf (Decimal.value year) month)).map fun _ =>
          (year ++ ['-', m₁, m₂, '-', d₁, d₂], r)
    else none
  | _ => none

/-- The fraction of a second at the beginning of a text: nine digits count, and zeros at the end do
not show. -/
def fraction? : List Char → Reading (List Char)
  | '.' :: r =>
    match r.takeWhile Char.isDigit with
    | [] => none
    | ds =>
      let shown := ((ds.take 9).reverse.dropWhile fun c => c = '0').reverse
      some (if shown.isEmpty then [] else '.' :: shown, r.dropWhile Char.isDigit)
  | cs => some ([], cs)

def time? : List Char → Reading (List Char)
  | h₁ :: h₂ :: ':' :: m₁ :: m₂ :: ':' :: s₁ :: s₂ :: r =>
    (twoDigits? h₁ h₂ 0 23).bind fun _ =>
      (twoDigits? m₁ m₂ 0 59).bind fun _ =>
        (twoDigits? s₁ s₂ 0 60).bind fun _ =>
          withFront [h₁, h₂, ':', m₁, m₂, ':', s₁, s₂] (fraction? r)
  | _ => none

/-- The distance from universal time, as a whole text; it may be absent. -/
def offset? : List Char → Option (List Char)
  | [] => some []
  | ['Z'] | ['z'] => some ['Z']
  | [sign, h₁, h₂, ':', m₁, m₂] =>
    if sign = '+' ∨ sign = '-' then
      (twoDigits? h₁ h₂ 0 23).bind fun hours =>
        (twoDigits? m₁ m₂ 0 59).map fun minutes =>
          [if hours = 0 ∧ minutes = 0 then '+' else sign, h₁, h₂, ':', m₁, m₂]
    else none
  | _ => none

/-- A time of day with an offset that may be absent, as a whole text. -/
def timeWithOffset? (cs : List Char) : Option (List Char) :=
  (time? cs).bind fun (time, r) => (offset? r).map fun offset => time ++ offset

def dateTime? (cs : List Char) : Option (List Char) :=
  match date? cs with
  | some (date, []) => some date
  | some (date, c :: r) =>
    if c = 'T' ∨ c = 't' then (timeWithOffset? r).map fun time => date ++ 'T' :: time else none
  | none =>
    match time? cs with
    | some (time, []) => some time
    | _ => none

def word? (cs : List Char) : Option Value :=
  if cs = ['t', 'r', 'u', 'e'] then some (.boolean true)
  else if cs = ['f', 'a', 'l', 's', 'e'] then some (.boolean false)
  else
    match integer? cs with
    | some n => some (.integer n)
    | none =>
      if isFloat cs then some .float
      else (dateTime? cs).map fun text => .dateTime (String.ofList text)

/-- A date and, after one space, a time of day: the two words and the rest. -/
def spacedDateTime? (word rest : List Char) : Reading Value :=
  match date? word, rest with
  | some (date, []), ' ' :: r =>
    (timeWithOffset? (r.takeWhile isWordChar)).map fun time =>
      (.dateTime (String.ofList (date ++ 'T' :: time)), r.dropWhile isWordChar)
  | _, _ => none

def scalar? (cs : List Char) : Reading Value :=
  let word := cs.takeWhile isWordChar
  let rest := cs.dropWhile isWordChar
  match spacedDateTime? word rest with
  | some reading => some reading
  | none => (word? word).map fun value => (value, rest)

end TilePanel.Toml
