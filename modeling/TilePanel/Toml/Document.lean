import TilePanel.Toml.Scalar
import TilePanel.Toml.Tree

/-!
Reading TOML documents: keys, values, statements, and the entries that the statements build up.
-/

namespace TilePanel.Toml

def simpleKey? : List Char → Reading String
  | '"' :: r => (quotedText .plain r).map fun (text, r) => (String.ofList text, r)
  | '\x27' :: r => (literalText r).map fun (text, r) => (String.ofList text, r)
  | cs =>
    match cs.takeWhile isBare with
    | [] => none
    | key => some (String.ofList key, cs.dropWhile isBare)

/-- A key with dots, of at most `limit` parts, with the blanks around it. -/
def dottedKey? : Nat → List Char → Reading (List String)
  | 0, _ => none
  | limit + 1, cs =>
    match simpleKey? (skipGaps cs) with
    | none => none
    | some (key, r) =>
      match skipGaps r with
      | '.' :: r' => (dottedKey? limit r').map fun (keys, r'') => (key :: keys, r'')
      | r' => some ([key], r')

/-- The number of parts that a key may have. -/
def keyLimit : Nat := 79

/-- The number of arrays and inline tables that may stand inside one another. -/
def depthLimit : Nat := 79

/-- Skips blanks, line breaks and comments; the flag tells whether a comment has begun. -/
def skipFiller : Bool → List Char → List Char
  | _, [] => []
  | inComment, c :: r =>
    if inComment && isPlain c then skipFiller true r
    else if c = '\n' || isGap c then skipFiller false r
    else if c = '#' then skipFiller true r
    else if c = '\r' then
      match r with
      | '\n' :: r' => skipFiller false r'
      | _ => c :: r
    else c :: r

/-- The items of an array, up to and with its end; a comma may follow the last one. `limit` bounds
their number. -/
def items? (item? : List Char → Reading Value) : Nat → List Char → Reading (List Value)
  | 0, _ => none
  | limit + 1, cs =>
    match skipFiller false cs with
    | ']' :: r => some ([], r)
    | cs' =>
      match item? cs' with
      | none => none
      | some (v, r) =>
        match skipFiller false r with
        | ',' :: r' => (items? item? limit r').map fun (vs, r'') => (v :: vs, r'')
        | ']' :: r' => some ([v], r')
        | _ => none

def pair? (value? : List Char → Reading Value) (cs : List Char) : Reading (List String × Value) :=
  match dottedKey? keyLimit cs with
  | some (key, '=' :: r) => (value? (skipGaps r)).map fun (v, r') => ((key, v), r')
  | _ => none

/-- The pairs of an inline table, up to and with its end, added to the entries so far. `limit`
bounds their number. -/
def pairs? (value? : List Char → Reading Value) : Nat → Entries → List Char → Reading Entries
  | 0, _, _ => none
  | limit + 1, es, cs =>
    match pair? value? cs with
    | none => none
    | some ((key, v), r) =>
      match Entries.assign v key es, skipGaps r with
      | some es', ',' :: r' => pairs? value? limit es' r'
      | some es', '\x7d' :: r' => some (es', r')
      | _, _ => none

def inlineTable? (value? : List Char → Reading Value) (cs : List Char) : Reading Value :=
  match skipGaps cs with
  | '\x7d' :: r => some (.table [], r)
  | _ => (pairs? value? cs.length [] cs).map fun (es, r) => (.table (Entries.toValues es), r)

/-- A value with so many levels of arrays and inline tables at most. -/
def value? : Nat → List Char → Reading Value
  | depth, '[' :: r =>
    match depth with
    | 0 => none
    | depth + 1 => (items? (value? depth) (r.length + 1) r).map fun (vs, r') => (.array vs, r')
  | depth, '\x7b' :: r =>
    match depth with
    | 0 => none
    | depth + 1 => inlineTable? (value? depth) r
  | _, cs =>
    match string? cs with
    | some (text, r) => some (.string (String.ofList text), r)
    | none => scalar? cs

inductive Statement
  | table (path : List String)
  | item (path : List String)
  | assign (key : List String) (value : Value)

/-- What follows the rest of a line, which may hold blanks and a comment only. -/
def endLine? (cs : List Char) : Option (List Char) :=
  match skipComment (skipGaps cs) with
  | [] => some []
  | cs' => lineBreak? cs'

/-- A statement; none on a line that is blank or holds a comment only. -/
def statement? (cs : List Char) : Reading (Option Statement) :=
  match cs with
  | [] | '#' :: _ | '\n' :: _ | '\r' :: _ => some (none, cs)
  | '[' :: '[' :: r =>
    match dottedKey? keyLimit r with
    | some (path, ']' :: ']' :: r') => some (some (.item path), r')
    | _ => none
  | '[' :: r =>
    match dottedKey? keyLimit r with
    | some (path, ']' :: r') => some (some (.table path), r')
    | _ => none
  | _ => (pair? (value? depthLimit) cs).map fun ((key, v), r) => (some (.assign key v), r)

/-- The statements of a text of at most `limit` lines. -/
def statements? : Nat → List Char → Option (List Statement)
  | 0, _ => none
  | limit + 1, cs =>
    match skipGaps cs with
    | [] => some []
    | cs' =>
      match statement? cs' with
      | none => none
      | some (s, r) =>
        match endLine? r with
        | none => none
        | some r' => (statements? limit r').map fun rest => s.toList ++ rest

/-- The entries so far, and the path of the table that the last header opened. -/
structure Build where
  entries : Entries := []
  path : List String := []

def Build.add (b : Build) : Statement → Option Build
  | .table path => (b.entries.openTable path).map fun entries => { entries, path }
  | .item path => (b.entries.openItem path).map fun entries => { entries, path }
  | .assign key value =>
    (b.entries.assignIn value key b.path).map fun entries => { b with entries }

/-- The entries of a document; a byte order mark may stand in front. -/
def entries? (cs : List Char) : Option (List (String × Value)) :=
  let text := match cs with
    | c :: r => if c.toNat = 0xFEFF then r else cs
    | [] => []
  (statements? (text.length + 1) text).bind fun ss =>
    (ss.foldlM Build.add {}).map fun b => b.entries.toValues

end TilePanel.Toml
