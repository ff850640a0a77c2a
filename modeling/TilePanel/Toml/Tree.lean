import TilePanel.Toml.Value

/-!
Documents as they grow statement by statement. Headers open tables and items of arrays of tables,
and keys with dots make tables on their way. A table may be given once: by one header, or by keys
with dots, and no key may be given twice.
-/

namespace TilePanel.Toml

/-- What made a table of a document. -/
inductive Origin
  /-- Its own header. -/
  | header
  /-- A header of a table inside it. -/
  | implied
  /-- A key with dots. -/
  | dotted
deriving DecidableEq, Repr

/-- What stands under a key of a document that is being read. -/
inductive Node
  | value (v : Value)
  | table (origin : Origin) (entries : List (String × Node))
  | tables (items : List (List (String × Node)))

abbrev Entries := List (String × Node)

namespace Entries

def update (key : String) (change : Option Node → Option Node) : Entries → Option Entries
  | [] => (change none).map fun node => [(key, node)]
  | e :: es =>
    if e.1 = key then (change (some e.2)).map fun node => (key, node) :: es
    else (update key change es).map (e :: ·)

def onLast (change : Entries → Option Entries) (items : List Entries) : Option Node :=
  items.getLast?.bind fun last => (change last).map fun last => .tables (items.dropLast ++ [last])

/-- Gives a value to a key with dots. The tables on the way are made or were made by such keys, or
are implied ones or arrays further up. -/
def assign (value : Value) : List String → Entries → Option Entries
  | [], _ => none
  | key :: rest, es =>
    update key (fun
      | none =>
        if rest.isEmpty then some (.value value)
        else (assign value rest []).map (.table .dotted)
      | some (.table .dotted inner) => (assign value rest inner).map (.table .dotted)
      | some (.table .implied inner) =>
        if rest.length ≤ 1 then none else (assign value rest inner).map (.table .implied)
      | some (.tables items) =>
        if rest.length ≤ 1 then none else onLast (assign value rest) items
      | some (.table .header _) => none
      | some (.value _) => none) es

/-- Opens the table of a header. An implied table becomes a table of its own. -/
def openTable : List String → Entries → Option Entries
  | [], _ => none
  | key :: rest, es =>
    update key (fun
      | none =>
        if rest.isEmpty then some (.table .header [])
        else (openTable rest []).map (.table .implied)
      | some (.table origin inner) =>
        if rest.isEmpty then if origin = .implied then some (.table .header inner) else none
        else (openTable rest inner).map (.table origin)
      | some (.tables items) => if rest.isEmpty then none else onLast (openTable rest) items
      | some (.value _) => none) es

def openItem : List String → Entries → Option Entries
  | [], _ => none
  | key :: rest, es =>
    update key (fun
      | none =>
        if rest.isEmpty then some (.tables [[]])
        else (openItem rest []).map (.table .implied)
      | some (.table origin inner) =>
        if rest.isEmpty then none else (openItem rest inner).map (.table origin)
      | some (.tables items) =>
        if rest.isEmpty then some (.tables (items ++ [[]])) else onLast (openItem rest) items
      | some (.value _) => none) es

/-- Gives a value to a key with dots inside the table of the last header. -/
def assignIn (value : Value) (key : List String) : List String → Entries → Option Entries
  | [], es => assign value key es
  | k :: ks, es =>
    update k (fun
      | some (.table origin inner) => (assignIn value key ks inner).map (.table origin)
      | some (.tables items) => onLast (assignIn value key ks) items
      | _ => none) es

end Entries

mutual

def Node.toValue : Node → Value
  | .value v => v
  | .table _ entries => .table (Entries.toValues entries)
  | .tables items => .array (itemValues items)

def Entries.toValues : Entries → List (String × Value)
  | [] => []
  | (key, node) :: es => (key, node.toValue) :: Entries.toValues es

def itemValues : List Entries → List Value
  | [] => []
  | item :: items => .table (Entries.toValues item) :: itemValues items

end

end TilePanel.Toml
