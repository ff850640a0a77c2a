/-!
The values of a TOML document. Numbers with a fraction keep no value, since nothing here looks at
them; dates and times keep their text.
-/

namespace TilePanel.Toml

inductive Value
  | string (text : String)
  | integer (value : Int)
  | float
  | boolean (value : Bool)
  | dateTime (text : String)
  | array (items : List Value)
  | table (entries : List (String × Value))

def lookup {α : Type} (key : String) (entries : List (String × α)) : Option α :=
  (entries.find? fun e => e.1 == key).map Prod.snd

end TilePanel.Toml
