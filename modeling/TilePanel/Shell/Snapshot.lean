import TilePanel.Shell.Session
import TilePanel.Text.Blank
import TilePanel.Tile.Written

/-!
What a session shows: one line for each tile below a heading, or the same as JSON together with the
records.
-/

namespace TilePanel.Shell

open TilePanel.Text

/-- What is seen of a tile, and its record. -/
structure TileSnapshot where
  tile : TileKind
  visible : Bool
  /-- The name of the drawable that the icon refers to. -/
  icon : Option String
  text : String
  state : TileRecord

structure PanelSnapshot where
  user : UserId
  tiles : List TileSnapshot

/-- The text with spaces behind it, up to a given width. -/
def padded (width : Nat) (text : String) : String :=
  text ++ String.ofList (List.replicate (width - text.length) ' ')

def TileSnapshot.line (t : TileSnapshot) : String :=
  if t.visible then
    "  " ++ padded 20 t.tile.name ++ " " ++ padded 28 (t.icon.getD "-") ++ " " ++ t.text
  else "  " ++ padded 20 t.tile.name ++ " (hidden)"

def TileSnapshot.json (t : TileSnapshot) : Json :=
  .object [("tile", .string t.tile.tag), ("visible", .bool t.visible), ("icon", .ofText? t.icon),
    ("text", .string t.text), ("state", t.state.json)]

namespace PanelSnapshot

def lines (p : PanelSnapshot) : List String :=
  ("Panel for user " ++ p.user.text) :: p.tiles.map TileSnapshot.line

def text (p : PanelSnapshot) : String :=
  String.join (p.lines.map fun line => line ++ "\n")

def json (p : PanelSnapshot) : Json :=
  .object [("user", .number p.user.id.toInt), ("tiles", .array (p.tiles.map TileSnapshot.json))]

end PanelSnapshot

namespace Session

def tileSnapshot (s : Session) (kind : TileKind) : TileSnapshot where
  tile := kind
  visible := (s.views.get kind).visible
  icon := (s.views.get kind).icon.map Icon.resourceName
  text := (s.views.get kind).text
  state := s.panel.record kind

def snapshot (s : Session) : PanelSnapshot where
  user := s.panel.user
  tiles := TileKind.all.map s.tileSnapshot

/-- The text of the snapshot, without the blanks at its end. -/
def displayText (s : Session) : String :=
  String.ofList (trimEnd s.snapshot.text.toList)

def displayJson (s : Session) : Json :=
  s.snapshot.json

end Session

end TilePanel.Shell
