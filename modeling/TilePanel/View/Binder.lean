import TilePanel.Tile.Record
import TilePanel.Text.Decimal

/-!
How a record is painted. A binder turns the record of a tile into calls on views: most binders draw
on the view that the tile was bound with, the basic one draws on a view of its own.
-/

namespace TilePanel

open TilePanel.Text

inductive ViewCall
  | icon (view : String) (icon : Icon)
  | text (view : String) (text : String)
  | visible (view : String) (shown : Bool)
  /-- The view shows the time of day. -/
  | clock (view : String)
  /-- The record goes to an observer instead of a view. -/
  | record (view : String) (record : TileRecord)
deriving DecidableEq, Repr

/-- How a tile is painted. -/
inductive Binder
  /-- Hands the record on and leaves every view alone. -/
  | recorder
  /-- Paints the base attributes on the view `own`, which is hidden while the record is disabled if
  `hides` is set. -/
  | basic (own : String) (hides : Bool)
  /-- Writes all facts of the record into one line, separated by bars. -/
  | summary
  | userLine
  | clock
  | batteryLine
deriving DecidableEq, Repr

/-- A binder and the view that it is handed. -/
structure Binding where
  binder : Binder
  view : String
deriving DecidableEq, Repr

namespace TileRecord

def caption (r : TileRecord) : String :=
  r.base.label.getD "-"

/-- What a summary says after the label. -/
def facts : TileRecord → List String
  | battery r => [showNat r.level.toNat, truthWord r.pluggedIn]
  | user r => [(r.avatar.map Avatar.source).getD "none"]
  | brightness r => [truthWord r.automatic]
  | rssi r => [truthWord r.activity.incoming, truthWord r.activity.outgoing]
  | wifi r => [truthWord r.activity.incoming, truthWord r.activity.outgoing]
  | basic _ | bluetooth _ => []

/-- The label and all facts, separated by bars. -/
def summary (r : TileRecord) : String :=
  String.intercalate "|" (r.caption :: r.facts)

end TileRecord

/-- The line of a user tile: the name, and the source of the image in brackets. -/
def UserRecord.line (r : UserRecord) : String :=
  let name := r.base.label.getD "-"
  match r.avatar with
  | some avatar => name ++ " [" ++ avatar.source ++ "]"
  | none => name

/-- The line of a battery tile: the level in percent, and whether it is charging. -/
def BatteryRecord.line (r : BatteryRecord) : String :=
  showNat r.level.toNat ++ "%" ++ if r.pluggedIn then " (charging)" else ""

namespace Binder

/-- The calls that paint base attributes; an absent icon or label leaves the view as it is. -/
def paintBase (own : String) (hides : Bool) (base : BaseRecord) : List ViewCall :=
  (if hides then [.visible own base.enabled] else []) ++
    (base.icon.map (ViewCall.icon own)).toList ++ (base.label.map (ViewCall.text own)).toList

/-- The calls that a binder makes when a record is pushed to it. -/
def paint (binder : Binder) (view : String) (record : TileRecord) : List ViewCall :=
  match binder with
  | recorder => [.record view record]
  | basic own hides => paintBase own hides record.base
  | summary => [.text view record.summary]
  | userLine => (record.user?.map fun r => ViewCall.text view r.line).toList
  | clock => [.clock view]
  | batteryLine => (record.battery?.map fun r => ViewCall.text view r.line).toList

end Binder

def Binding.paint (b : Binding) (record : TileRecord) : List ViewCall :=
  b.binder.paint b.view record

end TilePanel
