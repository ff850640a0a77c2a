import Mathlib.Logic.Function.Basic
import TilePanel.Proofs.View.Overwriting

/-!
What a history of records leaves on the views when one basic binder paints them all. The binder
skips what a record does not have, so each attribute of its own view is that of the last record that
has it; no other view is ever called.
-/

namespace TilePanel

/-- What a view was told, word for word: every attribute as it was set last, if it ever was. -/
structure Display where
  icon : Option Icon := none
  text : Option String := none
  visible : Option Bool := none
deriving DecidableEq, Repr

namespace Display

def obey (clock : String) (v : Display) : ViewCall → Display
  | .icon _ icon => { v with icon := some icon }
  | .text _ text => { v with text := some text }
  | .visible _ shown => { v with visible := some shown }
  | .clock _ => { v with text := some clock }
  | .record _ _ => v

/-- What a history of base attributes says: the last icon that there is, the last label that there
is, and whether the last record is enabled, which counts if `hides` is set. -/
def saidBy (hides : Bool) (bases : List BaseRecord) : Display where
  icon := (bases.filterMap BaseRecord.icon).getLast?
  text := (bases.filterMap BaseRecord.label).getLast?
  visible := if hides then bases.getLast?.map BaseRecord.enabled else none

/-- What is said, and where nothing is said what was there. -/
def covering (said v : Display) : Display :=
  ⟨said.icon.or v.icon, said.text.or v.text, said.visible.or v.visible⟩

private theorem covering_assoc (later said v : Display) :
    (later.covering said).covering v = later.covering (said.covering v) := by
  simp [covering, Option.or_assoc]

/-- The last record speaks over those before it. -/
private theorem saidBy_concat (hides : Bool) (bases : List BaseRecord) (last : BaseRecord) :
    saidBy hides (bases ++ [last]) = (saidBy hides [last]).covering (saidBy hides bases) := by
  simp only [saidBy, covering, getLast?_filterMap_concat]
  cases hides <;> cases hicon : last.icon <;> cases hlabel : last.label <;> simp [hicon, hlabel]

end Display

abbrev Screen := String → Display

namespace Screen

open Display

def obey (clock : String) (s : Screen) (call : ViewCall) : Screen :=
  Function.update s call.view ((s call.view).obey clock call)

def obeyAll (clock : String) (s : Screen) (calls : List ViewCall) : Screen :=
  calls.foldl (obey clock) s

/-- Painting base attributes changes the view of the binder only. -/
theorem obeyAll_paintBase (clock own : String) (hides : Bool) (s : Screen) (base : BaseRecord) :
    s.obeyAll clock (Binder.paintBase own hides base) =
      Function.update s own ((saidBy hides [base]).covering (s own)) := by
  cases hicon : base.icon <;> cases hlabel : base.label <;> cases hides <;>
    simp [obeyAll, obey, Display.obey, ViewCall.view, Binder.paintBase, saidBy, covering, hicon,
      hlabel]

end Screen

namespace TextView

/-- A text view after something was said on it: it keeps the text on one line. -/
def hearing (v : TextView) (said : Display) : TextView where
  icon := said.icon.or v.icon
  text := (said.text.map oneLine).getD v.text
  visible := said.visible.getD v.visible

theorem wearing_eq_hearing (hides : Bool) (v : TextView) (base : BaseRecord) :
    v.wearing hides base = v.hearing (.saidBy hides [base]) := by
  cases hicon : base.icon <;> cases hlabel : base.label <;> cases hides <;>
    simp [wearing, hearing, Display.saidBy, hicon, hlabel]

theorem hearing_covering (v : TextView) (later said : Display) :
    v.hearing (later.covering said) = (v.hearing said).hearing later := by
  cases htext : later.text <;> cases hvisible : later.visible <;>
    simp [hearing, Display.covering, htext, hvisible, Option.or_assoc]

end TextView

namespace Binder

/-- The calls of one binder for a history of records, each with the view that it is handed. -/
def paintAll (binder : Binder) (history : List (String × TileRecord)) : List ViewCall :=
  history.flatMap fun handed => binder.paint handed.1 handed.2

private theorem paintAll_concat (binder : Binder) (history : List (String × TileRecord))
    (last : String × TileRecord) :
    binder.paintAll (history ++ [last]) =
      binder.paintAll history ++ binder.paint last.1 last.2 := by
  rw [paintAll, List.flatMap_append, List.flatMap_singleton]
  rfl

variable (own : String) (hides : Bool) (clock : String)

/-- A history leaves the display of its own name with what it says, and the others alone. -/
theorem obeyAll_paintAll (s : Screen) (history : List (String × TileRecord)) :
    s.obeyAll clock ((basic own hides).paintAll history) = Function.update s own
      ((Display.saidBy hides (history.map fun handed => handed.2.base)).covering (s own)) := by
  induction history using List.reverseRecOn with
  | nil =>
    cases hides <;> exact (Function.update_eq_self own s).symm
  | append_singleton history last ih =>
    rw [paintAll_concat, Screen.obeyAll, List.foldl_append]
    change Screen.obeyAll clock (Screen.obeyAll clock s _) (paintBase own hides last.2.base) = _
    rw [ih, Screen.obeyAll_paintBase, Function.update_self, Function.update_idem, List.map_append,
      List.map_singleton, Display.saidBy_concat, Display.covering_assoc]

/-- A view that is painted with a history hears what the history says. -/
theorem applyAll_paintAll (v : TextView) (history : List (String × TileRecord)) :
    v.applyAll own clock ((basic own hides).paintAll history) =
      v.hearing (.saidBy hides (history.map fun handed => handed.2.base)) := by
  induction history using List.reverseRecOn with
  | nil => cases hides <;> rfl
  | append_singleton history last ih =>
    have hlast := TextView.applyAll_paintBase own clock hides
    rw [paintAll_concat, TextView.applyAll_append, ih]
    change TextView.applyAll own clock _ (paintBase own hides last.2.base) = _
    rw [hlast, TextView.wearing_eq_hearing, ← TextView.hearing_covering,
      ← Display.saidBy_concat, List.map_append, List.map_singleton]

/-- One basic binder paints any records, in any order and of any form, whatever views it is handed.
Its own view then has the icon of the last record with an icon and the text of the last one with a
label, and is shown or hidden as the last record of all is enabled or not, if the binder was made to
hide; where no record decides, it is as it was before. It calls no other view, and the text views of
a shell are left the same, with their texts on one line. -/
theorem basic_leaves_last_given (screen : Screen) (v : TextView)
    (history : List (String × TileRecord)) :
    let calls := (basic own hides).paintAll history
    let bases := history.map fun handed => handed.2.base
    let icon := (bases.filterMap BaseRecord.icon).getLast?
    let label := (bases.filterMap BaseRecord.label).getLast?
    let shown := if hides then bases.getLast?.map BaseRecord.enabled else none
    screen.obeyAll clock calls own = ⟨icon.or (screen own).icon, label.or (screen own).text,
        shown.or (screen own).visible⟩ ∧
      (∀ other, other ≠ own → screen.obeyAll clock calls other = screen other) ∧
      (∀ call ∈ calls, call.view = own) ∧
      v.applyAll own clock calls = ⟨icon.or v.icon, (label.map TextView.oneLine).getD v.text,
        shown.getD v.visible⟩ := by
  intro calls bases icon label shown
  have hscreen : screen.obeyAll clock calls =
      Function.update screen own ((Display.saidBy hides bases).covering (screen own)) :=
    obeyAll_paintAll own hides clock screen history
  refine ⟨?_, fun other hother => ?_, fun call hcall => ?_, ?_⟩
  · rw [hscreen, Function.update_self]
    rfl
  · rw [hscreen, Function.update_of_ne hother]
  · obtain ⟨handed, _, hpainted⟩ := List.mem_flatMap.mp hcall
    exact view_of_mem_paintBase hpainted
  · exact applyAll_paintAll own hides clock v history

end Binder

end TilePanel
