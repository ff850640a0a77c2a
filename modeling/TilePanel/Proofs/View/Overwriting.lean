import Mathlib.Data.List.Induction
import TilePanel.Proofs.Shell.Painting

/-!
What several calls leave on a view. A call sets the icon, the text or the visibility of one view and
never looks at what was there, so each of the three is what the last call that set it says, or what it
was before the calls. Therefore making the same calls again changes nothing.
-/

namespace TilePanel

/-- The last value that a list gives, after one more member. -/
theorem getLast?_filterMap_concat {α β : Type} (given? : α → Option β) (members : List α)
    (last : α) : ((members ++ [last]).filterMap given?).getLast? =
      (given? last).or (members.filterMap given?).getLast? := by
  rw [List.filterMap_append, List.getLast?_append]
  cases hgiven : given? last <;> simp [hgiven]

namespace ViewCall

def iconOn? (name : String) : ViewCall → Option Icon
  | .icon view drawn => if view = name then some drawn else none
  | _ => none

def textOn? (name clock : String) : ViewCall → Option String
  | .text view written => if view = name then some (TextView.oneLine written) else none
  | .clock view => if view = name then some (TextView.oneLine clock) else none
  | _ => none

def visibleOn? (name : String) : ViewCall → Option Bool
  | .visible view shown => if view = name then some shown else none
  | _ => none

def last? {α : Type} (given? : ViewCall → Option α) (calls : List ViewCall) : Option α :=
  (calls.filterMap given?).getLast?

private theorem last?_concat {α : Type} (given? : ViewCall → Option α) (calls : List ViewCall)
    (call : ViewCall) :
    last? given? (calls ++ [call]) = (given? call).or (last? given? calls) :=
  getLast?_filterMap_concat given? calls call

/-- Only a call for the time of day depends on it. -/
private theorem last?_textOn_congr (name : String) {clock clock' : String} {calls : List ViewCall}
    (h : clock' = clock ∨ ∀ view, ViewCall.clock view ∉ calls) :
    last? (textOn? name clock') calls = last? (textOn? name clock) calls := by
  rcases h with rfl | hnone
  · rfl
  · have hgiven : calls.filterMap (textOn? name clock') = calls.filterMap (textOn? name clock) := by
      refine List.filterMap_congr fun call hcall => ?_
      cases call with
      | clock view => exact absurd hcall (hnone view)
      | icon | text | visible | record => rfl
    rw [last?, hgiven]
    rfl

end ViewCall

namespace TextView

open ViewCall

/-- A call sets at most one attribute, and no call sets that of another view. -/
theorem apply_eq (name clock : String) (v : TextView) (call : ViewCall) :
    v.apply name clock call =
      { icon := (call.iconOn? name).or v.icon
        text := (call.textOn? name clock).getD v.text
        visible := (call.visibleOn? name).getD v.visible } := by
  cases call with
  | record view record => rfl
  | icon view | text view | visible view | clock view =>
    by_cases h : view = name <;> simp [TextView.apply, iconOn?, textOn?, visibleOn?, h]

/-- Icon, text and visibility are those of the last calls that set them. -/
theorem applyAll_eq (name clock : String) (v : TextView) (calls : List ViewCall) :
    v.applyAll name clock calls =
      { icon := (last? (iconOn? name) calls).or v.icon
        text := (last? (textOn? name clock) calls).getD v.text
        visible := (last? (visibleOn? name) calls).getD v.visible } := by
  induction calls using List.reverseRecOn with
  | nil => rfl
  | append_singleton calls call ih =>
    rw [applyAll_append, ih]
    change TextView.apply name clock _ call = _
    rw [apply_eq, last?_concat, last?_concat, last?_concat]
    simp only [Option.or_assoc]
    cases call.textOn? name clock <;> cases call.visibleOn? name <;> rfl

/-- Making the same calls again changes nothing, unless one of them shows the time of day and that
has gone on. -/
theorem applyAll_again (name : String) {clock clock' : String} {calls : List ViewCall}
    (h : clock' = clock ∨ ∀ view, ViewCall.clock view ∉ calls) (v : TextView) :
    (v.applyAll name clock calls).applyAll name clock' calls = v.applyAll name clock calls := by
  have htext := last?_textOn_congr name h
  simp only [applyAll_eq, htext]
  cases last? (iconOn? name) calls <;> cases last? (textOn? name clock) calls <;>
    cases last? (visibleOn? name) calls <;> rfl

end TextView

end TilePanel
