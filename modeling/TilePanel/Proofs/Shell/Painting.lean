import TilePanel.Proofs.Panel.UpToDate
import TilePanel.Shell.Session

/-!
What pushes leave on the views of a session. Every tile has a view of its own, so a push paints the
view of its tile and no other; painting the same record again changes nothing. The view of a derived
tile shows exactly what its record says.
-/

namespace TilePanel

def ViewCall.view : ViewCall → String
  | icon view _ | text view _ | visible view _ | clock view | record view _ => view

def TileKind.isBasic : TileKind → Bool
  | brightness | settings | certificate => true
  | _ => false

theorem Binder.view_of_mem_paintBase {own : String} {hides : Bool} {base : BaseRecord}
    {call : ViewCall} (h : call ∈ paintBase own hides base) : call.view = own := by
  simp only [paintBase, List.mem_append, Option.mem_toList, Option.map_eq_some_iff] at h
  rcases h with (h | ⟨icon, _, rfl⟩) | ⟨label, _, rfl⟩
  · split at h
    · obtain rfl := List.mem_singleton.mp h
      rfl
    · cases h
  · rfl
  · rfl

theorem TileKind.name_inj {kind other : TileKind} (h : kind.name = other.name) : kind = other := by
  cases kind <;> cases other <;> simp_all [TileKind.name]

namespace TextView

def shownBy (base : BaseRecord) : TextView :=
  { icon := base.icon, text := oneLine (base.label.getD "") }

/-- The view after base attributes were painted on it; what is absent leaves it as it is, and it
follows the enabled flag if `hides` is set. -/
def wearing (hides : Bool) (v : TextView) (base : BaseRecord) : TextView where
  icon := base.icon.or v.icon
  text := (base.label.map oneLine).getD v.text
  visible := if hides then base.enabled else v.visible

/-- Calls on other views change nothing. -/
private theorem applyAll_of_other {name : String} {calls : List ViewCall}
    (h : ∀ call ∈ calls, call.view ≠ name) (clock : String) (v : TextView) :
    v.applyAll name clock calls = v := by
  induction calls generalizing v with
  | nil => rfl
  | cons call rest ih =>
    have hcall : v.apply name clock call = v := by
      have hview := h call List.mem_cons_self
      cases call <;> simp_all [TextView.apply, ViewCall.view]
    rw [applyAll, List.foldl_cons, hcall]
    exact ih (fun other hother => h other (List.mem_cons_of_mem _ hother)) v

theorem applyAll_append (name clock : String) (v : TextView) (calls later : List ViewCall) :
    v.applyAll name clock (calls ++ later) =
      (v.applyAll name clock calls).applyAll name clock later :=
  List.foldl_append

/-- The calls that paint base attributes. -/
theorem applyAll_paintBase (name clock : String) (hides : Bool) (v : TextView)
    (base : BaseRecord) :
    v.applyAll name clock (Binder.paintBase name hides base) = v.wearing hides base := by
  cases hicon : base.icon <;> cases hlabel : base.label <;> cases hides <;>
    simp [applyAll, Binder.paintBase, TextView.apply, wearing, hicon, hlabel]

private theorem wearing_wearing (hides : Bool) (v : TextView) (base : BaseRecord) :
    (v.wearing hides base).wearing hides base = v.wearing hides base := by
  cases hicon : base.icon <;> cases hlabel : base.label <;> cases hides <;>
    simp [wearing, hicon, hlabel]

end TextView

namespace Shell.Session

open TextView

/-- A push through the binding of a tile calls its view only. -/
private theorem view_of_mem_paint {hides : Bool} {kind : TileKind} {record : TileRecord}
    {call : ViewCall} (h : call ∈ (bindingOf hides kind).paint record) : call.view = kind.name := by
  cases kind with
  | user =>
    obtain ⟨r, _, rfl⟩ := Option.map_eq_some_iff.mp (Option.mem_toList.mp h)
    rfl
  | time =>
    obtain rfl := List.mem_singleton.mp h
    rfl
  | battery =>
    obtain ⟨r, _, rfl⟩ := Option.map_eq_some_iff.mp (Option.mem_toList.mp h)
    rfl
  | brightness | settings | certificate => exact Binder.view_of_mem_paintBase h

/-- The calls on views are those of the pushes, in order. -/
theorem viewCalls_eq (journal : List Activity) :
    viewCalls journal = (pushes journal).flatMap fun u => u.binding.paint u.record := by
  induction journal with
  | nil => rfl
  | cons a rest ih =>
    cases a with
    | pushed kind binding record =>
      rw [viewCalls, List.flatMap_cons]
      exact congrArg (binding.paint record ++ ·) ih
    | notice | posted | taken | changed | reacted => exact ih

private theorem viewCalls_append (journal later : List Activity) :
    viewCalls (journal ++ later) = viewCalls journal ++ viewCalls later :=
  List.flatMap_append

theorem paint_append (clock : String) (journal later : List Activity) (views : PerTile TextView) :
    paint clock (journal ++ later) views = paint clock later (paint clock journal views) := by
  apply PerTile.ext_get
  intro kind
  simp only [paint, PerTile.get_ofFn]
  rw [viewCalls_append, applyAll_append]

/-- Whether the view of a tile follows the enabled flag of its record: only that of the certificate
tile may. -/
def mayHide (hides : Bool) : TileKind → Bool
  | .certificate => hides
  | _ => false

/-- The tiles that show their base attributes are painted by them. -/
theorem applyAll_paint_of_basic (hides : Bool) (clock : String) {kind : TileKind}
    (hkind : kind.isBasic = true) (record : TileRecord) (v : TextView) :
    v.applyAll kind.name clock ((bindingOf hides kind).paint record) =
      v.wearing (mayHide hides kind) record.base := by
  cases kind with
  | brightness | settings => exact applyAll_paintBase _ clock false v _
  | certificate => exact applyAll_paintBase _ clock hides v _
  | user | time | battery => cases hkind

/-- Painting a record again changes nothing. -/
theorem applyAll_paint_again (hides : Bool) (clock : String) (kind : TileKind)
    (record : TileRecord) (v : TextView) :
    let painted := v.applyAll kind.name clock ((bindingOf hides kind).paint record)
    painted.applyAll kind.name clock ((bindingOf hides kind).paint record) = painted := by
  intro painted
  by_cases hkind : kind.isBasic = true
  · simp only [painted, applyAll_paint_of_basic _ _ hkind, wearing_wearing]
  · cases kind with
    | user => cases record <;> rfl
    | time => rfl
    | battery => cases record <;> rfl
    | brightness | settings | certificate => exact absurd rfl hkind

/-- Several pushes through the bindings of a session leave on the view of a tile what its own record
says, if it was among them. -/
theorem applyAll_pushes (hides : Bool) (clock : String) (record : TileKind → TileRecord)
    (kind : TileKind) (kinds : List TileKind) (v : TextView) :
    v.applyAll kind.name clock (kinds.flatMap fun k => (bindingOf hides k).paint (record k)) =
      if kind ∈ kinds then
        v.applyAll kind.name clock ((bindingOf hides kind).paint (record kind))
      else v := by
  induction kinds generalizing v with
  | nil => rfl
  | cons k rest ih =>
    rw [List.flatMap_cons, applyAll_append, ih]
    by_cases hsame : k = kind
    · subst hsame
      rw [applyAll_paint_again, ite_self, if_pos List.mem_cons_self]
    · have hother : v.applyAll kind.name clock ((bindingOf hides k).paint (record k)) = v := by
        apply applyAll_of_other
        intro call hcall hview
        rw [view_of_mem_paint hcall] at hview
        exact hsame (TileKind.name_inj hview)
      have hmem : kind ∈ k :: rest ↔ kind ∈ rest := by
        simp [Ne.symm hsame]
      simp only [hother, hmem]

/-- The view of a tile after a change that repaints some tiles, all of them bound as a session binds
them. -/
theorem get_paint {hides : Bool} {kinds : List TileKind} {before after : PerTile Slot}
    {journal : List Activity} (h : Repaints kinds before journal after)
    (hbound : ∀ k ∈ kinds, (after.get k).binding = some (bindingOf hides k)) (clock : String)
    (views : PerTile TextView) (kind : TileKind) :
    (paint clock journal views).get kind =
      if kind ∈ kinds then (views.get kind).applyAll kind.name clock
        ((bindingOf hides kind).paint (after.get kind).record)
      else views.get kind := by
  have hpushes : pushes journal =
      kinds.map fun k => ⟨k, bindingOf hides k, (after.get k).record⟩ := by
    rw [h.pushed, ← List.filterMap_eq_map]
    apply List.filterMap_congr
    intro k hk
    rw [Slot.push?, hbound k hk]
    rfl
  rw [paint, PerTile.get_ofFn, viewCalls_eq, hpushes, List.flatMap_map]
  exact applyAll_pushes hides clock (fun k => (after.get k).record) kind kinds _

/-- A derived tile is painted by its base attributes, and never hidden. -/
theorem applyAll_paint_of_derived (hides : Bool) (clock : String) {kind : TileKind}
    (hkind : kind.isDerived = true) (record : TileRecord) (v : TextView) :
    v.applyAll kind.name clock ((bindingOf hides kind).paint record) =
      v.wearing false record.base := by
  cases kind with
  | brightness | settings => exact applyAll_paint_of_basic hides clock rfl record v
  | user | time | battery | certificate => cases hkind

/-- A view that shows the record of a derived tile goes on doing so when the tile is repainted. -/
theorem wearing_shownBy {p q : Panel} {kind : TileKind} (hp : p.Plain) (hq : q.Plain)
    (hcurrent : q.UpToDate kind) (hkind : kind.isDerived = true) :
    (shownBy (p.record kind).base).wearing false (q.record kind).base =
      shownBy (q.record kind).base := by
  cases kind with
  | brightness =>
    rw [hq.record_brightness hcurrent]
    rfl
  | settings =>
    obtain ⟨label, hsettings⟩ := hp.settings
    rw [hq.record_settings hcurrent, hsettings]
    rfl
  | user | time | battery | certificate => cases hkind

end Shell.Session

end TilePanel
