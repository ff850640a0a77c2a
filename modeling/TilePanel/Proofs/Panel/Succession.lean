import TilePanel.Proofs.Panel.UpToDate

/-!
What no operation takes from a record: the form that it has, and an icon or a label once there is
one.
-/

namespace TilePanel

/-- A record of the same form as an earlier one that has an icon or a label if that one had. -/
structure TileRecord.Succeeds (r' r : TileRecord) : Prop where
  user : r'.user?.isSome = r.user?.isSome
  battery : r'.battery?.isSome = r.battery?.isSome
  brightness : r'.brightness?.isSome = r.brightness?.isSome
  icon : r'.base.icon = none → r.base.icon = none
  label : r'.base.label = none → r.base.label = none

namespace TileRecord.Succeeds

variable {r r' r'' : TileRecord}

theorem refl (r : TileRecord) : r.Succeeds r :=
  ⟨rfl, rfl, rfl, id, id⟩

theorem trans (h : r'.Succeeds r) (h' : r''.Succeeds r') : r''.Succeeds r :=
  ⟨h'.user.trans h.user, h'.battery.trans h.battery, h'.brightness.trans h.brightness,
    h.icon ∘ h'.icon, h.label ∘ h'.label⟩

/-- A change of the base attributes that sets the label and leaves or sets the icon. -/
theorem mapBase {f : BaseRecord → BaseRecord} (hicon : ∀ b, (f b).icon = none → b.icon = none)
    (hlabel : ∀ b, (f b).label ≠ none) (r : TileRecord) : (r.mapBase f).Succeeds r := by
  have hicon' : (r.mapBase f).base.icon = none → r.base.icon = none := by
    rw [base_mapBase]
    exact hicon r.base
  have hlabel' : (r.mapBase f).base.label = none → r.base.label = none := by
    rw [base_mapBase]
    exact fun hnone => absurd hnone (hlabel r.base)
  cases r <;> exact ⟨rfl, rfl, rfl, hicon', hlabel'⟩

theorem mapBrightness (mode : BrightnessMode) (label : String) (r : TileRecord) :
    (r.mapBrightness (Panel.showBrightness mode label)).Succeeds r := by
  cases r with
  | brightness b => exact ⟨rfl, rfl, rfl, nofun, nofun⟩
  | _ => exact refl _

end TileRecord.Succeeds

namespace Panel

def Succeeds (q p : Panel) : Prop :=
  ∀ kind, (q.record kind).Succeeds (p.record kind)

namespace Succeeds

variable {p q r : Panel}

theorem of_slots (hslots : q.slots = p.slots) : q.Succeeds p := by
  intro kind
  rw [Panel.record, hslots]
  exact .refl _

theorem refl (p : Panel) : p.Succeeds p :=
  of_slots rfl

theorem trans (h : q.Succeeds p) (h' : r.Succeeds q) : r.Succeeds p :=
  fun kind => (h kind).trans (h' kind)

end Succeeds

/-- A change of a record that keeps the form, the icon and the label keeps them in the panel. -/
theorem succeeds_update (p : Panel) (kind : TileKind) {change : TileRecord → TileRecord}
    (hchange : ∀ r, (change r).Succeeds r) : (p.update kind change).state.Succeeds p := by
  intro other
  rw [state_update]
  by_cases hsame : other = kind
  · subst hsame
    rw [record_setRecord_self]
    exact hchange _
  · rw [record_setRecord_of_ne _ hsame]
    exact .refl _

theorem succeeds_refreshSettings (p : Panel) : p.refreshSettings.state.Succeeds p :=
  p.succeeds_update .settings (.mapBase (fun _ => id) fun _ => nofun)

theorem succeeds_refreshBrightness (p : Panel) : p.refreshBrightness.state.Succeeds p :=
  p.succeeds_update .brightness (.mapBrightness _ _)

theorem succeeds_setCertificate (p : Panel) (hasCertificate isManaged : Bool) :
    (p.setCertificate hasCertificate isManaged).state.Succeeds p :=
  p.succeeds_update .certificate (.mapBase (fun _ => nofun) fun _ => nofun)

theorem succeeds_push (p : Panel) (kind : TileKind) : (p.push kind).state.Succeeds p := by
  rw [state_push]
  exact .refl p

theorem succeeds_add (p : Panel) (kind : TileKind) (binding : Binding) :
    (p.add kind binding).state.Succeeds p := by
  have hbind : (p.bind kind binding).state.Succeeds p := by
    intro other
    rw [record_bind]
    exact .refl _
  refine hbind.trans ?_
  cases kind with
  | user | time | battery => exact succeeds_push _ _
  | brightness => exact succeeds_refreshBrightness _
  | settings => exact succeeds_refreshSettings _
  | certificate => exact succeeds_setCertificate _ false true

theorem succeeds_handle (p : Panel) (e : Event) : (p.handle e).state.Succeeds p := by
  cases e with
  | settingChanged key user => exact p.succeeds_refreshBrightness
  | userSwitched user =>
    have hmoved : p.moveWatch.Succeeds p := .of_slots rfl
    exact hmoved.trans p.moveWatch.succeeds_refreshBrightness

end Panel

/-- No operation takes anything from a record. -/
theorem Operation.succeeds_run (op : Operation) (p : Panel) : (op.run p).state.Succeeds p := by
  cases op with
  | add kind binding => exact p.succeeds_add kind binding
  | battery level pluggedIn =>
    refine p.succeeds_update .battery fun r => ?_
    cases r <;> exact ⟨rfl, rfl, rfl, id, id⟩
  | user name avatar =>
    refine p.succeeds_update .user fun r => ?_
    cases r with
    | user u => exact ⟨rfl, rfl, rfl, id, nofun⟩
    | _ => exact .refl _
  | certificate hasCertificate isManaged => exact p.succeeds_setCertificate _ _
  | refreshUser | refreshTime | refreshBattery => exact p.succeeds_push _
  | refreshSettings => exact p.succeeds_refreshSettings
  | refreshBrightness => exact p.succeeds_refreshBrightness
  | updateResources =>
    exact (p.succeeds_refreshSettings.trans (Panel.succeeds_push _ _)).trans
      (Panel.succeeds_refreshBrightness _)
  | userSwitched announced => exact p.succeeds_handle (.userSwitched announced)
  | handle event => exact p.succeeds_handle event

namespace Panel

theorem succeeds_drain (p : Panel) : p.drain.state.Succeeds p := by
  refine drain_rel (R := fun p q => q.Succeeds p) Succeeds.refl Succeeds.trans ?_ p
  intro p e rest _
  have htaken : (p.withPending rest).Succeeds p := .of_slots rfl
  exact htaken.trans (succeeds_handle _ e)

end Panel

end TilePanel
