import TilePanel.Proofs.Panel.Recomputation

/-!
One operation on two panels. All that operations do is to change records, with a look at the texts
and at the stored mode, to bind tiles and to move the watch. A relation between panels that lets them
see the same of the texts and the mode, and that survives these three, survives every operation.
-/

namespace TilePanel

namespace Panel

/-- A relation between panels that what operations consist of leaves intact. -/
structure Congruence (R : Panel → Panel → Prop) : Prop where
  catalog : ∀ {p q}, R p q → q.catalog = p.catalog
  brightnessMode : ∀ {p q}, R p q → q.brightnessMode = p.brightnessMode
  update : ∀ {p q}, R p q → ∀ kind change,
    R (p.update kind change).state (q.update kind change).state
  bind : ∀ {p q}, R p q → ∀ kind binding,
    R (p.bind kind binding).state (q.bind kind binding).state
  moveWatch : ∀ {p q}, R p q → R p.moveWatch q.moveWatch

namespace Congruence

variable {R : Panel → Panel → Prop} {p q : Panel}

theorem push (_ : Congruence R) (h : R p q) (kind : TileKind) :
    R (p.push kind).state (q.push kind).state := by
  rw [state_push, state_push]
  exact h

theorem refreshSettings (hR : Congruence R) (h : R p q) :
    R p.refreshSettings.state q.refreshSettings.state := by
  unfold Panel.refreshSettings
  rw [hR.catalog h]
  exact hR.update h _ _

theorem refreshBrightness (hR : Congruence R) (h : R p q) :
    R p.refreshBrightness.state q.refreshBrightness.state := by
  unfold Panel.refreshBrightness
  rw [hR.catalog h, hR.brightnessMode h]
  exact hR.update h _ _

theorem setCertificate (hR : Congruence R) (h : R p q) (hasCertificate isManaged : Bool) :
    R (p.setCertificate hasCertificate isManaged).state
      (q.setCertificate hasCertificate isManaged).state := by
  unfold Panel.setCertificate
  rw [hR.catalog h]
  exact hR.update h _ _

theorem add (hR : Congruence R) (h : R p q) (kind : TileKind) (binding : Binding) :
    R (p.add kind binding).state (q.add kind binding).state := by
  have hbound := hR.bind h kind binding
  cases kind with
  | user | time | battery => exact hR.push hbound _
  | brightness => exact hR.refreshBrightness hbound
  | settings => exact hR.refreshSettings hbound
  | certificate => exact hR.setCertificate hbound false true

theorem handle (hR : Congruence R) (h : R p q) (e : Event) :
    R (p.handle e).state (q.handle e).state := by
  cases e with
  | settingChanged key user => exact hR.refreshBrightness h
  | userSwitched user => exact hR.refreshBrightness (hR.moveWatch h)

/-- One case for each operation. Whether it fails in one of the panels makes no difference. -/
theorem run (hR : Congruence R) (h : R p q) (op : Operation) :
    R (op.run p).state (op.run q).state := by
  cases op with
  | add kind binding => exact hR.add h kind binding
  | battery level pluggedIn => exact hR.update h _ _
  | user name avatar => exact hR.update h _ _
  | certificate hasCertificate isManaged => exact hR.setCertificate h _ _
  | refreshUser | refreshTime | refreshBattery => exact hR.push h _
  | refreshSettings => exact hR.refreshSettings h
  | refreshBrightness => exact hR.refreshBrightness h
  | updateResources =>
    exact hR.refreshBrightness (hR.push (hR.refreshSettings h) .battery)
  | userSwitched announced => exact hR.handle h (.userSwitched announced)
  | handle event => exact hR.handle h event

/-- Events one after the other. -/
theorem foldl_handle (hR : Congruence R) (h : R p q) (events : List Event) :
    R (events.foldl (fun p e => (p.handle e).state) p)
      (events.foldl (fun q e => (q.handle e).state) q) := by
  induction events generalizing p q with
  | nil => exact h
  | cons e rest ih => exact ih (hR.handle h e)

end Congruence

end Panel

end TilePanel
