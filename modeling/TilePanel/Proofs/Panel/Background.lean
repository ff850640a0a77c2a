import TilePanel.Proofs.Panel.Recomputation

/-!
An operation over a hub that was changed behind its back. All that the operations of a panel read of
its hub are settings of the current user, and all that they change there are the registrations. A
change of hubs that has to do with neither can be made before an operation or after it: the answer
and the journal are the same, and so is the panel in the end.
-/

namespace TilePanel

/-- A change of hubs that leaves the registrations alone, whatever they are, and what is read for a
user. -/
structure Hub.IsBackground (f : Hub → Hub) (user : UserId) : Prop where
  registry : ∀ h, (f h).registry = h.registry
  register : ∀ h registry, f { h with registry } = { f h with registry }
  read : ∀ h key, (f h).store.read key user = h.store.read key user

namespace Hub.IsBackground

variable {f : Hub → Hub} {user : UserId}

theorem release (hf : IsBackground f user) (w : BrightnessWatch) (h : Hub) :
    w.release (f h) = f (w.release h) := by
  cases w with
  | idle => rfl
  | observing owner id =>
    change { f h with registry := (f h).registry.unregister id } = _
    rw [hf.registry]
    exact (hf.register h _).symm

theorem start (hf : IsBackground f user) (w : BrightnessWatch) (h : Hub) (owner : UserId) :
    w.start (f h) owner = (w.start h owner).mapState f := by
  simp only [BrightnessWatch.start, hf.release, hf.registry, ← hf.register]
  rfl

theorem readInt (hf : IsBackground f user) (h : Hub) (key : String) (fallback : Int32) :
    (f h).store.readInt key fallback user = h.store.readInt key fallback user := by
  simp only [SettingsStore.readInt, hf.read]

theorem readIntNotices (hf : IsBackground f user) (h : Hub) (key : String) (fallback : Int32) :
    (f h).store.readIntNotices key fallback user = h.store.readIntNotices key fallback user := by
  simp only [SettingsStore.readIntNotices, hf.read]

end Hub.IsBackground

namespace Panel

def mapHub (f : Hub → Hub) (p : Panel) : Panel :=
  { p with hub := f p.hub }

variable {f : Hub → Hub} {p : Panel}

private theorem push_mapHub (f : Hub → Hub) (p : Panel) (kind : TileKind) :
    (p.mapHub f).push kind = (p.push kind).mapState (mapHub f) := by
  have hbinding : (p.mapHub f).binding? kind = p.binding? kind := rfl
  unfold push
  rw [hbinding]
  cases p.binding? kind <;> rfl

private theorem update_mapHub (f : Hub → Hub) (p : Panel) (kind : TileKind)
    (change : TileRecord → TileRecord) :
    (p.mapHub f).update kind change = (p.update kind change).mapState (mapHub f) :=
  push_mapHub f (p.setRecord kind (change (p.record kind))) kind

private theorem brightnessMode_mapHub (hf : Hub.IsBackground f p.user) :
    (p.mapHub f).brightnessMode = p.brightnessMode :=
  congrArg BrightnessMode.ofSetting (hf.readInt p.hub _ _)

private theorem brightnessNotices_mapHub (hf : Hub.IsBackground f p.user) :
    (p.mapHub f).brightnessNotices = p.brightnessNotices := by
  have huser : (p.mapHub f).user = p.user := rfl
  have hhub : (p.mapHub f).hub = f p.hub := rfl
  unfold brightnessNotices
  rw [brightnessMode_mapHub hf, huser, hhub, hf.readInt, hf.readIntNotices, hf.readIntNotices]

private theorem refreshBrightness_mapHub (hf : Hub.IsBackground f p.user) :
    (p.mapHub f).refreshBrightness = p.refreshBrightness.mapState (mapHub f) := by
  simp only [refreshBrightness, brightnessMode_mapHub hf, brightnessNotices_mapHub hf,
    update_mapHub]
  rfl

private theorem add_mapHub (hf : Hub.IsBackground f p.user) (kind : TileKind) (binding : Binding) :
    (p.mapHub f).add kind binding = (p.add kind binding).mapState (mapHub f) := by
  have hbind : (p.mapHub f).bind kind binding = (p.bind kind binding).mapState (mapHub f) := rfl
  unfold add
  rw [hbind]
  cases kind with
  | user | time | battery =>
    exact congrArg (Outcome.after · _) (push_mapHub f (p.bind _ binding).state _)
  | brightness =>
    exact congrArg (Outcome.after · _)
      (refreshBrightness_mapHub (p := (p.bind .brightness binding).state) hf)
  | settings | certificate =>
    exact congrArg (Outcome.after · _) (update_mapHub f (p.bind _ binding).state _ _)

private theorem moveWatch_mapHub (hf : Hub.IsBackground f p.user) :
    (p.mapHub f).moveWatch = p.moveWatch.mapHub f := by
  have hstart := hf.start p.watch p.hub p.user
  change { p.mapHub f with
    hub := (p.watch.start (f p.hub) p.user).state
    watch := (p.watch.start (f p.hub) p.user).answer } = p.moveWatch.mapHub f
  rw [hstart]
  rfl

private theorem updateResources_mapHub (hf : Hub.IsBackground f p.user) :
    (p.mapHub f).updateResources = p.updateResources.mapState (mapHub f) := by
  have hsettings : (p.mapHub f).refreshSettings = p.refreshSettings.mapState (mapHub f) :=
    update_mapHub f p _ _
  have hbattery : (p.refreshSettings.state.mapHub f).refreshBattery =
      p.refreshSettings.state.refreshBattery.mapState (mapHub f) := push_mapHub f _ _
  have huser : p.refreshSettings.state.refreshBattery.state.user = p.user := by
    rw [refreshBattery, state_push, refreshSettings, state_update]
    rfl
  have hbrightness : (p.refreshSettings.state.refreshBattery.state.mapHub f).refreshBrightness =
      p.refreshSettings.state.refreshBattery.state.refreshBrightness.mapState (mapHub f) :=
    refreshBrightness_mapHub (huser ▸ hf)
  simp only [updateResources, Outcome.andThen, hsettings, Outcome.state_mapState, hbattery,
    hbrightness]
  rfl

private theorem onUserSwitched_mapHub (hf : Hub.IsBackground f p.user) (announced : UserId) :
    (p.mapHub f).onUserSwitched announced = (p.onUserSwitched announced).mapState (mapHub f) := by
  have hmoved : (p.moveWatch.mapHub f).refreshBrightness =
      p.moveWatch.refreshBrightness.mapState (mapHub f) := refreshBrightness_mapHub hf
  rw [← moveWatch_mapHub hf] at hmoved
  have hrefresh : ∀ q : Panel, q.onUserSwitched announced = q.moveWatch.refreshBrightness.after
      (report ((if q.user = announced then [] else [.switchStale announced q.user]) ++
        [.panelSwitching q.user]) ++ [.notice (.watchStarted q.user)]) := fun _ => rfl
  rw [hrefresh, hrefresh, hmoved]
  rfl

theorem handle_mapHub (hf : Hub.IsBackground f p.user) (e : Event) :
    (p.mapHub f).handle e = (p.handle e).mapState (mapHub f) := by
  cases e with
  | settingChanged key user =>
    exact congrArg (Outcome.after · _) (refreshBrightness_mapHub hf)
  | userSwitched user => exact onUserSwitched_mapHub hf user

end Panel

/-- One case for each operation. -/
theorem Operation.run_mapHub (op : Operation) {f : Hub → Hub} {p : Panel}
    (hf : Hub.IsBackground f p.user) :
    op.run (p.mapHub f) = (op.run p).mapState (Panel.mapHub f) := by
  cases op with
  | add kind binding => exact Panel.add_mapHub hf kind binding
  | battery level pluggedIn =>
    exact congrArg (Outcome.after · _) (Panel.update_mapHub f p .battery _)
  | user | certificate | refreshSettings => exact Panel.update_mapHub f p _ _
  | refreshUser | refreshTime | refreshBattery => exact Panel.push_mapHub f p _
  | refreshBrightness => exact Panel.refreshBrightness_mapHub hf
  | updateResources => exact Panel.updateResources_mapHub hf
  | userSwitched announced => exact Panel.onUserSwitched_mapHub hf announced
  | handle event => exact Panel.handle_mapHub hf event

end TilePanel
