import TilePanel.Proofs.Panel.Course

/-!
The two tiles that a panel can work out again at any time from its surroundings: brightness and
settings. An operation that concerns one of them works it out, the others leave it as it is, so that
in the end its record says nothing but what the surroundings say.
-/

namespace TilePanel

/-- Whether a tile shows nothing but what the surroundings of its panel say. -/
def TileKind.isDerived : TileKind → Bool
  | brightness | settings => true
  | _ => false

namespace Panel

def relabelled (p : Panel) : TileRecord :=
  (p.record .settings).mapBase fun b => { b with label := some (p.catalog.text .settingsLabel) }

/-- Whether working a tile out again would change nothing. -/
def UpToDate (p : Panel) : TileKind → Prop
  | .brightness => p.IsCurrent
  | .settings => p.relabelled = p.record .settings
  | _ => True

/-- The derived tiles have kept the attributes that are not derived, from the beginning on. -/
structure Plain (p : Panel) : Prop where
  brightness : ∃ icon label automatic,
    p.record .brightness = .brightness { base := { icon, label }, automatic }
  settings : ∃ label, p.record .settings = .basic { label }

theorem record_refreshSettings (p : Panel) :
    p.refreshSettings.state.record .settings = p.relabelled := by
  rw [refreshSettings, state_update, record_setRecord_self]
  rfl

theorem record_add_settings (p : Panel) (binding : Binding) :
    (p.add .settings binding).state.record .settings = p.relabelled := by
  change (p.bind .settings binding).state.refreshSettings.state.record .settings = _
  rw [record_refreshSettings, relabelled, relabelled, record_bind]
  rfl

theorem record_updateResources_settings (p : Panel) :
    p.updateResources.state.record .settings = p.relabelled := by
  change p.refreshSettings.state.refreshBattery.state.refreshBrightness.state.record _ = _
  rw [state_refreshBrightness, record_setRecord_of_ne _ (by decide), refreshBattery, state_push]
  exact p.record_refreshSettings

end Panel

/-- An operation that concerns the settings tile works its record out. -/
theorem Operation.record_run_settings (op : Operation) (p : Panel)
    (hconcerned : .settings ∈ op.concerned) :
    (op.run p).state.record .settings = p.relabelled := by
  cases op with
  | add kind binding =>
    obtain rfl := List.mem_singleton.mp hconcerned
    exact p.record_add_settings binding
  | refreshSettings => exact p.record_refreshSettings
  | updateResources => exact p.record_updateResources_settings
  | battery | user | certificate | refreshUser | refreshTime | refreshBattery | refreshBrightness
  | userSwitched | handle =>
    simp [concerned] at hconcerned

namespace Panel

theorem relabelled_congr {p q : Panel} (hcatalog : q.catalog = p.catalog)
    (hrecord : q.record .settings = p.record .settings) : q.relabelled = p.relabelled := by
  rw [relabelled, relabelled, hcatalog, hrecord]

/-- Being up to date is a matter of the surroundings and of the record of the tile. -/
theorem UpToDate.congr {p q : Panel} {kind : TileKind} (h : p.UpToDate kind)
    (hsame : SameSurroundings p q) (hrecord : q.record kind = p.record kind) :
    q.UpToDate kind := by
  cases kind with
  | brightness => exact (recomputed_congr hsame hrecord).trans (h.trans hrecord.symm)
  | settings => exact (relabelled_congr hsame.catalog hrecord).trans (h.trans hrecord.symm)
  | user | time | battery | certificate => trivial

theorem upToDate_of_recomputed {p q : Panel} (hsame : SameSurroundings p q)
    (hrecord : q.record .brightness = p.recomputed) : q.UpToDate .brightness := by
  change q.recomputed = q.record .brightness
  rw [recomputed, hsame.brightnessMode, hsame.catalog, hrecord, recomputed]
  exact recomputed_idem _ _ _

theorem upToDate_of_relabelled {p q : Panel} (hsame : SameSurroundings p q)
    (hrecord : q.record .settings = p.relabelled) : q.UpToDate .settings := by
  change q.relabelled = q.record .settings
  rw [relabelled, hsame.catalog, hrecord, relabelled]
  cases p.record .settings <;> rfl

end Panel

/-- An operation brings the tiles that it concerns up to date and keeps the others so. -/
theorem Operation.upToDate_run (op : Operation) {p : Panel} {kind : TileKind}
    (h : kind ∈ op.concerned ∨ p.UpToDate kind) : (op.run p).state.UpToDate kind := by
  have hsame := op.surroundings_run p
  by_cases hconcerned : kind ∈ op.concerned
  · cases kind with
    | brightness =>
      exact Panel.upToDate_of_recomputed hsame (op.record_run_brightness p hconcerned)
    | settings => exact Panel.upToDate_of_relabelled hsame (op.record_run_settings p hconcerned)
    | user | time | battery | certificate => trivial
  · have hslot := (op.repaints_run p).kept kind hconcerned
    exact (h.resolve_left hconcerned).congr hsame (congrArg Slot.record hslot)

/-- An operation that concerns a derived tile works it out again, which sets nothing else. -/
theorem Operation.plain_run (op : Operation) {p : Panel} (h : p.Plain) :
    (op.run p).state.Plain := by
  have hkept : ∀ kind, kind ∉ op.concerned → (op.run p).state.record kind = p.record kind :=
    fun kind hkind => congrArg Slot.record ((op.repaints_run p).kept kind hkind)
  constructor
  · obtain ⟨icon, label, automatic, hbrightness⟩ := h.brightness
    by_cases hconcerned : .brightness ∈ op.concerned
    · rw [op.record_run_brightness p hconcerned, Panel.recomputed, hbrightness]
      exact ⟨_, _, _, rfl⟩
    · exact ⟨icon, label, automatic, (hkept _ hconcerned).trans hbrightness⟩
  · obtain ⟨label, hsettings⟩ := h.settings
    by_cases hconcerned : .settings ∈ op.concerned
    · rw [op.record_run_settings p hconcerned, Panel.relabelled, hsettings]
      exact ⟨_, rfl⟩
    · exact ⟨label, (hkept _ hconcerned).trans hsettings⟩

namespace Panel

theorem plain_drain {p : Panel} (h : p.Plain) : p.drain.state.Plain := by
  refine drain_rel (R := fun p q => p.Plain → q.Plain) ?_ ?_ ?_ p h
  · exact fun _ h => h
  · exact fun hfirst hnext h => hnext (hfirst h)
  · exact fun p e rest _ h => (Operation.handle e).plain_run ⟨h.brightness, h.settings⟩

/-- After a drain a tile is up to date if it was so before, or if it is the brightness tile and an
event was delivered. -/
theorem upToDate_drain {p : Panel} {kind : TileKind}
    (h : p.UpToDate kind ∨ kind = .brightness ∧ p.hub.queue.pending ≠ []) :
    p.drain.state.UpToDate kind := by
  have hsame := p.surroundings_drain
  rcases h with h | ⟨rfl, hwaiting⟩
  · by_cases hkind : kind = .brightness
    · subst hkind
      exact (IsCurrent.drain h).2
    · have hslot : p.drain.state.slots.get kind = p.slots.get kind :=
        p.repaints_drain.kept kind fun hmem => hkind (List.eq_of_mem_replicate hmem)
      have htaken : (p.withPending []).UpToDate kind := by
        cases kind <;> exact h
      exact htaken.congr hsame (congrArg Slot.record hslot)
  · exact isCurrent_drain hwaiting

/-- The record of the brightness tile, written out. -/
theorem Plain.record_brightness {p : Panel} (h : p.Plain) (hcurrent : p.UpToDate .brightness) :
    p.record .brightness = .brightness
      (showBrightness p.brightnessMode (p.catalog.text .brightnessLabel) {}) := by
  obtain ⟨icon, label, automatic, hbrightness⟩ := h.brightness
  have hrecomputed : p.recomputed = p.record .brightness := hcurrent
  rw [← hrecomputed, recomputed, hbrightness]
  rfl

/-- The record of the settings tile, written out. -/
theorem Plain.record_settings {p : Panel} (h : p.Plain) (hcurrent : p.UpToDate .settings) :
    p.record .settings = .basic { label := some (p.catalog.text .settingsLabel) } := by
  obtain ⟨label, hsettings⟩ := h.settings
  have hrelabelled : p.relabelled = p.record .settings := hcurrent
  rw [← hrelabelled, relabelled, hsettings]
  rfl

/-- Where the hub of a tracked panel goes on, its brightness stays up to date or an event waits. -/
theorem UpToDate.rehub {p : Panel} (hcurrent : p.UpToDate .brightness ∨ p.hub.queue.pending ≠ [])
    (h : p.Tracks) {hub : Hub} (hkeeps : ∀ id, p.watch.id? = some id → p.hub.Keeps id hub) :
    ({ p with hub } : Panel).UpToDate .brightness ∨ hub.queue.pending ≠ [] := by
  rcases hcurrent with hcurrent | hne
  · rcases h.mode_or_waiting hkeeps with hread | hne
    · left
      have hmode : ({ p with hub } : Panel).brightnessMode = p.brightnessMode :=
        congrArg BrightnessMode.ofSetting (SettingsStore.readInt_congr _ hread)
      change Panel.recomputed _ = p.record .brightness
      rw [recomputed, hmode]
      exact hcurrent
    · exact .inr hne
  · exact .inr (h.waiting hkeeps hne)

end Panel

/-- Adding binds a tile; no other operation changes a binding. -/
theorem Operation.binding?_run (op : Operation) (p : Panel) (kind : TileKind) :
    (op.run p).state.binding? kind =
      match op with
      | .add added binding => if kind = added then some binding else p.binding? kind
      | _ => p.binding? kind := by
  cases op with
  | add added binding =>
    have hbind : (p.bind added binding).state.binding? kind =
        if kind = added then some binding else p.binding? kind := by
      unfold Panel.binding? Panel.bind
      rw [PerTile.get_set]
      split <;> rfl
    refine Eq.trans ?_ hbind
    change (p.add added binding).state.binding? kind = _
    unfold Panel.add
    rw [Outcome.state_andThen]
    cases added with
    | user | time | battery => rw [Panel.state_push]
    | brightness | settings | certificate =>
      exact (congrArg (Panel.binding? · kind) (Panel.state_update _ _ _)).trans
        (Panel.binding?_setRecord _ _ _ _)
  | battery | user | certificate | refreshSettings | refreshBrightness =>
    exact (congrArg (Panel.binding? · kind) (Panel.state_update _ _ _)).trans
      (Panel.binding?_setRecord _ _ _ _)
  | refreshUser | refreshTime | refreshBattery =>
    exact congrArg (Panel.binding? · kind) (Panel.state_push _ _)
  | updateResources =>
    change p.refreshSettings.state.refreshBattery.state.refreshBrightness.state.binding? kind = _
    rw [Panel.state_refreshBrightness, Panel.binding?_setRecord, Panel.refreshBattery,
      Panel.state_push, Panel.refreshSettings, Panel.state_update, Panel.binding?_setRecord]
  | userSwitched announced =>
    exact (congrArg (fun slots => Slot.binding (slots.get kind))
      (p.slots_handle (.userSwitched announced))).trans (Panel.binding?_setRecord _ _ _ _)
  | handle event =>
    exact (congrArg (fun slots => Slot.binding (slots.get kind)) (p.slots_handle event)).trans
      (Panel.binding?_setRecord _ _ _ _)

theorem Panel.binding?_drain (p : Panel) (kind : TileKind) :
    p.drain.state.binding? kind = p.binding? kind := by
  refine drain_rel (R := fun p q => q.binding? kind = p.binding? kind) ?_ ?_ ?_ p
  · exact fun _ => rfl
  · exact fun hfirst hnext => hnext.trans hfirst
  · exact fun p e rest _ => (Operation.handle e).binding?_run (p.withPending rest) kind

end TilePanel
