import TilePanel.Proofs.Panel.Pushes

/-!
What the operations of a panel take from its surroundings (the store, the queue, the watchers, the
user and the texts) and what recomputing the brightness leaves in its record. All that an operation
changes are the slots and, if the user was switched, the watch. A second recomputation in the same
surroundings changes nothing.
-/

namespace TilePanel

namespace Panel

/-- Two panels with the same store, queue, watchers, user and texts. -/
structure SameSurroundings (p q : Panel) : Prop where
  store : q.hub.store = p.hub.store
  queue : q.hub.queue = p.hub.queue
  watchers : q.hub.watchers = p.hub.watchers
  user : q.user = p.user
  catalog : q.catalog = p.catalog

namespace SameSurroundings

variable {p q r : Panel}

theorem refl (p : Panel) : SameSurroundings p p :=
  ⟨rfl, rfl, rfl, rfl, rfl⟩

theorem trans (h : SameSurroundings p q) (h' : SameSurroundings q r) : SameSurroundings p r :=
  ⟨h'.store.trans h.store, h'.queue.trans h.queue, h'.watchers.trans h.watchers,
    h'.user.trans h.user, h'.catalog.trans h.catalog⟩

theorem brightnessMode (h : SameSurroundings p q) : q.brightnessMode = p.brightnessMode := by
  simp [Panel.brightnessMode, h.store, h.user]

end SameSurroundings

theorem store_moveWatch (p : Panel) : p.moveWatch.hub.store = p.hub.store := by
  unfold moveWatch BrightnessWatch.start BrightnessWatch.release
  cases p.watch <;> rfl

theorem queue_moveWatch (p : Panel) : p.moveWatch.hub.queue = p.hub.queue := by
  unfold moveWatch BrightnessWatch.start BrightnessWatch.release
  cases p.watch <;> rfl

private theorem watchers_moveWatch (p : Panel) : p.moveWatch.hub.watchers = p.hub.watchers := by
  unfold moveWatch BrightnessWatch.start BrightnessWatch.release
  cases p.watch <;> rfl

private theorem surroundings_moveWatch (p : Panel) : SameSurroundings p p.moveWatch :=
  ⟨store_moveWatch p, queue_moveWatch p, watchers_moveWatch p, rfl, rfl⟩

def recomputed (p : Panel) : TileRecord :=
  (p.record .brightness).mapBrightness
    (showBrightness p.brightnessMode (p.catalog.text .brightnessLabel))

theorem state_refreshBrightness (p : Panel) :
    p.refreshBrightness.state = p.setRecord .brightness p.recomputed :=
  state_update p .brightness _

theorem state_handle (p : Panel) (e : Event) :
    (p.handle e).state = p.refreshBrightness.state ∨
      (p.handle e).state = p.moveWatch.refreshBrightness.state := by
  cases e with
  | settingChanged key user => exact .inl rfl
  | userSwitched user => exact .inr rfl

def Retiles (p q : Panel) : Prop :=
  ∃ slots, q = { p with slots }

namespace Retiles

variable {p q r : Panel}

theorem refl (p : Panel) : Retiles p p :=
  ⟨p.slots, rfl⟩

theorem trans (h : Retiles p q) (h' : Retiles q r) : Retiles p r := by
  obtain ⟨_, rfl⟩ := h
  obtain ⟨slots, rfl⟩ := h'
  exact ⟨slots, rfl⟩

theorem surroundings (h : Retiles p q) : SameSurroundings p q := by
  obtain ⟨_, rfl⟩ := h
  exact ⟨rfl, rfl, rfl, rfl, rfl⟩

end Retiles

private theorem retiles_push (p : Panel) (kind : TileKind) : Retiles p (p.push kind).state := by
  rw [state_push]
  exact .refl p

theorem retiles_update (p : Panel) (kind : TileKind) (change : TileRecord → TileRecord) :
    Retiles p (p.update kind change).state := by
  rw [state_update]
  exact ⟨_, rfl⟩

theorem retiles_add (p : Panel) (kind : TileKind) (binding : Binding) :
    Retiles p (p.add kind binding).state := by
  have hbind : Retiles p (p.bind kind binding).state := ⟨_, rfl⟩
  unfold add
  rw [Outcome.state_andThen]
  cases kind with
  | user | time | battery => exact hbind.trans (retiles_push _ _)
  | brightness | settings | certificate => exact hbind.trans (retiles_update _ _ _)

private theorem retiles_updateResources (p : Panel) : Retiles p p.updateResources.state := by
  have hsettings : Retiles p p.refreshSettings.state := retiles_update _ _ _
  have hbattery := retiles_push p.refreshSettings.state .battery
  have hbrightness : Retiles p.refreshSettings.state.refreshBattery.state
      p.updateResources.state := retiles_update _ _ _
  exact (hsettings.trans hbattery).trans hbrightness

end Panel

/-- Whether an operation moves the watch: those about a switched user do. -/
def Operation.movesWatch : Operation → Bool
  | userSwitched _ | handle (.userSwitched _) => true
  | _ => false

/-- An operation changes slots only, after it has moved the watch if it is about a switched user. -/
theorem Operation.retiles_run (op : Operation) (p : Panel) :
    Panel.Retiles (if op.movesWatch then p.moveWatch else p) (op.run p).state := by
  cases op with
  | add kind binding => exact p.retiles_add kind binding
  | battery | user | certificate | refreshSettings | refreshBrightness =>
    exact p.retiles_update _ _
  | refreshUser | refreshTime | refreshBattery => exact p.retiles_push _
  | updateResources => exact p.retiles_updateResources
  | userSwitched announced => exact p.moveWatch.retiles_update _ _
  | handle event =>
    cases event with
    | settingChanged key user => exact p.retiles_update _ _
    | userSwitched user => exact p.moveWatch.retiles_update _ _

/-- An operation changes slots only, or moves the watch first. -/
theorem Operation.run_cases (op : Operation) (p : Panel) :
    Panel.Retiles p (op.run p).state ∨ Panel.Retiles p.moveWatch (op.run p).state := by
  have hretiles := op.retiles_run p
  cases hmoves : op.movesWatch with
  | true =>
    rw [hmoves] at hretiles
    exact .inr hretiles
  | false =>
    rw [hmoves] at hretiles
    exact .inl hretiles

theorem Operation.surroundings_run (op : Operation) (p : Panel) :
    Panel.SameSurroundings p (op.run p).state := by
  rcases op.run_cases p with hstays | hmoves
  · exact hstays.surroundings
  · exact p.surroundings_moveWatch.trans hmoves.surroundings

theorem Panel.surroundings_handle (p : Panel) (e : Event) :
    SameSurroundings p (p.handle e).state :=
  (Operation.handle e).surroundings_run p

namespace Panel

/-- Whether recomputing the brightness would change nothing. -/
def IsCurrent (p : Panel) : Prop :=
  p.recomputed = p.record .brightness

theorem recomputed_idem (mode : BrightnessMode) (label : String) (r : TileRecord) :
    (r.mapBrightness (showBrightness mode label)).mapBrightness (showBrightness mode label) =
      r.mapBrightness (showBrightness mode label) := by
  cases r <;> rfl

/-- Recomputing looks at the surroundings and at the record alone. -/
theorem recomputed_congr {p q : Panel} (h : SameSurroundings p q)
    (hrecord : q.record .brightness = p.record .brightness) : q.recomputed = p.recomputed := by
  unfold recomputed
  rw [h.brightnessMode, h.catalog, hrecord]

theorem isCurrent_refreshBrightness (p : Panel) : p.refreshBrightness.state.IsCurrent := by
  rw [state_refreshBrightness]
  unfold IsCurrent
  rw [record_setRecord_self]
  unfold recomputed
  rw [record_setRecord_self]
  exact recomputed_idem _ _ _

theorem slots_refreshBrightness (p : Panel) :
    p.refreshBrightness.state.slots = (p.setRecord .brightness p.recomputed).slots :=
  congrArg Panel.slots p.state_refreshBrightness

private theorem recomputed_moveWatch (p : Panel) : p.moveWatch.recomputed = p.recomputed :=
  recomputed_congr (surroundings_moveWatch p) rfl

/-- Whatever an event says, it leaves the tiles as a recomputation does. -/
theorem slots_handle (p : Panel) (e : Event) :
    (p.handle e).state.slots = (p.setRecord .brightness p.recomputed).slots := by
  rcases state_handle p e with h | h
  · rw [h, slots_refreshBrightness]
  · rw [h, slots_refreshBrightness, recomputed_moveWatch]
    rfl

theorem isCurrent_handle (p : Panel) (e : Event) : (p.handle e).state.IsCurrent := by
  rcases state_handle p e with h | h
  · rw [h]
    exact isCurrent_refreshBrightness p
  · rw [h]
    exact isCurrent_refreshBrightness p.moveWatch

/-- An event does not change the tiles of a panel whose brightness is current. -/
theorem IsCurrent.slots_handle {p : Panel} (h : p.IsCurrent) (e : Event) :
    (p.handle e).state.slots = p.slots := by
  rw [Panel.slots_handle, h, setRecord_record]

theorem brightness_recomputed {p : Panel} (h : ∃ b, p.record .brightness = .brightness b) :
    ∃ b, p.recomputed = .brightness b := by
  obtain ⟨b, hb⟩ := h
  exact ⟨_, by rw [recomputed, hb]; rfl⟩

theorem record_add_brightness (p : Panel) (binding : Binding) :
    (p.add .brightness binding).state.record .brightness = p.recomputed := by
  have hrecomputed : (p.bind .brightness binding).state.recomputed = p.recomputed :=
    recomputed_congr ⟨rfl, rfl, rfl, rfl, rfl⟩ (p.record_bind _ _ _)
  change (p.bind .brightness binding).state.refreshBrightness.state.record .brightness = _
  rw [state_refreshBrightness, record_setRecord_self, hrecomputed]

/-- Of the three tiles the brightness tile is worked out last, so that it is as a recomputation
makes it. -/
theorem record_updateResources_brightness (p : Panel) :
    p.updateResources.state.record .brightness = p.recomputed := by
  have hsettings : Retiles p p.refreshSettings.state := retiles_update _ _ _
  have hbattery := hsettings.trans (p.refreshSettings.state.retiles_push .battery)
  have hrecord : p.refreshSettings.state.refreshBattery.state.record .brightness =
      p.record .brightness := by
    rw [refreshBattery, state_push, refreshSettings, state_update]
    exact p.record_setRecord_of_ne (by decide) _
  change p.refreshSettings.state.refreshBattery.state.refreshBrightness.state.record _ = _
  rw [state_refreshBrightness, record_setRecord_self]
  exact recomputed_congr hbattery.surroundings hrecord

theorem record_handle_brightness (p : Panel) (e : Event) :
    (p.handle e).state.record .brightness = p.recomputed := by
  have hslots : (p.handle e).state.record .brightness =
      (p.setRecord .brightness p.recomputed).record .brightness :=
    congrArg (fun slots => Slot.record (slots.get .brightness)) (p.slots_handle e)
  rw [hslots, record_setRecord_self]

end Panel

/-- An operation that concerns the brightness tile recomputes its record. -/
theorem Operation.record_run_brightness (op : Operation) (p : Panel)
    (hconcerned : .brightness ∈ op.concerned) :
    (op.run p).state.record .brightness = p.recomputed := by
  cases op with
  | add kind binding =>
    obtain rfl := List.mem_singleton.mp hconcerned
    exact p.record_add_brightness binding
  | refreshBrightness =>
    change p.refreshBrightness.state.record .brightness = _
    rw [Panel.state_refreshBrightness, Panel.record_setRecord_self]
  | updateResources => exact p.record_updateResources_brightness
  | userSwitched announced => exact p.record_handle_brightness (.userSwitched announced)
  | handle event => exact p.record_handle_brightness event
  | battery | user | certificate | refreshSettings | refreshUser | refreshTime | refreshBattery =>
    simp [concerned] at hconcerned

theorem Operation.brightness_run (op : Operation) {p : Panel}
    (h : ∃ b, p.record .brightness = .brightness b) :
    ∃ b, (op.run p).state.record .brightness = .brightness b := by
  by_cases hconcerned : .brightness ∈ op.concerned
  · rw [op.record_run_brightness p hconcerned]
    exact Panel.brightness_recomputed h
  · obtain ⟨b, hb⟩ := h
    exact ⟨b, (congrArg Slot.record ((op.repaints_run p).kept _ hconcerned)).trans hb⟩

end TilePanel
