import TilePanel.Proofs.Hub.Watching
import TilePanel.Proofs.Panel.Draining

/-!
The watch of a panel and its user. Between two drains they may drift apart, but then an event that
will move the watch still waits. Whatever the events say, after a drain the watch is on the user and
the brightness tile shows the mode that is stored.
-/

namespace TilePanel

/-- What writes and their notifications leave in a journal tells neither of pushes nor of the
brightness settings. -/
theorem isQuiet_of_isOfHub {journal : List Activity} (h : ∀ a ∈ journal, a.isOfHub = true) :
    IsQuiet journal := by
  intro a ha
  have hkind := h a ha
  cases a with
  | pushed kind binding record => simp [Activity.isOfHub] at hkind
  | notice n =>
    cases n with
    | brightnessRead => simp [Activity.isOfHub] at hkind
    | _ => exact ⟨rfl, rfl⟩
  | posted | taken | changed | reacted => exact ⟨rfl, rfl⟩

/-- Whether an event waits that will move the watch. -/
def Hub.SwitchAwaits (h : Hub) : Prop :=
  ∃ user, .userSwitched user ∈ h.queue.pending

namespace Panel

/-- What holds of a panel whose queue is open: its watch is served, and it is on the user of the
panel unless an event that will move it waits. -/
structure Tracks (p : Panel) : Prop where
  isOpen : p.hub.queue.isOpen = true
  numbered : p.hub.Numbered
  watching : ∃ user id, p.watch = .observing user id ∧ p.hub.Serves id user ∧
    (user = p.user ∨ p.hub.SwitchAwaits)
  brightness : ∃ b, p.record .brightness = .brightness b

/-- Whether the brightness tile shows the mode that is stored for the user, with its icon. -/
def ShowsMode (p : Panel) : Prop :=
  ∃ b, p.record .brightness = .brightness b ∧
    b.automatic = (p.hub.store.readInt Setting.mode 0 p.user == 1) ∧
    b.base.icon = some (if b.automatic then .brightnessAutoOn else .brightnessAutoOff)

/-- Whether the brightness tile shows the stored mode, or will be repainted by the next drain. -/
def Settled (p : Panel) : Prop :=
  p.ShowsMode ∨ p.hub.queue.pending ≠ []

theorem automatic_brightnessMode (p : Panel) :
    decide (p.brightnessMode = .automatic) = (p.hub.store.readInt Setting.mode 0 p.user == 1) := by
  unfold brightnessMode BrightnessMode.ofSetting
  change decide ((if p.hub.store.readInt Setting.mode 0 p.user = 1 then BrightnessMode.automatic
    else .manual) = .automatic) = _
  split
  · next h => simp [h]
  · next h => simp [h]

/-- A panel whose brightness record is the recomputed one shows the stored mode. -/
theorem showsMode_of_recomputed {p q : Panel} (hsame : SameSurroundings p q)
    (hbrightness : ∃ b, p.record .brightness = .brightness b)
    (hrecord : q.record .brightness = p.recomputed) : q.ShowsMode := by
  obtain ⟨b, hb⟩ := hbrightness
  refine ⟨showBrightness p.brightnessMode (p.catalog.text .brightnessLabel) b, ?_, ?_, ?_⟩
  · rw [hrecord, recomputed, hb]
    rfl
  · rw [hsame.store, hsame.user, ← automatic_brightnessMode]
    rfl
  · simp [showBrightness]

theorem IsCurrent.showsMode {p : Panel} (h : p.IsCurrent)
    (hbrightness : ∃ b, p.record .brightness = .brightness b) : p.ShowsMode :=
  showsMode_of_recomputed (.refl p) hbrightness h.symm

theorem ShowsMode.congr {p q : Panel} (h : p.ShowsMode)
    (hrecord : q.record .brightness = p.record .brightness) (huser : q.user = p.user)
    (hmode : q.hub.store.readInt Setting.mode 0 p.user =
      p.hub.store.readInt Setting.mode 0 p.user) : q.ShowsMode := by
  obtain ⟨b, hb, hautomatic, hicon⟩ := h
  refine ⟨b, hrecord.trans hb, ?_, hicon⟩
  rw [huser, hmode]
  exact hautomatic

/-- While an open queue is empty, the watch is on the user. -/
theorem Tracks.observedUser {p : Panel} (h : p.Tracks) (hempty : p.hub.queue.pending = []) :
    p.observedUser = some p.user := by
  obtain ⟨user, id, hwatch, _, hon⟩ := h.watching
  rcases hon with rfl | ⟨other, hwaits⟩
  · rw [Panel.observedUser, hwatch]
    rfl
  · rw [hempty] at hwaits
    cases hwaits

/-- A hub that goes on for whatever watch the panel has goes on for the one that is served. -/
theorem Tracks.kept {p : Panel} (h : p.Tracks) {hub : Hub}
    (hkeeps : ∀ id, p.watch.id? = some id → p.hub.Keeps id hub) :
    ∃ user id, p.watch = .observing user id ∧ p.hub.Serves id user ∧
      (user = p.user ∨ p.hub.SwitchAwaits) ∧ p.hub.Keeps id hub := by
  obtain ⟨user, id, hwatch, hserves, hon⟩ := h.watching
  refine ⟨user, id, hwatch, hserves, hon, hkeeps id ?_⟩
  rw [hwatch]
  rfl

/-- A hub that went on for the watch of a panel leaves it tracked. -/
theorem Tracks.rehub {p : Panel} (h : p.Tracks) {hub : Hub}
    (hkeeps : ∀ id, p.watch.id? = some id → p.hub.Keeps id hub) :
    ({ p with hub } : Panel).Tracks := by
  obtain ⟨user, id, hwatch, hserves, hon, hkeep⟩ := h.kept hkeeps
  refine ⟨hkeep.isOpen.trans h.isOpen, hkeep.numbered h.numbered, ?_, h.brightness⟩
  refine ⟨user, id, hwatch, hkeep.serves hserves, ?_⟩
  rcases hon with hon | ⟨other, hwaits⟩
  · exact .inl hon
  · exact .inr ⟨other, hkeep.pending.subset hwaits⟩

/-- Where the hub of a tracked panel goes on, the mode of its user reads as before, or an event
waits. -/
theorem Tracks.mode_or_waiting {p : Panel} (h : p.Tracks) {hub : Hub}
    (hkeeps : ∀ id, p.watch.id? = some id → p.hub.Keeps id hub) :
    hub.store.read Setting.mode p.user = p.hub.store.read Setting.mode p.user ∨
      hub.queue.pending ≠ [] := by
  obtain ⟨user, id, _, hserves, hon, hkeep⟩ := h.kept hkeeps
  rcases hon with rfl | ⟨other, hwaits⟩
  · exact hkeep.announced hserves h.isOpen
  · exact .inr (hkeep.pending_ne_nil (List.ne_nil_of_mem hwaits))

/-- Events that wait go on waiting. -/
theorem Tracks.waiting {p : Panel} (h : p.Tracks) {hub : Hub}
    (hkeeps : ∀ id, p.watch.id? = some id → p.hub.Keeps id hub)
    (hne : p.hub.queue.pending ≠ []) : hub.queue.pending ≠ [] := by
  obtain ⟨_, _, _, _, _, hkeep⟩ := h.kept hkeeps
  exact hkeep.pending_ne_nil hne

theorem Settled.rehub {p : Panel} (hsettled : p.Settled) (h : p.Tracks) {hub : Hub}
    (hkeeps : ∀ id, p.watch.id? = some id → p.hub.Keeps id hub) :
    ({ p with hub } : Panel).Settled := by
  rcases hsettled with hshows | hne
  · rcases h.mode_or_waiting hkeeps with hread | hne
    · exact .inl (hshows.congr rfl rfl (SettingsStore.readInt_congr 0 hread))
    · exact .inr hne
  · exact .inr (h.waiting hkeeps hne)

private theorem numbered_moveWatch {p : Panel} (h : p.hub.Numbered) : p.moveWatch.hub.Numbered :=
  BrightnessWatch.numbered_start h

/-- After a move the watch is on the user, wherever it was. -/
private theorem tracks_of_moved {p q : Panel} (hopen : p.hub.queue.isOpen = true)
    (hnumbered : p.hub.Numbered) (hmoved : Retiles p.moveWatch q)
    (hbrightness : ∃ b, q.record .brightness = .brightness b) : q.Tracks := by
  obtain ⟨slots, rfl⟩ := hmoved
  have hserves : p.moveWatch.hub.Serves p.hub.registry.nextId p.user :=
    BrightnessWatch.serves_start hnumbered
  refine ⟨?_, numbered_moveWatch hnumbered, ?_, hbrightness⟩
  · change p.moveWatch.hub.queue.isOpen = true
    rw [queue_moveWatch]
    exact hopen
  · exact ⟨p.user, p.hub.registry.nextId, BrightnessWatch.answer_start, hserves, .inl rfl⟩

/-- A new panel is tracked. -/
theorem tracks_new {hub : Hub} (hnumbered : hub.Numbered) (hopen : hub.queue.isOpen = true)
    (user : UserId) (catalog : Catalog) : (Panel.new hub user catalog).state.Tracks := by
  let unwatched : Panel :=
    { hub, user, catalog, watch := .idle, slots := .ofFn fun kind => { record := .initial kind } }
  have hmoved : unwatched.moveWatch.Retiles (Panel.new hub user catalog).state := ⟨_, rfl⟩
  exact tracks_of_moved (p := unwatched) hopen hnumbered hmoved ⟨{}, rfl⟩

theorem Tracks.of_retiles {p q : Panel} (h : p.Tracks) (hstays : Retiles p q)
    (hbrightness : ∃ b, q.record .brightness = .brightness b) : q.Tracks := by
  obtain ⟨slots, rfl⟩ := hstays
  exact ⟨h.isOpen, h.numbered, h.watching, hbrightness⟩

end Panel

theorem Operation.tracks_run (op : Operation) {p : Panel} (h : p.Tracks) :
    (op.run p).state.Tracks := by
  have hbrightness := op.brightness_run h.brightness
  rcases op.run_cases p with hstays | hmoves
  · exact h.of_retiles hstays hbrightness
  · exact Panel.tracks_of_moved h.isOpen h.numbered hmoves hbrightness

/-- An operation that concerns the brightness tile leaves it settled; the others keep it so. -/
theorem Operation.settled_run (op : Operation) {p : Panel} (h : p.Tracks)
    (hsettled : p.Settled ∨ .brightness ∈ op.concerned) : (op.run p).state.Settled := by
  have hsame := op.surroundings_run p
  by_cases hconcerned : .brightness ∈ op.concerned
  · left
    exact Panel.showsMode_of_recomputed hsame h.brightness (op.record_run_brightness p hconcerned)
  · rcases hsettled.resolve_right hconcerned with hshows | hne
    · left
      have hslot := (op.repaints_run p).kept _ hconcerned
      exact hshows.congr (congrArg Slot.record hslot) hsame.user (by rw [hsame.store])
    · right
      rw [hsame.queue]
      exact hne

namespace Panel

/-- Dealing with an event that was taken off the queue: if it was the one that awaited a move of
the watch, it moves it. -/
theorem Tracks.handle {p : Panel} (h : p.Tracks) {e : Event} {rest : List Event}
    (hpending : p.hub.queue.pending = e :: rest) :
    ((p.withPending rest).handle e).state.Tracks := by
  have hopen : (p.withPending rest).hub.queue.isOpen = true := h.isOpen
  have hnumbered : (p.withPending rest).hub.Numbered :=
    ⟨h.numbered.registrations, h.numbered.watchers⟩
  cases e with
  | userSwitched announced =>
    exact tracks_of_moved hopen hnumbered ((p.withPending rest).moveWatch.retiles_update _ _)
      ((Operation.handle _).brightness_run h.brightness)
  | settingChanged key owner =>
    have htaken : (p.withPending rest).Tracks := by
      obtain ⟨user, id, hwatch, hserves, hon⟩ := h.watching
      refine ⟨hopen, hnumbered, ⟨user, id, hwatch, ?_, ?_⟩, h.brightness⟩
      · exact ⟨hserves.registered, hserves.numbered, hserves.unshared⟩
      · rcases hon with hon | ⟨other, hwaits⟩
        · exact .inl hon
        · rw [hpending] at hwaits
          exact .inr ⟨other, (List.mem_cons.mp hwaits).resolve_left Event.noConfusion⟩
    exact (Operation.handle (.settingChanged key owner)).tracks_run htaken

theorem Tracks.drain {p : Panel} (h : p.Tracks) : p.drain.state.Tracks := by
  refine drain_rel (R := fun p q => p.Tracks → q.Tracks) ?_ ?_ ?_ p h
  · exact fun _ h => h
  · exact fun hfirst hnext h => hnext (hfirst h)
  · exact fun _ _ _ hpending h => h.handle hpending

/-- A drain that delivers an event leaves the tile settled; one that delivers none keeps it so. -/
theorem Settled.drain {p : Panel} (hsettled : p.Settled) (h : p.Tracks) :
    p.drain.state.Settled := by
  by_cases hpending : p.hub.queue.pending = []
  · rw [drain_of_empty hpending]
    exact hsettled
  · exact .inl ((isCurrent_drain hpending).showsMode h.drain.brightness)

/-- How a panel may come by another watch: only under a number that was not in use before. -/
structure Renews (p q : Panel) : Prop where
  nextId : p.hub.registry.nextId ≤ q.hub.registry.nextId
  watch : q.watch.id? = p.watch.id? ∨ ∃ id, q.watch.id? = some id ∧ p.hub.registry.nextId ≤ id

namespace Renews

variable {p q r : Panel}

theorem refl (p : Panel) : Renews p p :=
  ⟨Nat.le_refl _, .inl rfl⟩

theorem trans (h : Renews p q) (h' : Renews q r) : Renews p r := by
  refine ⟨Nat.le_trans h.nextId h'.nextId, ?_⟩
  rcases h'.watch with hsame | ⟨id, hid, hnew⟩
  · rw [hsame]
    exact h.watch
  · exact .inr ⟨id, hid, Nat.le_trans h.nextId hnew⟩

end Renews

theorem Retiles.renews {p q : Panel} (h : Retiles p q) : Renews p q := by
  obtain ⟨slots, rfl⟩ := h
  exact ⟨Nat.le_refl _, .inl rfl⟩

theorem renews_moveWatch (p : Panel) : Renews p p.moveWatch := by
  refine ⟨?_, .inr ⟨p.hub.registry.nextId, ?_, Nat.le_refl _⟩⟩
  · change _ ≤ (p.watch.start p.hub p.user).state.registry.nextId
    rw [BrightnessWatch.nextId_start]
    exact Nat.le_succ _
  · change (p.watch.start p.hub p.user).answer.id? = _
    rw [BrightnessWatch.answer_start]
    rfl

end Panel

theorem Operation.renews_run (op : Operation) (p : Panel) : Panel.Renews p (op.run p).state := by
  rcases op.run_cases p with hstays | hmoves
  · exact hstays.renews
  · exact p.renews_moveWatch.trans hmoves.renews

namespace Panel

theorem renews_drain (p : Panel) : Renews p p.drain.state := by
  refine drain_rel Renews.refl Renews.trans (fun p e rest _ => ?_) p
  have htaken := (Operation.handle e).renews_run (p.withPending rest)
  exact ⟨htaken.nextId, htaken.watch⟩

end Panel

end TilePanel
