import TilePanel.Proofs.Shell.Painting
import TilePanel.Shell.Command

/-!
What every command keeps of a session: its panel is tracked, all tiles are bound as the session binds
them, the settings tile is up to date, the brightness tile is up to date or an event waits, and the
views of both show their records. A command that succeeds ends with a drain, and one that fails
leaves no event, so that between two commands the queue is empty.
-/

namespace TilePanel.Shell.Session

open TextView

/-- What holds of a session from the moment it is built, while its tiles are being bound. -/
structure Kept (hides : Bool) (s : Session) : Prop where
  tracks : s.panel.Tracks
  plain : s.panel.Plain
  bindings : ∀ kind binding, s.panel.binding? kind = some binding →
    binding = bindingOf hides kind
  views : ∀ kind, kind.isDerived = true → s.views.get kind = shownBy (s.panel.record kind).base

/-- What holds of a session while a command runs. -/
structure Steady (hides : Bool) (s : Session) : Prop extends Kept hides s where
  bound : ∀ kind, s.panel.isBound kind = true
  settings : s.panel.UpToDate .settings
  brightness : s.panel.UpToDate .brightness ∨ s.panel.hub.queue.pending ≠ []

/-- What holds of a session between two commands. -/
structure Settled (hides : Bool) (s : Session) : Prop extends Steady hides s where
  empty : s.panel.hub.queue.pending = []

variable {hides : Bool} {s : Session} {α : Type}

/-- An operation whose tiles are bound and up to date afterwards keeps the views in step with the
records. -/
theorem Kept.onPanel (h : Kept hides s) (clock : String) {f : Panel → Outcome Panel α}
    {kinds : List TileKind} (htracks : (f s.panel).state.Tracks) (hplain : (f s.panel).state.Plain)
    (hbindings : ∀ kind binding, (f s.panel).state.binding? kind = some binding →
      binding = bindingOf hides kind)
    (hrepaints : Repaints kinds s.panel.slots (f s.panel).journal (f s.panel).state.slots)
    (hbound : ∀ kind ∈ kinds, (f s.panel).state.isBound kind = true)
    (hcurrent : ∀ kind ∈ kinds, (f s.panel).state.UpToDate kind) :
    Kept hides (s.onPanel clock f).state := by
  refine ⟨htracks, hplain, hbindings, ?_⟩
  intro kind hkind
  have hbinding : ∀ k ∈ kinds,
      ((f s.panel).state.slots.get k).binding = some (bindingOf hides k) := by
    intro k hk
    obtain ⟨binding, hsome⟩ := Option.isSome_iff_exists.mp (hbound k hk)
    rw [← hbindings k binding hsome]
    exact hsome
  change (paint clock (f s.panel).journal s.views).get kind = _
  rw [get_paint hrepaints hbinding clock s.views kind, applyAll_paint_of_derived _ _ hkind,
    h.views kind hkind]
  by_cases hmem : kind ∈ kinds
  · rw [if_pos hmem]
    exact wearing_shownBy h.plain hplain (hcurrent kind hmem) hkind
  · rw [if_neg hmem]
    have hrecord : (f s.panel).state.record kind = s.panel.record kind :=
      congrArg Slot.record (hrepaints.kept kind hmem)
    change _ = shownBy ((f s.panel).state.record kind).base
    rw [hrecord]

/-- Binding a tile and painting it. -/
theorem Kept.add (h : Kept hides s) (clock : String) (kind : TileKind) :
    Kept hides (s.onPanel clock fun p => p.add kind (bindingOf hides kind)).state := by
  let op : Operation := .add kind (bindingOf hides kind)
  have hbinding : ∀ other, (op.run s.panel).state.binding? other =
      if other = kind then some (bindingOf hides kind) else s.panel.binding? other :=
    fun other => op.binding?_run s.panel other
  refine h.onPanel clock (op.tracks_run h.tracks) (op.plain_run h.plain) ?_
    (op.repaints_run s.panel) ?_ ?_
  · intro other binding hother
    change (op.run s.panel).state.binding? other = _ at hother
    rw [hbinding] at hother
    split at hother
    · next hsame =>
      subst hsame
      exact (Option.some.inj hother).symm
    · exact h.bindings other binding hother
  · intro other hother
    obtain rfl := List.mem_singleton.mp hother
    change ((op.run s.panel).state.binding? other).isSome = true
    rw [hbinding, if_pos rfl]
    rfl
  · intro other hother
    exact op.upToDate_run (.inl hother)

/-- The operations that a command may ask for. They bind nothing. -/
def IsPainting (op : Operation) : Prop :=
  ∀ kind binding, op ≠ .add kind binding

theorem binding?_painting {op : Operation} (hop : IsPainting op) (p : Panel) (kind : TileKind) :
    (op.run p).state.binding? kind = p.binding? kind := by
  have hrun := op.binding?_run p kind
  cases op with
  | add added binding => exact absurd rfl (hop added binding)
  | _ => exact hrun

/-- An operation that only paints keeps the tiles bound and their views painted. -/
theorem Kept.operate (h : Kept hides s) (clock : String) {op : Operation} (hop : IsPainting op)
    (hbound : ∀ kind, s.panel.isBound kind = true) : Kept hides (s.operate clock op).state := by
  refine h.onPanel clock (op.tracks_run h.tracks) (op.plain_run h.plain) ?_
    (op.repaints_run s.panel) ?_ ?_
  · intro kind binding hbinding
    rw [binding?_painting hop] at hbinding
    exact h.bindings kind binding hbinding
  · intro kind _
    rw [Panel.isBound, binding?_painting hop]
    exact hbound kind
  · intro kind hkind
    exact op.upToDate_run (.inl hkind)

/-- An operation of the panel leaves a session steady if what it does not repaint is up to date. -/
theorem Kept.steady_operate (h : Kept hides s) (clock : String) {op : Operation}
    (hop : IsPainting op) (hbound : ∀ kind, s.panel.isBound kind = true)
    (hsettings : .settings ∈ op.concerned ∨ s.panel.UpToDate .settings)
    (hbrightness : .brightness ∈ op.concerned ∨ s.panel.UpToDate .brightness ∨
      s.panel.hub.queue.pending ≠ []) :
    Steady hides (s.operate clock op).state where
  toKept := h.operate clock hop hbound
  bound kind := by
    change ((op.run s.panel).state.binding? kind).isSome = true
    rw [binding?_painting hop]
    exact hbound kind
  settings := op.upToDate_run hsettings
  brightness := by
    change (op.run s.panel).state.UpToDate _ ∨ (op.run s.panel).state.hub.queue.pending ≠ []
    rw [(op.surroundings_run s.panel).queue]
    rcases hbrightness with hconcerned | hcurrent | hne
    · exact .inl (op.upToDate_run (.inl hconcerned))
    · exact .inl (op.upToDate_run (.inr hcurrent))
    · exact .inr hne

theorem Steady.operate (h : Steady hides s) (clock : String) {op : Operation}
    (hop : IsPainting op) : Steady hides (s.operate clock op).state :=
  h.toKept.steady_operate clock hop h.bound (.inr h.settings) (.inr h.brightness)

theorem queue_operate (s : Session) (clock : String) (op : Operation) :
    (s.operate clock op).state.panel.hub.queue = s.panel.hub.queue :=
  (op.surroundings_run s.panel).queue

theorem Settled.operate (h : Settled hides s) (clock : String) {op : Operation}
    (hop : IsPainting op) : Settled hides (s.operate clock op).state :=
  ⟨h.toSteady.operate clock hop, by rw [queue_operate]; exact h.empty⟩

/-- The operations leave no event behind, so that there is nothing to pump. -/
theorem Settled.operateAll (h : Settled hides s) (clock : String) {ops : List Operation}
    (hops : ∀ op ∈ ops, IsPainting op) : Settled hides (operateAll clock ops s).state := by
  induction ops generalizing s with
  | nil => exact h
  | cons op rest ih =>
    have hfirst := h.operate clock (hops op List.mem_cons_self)
    rw [Session.operateAll, Outcome.state_andThen]
    cases (s.operate clock op).answer with
    | error failure => exact hfirst
    | ok _ => exact ih hfirst fun other hother => hops other (List.mem_cons_of_mem _ hother)

/-- What paints nothing and changes neither slots nor texts leaves a session steady, if it leaves
the panel tracked and the brightness up to date, or an event waits. -/
theorem Steady.quietly (h : Steady hides s) (clock : String) {f : Panel → Outcome Panel α}
    (htracks : (f s.panel).state.Tracks) (hslots : (f s.panel).state.slots = s.panel.slots)
    (hcatalog : (f s.panel).state.catalog = s.panel.catalog)
    (hbrightness : (f s.panel).state.UpToDate .brightness ∨
      (f s.panel).state.hub.queue.pending ≠ [])
    (hquiet : IsQuiet (f s.panel).journal) : Steady hides (s.onPanel clock f).state := by
  have hrecord : ∀ kind, (f s.panel).state.record kind = s.panel.record kind := by
    intro kind
    rw [Panel.record, hslots]
    rfl
  have hbinding : ∀ kind, (f s.panel).state.binding? kind = s.panel.binding? kind := by
    intro kind
    rw [Panel.binding?, hslots]
    rfl
  have hplain : (f s.panel).state.Plain := by
    constructor
    · rw [hrecord]
      exact h.plain.brightness
    · rw [hrecord]
      exact h.plain.settings
  have hrepaints : Repaints [] s.panel.slots (f s.panel).journal (f s.panel).state.slots := by
    rw [hslots]
    exact .nothing hquiet _
  refine { toKept := ?_, bound := ?_, settings := ?_, brightness := hbrightness }
  · refine h.toKept.onPanel clock htracks hplain ?_ hrepaints (by simp) (by simp)
    intro kind binding hsome
    rw [hbinding] at hsome
    exact h.bindings kind binding hsome
  · intro kind
    change ((f s.panel).state.binding? kind).isSome = true
    rw [hbinding]
    exact h.bound kind
  · exact (Panel.relabelled_congr hcatalog (hrecord _)).trans (h.settings.trans (hrecord _).symm)

/-- A write may post events; the panel follows them when they are pumped. -/
theorem Steady.put (h : Steady hides s) (clock : String) {f : Panel → Outcome Panel α}
    {key value : String} {user : UserId}
    (hstate : (f s.panel).state = { s.panel with hub := (s.panel.hub.put key value user).state })
    (hjournal : (f s.panel).journal = (s.panel.hub.put key value user).journal) :
    Steady hides (s.onPanel clock f).state := by
  have hev := s.panel.hub.evolves_put key value user
  have hkeeps : ∀ id, s.panel.watch.id? = some id →
      s.panel.hub.Keeps id (s.panel.hub.put key value user).state := fun id _ => hev.keeps id
  refine h.quietly clock ?_ ?_ ?_ ?_ ?_
  · rw [hstate]
    exact h.tracks.rehub hkeeps
  · rw [hstate]
  · rw [hstate]
  · rw [hstate]
    exact Panel.UpToDate.rehub h.brightness h.tracks hkeeps
  · rw [hjournal]
    exact isQuiet_of_isOfHub hev.entries

theorem state_put_of_error {h : Hub} {key value : String} {user : UserId} {cause : Error}
    (herror : (h.put key value user).answer = .error cause) :
    (h.put key value user).state = h := by
  unfold Hub.put Hub.putUsing at herror ⊢
  cases hwrite : h.store.write key value user with
  | error cause => rfl
  | ok store =>
    rw [hwrite] at herror
    cases herror

/-- A write leaves a session steady; one that changes nothing on the hub leaves it settled. -/
theorem Settled.put (h : Settled hides s) (clock : String) {f : Panel → Outcome Panel α}
    {key value : String} {user : UserId}
    (hstate : (f s.panel).state = { s.panel with hub := (s.panel.hub.put key value user).state })
    (hjournal : (f s.panel).journal = (s.panel.hub.put key value user).journal) :
    Steady hides (s.onPanel clock f).state ∧
      ((s.panel.hub.put key value user).state = s.panel.hub →
        Settled hides (s.onPanel clock f).state) := by
  have hsteady := h.toSteady.put clock hstate hjournal
  refine ⟨hsteady, ?_⟩
  intro hsame
  refine ⟨hsteady, ?_⟩
  change (f s.panel).state.hub.queue.pending = []
  rw [hstate, hsame]
  exact h.empty

/-- A switch posts its event; the watch follows when it is pumped. -/
theorem Steady.switchUser (h : Steady hides s) (clock : String) (user : UserId) :
    Steady hides (s.onPanel clock fun p => p.switchUser user).state := by
  refine h.quietly clock (h.tracks.switchUser user) (s.panel.slots_switchUser user) ?_ ?_
    (s.panel.isQuiet_switchUser user)
  · rcases Panel.state_switchUser h.tracks.isOpen user with hstate | hstate <;> rw [hstate]
  · rcases Panel.state_switchUser h.tracks.isOpen user with hstate | hstate
    · rw [hstate]
      exact h.brightness
    · rw [hstate]
      exact .inr (List.ne_nil_of_mem (Panel.mem_pending_post h.tracks.isOpen _))

/-- Delivering the events that wait settles a session. -/
theorem Steady.pump (h : Steady hides s) (clock : String) :
    Settled hides (s.pump clock).state := by
  have hsettings : s.panel.drain.state.UpToDate .settings := Panel.upToDate_drain (.inl h.settings)
  have hbrightness : s.panel.drain.state.UpToDate .brightness :=
    Panel.upToDate_drain (h.brightness.imp_right fun hne => ⟨rfl, hne⟩)
  have hbound : ∀ kind, s.panel.drain.state.isBound kind = true := by
    intro kind
    rw [Panel.isBound, Panel.binding?_drain]
    exact h.bound kind
  refine { toKept := ?_, bound := hbound, settings := hsettings, brightness := .inl hbrightness,
           empty := s.panel.pending_drain }
  refine h.toKept.onPanel clock h.tracks.drain (Panel.plain_drain h.plain) ?_
    s.panel.repaints_drain ?_ ?_
  · intro kind binding hsome
    rw [Panel.binding?_drain] at hsome
    exact h.bindings kind binding hsome
  · intro kind _
    exact hbound kind
  · intro kind hkind
    obtain rfl := List.eq_of_mem_replicate hkind
    exact hbrightness

/-- The session with other texts is settled again once the tiles are repainted. -/
theorem Settled.relabel (h : Settled hides s) (clock : String) (id : StringId) (text : String) :
    Settled hides ((s.withText id text).operate clock .updateResources).state := by
  have hkept : Kept hides (s.withText id text) :=
    ⟨⟨h.tracks.isOpen, h.tracks.numbered, h.tracks.watching, h.tracks.brightness⟩,
      ⟨h.plain.brightness, h.plain.settings⟩, h.bindings, h.views⟩
  have hpainting : IsPainting .updateResources := fun _ _ => Operation.noConfusion
  have hsteady := hkept.steady_operate clock hpainting h.bound
    (.inl (by decide)) (.inl (by decide))
  refine ⟨hsteady, ?_⟩
  rw [queue_operate]
  exact h.empty

theorem isPainting_refreshing (target : RefreshTarget) :
    ∀ op ∈ refreshing target, IsPainting op := by
  intro op hop kind binding hadd
  subst hadd
  cases target <;> simp [refreshing] at hop

/-- An action leaves the session steady, and settled if it fails. -/
theorem Settled.act (h : Settled hides s) (clock : String) (action : PanelAction) :
    Steady hides (s.act clock action).state ∧
      ∀ failure, (s.act clock action).answer = .error failure →
        Settled hides (s.act clock action).state := by
  have hoperate : ∀ op, IsPainting op → Steady hides (s.operate clock op).state ∧
      ∀ failure, (s.operate clock op).answer = .error failure →
        Settled hides (s.operate clock op).state := by
    intro op hop
    have hsettled := h.operate clock hop
    exact ⟨hsettled.toSteady, fun _ _ => hsettled⟩
  have hput : ∀ key value, Steady hides (s.putInt clock key value).state ∧
      ∀ failure, (s.putInt clock key value).answer = .error failure →
        Settled hides (s.putInt clock key value).state := by
    intro key value
    let stored : Panel → Outcome Panel (Except Error Unit) := fun p =>
      (p.hub.putInt key value p.user).mapState fun hub => { p with hub }
    obtain ⟨hsteady, hsettled⟩ := h.put clock (f := stored) rfl rfl
    refine ⟨hsteady, ?_⟩
    intro failure hfailed
    cases hanswer : (s.panel.hub.put key (settingText value) s.panel.user).answer with
    | error cause => exact hsettled (state_put_of_error hanswer)
    | ok _ => simp [putInt, onPanel, Hub.putInt, hanswer, Except.mapError] at hfailed
  cases action with
  | display => exact ⟨h.toSteady, fun _ _ => h⟩
  | battery | user | certificate => exact hoperate _ fun _ _ => Operation.noConfusion
  | resources => exact hoperate _ fun _ _ => Operation.noConfusion
  | brightnessMode mode => exact hput _ _
  | brightness value =>
    rw [Session.act]
    split
    · exact hput _ _
    · exact ⟨h.toSteady, fun _ _ => h⟩
  | switchUser user =>
    refine ⟨h.toSteady.switchUser clock user, ?_⟩
    intro failure hfailed
    cases hfailed
  | refresh target =>
    have hsettled := h.operateAll clock (isPainting_refreshing target)
    exact ⟨hsettled.toSteady, fun _ _ => hsettled⟩
  | string key text =>
    rw [Session.act]
    cases StringId.ofKey? key with
    | none => exact ⟨h.toSteady, fun _ _ => h⟩
    | some id =>
      have hsettled := h.relabel clock id text
      exact ⟨hsettled.toSteady, fun _ _ => hsettled⟩

theorem Settled.apply (h : Settled hides s) (clock : String) (action : PanelAction) :
    Settled hides (s.apply clock action).state := by
  obtain ⟨hsteady, hfailed⟩ := h.act clock action
  unfold Session.apply
  rw [Outcome.state_andThen]
  cases hanswer : (s.act clock action).answer with
  | error failure => exact hfailed failure hanswer
  | ok _ => exact hsteady.pump clock

/-- What a settings action does to the hub: nothing, or a write that succeeds if the action does. -/
theorem runSettings_cases (h : Hub) (json quiet : Bool) (action : SettingsAction) :
    ((Shell.runSettings h json quiet action).state = h ∧
      (Shell.runSettings h json quiet action).journal = []) ∨
    ∃ key value user,
      (Shell.runSettings h json quiet action).state = (h.put key value user).state ∧
      (Shell.runSettings h json quiet action).journal = (h.put key value user).journal ∧
      ∀ failure, (Shell.runSettings h json quiet action).answer = .error failure →
        (h.put key value user).state = h := by
  cases action with
  | get key user =>
    left
    unfold Shell.runSettings
    dsimp only
    split <;> exact ⟨rfl, rfl⟩
  | list user =>
    left
    unfold Shell.runSettings
    dsimp only
    split <;> exact ⟨rfl, rfl⟩
  | put key value user =>
    refine .inr ⟨key, value, user, rfl, rfl, ?_⟩
    intro failure hfailed
    cases hanswer : (h.put key value user).answer with
    | error cause => exact state_put_of_error hanswer
    | ok _ => simp [Shell.runSettings, hanswer] at hfailed

/-- A settings action leaves the session steady, and settled if it fails. -/
theorem Settled.ranSettings (h : Settled hides s) (clock : String) (json quiet : Bool)
    (action : SettingsAction) {ran : Panel → Outcome Panel (Except Failure String)}
    (hran : ran = fun p =>
      (Shell.runSettings p.hub json quiet action).mapState fun hub => { p with hub }) :
    Steady hides (s.onPanel clock ran).state ∧
      ∀ failure, (ran s.panel).answer = .error failure →
        Settled hides (s.onPanel clock ran).state := by
  have hhub : (ran s.panel).state =
      { s.panel with hub := (Shell.runSettings s.panel.hub json quiet action).state } := by
    rw [hran]
    rfl
  have hentries : (ran s.panel).journal =
      (Shell.runSettings s.panel.hub json quiet action).journal := by
    rw [hran]
    rfl
  rcases runSettings_cases s.panel.hub json quiet action with
    ⟨hstate, hjournal⟩ | ⟨key, value, user, hstate, hjournal, hfailed⟩
  · rw [hstate] at hhub
    rw [hjournal] at hentries
    have hsteady : Steady hides (s.onPanel clock ran).state := by
      refine h.toSteady.quietly clock ?_ ?_ ?_ ?_ ?_
      · rw [hhub]
        exact h.tracks
      · rw [hhub]
      · rw [hhub]
      · rw [hhub]
        exact h.brightness
      · rw [hentries]
        exact isQuiet_nil
    refine ⟨hsteady, fun _ _ => ⟨hsteady, ?_⟩⟩
    change (ran s.panel).state.hub.queue.pending = []
    rw [hhub]
    exact h.empty
  · rw [hstate] at hhub
    rw [hjournal] at hentries
    obtain ⟨hsteady, hsettled⟩ := h.put clock hhub hentries
    refine ⟨hsteady, ?_⟩
    intro failure hanswer
    rw [hran] at hanswer
    exact hsettled (hfailed failure hanswer)

/-- A write is followed by a pump, after which no event waits. -/
theorem Settled.runSettings (h : Settled hides s) (clock : String) (json quiet : Bool)
    (action : SettingsAction) :
    Settled hides (s.runSettings clock json quiet action).state := by
  obtain ⟨hsteady, hfailed⟩ := h.ranSettings clock json quiet action rfl
  unfold Session.runSettings
  rw [Outcome.state_andThen]
  split
  · next failure hanswer => exact hfailed failure hanswer
  · exact hsteady.pump clock

/-- A command line leaves a settled session settled, whatever comes of it. -/
theorem Settled.runArguments (h : Settled hides s) (e : Surroundings) (d : Disk)
    (words : List String) : Settled hides (s.runArguments e d words).session := by
  unfold Session.runArguments
  split
  · exact h
  · split
    · exact h
    · split
      · exact h
      · split
        · exact h
        · next r _ =>
          unfold runRequest
          split
          · exact h.apply e.clock _
          · exact h.runSettings e.clock r.json r.quiet _
          · exact h
          · exact h

end TilePanel.Shell.Session
