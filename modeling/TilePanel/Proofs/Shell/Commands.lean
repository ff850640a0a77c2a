import TilePanel.Proofs.Shell.Upkeep

/-!
What commands are made of: operations of the panel that bind nothing, deliveries of the events that
wait, changes that paint nothing, and texts that are set. What holds of these and can be composed
holds of every command.
-/

namespace TilePanel.Shell.Session

/-- A relation between a session and a later one that can be composed and holds of what commands are
made of. -/
structure Conduct (R : Session → Session → Prop) : Prop where
  refl : ∀ s, R s s
  trans : ∀ {s t u}, R s t → R t u → R s u
  operate : ∀ s clock op, IsPainting op → R s (s.operate clock op).state
  pump : ∀ s clock, R s (s.pump clock).state
  quietly : ∀ {α : Type} (s : Session) (clock : String) (f : Panel → Outcome Panel α),
    (f s.panel).state.slots = s.panel.slots → IsQuiet (f s.panel).journal →
    R s (s.onPanel clock f).state
  withText : ∀ s id text, R s (s.withText id text)

namespace Conduct

variable {R : Session → Session → Prop}

/-- Operations that only paint keep what painting keeps, one after the other. -/
theorem operateAll (hR : Conduct R) (clock : String) {ops : List Operation}
    (hops : ∀ op ∈ ops, IsPainting op) (s : Session) :
    R s (Session.operateAll clock ops s).state := by
  induction ops generalizing s with
  | nil => exact hR.refl s
  | cons op rest ih =>
    have hfirst := hR.operate s clock op (hops op List.mem_cons_self)
    rw [Session.operateAll, Outcome.state_andThen]
    cases (s.operate clock op).answer with
    | error failure => exact hfirst
    | ok _ => exact hR.trans hfirst (ih (fun other hother => hops other (.tail _ hother)) _)

theorem putInt (hR : Conduct R) (s : Session) (clock key : String) (value : Int32) :
    R s (s.putInt clock key value).state := by
  refine hR.quietly s clock (fun p =>
    (p.hub.putInt key value p.user).mapState fun hub => { p with hub }) rfl ?_
  exact isQuiet_of_isOfHub (s.panel.hub.evolves_put key (settingText value) s.panel.user).entries

/-- An action on the panel is made of operations, writes and switches. -/
theorem act (hR : Conduct R) (s : Session) (clock : String) (action : PanelAction) :
    R s (s.act clock action).state := by
  cases action with
  | display => exact hR.refl s
  | battery | user | certificate | resources =>
    exact hR.operate s clock _ fun _ _ => Operation.noConfusion
  | brightnessMode mode => exact hR.putInt s clock _ _
  | brightness value =>
    rw [Session.act]
    split
    · exact hR.putInt s clock _ _
    · exact hR.refl s
  | switchUser user =>
    exact hR.quietly s clock (fun p => p.switchUser user) (s.panel.slots_switchUser user)
      (s.panel.isQuiet_switchUser user)
  | refresh target => exact hR.operateAll clock (isPainting_refreshing target) s
  | string key text =>
    rw [Session.act]
    cases StringId.ofKey? key with
    | none => exact hR.refl s
    | some id =>
      exact hR.trans (hR.withText s id text) (hR.operate _ clock _ fun _ _ => Operation.noConfusion)

theorem apply (hR : Conduct R) (s : Session) (clock : String) (action : PanelAction) :
    R s (s.apply clock action).state := by
  have hact := hR.act s clock action
  unfold Session.apply
  rw [Outcome.state_andThen]
  cases (s.act clock action).answer with
  | error failure => exact hact
  | ok _ => exact hR.trans hact (hR.pump _ clock)

/-- An action on the settings is an operation on the hub, followed by its report. -/
theorem runSettings (hR : Conduct R) (s : Session) (clock : String) (json quiet : Bool)
    (action : SettingsAction) : R s (s.runSettings clock json quiet action).state := by
  let ran : Panel → Outcome Panel (Except Failure String) := fun p =>
    (Shell.runSettings p.hub json quiet action).mapState fun hub => { p with hub }
  have hquiet : IsQuiet (Shell.runSettings s.panel.hub json quiet action).journal := by
    rcases runSettings_cases s.panel.hub json quiet action with
      ⟨_, hjournal⟩ | ⟨key, value, user, _, hjournal, _⟩
    · rw [hjournal]
      exact isQuiet_nil
    · rw [hjournal]
      exact isQuiet_of_isOfHub (s.panel.hub.evolves_put key value user).entries
  have hran : R s (s.onPanel clock ran).state := hR.quietly s clock ran rfl hquiet
  unfold Session.runSettings
  rw [Outcome.state_andThen]
  split
  · exact hran
  · exact hR.trans hran (hR.pump _ clock)

theorem runRequest (hR : Conduct R) (s : Session) (e : Surroundings) (d : Disk) (r : Request) :
    R s (s.runRequest e d r).session := by
  unfold Session.runRequest
  split
  · exact hR.apply s e.clock _
  · exact hR.runSettings s e.clock r.json r.quiet _
  · exact hR.refl s
  · exact hR.refl s

/-- What holds of commands holds of lines that are refused as well: they leave the session alone. -/
theorem runArguments (hR : Conduct R) (s : Session) (e : Surroundings) (d : Disk)
    (words : List String) : R s (s.runArguments e d words).session := by
  unfold Session.runArguments
  split
  · exact hR.refl s
  · split
    · exact hR.refl s
    · split
      · exact hR.refl s
      · split
        · exact hR.refl s
        · exact hR.runRequest s e d _

end Conduct

end TilePanel.Shell.Session
