import TilePanel.Proofs.Panel.Bindings
import TilePanel.Proofs.Shell.Agreement
import TilePanel.Proofs.Shell.Appearance
import TilePanel.Proofs.World.Registrations

/-!
What stands in the way of a command, and what it leaves behind then. Since all tiles of a session are
bound, an action fails only if its value is out of range, if its key names no text, or if the store
fails. It finds that out before anything has changed, so that the session stays as it was, as it does
when a command only reads or is not understood. This holds whatever store the session is over, and
also if the store breaks, or is changed by others, between two commands.
-/

namespace TilePanel.Shell

def Command.onlyReads : Command → Bool
  | .panel .display | .settings (.get ..) | .settings (.list _) | .config _ | .shell => true
  | _ => false

/-- Whether arguments ask for no change of a session: there are none, they are about the shell
itself, they are refused, or their command only reads. -/
inductive AsksNothing : List String → Prop
  | empty : AsksNothing []
  | help (rest : List String) : AsksNothing ("help" :: rest)
  | exit (rest : List String) : AsksNothing ("exit" :: rest)
  | quit (rest : List String) : AsksNothing ("quit" :: rest)
  | refused {words : List String} {refusal : Refusal} (hparse : Request.parse words = .error refusal) :
    AsksNothing words
  | reading {words : List String} {r : Request} (hparse : Request.parse words = .ok r)
    (hreads : r.command.onlyReads = true) : AsksNothing words

def failure? {α : Type} : Except Error α → Option Failure
  | .ok _ => none
  | .error cause => some (.library cause)

theorem failure?_eq_some {α : Type} {x : Except Error α} {failure : Failure}
    (h : failure? x = some failure) : ∃ cause, x = .error cause ∧ failure = .library cause := by
  cases x with
  | ok value => cases h
  | error cause => exact ⟨cause, rfl, (Option.some.inj h).symm⟩

theorem failure?_eq_none {α : Type} {x : Except Error α} (h : failure? x = none) :
    ∃ value, x = .ok value := by
  cases x with
  | ok value => exact ⟨value, rfl⟩
  | error cause => cases h

def SettingsAction.obstacle? (store : SettingsStore) : SettingsAction → Option Failure
  | get key user => failure? (store.read key user)
  | put key value user => failure? (store.write key value user)
  | list user => failure? (store.list user)

/-- What stands in the way of an action on a panel whose tiles are bound. -/
def PanelAction.obstacle? (store : SettingsStore) (user : UserId) : PanelAction → Option Failure
  | brightnessMode mode => failure? (store.write Setting.mode (settingText mode.setting) user)
  | brightness value =>
    if 0 ≤ value ∧ value ≤ 255 then failure? (store.write Setting.level (settingText value) user)
    else some (.brightnessOutOfRange value)
  | string key _ => if StringId.ofKey? key = none then some (.stringUnknown key) else none
  | _ => none

namespace Session

variable {hides : Bool} {s : Session} {clock : String}

def obstacle? (s : Session) (e : Surroundings) (d : Disk) (r : Request) : Option Failure :=
  match r.command with
  | .panel action => action.obstacle? s.panel.hub.store s.panel.user
  | .settings action => action.obstacle? s.panel.hub.store
  | .config action =>
    match (runConfig e.config d (r.configFile.or e.configFile) r.json r.quiet action).answer with
    | .ok _ => none
    | .error failure => some failure
  | .shell => none

private theorem paint_nil (clock : String) (views : PerTile TextView) :
    paint clock [] views = views :=
  PerTile.ext_get fun kind => PerTile.get_ofFn _ kind

/-- What leaves the panel as it is and pushes nothing leaves the session as it is. -/
private theorem onPanel_of_still {α : Type} {f : Panel → Outcome Panel α} {answer : α}
    (hf : f s.panel = ⟨s.panel, answer, []⟩) : s.onPanel clock f = ⟨s, answer, []⟩ := by
  rw [onPanel, hf]
  simp only [paint_nil]

private theorem pump_of_empty (hempty : s.panel.hub.queue.pending = []) :
    s.pump clock = ⟨s, 0, []⟩ :=
  onPanel_of_still (Panel.drain_of_empty hempty)

private theorem pending_pump (s : Session) (clock : String) :
    (s.pump clock).state.panel.hub.queue.pending = [] :=
  s.panel.pending_drain

/-- Where all tiles are bound, no operation that binds nothing fails. -/
theorem answer_operate (hbound : ∀ kind, s.panel.isBound kind = true) {op : Operation}
    (hop : op.isBinding = false) : (s.operate clock op).answer = .ok () := by
  have hanswer : (op.run s.panel).answer = .ok () :=
    (op.answer_run hop s.panel).trans (Panel.verdict_of_isBound fun kind _ => hbound kind)
  change (op.run s.panel).answer.mapError Failure.library = .ok ()
  rw [hanswer]
  rfl

theorem isPainting_of_isBinding {op : Operation} (hop : op.isBinding = false) : IsPainting op := by
  rintro kind binding rfl
  cases hop

/-- Operations on a panel whose tiles are bound succeed. -/
theorem answer_operateAll {ops : List Operation} (hops : ∀ op ∈ ops, op.isBinding = false)
    (hbound : ∀ kind, s.panel.isBound kind = true) :
    (operateAll clock ops s).answer = .ok () := by
  induction ops generalizing s with
  | nil => rfl
  | cons op rest ih =>
    have hop := hops op List.mem_cons_self
    have hnext : ∀ kind, (s.operate clock op).state.panel.isBound kind = true := by
      intro kind
      change ((op.run s.panel).state.binding? kind).isSome = true
      rw [binding?_painting (isPainting_of_isBinding hop)]
      exact hbound kind
    rw [operateAll, Outcome.answer_andThen, answer_operate hbound hop]
    exact ih (fun other hother => hops other (List.mem_cons_of_mem _ hother)) hnext

/-- A write that the store refuses leaves no trace. -/
theorem putInt_of_failure {key : String} {value : Int32} {failure : Failure}
    (hwrite : failure? (s.panel.hub.store.write key (settingText value) s.panel.user) =
      some failure) : s.putInt clock key value = ⟨s, .error failure, []⟩ := by
  obtain ⟨cause, hrefused, rfl⟩ := failure?_eq_some hwrite
  let stored : Panel → Outcome Panel (Except Error Unit) := fun p =>
    (p.hub.putInt key value p.user).mapState fun hub => { p with hub }
  have hstored : stored s.panel = ⟨s.panel, .error cause, []⟩ := by
    simp only [stored, Hub.putInt, Hub.put_of_refused hrefused, Outcome.mapState]
  have hstill : s.onPanel clock stored = ⟨s, .error cause, []⟩ := onPanel_of_still hstored
  change (s.onPanel clock stored).mapAnswer _ = _
  rw [hstill]
  rfl

theorem answer_put {h : Hub} {key value : String} {user : UserId} {store : SettingsStore}
    (hwrite : h.store.write key value user = .ok store) :
    (h.put key value user).answer = .ok () := by
  simp only [Hub.put, Hub.putUsing, hwrite, Outcome.answer_after, Outcome.answer_mapAnswer]

theorem answer_putInt {key : String} {value : Int32}
    (hwrite : failure? (s.panel.hub.store.write key (settingText value) s.panel.user) = none) :
    (s.putInt clock key value).answer = .ok () := by
  obtain ⟨store, htaken⟩ := failure?_eq_none hwrite
  change (s.panel.hub.put key (settingText value) s.panel.user).answer.mapError _ = .ok ()
  rw [answer_put htaken]
  rfl

/-- An action that something stands in the way of leaves the session as it was. -/
theorem act_of_obstacle {action : PanelAction} {failure : Failure}
    (hobstacle : action.obstacle? s.panel.hub.store s.panel.user = some failure) :
    s.act clock action = ⟨s, .error failure, []⟩ := by
  cases action with
  | brightnessMode mode => exact putInt_of_failure hobstacle
  | brightness value =>
    simp only [PanelAction.obstacle?] at hobstacle
    rw [act]
    split at hobstacle
    · next hrange =>
      rw [if_pos hrange]
      exact putInt_of_failure hobstacle
    · next hrange =>
      rw [if_neg hrange, Option.some.inj hobstacle]
  | string key text =>
    simp only [PanelAction.obstacle?] at hobstacle
    split at hobstacle
    · next hkey =>
      rw [act, hkey, Option.some.inj hobstacle]
    · cases hobstacle
  | display | battery | user | certificate | switchUser | refresh | resources => cases hobstacle

/-- An action that nothing stands in the way of succeeds. -/
theorem answer_act (hbound : ∀ kind, s.panel.isBound kind = true) {action : PanelAction}
    (hclear : action.obstacle? s.panel.hub.store s.panel.user = none) :
    (s.act clock action).answer = .ok () := by
  have hoperate : ∀ op : Operation, op.isBinding = false →
      (s.operate clock op).answer = .ok () := fun _ hop => answer_operate hbound hop
  cases action with
  | display | switchUser => rfl
  | battery | user | certificate | resources => exact hoperate _ rfl
  | brightnessMode mode => exact answer_putInt hclear
  | brightness value =>
    simp only [PanelAction.obstacle?] at hclear
    split at hclear
    · next hrange =>
      rw [act, if_pos hrange]
      exact answer_putInt hclear
    · cases hclear
  | refresh target =>
    refine answer_operateAll ?_ hbound
    cases target <;> decide
  | string key text =>
    simp only [PanelAction.obstacle?] at hclear
    cases hkey : StringId.ofKey? key with
    | none => simp [hkey] at hclear
    | some id =>
      have hrebound : ∀ kind, (s.withText id text).panel.isBound kind = true := hbound
      simp only [act, hkey]
      exact answer_operate hrebound rfl

theorem apply_of_obstacle {action : PanelAction} {failure : Failure}
    (hobstacle : action.obstacle? s.panel.hub.store s.panel.user = some failure) :
    s.apply clock action = ⟨s, .error failure, []⟩ := by
  rw [apply, act_of_obstacle hobstacle]
  rfl

theorem apply_of_clear (hbound : ∀ kind, s.panel.isBound kind = true) {action : PanelAction}
    (hclear : action.obstacle? s.panel.hub.store s.panel.user = none) :
    (s.apply clock action).answer = .ok () ∧
      (s.apply clock action).state = ((s.act clock action).state.pump clock).state := by
  rw [apply, Outcome.answer_andThen, Outcome.state_andThen, answer_act hbound hclear]
  exact ⟨rfl, rfl⟩

/-- Nothing is done where something stands in the way. -/
theorem ranSettings_of_obstacle {h : Hub} (json quiet : Bool) {action : SettingsAction}
    {failure : Failure} (hobstacle : action.obstacle? h.store = some failure) :
    Shell.runSettings h json quiet action = ⟨h, .error failure, []⟩ := by
  cases action with
  | get key user | list user =>
    obtain ⟨cause, hfailed, rfl⟩ := failure?_eq_some hobstacle
    simp only [Shell.runSettings, hfailed]
  | put key value user =>
    obtain ⟨cause, hrefused, rfl⟩ := failure?_eq_some hobstacle
    rw [Shell.runSettings, Hub.put_of_refused hrefused]
    rfl

/-- Where nothing stands in the way, the action succeeds. -/
theorem ranSettings_of_clear {h : Hub} (json quiet : Bool) {action : SettingsAction}
    (hclear : action.obstacle? h.store = none) :
    ∃ text, (Shell.runSettings h json quiet action).answer = .ok text := by
  cases action with
  | get key user | list user =>
    obtain ⟨found, hfound⟩ := failure?_eq_none hclear
    simp only [Shell.runSettings, hfound, Except.ok.injEq, exists_eq']
  | put key value user =>
    obtain ⟨store, htaken⟩ := failure?_eq_none hclear
    simp only [Shell.runSettings, Outcome.answer_mapAnswer, answer_put htaken, Except.ok.injEq,
      exists_eq']

def settingsOn (json quiet : Bool) (action : SettingsAction) (p : Panel) :
    Outcome Panel (Except Failure String) :=
  (Shell.runSettings p.hub json quiet action).mapState fun hub => { p with hub }

/-- The session stays as it is, since the hub does. -/
theorem runSettings_of_obstacle (json quiet : Bool) {action : SettingsAction} {failure : Failure}
    (hobstacle : action.obstacle? s.panel.hub.store = some failure) :
    s.runSettings clock json quiet action = ⟨s, .error failure, []⟩ := by
  have hran : settingsOn json quiet action s.panel = ⟨s.panel, .error failure, []⟩ := by
    rw [settingsOn, ranSettings_of_obstacle json quiet hobstacle]
    rfl
  have hstill : s.onPanel clock (settingsOn json quiet action) = ⟨s, .error failure, []⟩ :=
    onPanel_of_still hran
  unfold settingsOn at hstill
  unfold Session.runSettings
  rw [hstill]
  rfl

/-- A settings action that nothing stands in the way of succeeds, and what it causes is delivered. -/
theorem runSettings_of_clear (json quiet : Bool) {action : SettingsAction}
    (hclear : action.obstacle? s.panel.hub.store = none) :
    (∃ text, (s.runSettings clock json quiet action).answer = .ok text) ∧
      (s.runSettings clock json quiet action).state =
        ((s.onPanel clock (settingsOn json quiet action)).state.pump clock).state := by
  obtain ⟨text, htext⟩ := ranSettings_of_clear json quiet hclear
  have hanswer : (s.onPanel clock (settingsOn json quiet action)).answer = .ok text := htext
  unfold settingsOn at hanswer ⊢
  unfold Session.runSettings
  rw [Outcome.answer_andThen, Outcome.state_andThen, hanswer]
  exact ⟨⟨_, rfl⟩, rfl⟩

/-- A settings action that only reads leaves the panel as it is. -/
theorem settingsOn_of_reads (json quiet : Bool) {action : SettingsAction}
    (hreads : (Command.settings action).onlyReads = true) :
    ∃ answer, settingsOn json quiet action s.panel = ⟨s.panel, answer, []⟩ := by
  cases action with
  | put key value user => cases hreads
  | get key user =>
    unfold settingsOn Shell.runSettings
    dsimp only
    split <;> exact ⟨_, rfl⟩
  | list user =>
    unfold settingsOn Shell.runSettings
    dsimp only
    split <;> exact ⟨_, rfl⟩

/-- A request that something stands in the way of tells so and leaves the session as it was. -/
theorem runRequest_of_obstacle {e : Surroundings} {d : Disk} {r : Request} {failure : Failure}
    (hobstacle : s.obstacle? e d r = some failure) :
    (s.runRequest e d r).session = s ∧ (s.runRequest e d r).answer = .error failure := by
  unfold obstacle? at hobstacle
  unfold runRequest
  cases hcommand : r.command with
  | panel action =>
    rw [hcommand] at hobstacle
    dsimp only
    rw [runPanel, apply_of_obstacle hobstacle]
    exact ⟨rfl, rfl⟩
  | settings action =>
    rw [hcommand] at hobstacle
    dsimp only
    rw [runSettings_of_obstacle r.json r.quiet hobstacle]
    exact ⟨rfl, rfl⟩
  | config action =>
    rw [hcommand] at hobstacle
    refine ⟨rfl, ?_⟩
    dsimp only at hobstacle ⊢
    split at hobstacle
    · cases hobstacle
    · next other hanswer =>
      rw [hanswer, Option.some.inj hobstacle]
      rfl
  | shell =>
    rw [hcommand] at hobstacle
    cases hobstacle

/-- What holds of a session between two commands, whatever has become of its store: all tiles are
bound and painted, and no event waits. -/
structure Ready (hides : Bool) (s : Session) : Prop extends Presented hides s where
  empty : s.panel.hub.queue.pending = []

/-- A request that only reads leaves the session as it was. -/
theorem Ready.runRequest_of_reads (h : Ready hides s) (e : Surroundings) (d : Disk) {r : Request}
    (hreads : r.command.onlyReads = true) : (s.runRequest e d r).session = s := by
  unfold runRequest
  cases hcommand : r.command with
  | panel action =>
    rw [hcommand] at hreads
    cases action with
    | display =>
      change (s.pump e.clock).state = s
      rw [pump_of_empty h.empty]
    | _ => cases hreads
  | settings action =>
    rw [hcommand] at hreads
    obtain ⟨answer, hran⟩ := settingsOn_of_reads r.json r.quiet hreads
    have hstill : s.onPanel e.clock (settingsOn r.json r.quiet action) = ⟨s, answer, []⟩ :=
      onPanel_of_still hran
    change (s.runSettings e.clock r.json r.quiet action).state = s
    unfold settingsOn at hstill
    unfold Session.runSettings
    rw [hstill, Outcome.state_andThen]
    cases answer with
    | error failure => rfl
    | ok text =>
      change (s.pump e.clock).state = s
      rw [pump_of_empty h.empty]
  | config action => rfl
  | shell => rfl

/-- A request that nothing stands in the way of succeeds. -/
theorem Ready.answer_runRequest (h : Ready hides s) {e : Surroundings} {d : Disk} {r : Request}
    (hclear : s.obstacle? e d r = none) : (s.runRequest e d r).answer = .ok true := by
  unfold obstacle? at hclear
  unfold runRequest
  cases hcommand : r.command with
  | panel action =>
    rw [hcommand] at hclear
    change ((s.apply e.clock action).answer.map _).map _ = _
    rw [(apply_of_clear h.bound hclear).1]
    rfl
  | settings action =>
    rw [hcommand] at hclear
    obtain ⟨text, hanswer⟩ := (runSettings_of_clear r.json r.quiet hclear).1
    change (s.runSettings e.clock r.json r.quiet action).answer.map _ = _
    rw [hanswer]
    rfl
  | config action =>
    rw [hcommand] at hclear
    dsimp only at hclear ⊢
    split at hclear
    · next text hanswer =>
      rw [hanswer]
      rfl
    · cases hclear
  | shell => rfl

/-- No request leaves an event behind. -/
theorem Ready.pending_runRequest (h : Ready hides s) (e : Surroundings) (d : Disk) (r : Request) :
    (s.runRequest e d r).session.panel.hub.queue.pending = [] := by
  cases hobstacle : s.obstacle? e d r with
  | some failure =>
    rw [(runRequest_of_obstacle hobstacle).1]
    exact h.empty
  | none =>
    unfold obstacle? at hobstacle
    unfold runRequest
    cases hcommand : r.command with
    | panel action =>
      rw [hcommand] at hobstacle
      change (s.apply e.clock action).state.panel.hub.queue.pending = []
      rw [(apply_of_clear h.bound hobstacle).2]
      exact pending_pump _ _
    | settings action =>
      rw [hcommand] at hobstacle
      change (s.runSettings e.clock r.json r.quiet action).state.panel.hub.queue.pending = []
      rw [(runSettings_of_clear r.json r.quiet hobstacle).2]
      exact pending_pump _ _
    | config action => exact h.empty
    | shell => exact h.empty

theorem Ready.runRequest (h : Ready hides s) (e : Surroundings) (d : Disk) (r : Request) :
    Ready hides (s.runRequest e d r).session :=
  ⟨(conduct_presented hides).runRequest s e d r h.toPresented, h.pending_runRequest e d r⟩

/-- Words about the shell itself are no request. -/
theorem parse_ne_ok {first : String} (hfirst : first = "help" ∨ first = "exit" ∨ first = "quit")
    (rest : List String) (r : Request) : Request.parse (first :: rest) ≠ .ok r := by
  have hscan : ∃ refusal, scan rootLevel {} (first :: rest) = .error refusal := by
    rcases hfirst with rfl | rfl | rfl
    · exact ⟨_, rfl⟩
    · exact ⟨_, rfl⟩
    · exact ⟨_, rfl⟩
  obtain ⟨refusal, hscan⟩ := hscan
  rw [Request.parse, hscan]
  exact nofun

theorem runArguments_of_parse {words : List String} {r : Request}
    (hparse : Request.parse words = .ok r) (e : Surroundings) (d : Disk) :
    s.runArguments e d words = s.runRequest e d r := by
  cases words with
  | nil => cases hparse
  | cons first rest =>
    have hhelp : first ≠ "help" := fun h => parse_ne_ok (.inl h) rest r hparse
    have hstop : ¬(first = "exit" ∨ first = "quit") := fun h => parse_ne_ok (.inr h) rest r hparse
    rw [runArguments, if_neg hhelp, if_neg hstop, hparse]

/-- Words that are no request change nothing. -/
theorem session_of_no_request {words : List String} (hparse : ∀ r, Request.parse words ≠ .ok r)
    (e : Surroundings) (d : Disk) : (s.runArguments e d words).session = s := by
  unfold runArguments
  split
  · rfl
  · split
    · rfl
    · split
      · rfl
      · split
        · rfl
        · next r hrequest => exact absurd hrequest (hparse r)

/-- Arguments that ask for no change get none. -/
theorem Ready.session_of_asksNothing (h : Ready hides s) (e : Surroundings) (d : Disk)
    {words : List String} (hwords : AsksNothing words) :
    (s.runArguments e d words).session = s := by
  cases hwords with
  | empty => rfl
  | help rest => exact session_of_no_request (parse_ne_ok (.inl rfl) rest) e d
  | exit rest => exact session_of_no_request (parse_ne_ok (.inr (.inl rfl)) rest) e d
  | quit rest => exact session_of_no_request (parse_ne_ok (.inr (.inr rfl)) rest) e d
  | refused hparse =>
    refine session_of_no_request (fun r hr => ?_) e d
    rw [hparse] at hr
    cases hr
  | reading hparse hreads =>
    rw [runArguments_of_parse hparse]
    exact h.runRequest_of_reads e d hreads

/-- The answer to a request tells what stands in its way. -/
theorem Ready.answer_runRequest_eq (h : Ready hides s) (e : Surroundings) (d : Disk) (r : Request) :
    (s.runRequest e d r).answer = (s.obstacle? e d r).elim (.ok true) .error := by
  cases hobstacle : s.obstacle? e d r with
  | none => exact h.answer_runRequest hobstacle
  | some failure => exact (runRequest_of_obstacle hobstacle).2

/-- A command that fails has changed nothing. -/
theorem Ready.session_of_error (h : Ready hides s) {e : Surroundings} {d : Disk}
    {words : List String} {failure : Failure}
    (hfailed : (s.runArguments e d words).answer = .error failure) :
    (s.runArguments e d words).session = s := by
  cases hparse : Request.parse words with
  | error refusal => exact h.session_of_asksNothing e d (.refused hparse)
  | ok r =>
    rw [runArguments_of_parse hparse] at hfailed ⊢
    cases hobstacle : s.obstacle? e d r with
    | some other => exact (runRequest_of_obstacle hobstacle).1
    | none =>
      rw [h.answer_runRequest hobstacle] at hfailed
      cases hfailed

theorem Ready.runArguments (h : Ready hides s) (e : Surroundings) (d : Disk)
    (words : List String) : Ready hides (s.runArguments e d words).session := by
  cases hparse : Request.parse words with
  | error refusal =>
    rw [h.session_of_asksNothing e d (.refused hparse)]
    exact h
  | ok r =>
    rw [runArguments_of_parse hparse]
    exact h.runRequest e d r

def withStore (s : Session) (store : SettingsStore) : Session :=
  { s with panel := { s.panel with hub := { s.panel.hub with store } } }

/-- What a session goes through: its commands, and changes of its store that are not its own. -/
inductive Moment
  | order (o : Order)
  | store (store : SettingsStore)

def live (s : Session) : Moment → Session
  | .order o => s.obey o
  | .store store => s.withStore store

def liveAll (s : Session) (moments : List Moment) : Session :=
  moments.foldl live s

/-- A store that changes meanwhile takes nothing from the tiles and posts nothing. -/
theorem Ready.live (h : Ready hides s) (moment : Moment) : Ready hides (s.live moment) := by
  cases moment with
  | store store =>
    exact ⟨⟨⟨h.user, h.battery, h.brightness, h.bindings, h.labels, h.views⟩, h.bound⟩, h.empty⟩
  | order o =>
    change Ready hides (s.obey o)
    unfold Session.obey
    cases o.command with
    | inl words => exact h.runArguments _ _ words
    | inr r => exact h.runRequest _ _ r

theorem Ready.liveAll (h : Ready hides s) (moments : List Moment) :
    Ready hides (s.liveAll moments) := by
  induction moments generalizing s with
  | nil => exact h
  | cons moment rest ih => exact ih (h.live moment)

theorem ready_new (c : Config) (store : SettingsStore) (clock : String) :
    Ready c.panel.hidesWarning (Session.new c store clock).state where
  toPresented := presented_new c store clock
  empty := (settled_new c store clock).empty

/-- A command that fails, and arguments that ask for no change, leave the session exactly as it was,
whatever happened to it and to its store before; and what fails is what something stands in the way
of. No event is ever left waiting for the next command. -/
theorem refused_without_trace (c : Config) (store : SettingsStore) (clock : String)
    (moments : List Moment) (e : Surroundings) (d : Disk) (words : List String) :
    let s := (Session.new c store clock).state.liveAll moments
    let t := s.runArguments e d words
    ((∃ failure, t.answer = .error failure) ∨ AsksNothing words → t.session = s) ∧
      (∀ r, Request.parse words = .ok r →
        t.answer = (s.obstacle? e d r).elim (.ok true) .error) ∧
      s.panel.hub.queue.pending = [] ∧ t.session.panel.hub.queue.pending = [] := by
  intro s t
  have hs : Ready c.panel.hidesWarning s := (ready_new c store clock).liveAll moments
  refine ⟨?_, ?_, hs.empty, (hs.runArguments e d words).empty⟩
  · rintro (⟨failure, hfailed⟩ | hwords)
    · exact hs.session_of_error hfailed
    · exact hs.session_of_asksNothing e d hwords
  · intro r hparse
    change (s.runArguments e d words).answer = _
    rw [runArguments_of_parse hparse]
    exact hs.answer_runRequest_eq e d r

/-! A brightness out of range is refused before it is found that the store takes nothing. -/

example (e : Surroundings) (d : Disk) :
    ([300, 7].map fun value => (new {} (.readOnly {}) "").state.obstacle? e d
      { command := .panel (.brightness value) }) =
      [some (.brightnessOutOfRange 300), some (.library (.database .readOnly))] := by
  rfl

end Session

end TilePanel.Shell
