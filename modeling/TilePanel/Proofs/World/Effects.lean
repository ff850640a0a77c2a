import TilePanel.Proofs.Hub.Demands
import TilePanel.Proofs.Panel.Tracking
import TilePanel.World.Step

/-!
What the steps of a world do to it. Most steps ask something, or ask for a part that is gone, and
change nothing; the others have one of a few effects. What is known of all steps is proved by cases
on their effects: `leads_step` is the one place that looks at every step.
-/

namespace TilePanel

theorem SettingsStore.not_reading_readIntNotices (s : SettingsStore) (key : String)
    (fallback : Int32) (user : UserId) {owner : UserId} {mode : BrightnessMode} {level : Int32} :
    .brightnessRead owner mode level ∉ s.readIntNotices key fallback user := by
  unfold readIntNotices
  split
  · split <;> simp
  · simp
  · simp

/-- How brightness watches, with those who hold them, come and go. -/
inductive Tending
  | dropModel
  | close
  | newWatch (name : String)
  | startWatch (name : String) (user : UserId)
  | dropWatch (name : String)

inductive Effect
  | nothing
  | demand (d : Hub.Demand)
  /-- The store is changed from outside. -/
  | restore (store : SettingsStore)
  | retext (catalog : Catalog)
  | switchUser (user : UserId)
  /-- The first event that waits is taken. -/
  | take
  | drain
  | operate (op : Operation)
  | dropQueue
  | reopen
  | tend (t : Tending)

/-- An effect that needs something that may be missing. -/
def Effect.onlyIf (present : Bool) (e : Effect) : Effect :=
  if present then e else nothing

theorem Effect.apply_onlyIf {α : Type} (f : Effect → α) (present : Bool) (e : Effect) :
    f (e.onlyIf present) = if present then f e else f nothing := by
  cases present <;> rfl

namespace World

def tend (w : World) : Tending → World
  | .dropModel => w.dropModel
  | .close => w.close
  | .newWatch name => w.newWatch name
  | .startWatch name user => (w.startWatch name user).state
  | .dropWatch name => w.dropLoneWatches name

def effect (w : World) : Step → Effect
  | .put key value user => .demand (.put key value user)
  | .putInt key value user => .demand (.put key (settingText value) user)
  | .notify key user => .demand (.notify key user)
  | .watch name keys scope responses => .demand (.watch name keys scope responses)
  | .unwatch name => .demand (.unwatch name)
  | .send event =>
    ((Effect.demand (.send event)).onlyIf w.panel.hub.queue.isOpen).onlyIf w.hasSender
  | .replaceRow row => .restore (w.changeTable fun t => t.replace row).1.panel.hub.store
  | .dropTable => .restore w.dropTable.1.panel.hub.store
  | .setText id text => .retext (w.panel.catalog.set id text)
  | .clearText id => .retext (w.panel.catalog.clear id)
  | .switchUser user => (Effect.switchUser user).onlyIf w.hasTracker
  | .tryNext | .next =>
    (Effect.take.onlyIf (!w.panel.hub.queue.pending.isEmpty)).onlyIf w.panel.hub.queue.isOpen
  | .drain => (Effect.drain.onlyIf w.hasModel).onlyIf w.panel.hub.queue.isOpen
  | .operate op => (Effect.operate op).onlyIf w.hasModel
  | .dropQueue => .dropQueue
  | .reopen _ => .reopen
  | .dropModel => .tend .dropModel
  | .close => .tend .close
  | .newWatch name => (Effect.tend (.newWatch name)).onlyIf w.hasSender
  | .startWatch name user => .tend (.startWatch name user)
  | .dropWatch name => .tend (.dropWatch name)
  | .read .. | .readInt .. | .list _ | .countRegistrations | .text _ | .currentUser
  | .watchedUser _ | .record _ | .records | .isBound _ | .observedUser | .watchedKeys => .nothing

/-- How an effect leads from one world to the next, and what is noted meanwhile. -/
inductive Leads (w : World) : Effect → List Activity → World → Prop
  | nothing {journal} (hquiet : IsQuiet journal) : Leads w .nothing journal w
  | demand (d : Hub.Demand) : Leads w (.demand d) (d.run w.panel.hub).journal
      { w with panel := { w.panel with hub := (d.run w.panel.hub).state } }
  | restore (store : SettingsStore) : Leads w (.restore store) [] (w.withStore store)
  | retext (catalog : Catalog) : Leads w (.retext catalog) [] (w.withCatalog catalog)
  | switchUser (htracker : w.hasTracker = true) (user : UserId) :
    Leads w (.switchUser user) (w.panel.switchUser user).journal
      { w with panel := (w.panel.switchUser user).state }
  | take {e rest} (hpending : w.panel.hub.queue.pending = e :: rest) :
    Leads w .take [.taken e] { w with panel := w.panel.withPending rest }
  | drain (hopen : w.panel.hub.queue.isOpen = true) (hmodel : w.hasModel = true) :
    Leads w .drain (w.onModel Panel.drain).journal (w.onModel Panel.drain).state
  | operate (hmodel : w.hasModel = true) (op : Operation) :
    Leads w (.operate op) (w.onModel op.run).journal (w.onModel op.run).state
  | dropQueue : Leads w .dropQueue [] w.dropQueue
  | reopen {journal} (hquiet : IsQuiet journal) : Leads w .reopen journal w.reopen
  | tend (t : Tending) {journal} (hquiet : IsQuiet journal) : Leads w (.tend t) journal (w.tend t)

private theorem leads_needing {w : World} {e : Effect} {o : Outcome World Answer} {present : Bool}
    (part : Part) (h : present = true → w.Leads e o.journal o.state) :
    w.Leads (e.onlyIf present) (w.needing present part o).journal
      (w.needing present part o).state := by
  cases present with
  | true => exact h rfl
  | false => exact .nothing isQuiet_nil

/-- A step that takes the first event, if there is one. -/
private theorem leads_taking {w : World} {o : Outcome World Answer}
    (hempty : w.panel.hub.queue.pending = [] → o.state = w ∧ o.journal = [])
    (hwaiting : ∀ e rest, w.panel.hub.queue.pending = e :: rest →
      o.state = { w with panel := w.panel.withPending rest } ∧ o.journal = [.taken e]) :
    w.Leads (Effect.take.onlyIf (!w.panel.hub.queue.pending.isEmpty)) o.journal o.state := by
  cases hpending : w.panel.hub.queue.pending with
  | nil =>
    obtain ⟨hstate, hjournal⟩ := hempty hpending
    rw [hstate, hjournal]
    exact .nothing isQuiet_nil
  | cons e rest =>
    obtain ⟨hstate, hjournal⟩ := hwaiting e rest hpending
    rw [hstate, hjournal]
    exact .take hpending

/-- The effect of a step is what the step does. -/
theorem leads_step (w : World) (s : Step) :
    w.Leads (w.effect s) (w.step s).journal (w.step s).state := by
  cases s with
  | put key value user => exact .demand (.put key value user)
  | putInt key value user => exact .demand (.put key (settingText value) user)
  | notify key user => exact .demand (.notify key user)
  | watch name keys scope responses => exact .demand (.watch name keys scope responses)
  | unwatch name => exact .demand (.unwatch name)
  | send event =>
    refine leads_needing .sender fun _ => ?_
    cases w.panel.hub.queue.isOpen with
    | true => exact .demand (.send event)
    | false => exact .nothing isQuiet_nil
  | replaceRow row =>
    have hstate : (w.step (.replaceRow row)).state =
        w.withStore (w.changeTable fun t => t.replace row).1.panel.hub.store := by
      simp only [step, peek, changeTable]
      split <;> rfl
    rw [hstate]
    exact .restore _
  | dropTable =>
    have hstate : (w.step .dropTable).state = w.withStore w.dropTable.1.panel.hub.store := by
      simp only [step, peek, World.dropTable]
      split <;> rfl
    rw [hstate]
    exact .restore _
  | setText | clearText => exact .retext _
  | switchUser user => exact leads_needing .tracker fun htracker => .switchUser htracker user
  | tryNext =>
    refine leads_needing .queue fun _ => leads_taking (fun hpending => ?_) fun e rest hpending => ?_
    · rw [Panel.takeEvent_of_empty hpending]
      exact ⟨rfl, rfl⟩
    · rw [Panel.takeEvent_of_waiting hpending]
      exact ⟨rfl, rfl⟩
  | next =>
    refine leads_needing .queue fun _ => leads_taking (fun hpending => ?_) fun e rest hpending => ?_
    · rw [takeNext, Panel.takeEvent_of_empty hpending]
      exact ⟨rfl, rfl⟩
    · rw [takeNext, Panel.takeEvent_of_waiting hpending]
      exact ⟨rfl, rfl⟩
  | drain =>
    exact leads_needing .queue fun hopen => leads_needing .model fun hmodel => .drain hopen hmodel
  | operate op => exact leads_needing .model fun hmodel => .operate hmodel op
  | dropQueue => exact .dropQueue
  | reopen path => exact .reopen (isQuiet_singleton rfl rfl)
  | dropModel => exact .tend .dropModel isQuiet_nil
  | close => exact .tend .close isQuiet_nil
  | newWatch name => exact leads_needing .sender fun _ => .tend (.newWatch name) isQuiet_nil
  | startWatch name user =>
    refine .tend (.startWatch name user) ?_
    simp only [step, startWatch, onHub]
    split
    · exact isQuiet_nil
    · split <;> exact isQuiet_singleton rfl rfl
  | dropWatch name => exact .tend (.dropWatch name) isQuiet_nil
  | readInt key fallback user =>
    refine .nothing (isQuiet_append (isQuiet_report ?_) isQuiet_nil)
    intro n hn
    cases n with
    | brightnessRead => exact absurd hn (SettingsStore.not_reading_readIntNotices _ _ _ _)
    | _ => rfl
  | currentUser | record | records | isBound | observedUser | watchedKeys =>
    simp only [step, needing, peek]
    split <;> exact .nothing isQuiet_nil
  | read | list | countRegistrations | text | watchedUser => exact .nothing isQuiet_nil

/-! Tending the watches changes registrations, and who holds them. -/

/-- Something on the hub changes the hub and the attic only. -/
theorem state_onHub {α : Type} (w : World) (d : Bool) (f : Hub → Outcome Hub α) :
    ∃ hub attic, (w.onHub d f).state = { w with panel := { w.panel with hub }, attic } ∧
      ((∀ h, (f h).state.queue = h.queue) → hub.queue = w.panel.hub.queue) := by
  cases d <;> exact ⟨_, _, rfl, fun hf => hf _⟩

theorem state_releaseWatch (w : World) (v : BrightnessWatch) (d : Bool) :
    ∃ hub attic, w.releaseWatch v d = { w with panel := { w.panel with hub }, attic } ∧
      hub.queue = w.panel.hub.queue := by
  obtain ⟨hub, attic, hstate, hqueue⟩ :=
    w.state_onHub d fun h => (⟨v.release h, (), []⟩ : Outcome Hub Unit)
  exact ⟨hub, attic, hstate, hqueue fun _ => BrightnessWatch.queue_release ..⟩

theorem state_foldl_releaseWatch (ls : List LoneWatch) (w : World) :
    ∃ hub attic, ls.foldl (fun w l => w.releaseWatch l.watch l.isDetached) w =
      { w with panel := { w.panel with hub }, attic } ∧ hub.queue = w.panel.hub.queue := by
  induction ls generalizing w with
  | nil => exact ⟨_, _, rfl, rfl⟩
  | cons l rest ih =>
    obtain ⟨hub, attic, hfirst, hqueue⟩ := w.state_releaseWatch l.watch l.isDetached
    obtain ⟨hub', attic', hrest, hqueue'⟩ := ih (w.releaseWatch l.watch l.isDetached)
    refine ⟨hub', attic', ?_, ?_⟩
    · rw [List.foldl_cons, hrest, hfirst]
    · rw [hqueue', hfirst]
      exact hqueue

/-- The tiles, the user and the queue are as they were. -/
structure KeepsScene (w w' : World) : Prop where
  slots : w'.panel.slots = w.panel.slots
  user : w'.panel.user = w.panel.user
  queue : w'.panel.hub.queue = w.panel.hub.queue

/-- Tending the watches leaves the scene alone, and the tracker too unless everything is closed. -/
theorem keepsScene_tend (w : World) (t : Tending) :
    w.KeepsScene (w.tend t) ∧ (t ≠ .close → (w.tend t).hasTracker = w.hasTracker) := by
  cases t with
  | dropModel =>
    obtain ⟨hub, attic, hstate, hqueue⟩ := w.state_releaseWatch w.panel.watch w.isDetached
    rw [tend, dropModel, hstate]
    exact ⟨⟨rfl, rfl, hqueue⟩, fun _ => rfl⟩
  | close =>
    obtain ⟨hub, attic, hstate, hqueue⟩ := w.state_releaseWatch w.panel.watch w.isDetached
    obtain ⟨hub', attic', hall, hqueue'⟩ :=
      state_foldl_releaseWatch w.dropModel.loneWatches w.dropModel
    simp only [tend, close, dropAllLoneWatches, hall]
    rw [dropModel, hstate] at hqueue' ⊢
    exact ⟨⟨rfl, rfl, hqueue'.trans hqueue⟩, fun h => absurd rfl h⟩
  | newWatch name | dropWatch name =>
    obtain ⟨hub, attic, hstate, hqueue⟩ :=
      state_foldl_releaseWatch (w.loneWatches.filter fun l => l.name == name) w
    simp only [tend, newWatch, dropLoneWatches]
    rw [hstate]
    exact ⟨⟨rfl, rfl, hqueue⟩, fun _ => rfl⟩
  | startWatch name user =>
    rw [tend, startWatch]
    cases w.loneWatches.find? (fun l => l.name == name) with
    | none => exact ⟨⟨rfl, rfl, rfl⟩, fun _ => rfl⟩
    | some l =>
      obtain ⟨hub, attic, hstate, hqueue⟩ :=
        w.state_onHub l.isDetached fun h => l.watch.start h user
      dsimp only
      rw [hstate]
      exact ⟨⟨rfl, rfl, hqueue fun h => by simp [BrightnessWatch.start]⟩, fun _ => rfl⟩

end World

end TilePanel
