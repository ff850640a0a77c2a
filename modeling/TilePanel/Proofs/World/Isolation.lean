import Mathlib.Data.List.Infix
import TilePanel.Proofs.Panel.Hiding
import TilePanel.Proofs.World.Freshness

/-!
Users are kept apart. A run in which nobody but the watch of the panel listens is the same with the
writes for a user and without them, unless that user is the current one at some moment: the same
records are pushed, every other step answers the same, and the same is recorded in the end. The two
runs are compared step by step over the stores without the settings of that user.
-/

namespace TilePanel

theorem UserId.not_covers_iff (a b : UserId) :
    a.covers b = false ↔ a ≠ .everyone ∧ b ≠ .everyone ∧ a ≠ b := by
  simp [covers, and_assoc]

namespace Step

def writesFor (user : UserId) : Step → Bool
  | put _ _ owner | putInt _ _ owner => owner == user
  | replaceRow row => row.user == user
  | _ => false

def readsFor (user : UserId) : Step → Bool
  | read _ owner | readInt _ _ owner | list owner => owner == user
  | _ => false

/-- Whether a step has to do with the settings of a user only. -/
def isAbout (user : UserId) (s : Step) : Bool :=
  s.writesFor user || s.readsFor user

def dropWrites (user : UserId) (steps : List Step) : List Step :=
  steps.filter fun s => !s.writesFor user

/-- Whether a step makes no listener, and does not open the store again. -/
def keepsAlone : Step → Bool
  | watch .. | newWatch _ | startWatch .. | reopen _ => false
  | _ => true

end Step

/-- Whether an effect makes no listener and leaves the rows of the store in order. -/
def Effect.KeepsAlone : Effect → Prop
  | demand (.watch ..) | tend (.newWatch _) | tend (.startWatch ..) | reopen => False
  | restore store => store.Ordered
  | _ => True

namespace World

variable {hidden : UserId} {w w' : World}

def without (hidden : UserId) (w : World) : World :=
  { w with panel := w.panel.without hidden }

/-- Whether nobody but the watch of the panel listens, and that watch does not hear of a user. -/
structure Alone (hidden : UserId) (w : World) : Prop where
  attached : w.isDetached = false
  unwatched : w.loneWatches = []
  deaf : w.panel.hub.Deaf hidden

private theorem dropLoneWatches_of_none (h : w.loneWatches = []) (name : String) :
    w.dropLoneWatches name = w := by
  cases w
  subst h
  rfl

private theorem dropAllLoneWatches_of_none (h : w.loneWatches = []) : w.dropAllLoneWatches = w := by
  cases w
  subst h
  rfl

/-- A row that is replaced is put in its place, so that the table stays in order. -/
theorem keepsAlone_effect (hordered : w.panel.hub.store.Ordered) {s : Step}
    (hs : s.keepsAlone = true) : (w.effect s).KeepsAlone := by
  cases s with
  | watch | newWatch | startWatch | reopen => cases hs
  | replaceRow row =>
    simp only [effect, changeTable]
    split
    · next t hstore =>
      rw [hstore] at hordered
      exact SettingsTable.ordered_place hordered
    · exact hordered
  | dropTable =>
    simp only [effect, World.dropTable]
    split
    · exact trivial
    · exact hordered
  | send | switchUser | tryNext | next | drain | operate =>
    simp only [effect, Effect.apply_onlyIf Effect.KeepsAlone]
    simp [Effect.KeepsAlone]
  | _ => exact trivial

namespace Alone

theorem of_panel {panel : Panel} (h : w.Alone hidden) (hshields : panel.Shields hidden) :
    ({ w with panel } : World).Alone hidden :=
  ⟨h.attached, h.unwatched, hshields.deaf⟩

theorem of_hub {hub : Hub} (h : w.Alone hidden) (hdeaf : hub.Deaf hidden) :
    ({ w with panel := { w.panel with hub } } : World).Alone hidden :=
  ⟨h.attached, h.unwatched, hdeaf⟩

theorem dropModel (h : w.Alone hidden) : w.dropModel.Alone hidden := by
  rw [dropModel_of_attached h.attached]
  exact ⟨h.attached, h.unwatched, h.deaf.release w.panel.watch⟩

theorem close (h : w.Alone hidden) : w.close.Alone hidden := by
  have hdropped := h.dropModel
  rw [World.close, dropAllLoneWatches_of_none hdropped.unwatched]
  exact ⟨hdropped.attached, hdropped.unwatched, hdropped.deaf⟩

theorem demand (h : w.Alone hidden) {d : Hub.Demand} (hd : (Effect.demand d).KeepsAlone) :
    ({ w with panel := { w.panel with hub := (d.run w.panel.hub).state } } : World).Alone
      hidden := by
  refine h.of_hub ?_
  cases d with
  | watch => exact hd.elim
  | put key value user => exact h.deaf.put key value user
  | notify key user => exact h.deaf.notify key user
  | send event => exact { h.deaf with }
  | unwatch name =>
    have hnobody : w.panel.hub.unwatch name = (w.panel.hub, false) := by
      simp [Hub.unwatch, Hub.idOf?, h.deaf.watchers]
    rw [Hub.Demand.run, hnobody]
    exact h.deaf

/-- The watch is moved to the current user only, who does not cover the hidden one. -/
theorem of_leads {e : Effect} {journal : List Activity} (h : w.Alone hidden)
    (huser : w.panel.user.covers hidden = false) (hleads : w.Leads e journal w')
    (he : e.KeepsAlone) : w'.Alone hidden := by
  have hshields : w.panel.Shields hidden := ⟨h.deaf, huser⟩
  cases hleads with
  | reopen => exact he.elim
  | nothing => exact h
  | demand d => exact h.demand he
  | restore store => exact h.of_hub { h.deaf with ordered := he }
  | retext => exact ⟨h.attached, h.unwatched, h.deaf⟩
  | switchUser _ user =>
    obtain ⟨queue, hstate⟩ := w.panel.exists_queue_switchUser user
    rw [hstate]
    exact ⟨h.attached, h.unwatched, { h.deaf with }⟩
  | take | dropQueue => exact h.of_hub { h.deaf with }
  | drain =>
    rw [onModel_of_attached h.attached]
    exact h.of_panel hshields.drain
  | operate _ op =>
    rw [onModel_of_attached h.attached]
    exact h.of_panel (hshields.operate op)
  | tend t =>
    cases t with
    | newWatch | startWatch => exact he.elim
    | dropModel => exact h.dropModel
    | close => exact h.close
    | dropWatch name =>
      rw [tend, dropLoneWatches_of_none h.unwatched]
      exact h

/-- A step leaves the panel alone, if the watch is not started on a user who covers the hidden one. -/
theorem step (h : w.Alone hidden) (huser : w.panel.user.covers hidden = false) {s : Step}
    (hs : s.keepsAlone = true) : (w.step s).state.Alone hidden :=
  h.of_leads huser (w.leads_step s) (keepsAlone_effect h.deaf.ordered hs)

end Alone

private theorem ask_without {f : Hub → Outcome Hub Answer}
    (hf : f (w.panel.hub.without hidden) = (f w.panel.hub).mapState (Hub.without hidden)) :
    (w.without hidden).ask f = (w.ask f).mapState (without hidden) := by
  have hask : ∀ v : World, v.ask f =
      (f v.panel.hub).mapState fun hub => { v with panel := { v.panel with hub } } := fun _ => rfl
  have hhub : (w.without hidden).panel.hub = w.panel.hub.without hidden := rfl
  rw [hask, hask, hhub, hf]
  rfl

private theorem needing_without {o o' : Outcome World Answer} (present : Bool) (part : Part)
    (ho : o' = o.mapState (without hidden)) :
    (w.without hidden).needing present part o' =
      (w.needing present part o).mapState (without hidden) := by
  rw [ho]
  unfold needing
  cases present <;> rfl

private theorem onModel_without {α : Type} (h : w.Alone hidden) {f : Panel → Outcome Panel α}
    (hf : f (w.panel.without hidden) = (f w.panel).mapState (Panel.without hidden)) :
    (w.without hidden).onModel f = (w.onModel f).mapState (without hidden) := by
  have hattached : (w.without hidden).isDetached = false := h.attached
  have hpanel : (w.without hidden).panel = w.panel.without hidden := rfl
  rw [onModel_of_attached h.attached, onModel_of_attached hattached, hpanel, hf]
  rfl

private theorem dropModel_without (h : w.Alone hidden) :
    (w.without hidden).dropModel = w.dropModel.without hidden := by
  have hattached : (w.without hidden).isDetached = false := h.attached
  have hrelease : w.panel.watch.release (w.panel.hub.without hidden) =
      (w.panel.watch.release w.panel.hub).without hidden := by
    cases w.panel.watch <;> rfl
  rw [dropModel_of_attached h.attached, dropModel_of_attached hattached]
  change ({ w with
    panel := { w.panel with hub := w.panel.watch.release (w.panel.hub.without hidden), watch := .idle }
    hasModel := false } : World) = _
  rw [hrelease]
  rfl

/-- A step that has nothing to do with the settings of a user is the same without them. Effects do
not tell what is answered, so the steps themselves are compared. -/
theorem step_without (h : w.Alone hidden) (huser : w.panel.user ≠ hidden) {s : Step}
    (hs : s.keepsAlone = true) (hwrites : s.writesFor hidden = false)
    (hreads : s.readsFor hidden = false) :
    (w.without hidden).step s = (w.step s).mapState (without hidden) := by
  have hstore : (w.without hidden).panel.hub.store = w.panel.hub.store.without hidden := rfl
  cases s with
  | watch | newWatch | startWatch | reopen => cases hs
  | read key user =>
    have hother : user ≠ hidden := by simpa [Step.readsFor] using hreads
    simp only [step, hstore, SettingsStore.read_without _ hother]
    rfl
  | readInt key fallback user =>
    have hother : user ≠ hidden := by simpa [Step.readsFor] using hreads
    simp only [step, hstore, SettingsStore.readInt_without _ hother,
      SettingsStore.readIntNotices_without _ hother]
    rfl
  | list user =>
    have hother : user ≠ hidden := by simpa [Step.readsFor] using hreads
    simp only [step, hstore, SettingsStore.list_without _ hother]
    rfl
  | put key value user =>
    have hother : user ≠ hidden := by simpa [Step.writesFor] using hwrites
    exact ask_without
      (congrArg (Outcome.mapAnswer Answer.ofResult) (h.deaf.put_without hother key value))
  | putInt key value user =>
    have hother : user ≠ hidden := by simpa [Step.writesFor] using hwrites
    exact ask_without
      (congrArg (Outcome.mapAnswer Answer.ofResult) (h.deaf.put_without hother key _))
  | notify key user =>
    exact ask_without (congrArg (Outcome.mapAnswer Answer.count) (h.deaf.notify_without key user))
  | unwatch name =>
    refine ask_without ?_
    simp [Hub.unwatch, Hub.idOf?, Hub.without, h.deaf.watchers, Outcome.mapState]
  | replaceRow row =>
    have hother : row.user ≠ hidden := by simpa [Step.writesFor] using hwrites
    have hordered := h.deaf.ordered
    simp only [step, changeTable, hstore]
    revert hordered
    cases hkind : w.panel.hub.store with
    | memory | readOnly | failing => exact fun _ => rfl
    | database table =>
      cases table with
      | none => exact fun _ => rfl
      | some t =>
        intro hordered
        have hreplace := SettingsTable.replace_without hordered hother
        simp only [SettingsStore.without, Option.map_some, hreplace]
        rfl
  | dropTable =>
    simp only [step, World.dropTable, hstore]
    cases w.panel.hub.store with
    | memory | readOnly | failing => rfl
    | database table => cases table <;> rfl
  | switchUser user =>
    exact needing_without _ _ (congrArg
      (fun o => (o.mapState fun panel => { w with panel }).mapAnswer Answer.flag)
      (w.panel.switchUser_without hidden user))
  | send event =>
    refine needing_without _ _ ?_
    change (if w.panel.hub.queue.isOpen then _ else _) = _
    split <;> rfl
  | tryNext =>
    exact needing_without _ _ (congrArg
      (fun o => (o.mapState fun panel => { w with panel }).mapAnswer Answer.event)
      (w.panel.takeEvent_without hidden))
  | next =>
    refine needing_without _ _ ?_
    have htake : (w.without hidden).panel.takeEvent = _ := w.panel.takeEvent_without hidden
    unfold takeNext
    rw [htake]
    dsimp only [Outcome.answer_mapState]
    cases w.panel.takeEvent.answer <;> rfl
  | drain =>
    exact needing_without _ _ (needing_without _ _
      (congrArg (Outcome.mapAnswer Answer.count) (onModel_without h (Panel.drain_without huser))))
  | operate op =>
    exact needing_without _ _
      (congrArg (Outcome.mapAnswer Answer.ofResult) (onModel_without h (op.run_without huser)))
  | dropModel => exact congrArg (World.peek · .done) (dropModel_without h)
  | close =>
    have hended := h.dropModel.unwatched
    have hended' : (w.dropModel.without hidden).loneWatches = [] := hended
    simp only [step, close, dropModel_without h, dropAllLoneWatches_of_none hended,
      dropAllLoneWatches_of_none hended']
    rfl
  | dropWatch name =>
    have hunwatched : (w.without hidden).loneWatches = [] := h.unwatched
    simp only [step, dropLoneWatches_of_none h.unwatched, dropLoneWatches_of_none hunwatched]
    rfl
  | currentUser | record | records | isBound | observedUser | watchedKeys =>
    exact needing_without _ _ rfl
  | countRegistrations | text | setText | clearText | dropQueue | watchedUser => rfl

/-- What is written for a user does not show without the settings of that user. -/
theorem without_step_of_writesFor (h : w.Alone hidden) {s : Step}
    (hwrites : s.writesFor hidden = true) :
    (w.step s).state.without hidden = w.without hidden := by
  have hrehub : ∀ {hub : Hub}, hub.without hidden = w.panel.hub.without hidden →
      ({ w with panel := { w.panel with hub } } : World).without hidden = w.without hidden := by
    intro hub hsame
    simp only [without, Panel.without, hsame]
  cases s with
  | put key value user =>
    obtain rfl := beq_iff_eq.mp hwrites
    exact hrehub (h.deaf.put_hidden key value)
  | putInt key value user =>
    obtain rfl := beq_iff_eq.mp hwrites
    exact hrehub (h.deaf.put_hidden key _)
  | replaceRow row =>
    simp only [step, changeTable]
    split
    · next t hstore =>
      refine hrehub ?_
      simp only [Hub.without, hstore, SettingsStore.without, Option.map_some,
        t.without_replace_hidden (beq_iff_eq.mp hwrites)]
    · rfl
  | _ => cases hwrites

theorem state_step_of_readsFor {s : Step} (hreads : s.readsFor hidden = true) :
    (w.step s).state = w := by
  cases s with
  | read | readInt | list => rfl
  | _ => cases hreads

theorem pushes_step_of_isAbout (w : World) {s : Step} (hs : s.isAbout hidden = true) :
    pushes (w.step s).journal = [] := by
  rw [(w.repaints_step s).pushed]
  cases s with
  | put | putInt | replaceRow | read | readInt | list => rfl
  | _ => cases hs

/-- A step that writes nothing for a user does the same in two worlds that are the same without the
settings of that user, except that it may read different ones. -/
private theorem step_alike (h : w.Alone hidden) (h' : w'.Alone hidden)
    (hsame : w'.without hidden = w.without hidden) (huser : w.panel.user ≠ hidden) {s : Step}
    (hs : s.keepsAlone = true) (hwrites : s.writesFor hidden = false) :
    (w'.step s).state.without hidden = (w.step s).state.without hidden ∧
      pushes (w'.step s).journal = pushes (w.step s).journal ∧
      (s.isAbout hidden = false →
        (w'.step s).answer = (w.step s).answer ∧ (w'.step s).journal = (w.step s).journal) := by
  cases hreads : s.readsFor hidden with
  | true =>
    have habout : s.isAbout hidden = true := by simp [Step.isAbout, hreads]
    rw [state_step_of_readsFor hreads, state_step_of_readsFor hreads,
      pushes_step_of_isAbout w habout, pushes_step_of_isAbout w' habout, habout]
    exact ⟨hsame, rfl, fun hnot => nomatch hnot⟩
  | false =>
    have huser' : w'.panel.user ≠ hidden := by
      have hcurrent : w'.panel.user = w.panel.user := congrArg (fun v => v.panel.user) hsame
      rwa [hcurrent]
    have hstep : (w'.step s).mapState (without hidden) = (w.step s).mapState (without hidden) := by
      rw [← step_without h huser hs hwrites hreads, ← step_without h' huser' hs hwrites hreads,
        hsame]
    obtain ⟨hstate, hanswer, hjournal⟩ := Outcome.mk.inj hstep
    exact ⟨hstate, congrArg pushes hjournal, fun _ => ⟨hanswer, hjournal⟩⟩

/-- Two worlds that are the same without the settings of a user run alike, without the writes for
that user in one of them. -/
theorem run_without (h : w.Alone hidden) (h' : w'.Alone hidden)
    (hsame : w'.without hidden = w.without hidden) {steps : List Step}
    (hsteps : ∀ s ∈ steps, s.keepsAlone = true)
    (hcurrent : ∀ earlier, earlier <+: steps →
      (w.run earlier).1.panel.user.covers hidden = false) :
    pushes (journalOf (w'.run (Step.dropWrites hidden steps)).2) =
        pushes (journalOf (w.run steps).2) ∧
      (((Step.dropWrites hidden steps).zip (w'.run (Step.dropWrites hidden steps)).2).filter
          fun a => !a.1.isAbout hidden) =
        (steps.zip (w.run steps).2).filter (fun a => !a.1.isAbout hidden) ∧
      (w'.run (Step.dropWrites hidden steps)).1.without hidden =
        (w.run steps).1.without hidden := by
  induction steps generalizing w w' with
  | nil => exact ⟨rfl, rfl, hsame⟩
  | cons s rest ih =>
    have hs : s.keepsAlone = true := hsteps s List.mem_cons_self
    have huser : w.panel.user.covers hidden = false := hcurrent [] List.nil_prefix
    have hnext : (w.step s).state.Alone hidden := h.step huser hs
    have hrest : ∀ t ∈ rest, t.keepsAlone = true := fun t ht => hsteps t (List.mem_cons_of_mem _ ht)
    have hlater : ∀ earlier, earlier <+: rest →
        ((w.step s).state.run earlier).1.panel.user.covers hidden = false :=
      fun earlier hearlier => hcurrent (s :: earlier) (List.cons_prefix_cons.mpr ⟨rfl, hearlier⟩)
    cases hwrites : s.writesFor hidden with
    | true =>
      have habout : s.isAbout hidden = true := by simp [Step.isAbout, hwrites]
      have hkept : Step.dropWrites hidden (s :: rest) = Step.dropWrites hidden rest := by
        simp [Step.dropWrites, hwrites]
      obtain ⟨hpushes, hanswers, hlast⟩ := ih hnext h'
        (hsame.trans (without_step_of_writesFor h hwrites).symm) hrest hlater
      rw [hkept, pushes_run_cons, pushes_step_of_isAbout w habout]
      refine ⟨hpushes, hanswers.trans ?_, hlast⟩
      simp [run, habout]
    | false =>
      have huser' : w'.panel.user.covers hidden = false := by
        have hcurrent : w'.panel.user = w.panel.user := congrArg (fun v => v.panel.user) hsame
        rwa [hcurrent]
      have hkept : Step.dropWrites hidden (s :: rest) = s :: Step.dropWrites hidden rest := by
        simp [Step.dropWrites, hwrites]
      obtain ⟨hstate, hpushed, hsays⟩ := step_alike h h' hsame
        ((UserId.not_covers_iff _ _).mp huser).2.2 hs hwrites
      obtain ⟨hpushes, hanswers, hlast⟩ := ih hnext (h'.step huser' hs) hstate hrest hlater
      rw [hkept, pushes_run_cons, pushes_run_cons, hpushed, hpushes]
      refine ⟨rfl, ?_, hlast⟩
      cases habout : s.isAbout hidden with
      | true => simpa [run, habout] using hanswers
      | false =>
        obtain ⟨hanswer, hjournal⟩ := hsays habout
        simpa [run, habout, hanswer, hjournal] using hanswers

/-- A new panel for a user who does not cover another one does not hear of that one. -/
theorem alone_new {store : SettingsStore} (hordered : store.Ordered) (path : Option String)
    {user : UserId} (texts : List (String × String)) (huser : user.covers hidden = false) :
    (World.new store path user texts true).state.Alone hidden := by
  have hdeaf : ({ store } : Hub).Deaf hidden :=
    ⟨rfl, (fun _ hr => nomatch hr), (fun _ hr => nomatch hr), hordered⟩
  exact ⟨rfl, rfl, hdeaf.start .idle huser⟩

/-- Users are kept apart. Let a panel be built over any store and let settings be read and written,
users switched, operations carried out, events sent, taken and drained, in any order, while nobody
but the panel watches the settings. Let some user never be the current one, nor the scope of every
user. Then all that was written for that user might as well not have been: without these writes
every tile is handed the same records, every step that does not read settings of that user answers
and reports the same, and the records and the watched user are the same in the end, as is everything
else but the settings of that user. -/
theorem isolated_users {store : SettingsStore} (hordered : store.Ordered) (path : Option String)
    (user : UserId) (texts : List (String × String)) {hidden : UserId} (hhidden : hidden ≠ .everyone)
    {steps : List Step} (hsteps : ∀ s ∈ steps, s.keepsAlone = true)
    (hcurrent : ∀ earlier, earlier <+: steps →
      let current := ((World.new store path user texts true).state.run earlier).1.panel.user
      current ≠ hidden ∧ current ≠ .everyone) :
    let start := (World.new store path user texts true).state
    let kept := Step.dropWrites hidden steps
    let full := start.run steps
    let less := start.run kept
    pushes (journalOf less.2) = pushes (journalOf full.2) ∧
      ((kept.zip less.2).filter fun a => !a.1.isAbout hidden) =
        (steps.zip full.2).filter (fun a => !a.1.isAbout hidden) ∧
      (∀ kind, less.1.panel.record kind = full.1.panel.record kind) ∧
      less.1.panel.observedUser = full.1.panel.observedUser ∧
      less.1.without hidden = full.1.without hidden := by
  intro start kept full less
  have hcovers : ∀ earlier, earlier <+: steps →
      (start.run earlier).1.panel.user.covers hidden = false := by
    intro earlier hearlier
    obtain ⟨hother, hone⟩ := hcurrent earlier hearlier
    exact (UserId.not_covers_iff _ _).mpr ⟨hone, hhidden, hother⟩
  have halone : start.Alone hidden := alone_new hordered path texts (hcovers [] List.nil_prefix)
  obtain ⟨hpushes, hanswers, hlast⟩ := run_without halone halone rfl hsteps hcovers
  refine ⟨hpushes, hanswers, ?_, ?_, hlast⟩
  · exact fun kind => congrArg (fun w => w.panel.record kind) hlast
  · exact congrArg (fun w => w.panel.observedUser) hlast

/-- Writes for a user in the background, some of them while the watch lags behind a switch. -/
def backgroundWrites : List Step :=
  [.operate (.add .brightness ⟨.recorder, "b"⟩), .put Setting.mode "1" ⟨11⟩,
    .putInt Setting.mode 1 ⟨0⟩, .switchUser ⟨10⟩, .put Setting.mode "x" ⟨11⟩, .drain,
    .putInt Setting.mode 1 ⟨10⟩, .list ⟨11⟩, .drain]

/-- Two of nine steps are writes for the other user, and the four pushes are the same without
them. -/
theorem isolated_users_in_backgroundWrites :
    let start := (World.new (.memory {}) none .owner [] true).state
    let kept := Step.dropWrites ⟨11⟩ backgroundWrites
    kept.length = 7 ∧
      (pushes (journalOf (start.run backgroundWrites).2)).length = 4 ∧
      pushes (journalOf (start.run kept).2) = pushes (journalOf (start.run backgroundWrites).2) := by
  intro start kept
  have hordered : (SettingsStore.memory {}).Ordered := trivial
  have hsteps : ∀ s ∈ backgroundWrites, s.keepsAlone = true := by
    simp [backgroundWrites, Step.keepsAlone]
  have hprefixes : ∀ earlier ∈ backgroundWrites.inits,
      (start.run earlier).1.panel.user ≠ ⟨11⟩ ∧ (start.run earlier).1.panel.user ≠ .everyone := by
    decide +kernel
  obtain ⟨hpushes, _⟩ := isolated_users hordered none .owner [] (by decide) hsteps
    fun earlier hearlier => hprefixes earlier ((List.mem_inits _ _).mpr hearlier)
  exact ⟨rfl, by decide +kernel, hpushes⟩

end World

end TilePanel
