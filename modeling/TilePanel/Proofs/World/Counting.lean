import TilePanel.Proofs.Panel.UpToDate
import TilePanel.Proofs.Settings.Writes
import TilePanel.Proofs.World.Hints

/-!
How often the brightness tile is repainted. While the watch of the panel is the only listener, a
switch to another user moves its registration and repaints once. After that, every write that this
registration hears posts one event, every other one posts none, and a drain repaints once for each
event that waits.
-/

namespace TilePanel

namespace Step

def written? : Step → Option (String × UserId)
  | put key _ user | putInt key _ user => some (key, user)
  | _ => none

/-- Whether a step is a write that concerns the brightness of a user: one of the two brightness
settings is written, for that user, or one of the two scopes is that of every user. -/
def concernsBrightness (observed : UserId) (s : Step) : Bool :=
  s.written?.any fun written => decide (written.1 ∈ Setting.watched ∧
    (written.2 = observed ∨ written.2 = .everyone ∨ observed = .everyone))

end Step

def Registration.ofWatch (id : Nat) (user : UserId) : Registration :=
  ⟨id, Setting.watched, user, .poster⟩

/-- A watch hears of the two brightness settings, of its user or where one of the two scopes is that
of every user. -/
theorem Registration.hears_ofWatch (id : Nat) (observed : UserId) (key : String) (user : UserId) :
    (ofWatch id observed).hears key user =
      decide (key ∈ Setting.watched ∧
        (user = observed ∨ user = .everyone ∨ observed = .everyone)) := by
  rw [Bool.eq_iff_iff]
  simp only [hears, ofWatch, UserId.covers, Bool.and_eq_true, Bool.or_eq_true, beq_iff_eq,
    List.contains_iff_mem, decide_eq_true_eq]
  constructor
  · rintro ⟨(hobserved | huser) | hsame, hkey⟩
    · exact ⟨hkey, .inr (.inr hobserved)⟩
    · exact ⟨hkey, .inr (.inl huser)⟩
    · exact ⟨hkey, .inl hsame.symm⟩
  · rintro ⟨hkey, hsame | huser | hobserved⟩
    · exact ⟨.inr hsame.symm, hkey⟩
    · exact ⟨.inl (.inr huser), hkey⟩
    · exact ⟨.inl (.inl hobserved), hkey⟩

namespace Hub

/-- A write while one watch listens: it posts an event if the store takes it and the watch hears of
it, and changes nothing else but the store. -/
theorem put_for_one {h : Hub} {id : Nat} {observed : UserId}
    (hentries : h.registry.entries = [.ofWatch id observed]) (hopen : h.queue.isOpen = true)
    (key value : String) (user : UserId) :
    ∃ store, store.isWritable = h.store.isWritable ∧
      (h.put key value user).state =
        { h with
          store
          queue := ⟨h.queue.pending ++
            if h.store.isWritable && (Registration.ofWatch id observed).hears key user then
              [.settingChanged key user] else [], true⟩ } := by
  cases hwritable : h.store.isWritable with
  | false =>
    obtain ⟨cause, hwrite⟩ := SettingsStore.write_of_not_isWritable hwritable key value user
    refine ⟨h.store, hwritable, ?_⟩
    rw [put_of_refused hwrite, Bool.false_and, if_neg Bool.false_ne_true, List.append_nil, ← hopen]
  | true =>
    obtain ⟨store, hwrite, hkept⟩ := SettingsStore.write_of_isWritable hwritable key value user
    refine ⟨store, hkept, ?_⟩
    simp only [put, putUsing, hwrite, notifyUsing, Registry.hearing, hentries, List.filter_cons,
      List.filter_nil, Outcome.state_after, Outcome.state_mapAnswer, Bool.true_and]
    split
    · obtain ⟨hcalled, _⟩ := call_poster (h := { h with store }) hopen
        (r := Registration.ofWatch id observed) rfl (h.pendingResponses + 1) key user
      simp [Outcome.forEach, hcalled, EventQueue.post, hopen]
    · simp [Outcome.forEach, ← hopen]

end Hub

namespace Panel

variable {p q : Panel}

def WatchesAlone (p : Panel) : Prop :=
  ∃ r, p.hub.registry.entries = [r] ∧ p.watch.id? = some r.id

/-- Whether the only registration is the one of the watch, for the current user. -/
def ObservesAlone (p : Panel) : Prop :=
  ∃ id, p.watch = .observing p.user id ∧ p.hub.registry.entries = [.ofWatch id p.user]

namespace ObservesAlone

theorem watchesAlone (h : p.ObservesAlone) : p.WatchesAlone := by
  obtain ⟨id, hwatch, hentries⟩ := h
  exact ⟨_, hentries, by rw [hwatch]; rfl⟩

theorem retiles (h : p.ObservesAlone) (hslots : Retiles p q) : q.ObservesAlone := by
  obtain ⟨slots, rfl⟩ := hslots
  exact h

end ObservesAlone

/-- The registration that the watch had is gone after it has moved. -/
theorem WatchesAlone.moveWatch (h : p.WatchesAlone) : p.moveWatch.ObservesAlone := by
  obtain ⟨r, hentries, hid⟩ := h
  obtain ⟨id, _, hwatch, hmoved⟩ := (Rewatched.once p).watching
  have hreleased : (p.watch.release p.hub).registry.entries = [] := by
    cases hwatch : p.watch with
    | idle =>
      rw [hwatch] at hid
      cases hid
    | observing observed own =>
      rw [hwatch] at hid
      obtain rfl : own = r.id := Option.some.inj hid
      simp [BrightnessWatch.release, Registry.unregister, hentries]
  -- The new registration is appended to what the release has left.
  rw [hreleased] at hmoved
  exact ⟨id, hwatch, hmoved⟩

theorem ObservesAlone.handle (h : p.ObservesAlone) (e : Event) :
    (p.handle e).state.ObservesAlone := by
  rcases (Operation.handle e).run_cases p with hstays | hmoves
  · exact h.retiles hstays
  · exact h.watchesAlone.moveWatch.retiles hmoves

theorem ObservesAlone.drain (h : p.ObservesAlone) : p.drain.state.ObservesAlone := by
  refine drain_rel (R := fun p q => p.ObservesAlone → q.ObservesAlone) ?_ ?_ ?_ p h
  · exact fun _ => id
  · exact fun hfirst hnext hp => hnext (hfirst hp)
  · exact fun p e rest _ hp => ObservesAlone.handle (p := p.withPending rest) hp e

/-- A drain of the one event that says that the user was switched. -/
theorem WatchesAlone.drain_switched (h : p.WatchesAlone) {user : UserId}
    (hpending : p.hub.queue.pending = [.userSwitched user]) : p.drain.state.ObservesAlone := by
  have hpend : ((p.withPending []).deliver (.userSwitched user)).state.hub.queue.pending = [] := by
    rw [queue_deliver]
    rfl
  have hmoved : (p.withPending []).moveWatch.ObservesAlone :=
    WatchesAlone.moveWatch (p := p.withPending []) h
  rw [drain_of_waiting hpending, drain_of_empty hpend, state_deliver]
  exact hmoved.retiles ((p.withPending []).moveWatch.retiles_update _ _)

end Panel

namespace World

variable {w : World} {binding : Binding}

/-- The panel is there, belongs to the store that is open and has its brightness tile bound, and its
queue can be taken from. -/
structure Stands (w : World) (binding : Binding) : Prop where
  hasModel : w.hasModel = true
  attached : w.isDetached = false
  isOpen : w.panel.hub.queue.isOpen = true
  bound : w.panel.binding? .brightness = some binding

/-- A drain hands the record of the brightness tile to its binding once for each event that waits. -/
theorem Stands.drain (h : w.Stands binding) :
    let o := w.step .drain
    let n := w.panel.hub.queue.pending.length
    o.state = { w with panel := w.panel.drain.state } ∧ o.answer = .count n ∧
      pushes o.journal = .replicate n ⟨.brightness, binding, o.state.panel.record .brightness⟩ ∧
      o.state.Stands binding := by
  intro o n
  have hstep : o = (w.panel.drain.mapState fun panel => { w with panel }).mapAnswer .count := by
    simp only [o, step, needing, h.isOpen, h.hasModel, if_true, onModel_of_attached h.attached]
  have hbound : o.state.panel.binding? .brightness = some binding := by
    rw [hstep]
    exact (Panel.binding?_drain _ _).trans h.bound
  refine ⟨by rw [hstep]; rfl, ?_, ?_, ?_⟩
  · rw [hstep]
    exact congrArg Answer.count w.panel.answer_drain
  · have hslot : (o.state.panel.slots.get .brightness).push? .brightness =
        some ⟨.brightness, binding, o.state.panel.record .brightness⟩ :=
      Option.map_eq_some_iff.mpr ⟨binding, hbound, rfl⟩
    have hconcerned : w.concernedBy .drain = .replicate n .brightness := by
      simp [concernedBy, h.isOpen, h.hasModel, n]
    rw [(w.repaints_step .drain).pushed, hconcerned, List.filterMap_replicate, hslot]
  · refine ⟨?_, ?_, ?_, hbound⟩
    · rw [hstep]
      exact h.hasModel
    · rw [hstep]
      exact h.attached
    · rw [hstep]
      have hqueue := (Panel.surroundings_drain w.panel).queue
      exact (congrArg EventQueue.isOpen hqueue).trans h.isOpen

/-- A write stores a value through the hub and concerns no tile. -/
private theorem step_of_written {s : Step} {key : String} {user : UserId}
    (hs : s.written? = some (key, user)) :
    (∃ value, (w.step s).state =
      { w with panel := { w.panel with hub := (w.panel.hub.put key value user).state } }) ∧
      pushes (w.step s).journal = [] := by
  have hpushed := (w.repaints_step s).pushed
  cases s with
  | put | putInt =>
    obtain ⟨rfl, rfl⟩ := Prod.mk.inj (Option.some.inj hs)
    exact ⟨⟨_, rfl⟩, hpushed⟩
  | _ => cases hs

/-- The watch of the panel observes a user and nobody else listens, and so many events wait. -/
structure Awaits (w : World) (binding : Binding) (user : UserId) (isWritable : Bool)
    (waiting : Nat) : Prop where
  stands : w.Stands binding
  user : w.panel.user = user
  alone : w.panel.ObservesAlone
  store : w.panel.hub.store.isWritable = isWritable
  waiting : w.panel.hub.queue.pending.length = waiting

namespace Awaits

variable {user : UserId} {isWritable : Bool} {waiting : Nat}

/-- One more event waits if the store takes the write and the watch hears of it. -/
theorem write (h : w.Awaits binding user isWritable waiting) {s : Step}
    (hs : s.written?.isSome = true) :
    (w.step s).state.Awaits binding user isWritable
        (waiting + if isWritable && s.concernsBrightness user then 1 else 0) ∧
      pushes (w.step s).journal = [] := by
  obtain ⟨⟨key, owner⟩, hwritten⟩ := Option.isSome_iff_exists.mp hs
  obtain ⟨⟨value, hstate⟩, hpushed⟩ := step_of_written (w := w) hwritten
  obtain ⟨id, hwatch, hentries⟩ := h.alone
  obtain ⟨store, hkept, hput⟩ := Hub.put_for_one hentries h.stands.isOpen key value owner
  have hhears : (Registration.ofWatch id w.panel.user).hears key owner =
      s.concernsBrightness user := by
    rw [Registration.hears_ofWatch, h.user, Step.concernsBrightness, hwritten]
    rfl
  rw [hhears, h.store] at hput
  refine ⟨?_, hpushed⟩
  rw [hstate, hput]
  refine ⟨⟨h.stands.hasModel, h.stands.attached, rfl, h.stands.bound⟩, h.user,
    ⟨id, hwatch, hentries⟩, hkept.trans h.store, ?_⟩
  rw [← h.waiting, List.length_append]
  split <;> rfl

/-- The induction over the writes. -/
theorem run (h : w.Awaits binding user isWritable waiting) {writes : List Step}
    (hwrites : ∀ s ∈ writes, s.written?.isSome = true) :
    (w.run writes).1.Awaits binding user isWritable
        (waiting + writes.countP fun s => isWritable && s.concernsBrightness user) ∧
      pushes (journalOf (w.run writes).2) = [] := by
  induction writes generalizing w waiting with
  | nil => exact ⟨h, rfl⟩
  | cons s rest ih =>
    obtain ⟨hnext, hpushed⟩ := h.write (hwrites s List.mem_cons_self)
    obtain ⟨hlast, hquiet⟩ := ih hnext fun t ht => hwrites t (List.mem_cons_of_mem _ ht)
    rw [List.countP_cons, Nat.add_comm (List.countP _ rest), ← Nat.add_assoc, pushes_run_cons,
      hpushed, hquiet]
    exact ⟨hlast, rfl⟩

/-- A drain repaints once for each event that waits, and the watch stays where it is. -/
theorem drain (h : w.Awaits binding user isWritable waiting) :
    let o := w.step .drain
    o.state.Awaits binding user isWritable 0 ∧ o.answer = .count waiting ∧
      pushes o.journal =
        .replicate waiting ⟨.brightness, binding, o.state.panel.record .brightness⟩ := by
  obtain ⟨hstate, hanswer, hpushed, hstands⟩ := h.stands.drain
  rw [h.waiting] at hanswer hpushed
  have hsame := w.panel.surroundings_drain
  refine ⟨⟨hstands, ?_, ?_, ?_, ?_⟩, hanswer, hpushed⟩
  · rw [hstate]
    exact hsame.user.trans h.user
  · rw [hstate]
    exact h.alone.drain
  · rw [hstate]
    exact (congrArg SettingsStore.isWritable hsame.store).trans h.store
  · rw [hstate]
    exact congrArg List.length w.panel.pending_drain

/-- Writes, and a drain after them. -/
theorem run_drain (h : w.Awaits binding user isWritable 0) {writes : List Step}
    (hwrites : ∀ s ∈ writes, s.written?.isSome = true) :
    let ran := w.run (writes ++ [.drain])
    let n := writes.countP fun s => isWritable && s.concernsBrightness user
    ran.1.Awaits binding user isWritable 0 ∧ ran.2.getLast?.map Prod.fst = some (.count n) ∧
      pushes (journalOf ran.2) =
        .replicate n ⟨.brightness, binding, ran.1.panel.record .brightness⟩ := by
  intro ran n
  obtain ⟨hwritten, hquiet⟩ := h.run hwrites
  rw [Nat.zero_add] at hwritten
  obtain ⟨hlast, hanswer, hpushed⟩ := hwritten.drain
  have hran : ran = _ := w.run_concat writes .drain
  have hpushes : pushes (journalOf ran.2) = _ := w.pushes_run_concat writes .drain
  rw [hpushes, hquiet, hran]
  refine ⟨hlast, ?_, hpushed⟩
  rw [List.getLast?_concat, Option.map_some, hanswer]

end Awaits

/-- The panel stands, nothing waits for it, and its watch has the only registration. -/
structure Rests (w : World) (binding : Binding) : Prop where
  stands : w.Stands binding
  empty : w.panel.hub.queue.pending = []
  alone : w.panel.WatchesAlone

theorem Awaits.rests {user : UserId} {isWritable : Bool} (h : w.Awaits binding user isWritable 0) :
    w.Rests binding :=
  ⟨h.stands, List.eq_nil_of_length_eq_zero h.waiting, h.alone.watchesAlone⟩

/-- A switch to another user, and a drain after it. -/
theorem Rests.switch_drain (h : w.Rests binding) (htracker : w.hasTracker = true) {user : UserId}
    (hother : user ≠ w.panel.user) :
    let ran := w.run [.switchUser user, .drain]
    ran.1.Awaits binding user w.panel.hub.store.isWritable 0 ∧
      ran.2.map Prod.fst = [.flag true, .count 1] ∧
      pushes (journalOf ran.2) = [⟨.brightness, binding, ran.1.panel.record .brightness⟩] := by
  intro ran
  -- The switch itself repaints nothing: it only posts the event that the drain then takes.
  let switched : World := { w with panel := { w.panel with
    hub := { w.panel.hub with queue := ⟨[.userSwitched user], true⟩ }, user } }
  have hswitch : (w.step (.switchUser user)).state = switched ∧
      (w.step (.switchUser user)).answer = .flag true := by
    simp [step, needing, htracker, Panel.switchUser, Ne.symm hother, Hub.post, h.stands.isOpen,
      EventQueue.post, h.empty, switched]
  have hquiet : pushes (w.step (.switchUser user)).journal = [] :=
    (w.repaints_step (.switchUser user)).pushed
  have hstands : switched.Stands binding :=
    ⟨h.stands.hasModel, h.stands.attached, rfl, h.stands.bound⟩
  have halone : switched.panel.WatchesAlone := h.alone
  obtain ⟨hstate, hanswer, hpushed, hdrained⟩ := hstands.drain
  have hsame := switched.panel.surroundings_drain
  have hran : ran = ((switched.step .drain).state,
      [(.flag true, (w.step (.switchUser user)).journal),
        ((switched.step .drain).answer, (switched.step .drain).journal)]) := by
    simp only [ran, run, hswitch]
  have hpushes : pushes (journalOf ran.2) = pushes (switched.step .drain).journal := by
    simp [hran, journalOf, hquiet]
  rw [hpushes, hran]
  refine ⟨⟨hdrained, ?_, ?_, ?_, ?_⟩, ?_, hpushed⟩
  · rw [hstate]
    exact hsame.user
  · rw [hstate]
    exact halone.drain_switched rfl
  · rw [hstate]
    exact congrArg SettingsStore.isWritable hsame.store
  · rw [hstate]
    exact congrArg List.length switched.panel.pending_drain
  · rw [hanswer]
    rfl

/-- Repaints are counted exactly. Let nothing wait for a panel whose brightness tile is bound and
whose watch has the only registration, whatever happened before. A switch to another user and a drain
hand the record of the brightness tile to its binding once. However many writes follow, the next drain
answers how many of them the store takes that are for one of the two brightness settings and for that
user, or one of the two is every user, and the record is handed over that many times; nothing else is
pushed. So writes for other users cause no repaint. After each of the two drains the panel is again
one to which all of this applies. -/
theorem repaints_counted {w : World} {binding : Binding} (hrests : w.Rests binding)
    (htracker : w.hasTracker = true) {user : UserId} (hother : user ≠ w.panel.user) :
    let switched := w.run [.switchUser user, .drain]
    switched.2.map Prod.fst = [.flag true, .count 1] ∧
      pushes (journalOf switched.2) =
        [⟨.brightness, binding, switched.1.panel.record .brightness⟩] ∧
      switched.1.Rests binding ∧
      ∀ writes : List Step, (∀ s ∈ writes, s.written?.isSome = true) →
        let ran := switched.1.run (writes ++ [.drain])
        let n := writes.countP fun s =>
          w.panel.hub.store.isWritable && s.concernsBrightness user
        ran.2.getLast?.map Prod.fst = some (.count n) ∧
          pushes (journalOf ran.2) =
            .replicate n ⟨.brightness, binding, ran.1.panel.record .brightness⟩ ∧
          ran.1.Rests binding ∧
          (user ≠ .everyone →
            (∀ s ∈ writes, ∀ key owner, s.written? = some (key, owner) →
              owner ≠ user ∧ owner ≠ .everyone) →
            pushes (journalOf ran.2) = []) := by
  intro switched
  obtain ⟨hawaits, hanswers, hpushed⟩ := hrests.switch_drain htracker hother
  refine ⟨hanswers, hpushed, hawaits.rests, ?_⟩
  intro writes hwrites ran n
  obtain ⟨hlast, hcounted, hrepainted⟩ := hawaits.run_drain hwrites
  refine ⟨hcounted, hrepainted, hlast.rests, ?_⟩
  intro huser hothers
  have hnone : n = 0 := by
    refine List.countP_eq_zero.mpr fun s hs => ?_
    obtain ⟨⟨key, owner⟩, hwritten⟩ := Option.isSome_iff_exists.mp (hwrites s hs)
    obtain ⟨hdiffers, hnotall⟩ := hothers s hs key owner hwritten
    simp [Step.concernsBrightness, hwritten, hdiffers, hnotall, huser]
  have hsame : pushes (journalOf ran.2) =
      .replicate n ⟨.brightness, binding, ran.1.panel.record .brightness⟩ := hrepainted
  rw [hsame, hnone]
  rfl

def switchedTwice : World :=
  ((World.new (.memory {}) none .owner [] true).state.run
    [.operate (.add .brightness ⟨.basic "b" false, "b"⟩), .switchUser ⟨10⟩, .switchUser ⟨11⟩, .drain,
      .switchUser .owner, .drain]).1

/-- Four writes, of which two concern the new user. -/
def writesAfterSwitch : List Step :=
  [.putInt Setting.mode 1 ⟨10⟩, .put Setting.level "7" .owner, .put "volume" "3" ⟨10⟩,
    .put Setting.level "8" .everyone]

/-- Two of the four writes concern the new user, and the tile is repainted twice. -/
theorem repaints_counted_of_switchedTwice :
    switchedTwice.Rests ⟨.basic "b" false, "b"⟩ ∧ switchedTwice.hasTracker = true ∧
      (⟨10⟩ : UserId) ≠ switchedTwice.panel.user ∧
      let switched := switchedTwice.run [.switchUser ⟨10⟩, .drain]
      (pushes (journalOf (switched.1.run (writesAfterSwitch ++ [.drain])).2)).length = 2 := by
  have hrests : switchedTwice.Rests ⟨.basic "b" false, "b"⟩ := by
    refine ⟨⟨by decide +kernel, by decide +kernel, by decide +kernel, by decide +kernel⟩,
      by decide +kernel, ⟨.ofWatch 4 .owner, by decide +kernel, by decide +kernel⟩⟩
  have htracker : switchedTwice.hasTracker = true := by decide +kernel
  have hother : (⟨10⟩ : UserId) ≠ switchedTwice.panel.user := by decide +kernel
  refine ⟨hrests, htracker, hother, ?_⟩
  obtain ⟨_, _, _, hwrites⟩ := repaints_counted hrests htracker hother
  obtain ⟨_, hpushed, _⟩ := hwrites writesAfterSwitch (by decide)
  intro switched
  rw [hpushed, List.length_replicate]
  decide +kernel

end World

end TilePanel
