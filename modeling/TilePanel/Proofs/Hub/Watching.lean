import TilePanel.Proofs.Hub.Notification
import TilePanel.Proofs.Settings.Storage

/-!
The registration of a brightness watch while listeners come, go and write. No listener can take it
off the registry, and a write that changes the brightness mode of its user leaves an event on the
queue.
-/

namespace TilePanel

namespace Activity

/-- Whether an entry is one of those that writes and their notifications leave. -/
def isOfHub : Activity → Bool
  | .notice (.settingStored ..) | .notice (.changeUnreceived _) => true
  | .posted _ | .changed .. | .reacted .. => true
  | _ => false

end Activity

namespace Hub

/-- Every number in use is below the next one. -/
structure Numbered (h : Hub) : Prop where
  registrations : ∀ r ∈ h.registry.entries, r.id < h.registry.nextId
  watchers : ∀ w ∈ h.watchers, w.id < h.registry.nextId

/-- The registration that a brightness watch on a user owns under a number. No watcher has that
number. -/
structure Serves (h : Hub) (id : Nat) (user : UserId) : Prop where
  registered : ⟨id, Setting.watched, user, .poster⟩ ∈ h.registry.entries
  numbered : id < h.registry.nextId
  unshared : ∀ w ∈ h.watchers, w.id ≠ id

/-- How a hub goes on for the owner of one registration: where a brightness watch is served under the
number, its user's mode reads as before or an event waits. -/
structure Keeps (id : Nat) (h h' : Hub) : Prop where
  isOpen : h'.queue.isOpen = h.queue.isOpen
  pending : h.queue.pending <+: h'.queue.pending
  nextId : h.registry.nextId ≤ h'.registry.nextId
  numbered : h.Numbered → h'.Numbered
  serves : ∀ {user}, h.Serves id user → h'.Serves id user
  announced : ∀ {user}, h.Serves id user → h.queue.isOpen = true →
    h'.store.read Setting.mode user = h.store.read Setting.mode user ∨ h'.queue.pending ≠ []

namespace Keeps

variable {id : Nat} {h h' h'' : Hub}

theorem pending_ne_nil (hkeeps : Keeps id h h') (hne : h.queue.pending ≠ []) :
    h'.queue.pending ≠ [] := by
  obtain ⟨rest, hrest⟩ := hkeeps.pending
  rw [← hrest]
  exact List.append_ne_nil_of_left_ne_nil hne rest

theorem refl (id : Nat) (h : Hub) : Keeps id h h where
  isOpen := rfl
  pending := List.prefix_refl _
  nextId := Nat.le_refl _
  numbered hn := hn
  serves hs := hs
  announced _ _ := .inl rfl

theorem trans (hk : Keeps id h h') (hk' : Keeps id h' h'') : Keeps id h h'' where
  isOpen := hk'.isOpen.trans hk.isOpen
  pending := hk.pending.trans hk'.pending
  nextId := Nat.le_trans hk.nextId hk'.nextId
  numbered hn := hk'.numbered (hk.numbered hn)
  serves hs := hk'.serves (hk.serves hs)
  announced := by
    intro user hs hopen
    rcases hk.announced hs hopen with hsame | hne
    · rw [← hsame]
      exact hk'.announced (hk.serves hs) (hk.isOpen.trans hopen)
    · exact .inr (hk'.pending_ne_nil hne)

end Keeps

/-- How a hub goes on from one moment to a later one, for the owners of all registrations. -/
structure Evolves (h : Hub) (journal : List Activity) (h' : Hub) : Prop where
  keeps : ∀ id, Keeps id h h'
  entries : ∀ a ∈ journal, a.isOfHub = true

namespace Evolves

variable {h h' h'' : Hub} {j j' : List Activity}

theorem isOpen (hev : Evolves h j h') : h'.queue.isOpen = h.queue.isOpen :=
  (hev.keeps 0).isOpen

theorem pending_ne_nil (hev : Evolves h j h') (hne : h.queue.pending ≠ []) :
    h'.queue.pending ≠ [] :=
  (hev.keeps 0).pending_ne_nil hne

/-- Entries in the journal aside, nothing happened. -/
theorem noted (h : Hub) {journal : List Activity} (hj : ∀ a ∈ journal, a.isOfHub = true) :
    Evolves h journal h :=
  ⟨fun id => .refl id h, hj⟩

theorem refl (h : Hub) : Evolves h [] h :=
  noted h (by simp)

theorem trans (hev : Evolves h j h') (hev' : Evolves h' j' h'') : Evolves h (j ++ j') h'' := by
  refine ⟨fun id => (hev.keeps id).trans (hev'.keeps id), ?_⟩
  intro a ha
  rcases List.mem_append.mp ha with ha | ha
  · exact hev.entries a ha
  · exact hev'.entries a ha

end Evolves

/-- A store that nobody has watched yet. -/
theorem numbered_ofStore (store : SettingsStore) : ({ store } : Hub).Numbered :=
  ⟨by simp, by simp⟩

theorem Numbered.watch {h : Hub} (hn : h.Numbered) (name : String) (keys : List String)
    (scope : UserId) (responses : List (List Reaction)) :
    (h.watch name keys scope responses).Numbered := by
  constructor
  · intro r hr
    simp only [Hub.watch, Registry.register, List.mem_append, List.mem_singleton] at hr ⊢
    rcases hr with hr | rfl
    · have := hn.registrations r hr
      omega
    · simp
  · intro w hw
    simp only [Hub.watch, Registry.register, List.mem_cons] at hw ⊢
    rcases hw with rfl | hw
    · simp
    · have := hn.watchers w hw
      omega

theorem evolves_watch (h : Hub) (name : String) (keys : List String) (scope : UserId)
    (responses : List (List Reaction)) : Evolves h [] (h.watch name keys scope responses) := by
  refine ⟨fun id => ?_, by simp⟩
  have hserves : ∀ {user}, h.Serves id user →
      (h.watch name keys scope responses).Serves id user := by
    intro user hs
    refine ⟨List.mem_append_left _ hs.registered, Nat.lt_succ_of_lt hs.numbered, ?_⟩
    intro w hw
    rcases List.mem_cons.mp hw with rfl | hw
    · exact Nat.ne_of_gt hs.numbered
    · exact hs.unshared w hw
  exact ⟨rfl, List.prefix_refl _, Nat.le_succ _, fun hn => hn.watch name keys scope responses,
    hserves, fun _ _ => .inl rfl⟩

private theorem serves_unregister {h : Hub} {id other : Nat} {user : UserId} (hs : h.Serves id user)
    (hne : id ≠ other) : Serves { h with registry := h.registry.unregister other } id user :=
  ⟨List.mem_filter.mpr ⟨hs.registered, by simp [hne]⟩, hs.numbered, hs.unshared⟩

theorem Numbered.unregister {h : Hub} (hn : h.Numbered) (id : Nat) :
    Numbered { h with registry := h.registry.unregister id } :=
  ⟨fun r hr => hn.registrations r (List.mem_filter.mp hr).1, hn.watchers⟩

private theorem evolves_unregister (h : Hub) {id : Nat}
    (hfree : ∀ {other user}, h.Serves other user → other ≠ id) :
    Evolves h [] { h with registry := h.registry.unregister id } := by
  refine ⟨fun other => ?_, by simp⟩
  exact ⟨rfl, List.prefix_refl _, Nat.le_refl _, fun hn => hn.unregister id,
    fun hs => serves_unregister hs (hfree hs), fun _ _ => .inl rfl⟩

/-- The number of a watcher is never the number of a brightness watch. -/
theorem evolves_unwatch (h : Hub) (name : String) : Evolves h [] (h.unwatch name).1 := by
  unfold unwatch idOf?
  cases hfind : h.watchers.find? (fun w => w.name == name) with
  | none => exact Evolves.refl h
  | some w =>
    apply evolves_unregister
    intro other user hs hother
    exact hs.unshared w (List.mem_of_find?_eq_some hfind) hother.symm

private theorem id_of_mem_dropResponse {id : Nat} {ws : List Watcher} {w : Watcher}
    (hw : w ∈ dropResponse id ws) : ∃ w' ∈ ws, w'.id = w.id := by
  induction ws with
  | nil => simp [dropResponse] at hw
  | cons v vs ih =>
    by_cases hid : (v.id == id) = true
    · rw [dropResponse, if_pos hid] at hw
      rcases List.mem_cons.mp hw with rfl | hw
      · exact ⟨v, List.mem_cons_self, rfl⟩
      · exact ⟨w, List.mem_cons_of_mem _ hw, rfl⟩
    · rw [dropResponse, if_neg hid] at hw
      rcases List.mem_cons.mp hw with rfl | hw
      · exact ⟨w, List.mem_cons_self, rfl⟩
      · obtain ⟨w', hw', hsame⟩ := ih hw
        exact ⟨w', List.mem_cons_of_mem _ hw', hsame⟩

private theorem evolves_respond (h : Hub) (id : Nat) : Evolves h [] (h.nextResponse id).1 := by
  refine ⟨fun other => ?_, by simp⟩
  have hnumbered : h.Numbered → (h.nextResponse id).1.Numbered := by
    intro hn
    refine ⟨hn.registrations, ?_⟩
    intro w hw
    obtain ⟨w', hw', hsame⟩ := id_of_mem_dropResponse hw
    rw [← hsame]
    exact hn.watchers w' hw'
  have hserves : ∀ {user}, h.Serves other user → (h.nextResponse id).1.Serves other user := by
    intro user hs
    refine ⟨hs.registered, hs.numbered, ?_⟩
    intro w hw
    obtain ⟨w', hw', hsame⟩ := id_of_mem_dropResponse hw
    rw [← hsame]
    exact hs.unshared w' hw'
  exact ⟨rfl, List.prefix_refl _, Nat.le_refl _, hnumbered, hserves, fun _ _ => .inl rfl⟩

theorem evolves_send (h : Hub) (e : Event) :
    Evolves h [.posted e] { h with queue := h.queue.post e } := by
  have hisOpen : (h.queue.post e).isOpen = h.queue.isOpen := by
    unfold EventQueue.post
    split <;> rfl
  have hpending : h.queue.pending <+: (h.queue.post e).pending := by
    unfold EventQueue.post
    split
    · exact List.prefix_append _ _
    · exact List.prefix_refl _
  refine ⟨fun id => ?_, by simp [Activity.isOfHub]⟩
  exact ⟨hisOpen, hpending, Nat.le_refl _, fun hn => ⟨hn.registrations, hn.watchers⟩,
    fun hs => ⟨hs.registered, hs.numbered, hs.unshared⟩, fun _ _ => .inl rfl⟩

private theorem evolves_post (h : Hub) (key : String) (user : UserId) :
    Evolves h (h.post (.settingChanged key user) (.changeUnreceived user)).journal
      (h.post (.settingChanged key user) (.changeUnreceived user)).state := by
  unfold post
  split
  · exact evolves_send h _
  · exact Evolves.noted h (by simp [Activity.isOfHub])

private theorem transit_evolves : Transit Evolves where
  refl := Evolves.refl
  trans := Evolves.trans
  changed h _ _ _ _ := Evolves.noted h (by simp [Activity.isOfHub])
  reacted h _ _ := Evolves.noted h (by simp [Activity.isOfHub])
  watch := evolves_watch
  unwatch := evolves_unwatch
  respond := evolves_respond
  post := evolves_post

/-- If one of the listeners that are called is a poster, an event waits in the end. -/
private theorem pending_ne_nil_of_poster {depth : Nat} {key : String} {user : UserId} {h : Hub}
    (hcall : ∀ h r, Evolves h (call depth key user h r).journal (call depth key user h r).state)
    (hopen : h.queue.isOpen = true) {heard : List Registration} {r : Registration}
    (hr : r ∈ heard) (hposter : r.listener = .poster) :
    (Outcome.forEach (call depth key user) h heard).state.queue.pending ≠ [] := by
  induction heard generalizing h with
  | nil => simp at hr
  | cons s rest ih =>
    have hfirst := hcall h s
    rcases List.mem_cons.mp hr with rfl | hr
    · have hrest := Outcome.forEach_rel Evolves.refl Evolves.trans hcall
        (call depth key user h r).state rest
      apply hrest.pending_ne_nil
      rw [(call_poster hopen hposter depth key user).1]
      simp [EventQueue.post, hopen]
    · exact ih (hfirst.isOpen.trans hopen) hr

theorem Serves.hears {h : Hub} {id : Nat} {user : UserId} (hs : h.Serves id user) {key : String}
    (hkey : key ∈ Setting.watched) : ⟨id, Setting.watched, user, .poster⟩ ∈
      h.registry.hearing key user := by
  refine List.mem_filter.mpr ⟨hs.registered, ?_⟩
  simp [Registration.hears, UserId.covers, hkey]

/-- A write keeps the course of the hub if the calls of its listeners do. -/
private theorem evolves_putUsing {depth : Nat}
    (hcall : ∀ key user h r, Evolves h (call depth key user h r).journal
      (call depth key user h r).state)
    (h : Hub) (key value : String) (user : UserId) :
    Evolves h (putUsing (call depth) h key value user).journal
      (putUsing (call depth) h key value user).state := by
  unfold putUsing
  cases hwrite : h.store.write key value user with
  | error cause => exact Evolves.refl h
  | ok store =>
    have hev := transit_evolves.notifyUsing hcall { h with store } key user
    have hentries : ∀ a ∈ report (h.store.writeNotices key value user), a.isOfHub = true := by
      intro a ha
      obtain ⟨n, hn, rfl⟩ := List.mem_map.mp ha
      cases hstore : h.store <;> simp [hstore, SettingsStore.writeNotices] at hn
      subst hn
      rfl
    refine ⟨fun id => ?_, ?_⟩
    · have hkeeps := hev.keeps id
      have hstored : ∀ {owner}, h.Serves id owner → Serves { h with store } id owner :=
        fun hs => ⟨hs.registered, hs.numbered, hs.unshared⟩
      refine ⟨hkeeps.isOpen, hkeeps.pending, hkeeps.nextId,
        fun hn => hkeeps.numbered ⟨hn.registrations, hn.watchers⟩,
        fun hs => hkeeps.serves (hstored hs), ?_⟩
      intro owner hs hopen
      by_cases hhit : owner = user ∧ Setting.mode = key
      · obtain ⟨rfl, rfl⟩ := hhit
        right
        have hkey : Setting.mode ∈ Setting.watched := by simp [Setting.watched]
        have hopen' : ({ h with store } : Hub).queue.isOpen = true := hopen
        exact pending_ne_nil_of_poster (hcall _ _) hopen' ((hstored hs).hears hkey) rfl
      · rcases hkeeps.announced (hstored hs) hopen with hsame | hne
        · left
          exact hsame.trans (SettingsStore.read_write_of_ne hwrite hhit)
        · exact .inr hne
    · intro a ha
      simp only [Outcome.journal_after, Outcome.journal_mapAnswer, List.mem_append] at ha
      rcases ha with ha | ha
      · exact hentries a ha
      · exact hev.entries a ha

private theorem evolves_call (depth : Nat) (key : String) (user : UserId) (h : Hub)
    (r : Registration) :
    Evolves h (call depth key user h r).journal (call depth key user h r).state :=
  transit_evolves.call (fun _ hcall => evolves_putUsing hcall) depth key user h r

theorem evolves_put (h : Hub) (key value : String) (user : UserId) :
    Evolves h (h.put key value user).journal (h.put key value user).state :=
  evolves_putUsing (evolves_call _) h key value user

theorem evolves_notify (h : Hub) (key : String) (user : UserId) :
    Evolves h (h.notify key user).journal (h.notify key user).state :=
  transit_evolves.notifyUsing (evolves_call _) h key user

end Hub

namespace BrightnessWatch

def id? : BrightnessWatch → Option Nat
  | idle => none
  | observing _ id => some id

variable (w : BrightnessWatch) (h : Hub) (user : UserId)

@[simp]
theorem nextId_release : (w.release h).registry.nextId = h.registry.nextId := by
  cases w <;> rfl

@[simp]
theorem watchers_release : (w.release h).watchers = h.watchers := by
  cases w <;> rfl

@[simp]
theorem queue_release : (w.release h).queue = h.queue := by
  cases w <;> rfl

@[simp]
theorem store_release : (w.release h).store = h.store := by
  cases w <;> rfl

variable {w h user}

theorem numbered_release (hn : h.Numbered) : (w.release h).Numbered := by
  cases w with
  | idle => exact hn
  | observing _ id => exact hn.unregister id

/-- Giving a registration back leaves those with other numbers alone. -/
theorem serves_release {id : Nat} (hs : h.Serves id user) (hne : w.id? ≠ some id) :
    (w.release h).Serves id user := by
  cases w with
  | idle => exact hs
  | observing _ other =>
    refine Hub.serves_unregister hs ?_
    intro hsame
    exact hne (congrArg some hsame.symm)

theorem answer_start :
    (w.start h user).answer = .observing user h.registry.nextId := by
  simp [start]

theorem nextId_start : (w.start h user).state.registry.nextId = h.registry.nextId + 1 := by
  simp [start, Registry.register]

theorem numbered_start (hn : h.Numbered) : (w.start h user).state.Numbered := by
  have hreleased := numbered_release hn (w := w)
  constructor
  · intro r hr
    simp only [start, Registry.register, List.mem_append, List.mem_singleton] at hr ⊢
    rcases hr with hr | rfl
    · have := hreleased.registrations r hr
      omega
    · simp
  · intro v hv
    have := hreleased.watchers v hv
    simp only [start, Registry.register]
    omega

/-- A watch that was started is served under the number that was next. -/
theorem serves_start (hn : h.Numbered) :
    (w.start h user).state.Serves h.registry.nextId user := by
  refine ⟨?_, ?_, ?_⟩
  · simp [start, Registry.register]
  · rw [nextId_start]
    exact Nat.lt_succ_self _
  · intro v hv
    simp only [start, watchers_release] at hv
    exact Nat.ne_of_lt (hn.watchers v hv)

/-- Starting a watch leaves the registrations with other numbers alone. -/
private theorem serves_start_of_ne {id : Nat} {owner : UserId} (hs : h.Serves id owner)
    (hne : w.id? ≠ some id) : (w.start h user).state.Serves id owner := by
  have hreleased := serves_release hs hne
  refine ⟨List.mem_append_left _ hreleased.registered, ?_, ?_⟩
  · exact Nat.lt_succ_of_lt hreleased.numbered
  · exact hreleased.unshared

end BrightnessWatch

namespace Hub

/-- Someone else's watch gives its registration back. -/
theorem keeps_release {h : Hub} {w : BrightnessWatch} {id : Nat} (hne : w.id? ≠ some id) :
    Keeps id h (w.release h) where
  isOpen := by rw [BrightnessWatch.queue_release]
  pending := by simp
  nextId := by simp
  numbered := BrightnessWatch.numbered_release
  serves hs := BrightnessWatch.serves_release hs hne
  announced := by
    intro user _ _
    rw [BrightnessWatch.store_release]
    exact .inl rfl

/-- Someone else's watch starts. -/
theorem keeps_start {h : Hub} {w : BrightnessWatch} {id : Nat} (hne : w.id? ≠ some id)
    (user : UserId) : Keeps id h (w.start h user).state where
  isOpen := by simp [BrightnessWatch.start]
  pending := by simp [BrightnessWatch.start]
  nextId := by
    rw [BrightnessWatch.nextId_start]
    exact Nat.le_succ _
  numbered := BrightnessWatch.numbered_start
  serves hs := BrightnessWatch.serves_start_of_ne hs hne
  announced := by
    intro owner _ _
    simp [BrightnessWatch.start]

/-- Several watches give their registrations back. -/
theorem keeps_releaseAll {id : Nat} {ws : List BrightnessWatch} (h : Hub)
    (hother : ∀ w ∈ ws, w.id? ≠ some id) : Keeps id h (ws.foldl (fun h w => w.release h) h) := by
  induction ws generalizing h with
  | nil => exact .refl id h
  | cons w rest ih =>
    have hfirst := keeps_release (hother w List.mem_cons_self) (h := h)
    exact hfirst.trans (ih _ fun v hv => hother v (List.mem_cons_of_mem _ hv))

end Hub

end TilePanel
