import TilePanel.Proofs.Hub.Books
import TilePanel.Proofs.Hub.Snapshot

/-!
Who posts events, and what is posted. While listeners are told of writes, each poster that is called
puts one event behind those that wait, in the order of the calls, at whatever depth they nest. The
registrations that post are made by brightness watches and by nobody else, so that each of them
belongs to a watch as long as every watch that goes gives its own one back.
-/

namespace TilePanel

namespace Telling

/-- The events that are posted, at whatever depth, in order. -/
def posts : Telling → List Event
  | nothing => []
  | called listener key user inside rest =>
    (if listener.isPoster then [.settingChanged key user] else []) ++ inside.posts ++ rest.posts
  | wrote _ _ _ inside rest => inside.posts ++ rest.posts
  | watched _ rest | unwatched _ rest | refused _ _ _ rest => rest.posts

end Telling

namespace Hub

theorem queue_unwatch (h : Hub) (name : String) : (h.unwatch name).1.queue = h.queue := by
  unfold unwatch
  split <;> rfl

theorem queue_post {h : Hub} (hopen : h.queue.isOpen = true) (e : Event) (unreceived : Notice) :
    (h.post e unreceived).state.queue = ⟨h.queue.pending ++ [e], true⟩ := by
  simp [post, hopen, EventQueue.post]

/-- What a notification leaves on a queue that can be taken from. -/
theorem Tells.queue {agenda : Agenda} {h h' : Hub} {t : Telling} {j : List Activity}
    (htells : Tells agenda h t j h') (hopen : h.queue.isOpen = true) :
    h'.queue = ⟨h.queue.pending ++ t.posts, true⟩ := by
  induction htells with
  | @told _ _ h | @reacted _ h =>
    rw [Telling.posts, List.append_nil, ← hopen]
  | @poster key user r _ h _ _ _ hposter _ ih =>
    have hposted := queue_post hopen (.settingChanged key user) (.changeUnreceived user)
    have hcalled : r.isPoster = true := r.isPoster_iff.mpr hposter
    rw [ih (congrArg EventQueue.isOpen hposted), hposted]
    simp [Telling.posts, hcalled]
  | @watcher _ _ _ r _ h h' _ inside _ _ _ hwatcher _ _ ihinside ih =>
    have hcalled : r.isPoster = false := by simp [Registration.isPoster, hwatcher]
    have hinside : h'.queue = ⟨h.queue.pending ++ inside.posts, true⟩ := ihinside hopen
    rw [ih (congrArg EventQueue.isOpen hinside), hinside]
    simp only [Telling.posts, hcalled, Bool.false_eq_true, if_false, List.nil_append,
      List.append_assoc]
  | watch _ ih => exact ih hopen
  | @unwatch _ name _ h _ _ _ _ ih =>
    have hsame := h.queue_unwatch name
    rw [ih (hsame ▸ hopen), hsame]
    rfl
  | put _ _ _ ihinside ih =>
    have hinside := ihinside hopen
    rw [ih (congrArg EventQueue.isOpen hinside), hinside, Telling.posts, List.append_assoc]
  | refused _ _ ih => exact ih hopen

/-- What a write posts, which is nothing if the store refuses it. -/
theorem queue_put {h : Hub} (hopen : h.queue.isOpen = true) (key value : String) (user : UserId) :
    (h.put key value user).state.queue =
      ⟨h.queue.pending ++ (h.tellingOfPut key value user).posts, true⟩ := by
  cases hwrite : h.store.write key value user with
  | error cause =>
    simp [put, putUsing, tellingOfPut, insideWrite, hwrite, Telling.posts, ← hopen]
  | ok store =>
    obtain ⟨j, htells, _⟩ := tells_put hwrite
    exact htells.queue hopen

theorem queue_notify {h : Hub} (hopen : h.queue.isOpen = true) (key : String) (user : UserId) :
    (h.notify key user).state.queue =
      ⟨h.queue.pending ++ (h.tellingOfNotify key user).posts, true⟩ :=
  (h.tells_notify key user).queue hopen

def KeepsPosters (h : Hub) (_ : List Activity) (h' : Hub) : Prop :=
  ∀ r ∈ h'.registry.entries, r.isPoster = true → r ∈ h.registry.entries

theorem keepsPosters_of_registry {h h' : Hub} (j : List Activity)
    (hregistry : h'.registry = h.registry) : KeepsPosters h j h' :=
  fun _ hr _ => hregistry ▸ hr

theorem keepsPosters_watch (h : Hub) (name : String) (keys : List String) (scope : UserId)
    (responses : List (List Reaction)) (j : List Activity) :
    KeepsPosters h j (h.watch name keys scope responses) := by
  intro r hr hposter
  rcases List.mem_append.mp hr with hr | hr
  · exact hr
  · obtain rfl := List.mem_singleton.mp hr
    cases hposter

theorem keepsPosters_unwatch (h : Hub) (name : String) (j : List Activity) :
    KeepsPosters h j (h.unwatch name).1 := by
  intro r hr _
  unfold unwatch at hr
  split at hr
  · exact hr
  · exact (List.mem_filter.mp hr).1

private theorem transit_keepsPosters : Transit KeepsPosters where
  refl _ _ hr _ := hr
  trans hfirst hnext r hr hposter := hfirst r (hnext r hr hposter) hposter
  changed h _ _ _ _ := keepsPosters_of_registry _ rfl
  reacted h _ _ := keepsPosters_of_registry _ rfl
  watch h name keys scope responses := h.keepsPosters_watch name keys scope responses []
  unwatch h name := h.keepsPosters_unwatch name []
  respond _ _ := keepsPosters_of_registry _ rfl
  post h key user := by
    unfold post
    split <;> exact keepsPosters_of_registry _ rfl

private theorem keepsPosters_putUsing
    {call : String → UserId → Hub → Registration → Outcome Hub Unit}
    (hcall : ∀ key user h r, KeepsPosters h (call key user h r).journal (call key user h r).state)
    (h : Hub) (key value : String) (user : UserId) :
    KeepsPosters h (putUsing call h key value user).journal
      (putUsing call h key value user).state := by
  unfold putUsing
  cases h.store.write key value user with
  | error cause => exact transit_keepsPosters.refl h
  | ok store => exact transit_keepsPosters.notifyUsing hcall { h with store } key user

private theorem keepsPosters_call (depth : Nat) (key : String) (user : UserId) (h : Hub)
    (r : Registration) :
    KeepsPosters h (call depth key user h r).journal (call depth key user h r).state :=
  transit_keepsPosters.call (fun _ hcall => keepsPosters_putUsing hcall) depth key user h r

theorem keepsPosters_put (h : Hub) (key value : String) (user : UserId) :
    KeepsPosters h (h.put key value user).journal (h.put key value user).state :=
  keepsPosters_putUsing (keepsPosters_call _) h key value user

theorem keepsPosters_notify (h : Hub) (key : String) (user : UserId) :
    KeepsPosters h (h.notify key user).journal (h.notify key user).state :=
  transit_keepsPosters.notifyUsing (keepsPosters_call _) h key user

end Hub

/-- Whether every registration that posts belongs to one of some watches. -/
def PostersOf (entries : List Registration) (watches : BrightnessWatch → Prop) : Prop :=
  ∀ r ∈ entries, r.isPoster = true → ∃ v, watches v ∧ v.id? = some r.id

namespace PostersOf

variable {entries entries' : List Registration} {watches watches' : BrightnessWatch → Prop}

theorem imp (h : PostersOf entries watches) (himp : ∀ v, watches v → watches' v) :
    PostersOf entries watches' := by
  intro r hr hposter
  obtain ⟨v, hv, hid⟩ := h r hr hposter
  exact ⟨v, himp v hv, hid⟩

theorem of_keepsPosters {h h' : Hub} {j : List Activity}
    (hposters : PostersOf h.registry.entries watches) (hkeeps : h.KeepsPosters j h') :
    PostersOf h'.registry.entries watches :=
  fun r hr hposter => hposters r (hkeeps r hr hposter) hposter

/-- A watch that gives its registration back is not needed any more. -/
theorem release {v : BrightnessWatch} {h : Hub}
    (hposters : PostersOf h.registry.entries fun u => u = v ∨ watches u) :
    PostersOf (v.release h).registry.entries watches := by
  intro r hr hposter
  cases v with
  | idle =>
    obtain ⟨u, rfl | hu, hid⟩ := hposters r hr hposter
    · cases hid
    · exact ⟨u, hu, hid⟩
  | observing user id =>
    obtain ⟨hr, hother⟩ := List.mem_filter.mp hr
    obtain ⟨u, rfl | hu, hid⟩ := hposters r hr hposter
    · obtain rfl := Option.some.inj hid
      simp at hother
    · exact ⟨u, hu, hid⟩

/-- A watch that is started owns the registration that it makes. -/
theorem start {v : BrightnessWatch} {h : Hub} (user : UserId)
    (hposters : PostersOf h.registry.entries fun u => u = v ∨ watches u) :
    PostersOf (v.start h user).state.registry.entries
      fun u => u = (v.start h user).answer ∨ watches u := by
  intro r hr hposter
  rcases List.mem_append.mp hr with hr | hr
  · obtain ⟨u, hu, hid⟩ := hposters.release r hr hposter
    exact ⟨u, .inr hu, hid⟩
  · obtain rfl := List.mem_singleton.mp hr
    exact ⟨_, .inl rfl, rfl⟩

end PostersOf

end TilePanel
