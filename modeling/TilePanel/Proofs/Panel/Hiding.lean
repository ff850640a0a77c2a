import TilePanel.Proofs.Panel.Background
import TilePanel.Proofs.Panel.Draining
import TilePanel.Proofs.Settings.Hiding

/-!
A panel over a store without the settings of one user, next to the panel over the whole store. As
long as that user is not the current one, whatever is done with the one is done with the other, with
the same answer and the same journal. A write is no exception as long as all its listeners only post
events, and a write for that user concerns nobody if no listener covers that user.
-/

namespace TilePanel

namespace Hub

variable {hidden user : UserId} {h : Hub}

def without (hidden : UserId) (h : Hub) : Hub :=
  { h with store := h.store.without hidden }

/-- Whether all registrations post events, for users that do not cover a given one, and the store
is in order. -/
structure Deaf (hidden : UserId) (h : Hub) : Prop where
  watchers : h.watchers = []
  posters : ∀ r ∈ h.registry.entries, r.listener = .poster
  unheard : ∀ r ∈ h.registry.entries, r.scope.covers hidden = false
  ordered : h.store.Ordered

private theorem post_without (hidden : UserId) (h : Hub) (e : Event) (unreceived : Notice) :
    (h.without hidden).post e unreceived = (h.post e unreceived).mapState (without hidden) := by
  unfold post
  change (if h.queue.isOpen then _ else _) = _
  split <;> rfl

/-- A poster does not look at the store. -/
private theorem call_without {r : Registration} (hposter : r.listener = .poster) (hidden : UserId)
    (depth : Nat) (key : String) (user : UserId) (h : Hub) :
    call depth key user (h.without hidden) r =
      (call depth key user h r).mapState (without hidden) := by
  cases depth <;> simp only [call, hposter, post_without] <;> rfl

private theorem forEach_call_without {rs : List Registration}
    (hposters : ∀ r ∈ rs, r.listener = .poster)
    (hidden : UserId) (depth : Nat) (key : String) (user : UserId) (h : Hub) :
    Outcome.forEach (call depth key user) (h.without hidden) rs =
      (Outcome.forEach (call depth key user) h rs).mapState (without hidden) := by
  induction rs generalizing h with
  | nil => rfl
  | cons r rest ih =>
    have hfirst := call_without (hposters r List.mem_cons_self) hidden depth key user h
    have hrest := ih fun s hs => hposters s (List.mem_cons_of_mem _ hs)
    simp only [Outcome.forEach, Outcome.andThen, hfirst, Outcome.state_mapState, hrest]
    rfl

private theorem posters_hearing (hposters : ∀ r ∈ h.registry.entries, r.listener = .poster)
    (key : String) (user : UserId) : ∀ r ∈ h.registry.hearing key user, r.listener = .poster :=
  fun r hr => hposters r (List.mem_filter.mp hr).1

theorem notifyUsing_without (hposters : ∀ r ∈ h.registry.entries, r.listener = .poster)
    (hidden : UserId) (depth : Nat) (key : String) (user : UserId) :
    notifyUsing (call depth) (h.without hidden) key user =
      (notifyUsing (call depth) h key user).mapState (without hidden) :=
  congrArg (Outcome.mapAnswer fun _ => (h.registry.hearing key user).length)
    (forEach_call_without (posters_hearing hposters key user) hidden depth key user h)

namespace Deaf

theorem notify_without (hdeaf : h.Deaf hidden) (key : String) (user : UserId) :
    (h.without hidden).notify key user = (h.notify key user).mapState (without hidden) :=
  notifyUsing_without hdeaf.posters hidden _ key user

/-- What others write. -/
theorem put_without (hdeaf : h.Deaf hidden) (hother : user ≠ hidden) (key value : String) :
    (h.without hidden).put key value user = (h.put key value user).mapState (without hidden) := by
  have hwrite := SettingsStore.write_without hdeaf.ordered hother key value
  have hput : (h.without hidden).put key value user =
      putUsing (call (h.pendingResponses + 1)) (h.without hidden) key value user := rfl
  rw [hput, put]
  cases hstored : h.store.write key value user with
  | error cause =>
    have hrefused : (h.without hidden).store.write key value user = .error cause := by
      rw [Hub.without, hwrite, hstored]
      rfl
    simp only [putUsing, hstored, hrefused]
    rfl
  | ok store =>
    have htaken : (h.without hidden).store.write key value user = .ok (store.without hidden) := by
      rw [Hub.without, hwrite, hstored]
      rfl
    have hnotify : notifyUsing (call (h.pendingResponses + 1))
          { h.without hidden with store := store.without hidden } key user =
        (notifyUsing (call (h.pendingResponses + 1)) { h with store } key user).mapState
          (without hidden) :=
      notifyUsing_without (h := { h with store }) hdeaf.posters hidden _ key user
    have hnotices : (h.without hidden).store.writeNotices key value user =
        h.store.writeNotices key value user :=
      h.store.writeNotices_without hidden key value user
    simp only [putUsing, hstored, htaken, hnotify, hnotices]
    rfl

/-- A write for the user who is not heard concerns nobody. -/
theorem put_hidden (hdeaf : h.Deaf hidden) (key value : String) :
    (h.put key value hidden).state.without hidden = h.without hidden := by
  have hnobody : h.registry.hearing key hidden = [] := by
    refine List.filter_eq_nil_iff.mpr fun r hr => ?_
    simp [Registration.hears, hdeaf.unheard r hr]
  cases hstored : h.store.write key value hidden with
  | error cause => simp [put, putUsing, hstored]
  | ok store =>
    have hput : (h.put key value hidden).state = { h with store } := by
      simp [put, putUsing, hstored, notifyUsing, hnobody, Outcome.forEach]
    rw [hput, without, without, SettingsStore.without_write_hidden hstored]

/-- Whatever is posted, the listeners and the store stay. -/
private theorem forEach_call (hdeaf : h.Deaf hidden) {rs : List Registration}
    (hposters : ∀ r ∈ rs, r.listener = .poster) (depth : Nat) (key : String) (user : UserId) :
    (Outcome.forEach (call depth key user) h rs).state.Deaf hidden := by
  induction rs generalizing h with
  | nil => exact hdeaf
  | cons r rest ih =>
    refine ih ?_ fun s hs => hposters s (List.mem_cons_of_mem _ hs)
    have hposter := hposters r List.mem_cons_self
    cases depth <;> simp only [call, hposter, post, Outcome.state_mapAnswer] <;> split <;>
      exact { hdeaf with }

theorem notify (hdeaf : h.Deaf hidden) (key : String) (user : UserId) :
    (h.notify key user).state.Deaf hidden :=
  hdeaf.forEach_call (posters_hearing hdeaf.posters key user) _ key user

/-- Those who hear of a write post an event and do nothing else. -/
theorem put (hdeaf : h.Deaf hidden) (key value : String) (user : UserId) :
    (h.put key value user).state.Deaf hidden := by
  cases hstored : h.store.write key value user with
  | error cause => simpa [Hub.put, putUsing, hstored] using hdeaf
  | ok store =>
    have hwritten : ({ h with store } : Hub).Deaf hidden :=
      { hdeaf with ordered := hdeaf.ordered.write hstored }
    simp only [Hub.put, putUsing, hstored]
    exact hwritten.forEach_call (posters_hearing hwritten.posters key user) _ key user

theorem release (hdeaf : h.Deaf hidden) (watch : BrightnessWatch) :
    (watch.release h).Deaf hidden := by
  cases watch with
  | idle => exact hdeaf
  | observing owner id =>
    refine ⟨hdeaf.watchers, ?_, ?_, hdeaf.ordered⟩
    · exact fun r hr => hdeaf.posters r (List.mem_filter.mp hr).1
    · exact fun r hr => hdeaf.unheard r (List.mem_filter.mp hr).1

/-- A watch on a user who does not cover the one who is not heard. -/
theorem start (hdeaf : h.Deaf hidden) (watch : BrightnessWatch)
    (hcovers : user.covers hidden = false) : (watch.start h user).state.Deaf hidden := by
  have hreleased := hdeaf.release watch
  refine ⟨hreleased.watchers, ?_, ?_, hreleased.ordered⟩
  · intro r hr
    rcases List.mem_append.mp hr with hr | hr
    · exact hreleased.posters r hr
    · obtain rfl := List.mem_singleton.mp hr
      rfl
  · intro r hr
    rcases List.mem_append.mp hr with hr | hr
    · exact hreleased.unheard r hr
    · obtain rfl := List.mem_singleton.mp hr
      exact hcovers

end Deaf

end Hub

namespace Panel

variable {hidden user : UserId} {p : Panel}

def without (hidden : UserId) (p : Panel) : Panel :=
  { p with hub := p.hub.without hidden }

private theorem background_without (hother : user ≠ hidden) :
    Hub.IsBackground (Hub.without hidden) user where
  registry _ := rfl
  register _ _ := rfl
  read h key := h.store.read_without hother key

theorem handle_without (hother : p.user ≠ hidden) (e : Event) :
    (p.without hidden).handle e = (p.handle e).mapState (without hidden) :=
  handle_mapHub (background_without hother) e

private theorem deliver_without (hother : p.user ≠ hidden) (e : Event) :
    (p.without hidden).deliver e = (p.deliver e).mapState (without hidden) := by
  unfold deliver
  rw [handle_without hother]
  cases hanswer : (p.handle e).answer <;> simp [hanswer, Outcome.mapState]

/-- The queue does not depend on the settings. -/
theorem takeEvent_without (hidden : UserId) (p : Panel) :
    (p.without hidden).takeEvent = p.takeEvent.mapState (without hidden) := by
  cases hpending : p.hub.queue.pending with
  | nil =>
    have hhidden : (p.without hidden).hub.queue.pending = [] := hpending
    rw [takeEvent_of_empty hpending, takeEvent_of_empty hhidden]
    rfl
  | cons e rest =>
    have hhidden : (p.without hidden).hub.queue.pending = e :: rest := hpending
    rw [takeEvent_of_waiting hpending, takeEvent_of_waiting hhidden]
    rfl

private theorem drainUpTo_without (limit : Nat) (hother : p.user ≠ hidden) :
    drainUpTo limit (p.without hidden) = (drainUpTo limit p).mapState (without hidden) := by
  induction limit generalizing p with
  | zero => rfl
  | succ limit ih =>
    have htake := takeEvent_without hidden p
    have huser : p.takeEvent.state.user = p.user := by
      unfold takeEvent
      cases p.hub.queue.pending <;> rfl
    unfold drainUpTo
    rw [htake]
    cases hanswer : p.takeEvent.answer with
    | none => simp [hanswer, Outcome.mapState]
    | some e =>
      have hdeliver : (p.takeEvent.state.without hidden).deliver e =
          (p.takeEvent.state.deliver e).mapState (without hidden) :=
        deliver_without (huser ▸ hother) e
      have hdelivered : (p.takeEvent.state.deliver e).state.user = p.user := by
        rw [state_deliver, (surroundings_handle _ e).user, huser]
      have hrest := ih (p := (p.takeEvent.state.deliver e).state) (hdelivered ▸ hother)
      simp only [Outcome.answer_mapState, Outcome.state_mapState, hanswer, hdeliver, hrest]
      rfl

theorem drain_without (hother : p.user ≠ hidden) :
    (p.without hidden).drain = p.drain.mapState (without hidden) :=
  drainUpTo_without _ hother

theorem switchUser_without (hidden : UserId) (p : Panel) (user : UserId) :
    (p.without hidden).switchUser user = (p.switchUser user).mapState (without hidden) := by
  have hpost := p.hub.post_without hidden (.userSwitched user) .switchUnreceived
  have huser : (p.without hidden).user = p.user := rfl
  have hhub : (p.without hidden).hub = p.hub.without hidden := rfl
  unfold switchUser
  rw [huser, hhub, hpost]
  dsimp only
  split <;> rfl

/-- Whether the panel keeps a user from being heard: nobody listens, and the current user, on whom a
watch may be started, does not cover that user. -/
structure Shields (hidden : UserId) (p : Panel) : Prop where
  deaf : p.hub.Deaf hidden
  user : p.user.covers hidden = false

namespace Shields

theorem retiles {q : Panel} (hshields : p.Shields hidden) (h : Retiles p q) :
    q.Shields hidden := by
  obtain ⟨_, rfl⟩ := h
  exact ⟨hshields.deaf, hshields.user⟩

theorem moveWatch (hshields : p.Shields hidden) : p.moveWatch.Shields hidden :=
  ⟨hshields.deaf.start p.watch hshields.user, hshields.user⟩

theorem operate (hshields : p.Shields hidden) (op : Operation) :
    (op.run p).state.Shields hidden := by
  rcases op.run_cases p with hstays | hmoves
  · exact hshields.retiles hstays
  · exact hshields.moveWatch.retiles hmoves

theorem drain (hshields : p.Shields hidden) : p.drain.state.Shields hidden := by
  refine drain_rel (R := fun p q => p.Shields hidden → q.Shields hidden) ?_ ?_ ?_ p hshields
  · exact fun _ h => h
  · exact fun hfirst hnext h => hnext (hfirst h)
  · intro p e rest _ h
    have htaken : (p.withPending rest).Shields hidden := ⟨{ h.deaf with }, h.user⟩
    exact htaken.operate (.handle e)

end Shields

end Panel

theorem Operation.run_without (op : Operation) {hidden : UserId} {p : Panel}
    (hother : p.user ≠ hidden) :
    op.run (p.without hidden) = (op.run p).mapState (Panel.without hidden) :=
  op.run_mapHub (Panel.background_without hother)

end TilePanel
