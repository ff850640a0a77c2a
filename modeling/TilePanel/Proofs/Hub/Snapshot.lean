import TilePanel.Proofs.Hub.Telling

/-!
A write tells exactly the listeners that hear of it when it is stored, and everything that follows
from it is carried out to the end: the bound on the nesting of calls is never reached, since every
call that makes another write has used up a response.
-/

namespace TilePanel

namespace Hub

/-- The telling of listeners one after the other, given what the single calls do. -/
def tellingOf (call : Hub → Registration → Outcome Hub Unit) (inside : Hub → Registration → Telling)
    (key : String) (user : UserId) : Hub → List Registration → Telling
  | _, [] => .nothing
  | h, r :: rest =>
    .called r key user (inside h r) (tellingOf call inside key user (call h r).state rest)

def insideWrite (call : String → UserId → Hub → Registration → Outcome Hub Unit)
    (inside : String → UserId → Hub → Registration → Telling) (h : Hub) (key value : String)
    (user : UserId) : Telling :=
  match h.store.write key value user with
  | .error _ => .nothing
  | .ok store =>
    tellingOf (call key user) (inside key user) key user { h with store }
      (h.registry.hearing key user)

def insideResponse (call : String → UserId → Hub → Registration → Outcome Hub Unit)
    (inside : String → UserId → Hub → Registration → Telling) (watcher : String) :
    Hub → List Reaction → Telling
  | _, [] => .nothing
  | h, reaction :: rest =>
    let later := insideResponse call inside watcher (reactUsing call watcher h reaction).state rest
    match reaction with
    | .watch name keys scope _ => .watched ⟨h.registry.nextId, keys, scope, .watcher name⟩ later
    | .unwatch name => .unwatched (h.idOf? name) later
    | .put key value user =>
      match h.store.write key value user with
      | .error _ => .refused key value user later
      | .ok _ => .wrote key value user (insideWrite call inside h key value user) later

def insideCall : Nat → String → UserId → Hub → Registration → Telling
  | 0, _, _, _, _ => .nothing
  | depth + 1, _, _, h, r =>
    match r.listener with
    | .poster => .nothing
    | .watcher name =>
      insideResponse (call depth) (insideCall depth) name (h.nextResponse r.id).1
        (h.nextResponse r.id).2

def tellingOfNotify (h : Hub) (key : String) (user : UserId) : Telling :=
  tellingOf (call (h.pendingResponses + 1) key user) (insideCall (h.pendingResponses + 1) key user)
    key user h (h.registry.hearing key user)

/-- What a write leads to, from its first call to its last. -/
def tellingOfPut (h : Hub) (key value : String) (user : UserId) : Telling :=
  insideWrite (call (h.pendingResponses + 1)) (insideCall (h.pendingResponses + 1)) h key value user

/-- Using up a response takes its weight off the responses that are still to come. -/
private theorem pending_dropResponse (id : Nat) (ws : List Watcher) :
    let response := ((ws.find? fun w => w.id == id).bind fun w => w.responses.head?).getD []
    let pending : List Watcher → Nat :=
      fun ws => ws.foldr (fun w n => Reaction.weightOfAll w.responses + n) 0
    pending (dropResponse id ws) + Reaction.weightOfOne response ≤ pending ws ∧
      (response ≠ [] →
        pending (dropResponse id ws) + Reaction.weightOfOne response < pending ws) := by
  intro response pending
  induction ws with
  | nil => simp [response, pending, dropResponse, Reaction.weightOfOne]
  | cons w rest ih =>
    by_cases hid : (w.id == id) = true
    · cases hresponses : w.responses with
      | nil =>
        simp [response, pending, dropResponse, hid, hresponses, Reaction.weightOfAll,
          Reaction.weightOfOne]
      | cons first later =>
        simp only [response, pending, dropResponse, hid, hresponses, Reaction.weightOfAll,
          List.find?_cons_of_pos, Option.bind_some, List.head?_cons, Option.getD_some,
          List.foldr_cons, List.tail_cons, if_true]
        constructor
        · omega
        · omega
    · have hother : (w.id == id) = false := Bool.eq_false_iff.mpr hid
      simp only [response, pending, dropResponse, hother, List.find?_cons_of_neg,
        Bool.false_eq_true, not_false_eq_true, if_false, List.foldr_cons] at ih ⊢
      obtain ⟨hle, hlt⟩ := ih
      refine ⟨by omega, ?_⟩
      intro hne
      have := hlt hne
      omega

theorem pending_nextResponse (h : Hub) (id : Nat) :
    (h.nextResponse id).1.pendingResponses + Reaction.weightOfOne (h.nextResponse id).2 ≤
      h.pendingResponses ∧
    ((h.nextResponse id).2 ≠ [] →
      (h.nextResponse id).1.pendingResponses + Reaction.weightOfOne (h.nextResponse id).2 <
        h.pendingResponses) :=
  pending_dropResponse id h.watchers

theorem pending_post (h : Hub) (e : Event) (unreceived : Notice) :
    (h.post e unreceived).state.pendingResponses = h.pendingResponses := by
  unfold post
  split <;> rfl

private theorem pending_unwatch (h : Hub) (name : String) :
    (h.unwatch name).1.pendingResponses = h.pendingResponses := by
  unfold unwatch
  split <;> rfl

/-- Calls that are carried out to the end on a hub whose responses to come are within a limit, and
that leave no more of them. -/
def Completes (call : String → UserId → Hub → Registration → Outcome Hub Unit)
    (inside : String → UserId → Hub → Registration → Telling) (limit : Nat) : Prop :=
  ∀ key user h r, h.pendingResponses ≤ limit →
    (call key user h r).state.pendingResponses ≤ h.pendingResponses ∧
    ∀ rest t j h', Tells (.tell key user rest) (call key user h r).state t j h' →
      Tells (.tell key user (r :: rest)) h (.called r key user (inside key user h r) t)
        ((call key user h r).journal ++ j) h'

namespace Completes

variable {call : String → UserId → Hub → Registration → Outcome Hub Unit}
  {inside : String → UserId → Hub → Registration → Telling} {limit : Nat}

/-- All listeners are called, one after the other. -/
theorem tells (hcall : Completes call inside limit) (key : String) (user : UserId)
    (listeners : List Registration) (h : Hub) (hlimit : h.pendingResponses ≤ limit) :
    Tells (.tell key user listeners) h
      (tellingOf (call key user) (inside key user) key user h listeners)
      (Outcome.forEach (call key user) h listeners).journal
      (Outcome.forEach (call key user) h listeners).state ∧
    (Outcome.forEach (call key user) h listeners).state.pendingResponses ≤ h.pendingResponses := by
  induction listeners generalizing h with
  | nil => exact ⟨.told, Nat.le_refl _⟩
  | cons r rest ih =>
    obtain ⟨hless, hfirst⟩ := hcall key user h r hlimit
    obtain ⟨hrest, hlast⟩ := ih (call key user h r).state (Nat.le_trans hless hlimit)
    exact ⟨hfirst rest _ _ _ hrest, Nat.le_trans hlast hless⟩

/-- A write whose store takes it is told to all who hear of it. -/
theorem write (hcall : Completes call inside limit) {h : Hub} {key value : String} {user : UserId}
    {store : SettingsStore} (hwrite : h.store.write key value user = .ok store)
    (hlimit : h.pendingResponses ≤ limit) :
    ∃ j, Tells (.tell key user (h.registry.hearing key user)) { h with store }
        (insideWrite call inside h key value user) j (putUsing call h key value user).state ∧
      (putUsing call h key value user).journal =
        report (h.store.writeNotices key value user) ++ j ∧
      (putUsing call h key value user).answer = .ok () ∧
      (putUsing call h key value user).state.pendingResponses ≤ h.pendingResponses := by
  obtain ⟨htells, hless⟩ :=
    hcall.tells key user (h.registry.hearing key user) { h with store } hlimit
  refine ⟨(notifyUsing call { h with store } key user).journal, ?_⟩
  simp only [putUsing, insideWrite, hwrite]
  exact ⟨htells, rfl, rfl, hless⟩

/-- The reactions of a watcher are carried out, one after the other, if their own weight is within
the limit as well. -/
theorem reacts (hcall : Completes call inside limit) (watcher : String)
    (reactions : List Reaction) (h : Hub)
    (hlimit : h.pendingResponses + Reaction.weightOfOne reactions ≤ limit) :
    Tells (.react watcher reactions) h (insideResponse call inside watcher h reactions)
      (Outcome.forEach (reactUsing call watcher) h reactions).journal
      (Outcome.forEach (reactUsing call watcher) h reactions).state ∧
    (Outcome.forEach (reactUsing call watcher) h reactions).state.pendingResponses ≤
      h.pendingResponses + Reaction.weightOfOne reactions := by
  induction reactions generalizing h with
  | nil => exact ⟨.reacted, Nat.le_add_right _ _⟩
  | cons reaction rest ih =>
    rw [Reaction.weightOfOne] at hlimit ⊢
    simp only [Outcome.forEach, Outcome.journal_andThen, Outcome.state_andThen]
    cases reaction with
    | watch name keys scope responses =>
      have hpending : (h.watch name keys scope responses).pendingResponses =
          Reaction.weightOfAll responses + h.pendingResponses := rfl
      rw [Reaction.weight] at hlimit ⊢
      obtain ⟨htells, hless⟩ := ih (h.watch name keys scope responses) (by omega)
      exact ⟨.watch htells, Nat.le_trans hless (by omega)⟩
    | unwatch name =>
      have hpending := h.pending_unwatch name
      rw [Reaction.weight] at hlimit ⊢
      obtain ⟨htells, hless⟩ := ih (h.unwatch name).1 (by omega)
      exact ⟨.unwatch htells, Nat.le_trans hless (by omega)⟩
    | put key value user =>
      rw [Reaction.weight] at hlimit ⊢
      cases hwrite : h.store.write key value user with
      | error cause =>
        obtain ⟨htells, hless⟩ := ih h (by omega)
        have hreact : reactUsing call watcher h (.put key value user) =
            ⟨h, (), [.reacted watcher (.failed cause)]⟩ := by
          simp [reactUsing, putUsing, hwrite]
        simp only [insideResponse, hwrite, hreact]
        exact ⟨.refused hwrite htells, Nat.le_trans hless (by omega)⟩
      | ok store =>
        obtain ⟨j, hinside, hjournal, hanswer, hstored⟩ := hcall.write hwrite (by omega)
        have hreact : reactUsing call watcher h (.put key value user) =
            ⟨(putUsing call h key value user).state, (),
              report (h.store.writeNotices key value user) ++ j ++
                [.reacted watcher .done]⟩ := by
          simp only [reactUsing, hjournal, hanswer]
        obtain ⟨htells, hless⟩ := ih (putUsing call h key value user).state (by omega)
        simp only [insideResponse, hwrite, hreact]
        refine ⟨?_, Nat.le_trans hless (by omega)⟩
        rw [List.append_assoc]
        exact .put hwrite hinside htells

end Completes

/-- A call whose response is not empty leaves fewer responses for the calls inside of it. -/
theorem completes_step {depth : Nat}
    (hinner : ∀ d, depth = d + 1 → Completes (call depth) (insideCall depth) d) :
    Completes (call (depth + 1)) (insideCall (depth + 1)) depth := by
  intro key user h r hlimit
  cases hlistener : r.listener with
  | poster =>
    have hcall : call (depth + 1) key user h r =
        (h.post (.settingChanged key user) (.changeUnreceived user)).mapAnswer fun _ => () := by
      simp [call, hlistener]
    have hinside : insideCall (depth + 1) key user h r = .nothing := by
      simp [insideCall, hlistener]
    rw [hcall, hinside]
    refine ⟨Nat.le_of_eq (h.pending_post _ _), ?_⟩
    exact fun rest t j h' hrest => .poster hlistener hrest
  | watcher name =>
    have hcall : call (depth + 1) key user h r =
        (Outcome.forEach (reactUsing (call depth) name) (h.nextResponse r.id).1
          (h.nextResponse r.id).2).after [.changed name key user (h.store.read key user)] := by
      simp [call, hlistener]
    have hinside : insideCall (depth + 1) key user h r = insideResponse (call depth)
        (insideCall depth) name (h.nextResponse r.id).1 (h.nextResponse r.id).2 := by
      simp [insideCall, hlistener]
    rw [hcall, hinside]
    obtain ⟨hle, hlt⟩ := h.pending_nextResponse r.id
    obtain ⟨hreacts, hless⟩ : Tells (.react name (h.nextResponse r.id).2) (h.nextResponse r.id).1
        (insideResponse (call depth) (insideCall depth) name (h.nextResponse r.id).1
          (h.nextResponse r.id).2)
        (Outcome.forEach (reactUsing (call depth) name) (h.nextResponse r.id).1
          (h.nextResponse r.id).2).journal
        (Outcome.forEach (reactUsing (call depth) name) (h.nextResponse r.id).1
          (h.nextResponse r.id).2).state ∧
        (Outcome.forEach (reactUsing (call depth) name) (h.nextResponse r.id).1
          (h.nextResponse r.id).2).state.pendingResponses ≤
          (h.nextResponse r.id).1.pendingResponses +
            Reaction.weightOfOne (h.nextResponse r.id).2 := by
      cases hresponse : (h.nextResponse r.id).2 with
      | nil => exact ⟨.reacted, Nat.le_add_right _ _⟩
      | cons reaction later =>
        rw [hresponse] at hlt
        have hfewer := hlt (List.cons_ne_nil _ _)
        obtain ⟨d, rfl⟩ : ∃ d, depth = d + 1 := ⟨depth - 1, by omega⟩
        exact (hinner d rfl).reacts name (reaction :: later) _ (by omega)
    refine ⟨Nat.le_trans hless hle, ?_⟩
    exact fun rest t j h' hrest => .watcher hlistener hreacts hrest

/-- The induction on the depth of calls. -/
theorem completes_call (depth : Nat) :
    Completes (call (depth + 1)) (insideCall (depth + 1)) depth := by
  induction depth with
  | zero => exact completes_step fun d hd => absurd hd (Nat.succ_ne_zero d).symm
  | succ depth ih =>
    refine completes_step fun d hd => ?_
    obtain rfl := Nat.succ.inj hd
    exact ih

/-- A notification is carried out to the end. -/
theorem tells_notify (h : Hub) (key : String) (user : UserId) :
    Tells (.tell key user (h.registry.hearing key user)) h (h.tellingOfNotify key user)
      (h.notify key user).journal (h.notify key user).state :=
  ((completes_call h.pendingResponses).tells key user _ h (Nat.le_refl _)).1

/-- A write is carried out to the end, with all that follows from it. -/
theorem tells_put {h : Hub} {key value : String} {user : UserId} {store : SettingsStore}
    (hwrite : h.store.write key value user = .ok store) :
    ∃ j, Tells (.tell key user (h.registry.hearing key user)) { h with store }
        (h.tellingOfPut key value user) j (h.put key value user).state ∧
      (h.put key value user).journal = report (h.store.writeNotices key value user) ++ j ∧
      (h.put key value user).answer = .ok () := by
  obtain ⟨j, htells, hjournal, hanswer, _⟩ :=
    (completes_call h.pendingResponses).write hwrite (Nat.le_refl _)
  exact ⟨j, htells, hjournal, hanswer⟩

/-- A write calls the listeners that hear of it at the moment it is stored, and nobody else: each of
them once, in the order of registration, with its key and user, whatever the calls before did to the
registrations. Every call is carried out to the end before the next one, with the writes inside of
it and all that they lead to. In the end the registrations are those from before, followed by those
made on the way, at whatever depth and in the order in which they were made, without those given
back. -/
theorem put_snapshot {h : Hub} (hnumbered : h.Numbered) {key value : String} {user : UserId}
    {store : SettingsStore} (hwrite : h.store.write key value user = .ok store) :
    let o := h.put key value user
    let t := h.tellingOfPut key value user
    let heard := h.registry.entries.filter fun r => r.scope.covers user && r.keys.contains key
    o.answer = .ok () ∧ store.read key user = .ok (some value) ∧
      (∃ j, Tells (.tell key user heard) { h with store } t j o.state ∧
        o.journal = report (h.store.writeNotices key value user) ++ j) ∧
      t.calls = heard.map (fun r => (r, key, user)) ∧
      (h.notify key user).answer = heard.length ∧
      o.state.registry.entries =
        (h.registry.entries ++ t.made).filter (fun r => r.id ∉ t.gone) ∧
      t.made.Pairwise (fun r s => r.id < s.id) ∧
      ∀ r ∈ t.made, ∀ c ∈ t.calls, c.1.id < r.id := by
  intro o t heard
  obtain ⟨j, htells, hjournal, hanswer⟩ := tells_put hwrite
  have hregisters : Reregisters { h with store } t.made t.gone o.state :=
    htells.reregisters ⟨hnumbered.registrations, hnumbered.watchers⟩
  have hcalls : t.calls = heard.map fun r => (r, key, user) := htells.calls
  refine ⟨hanswer, SettingsStore.read_write_self hwrite, ⟨j, htells, hjournal⟩, hcalls, rfl,
    hregisters.entries, hregisters.ordered, ?_⟩
  intro r hr c hc
  rw [hcalls] at hc
  obtain ⟨s, hs, rfl⟩ := List.mem_map.mp hc
  have hbelow : s.id < h.registry.nextId :=
    hnumbered.registrations s (List.mem_filter.mp hs).1
  exact Nat.lt_of_lt_of_le hbelow (hregisters.fresh r hr).1

/-- A hub whose first watcher takes the second one off the registry, adds a third one and writes
again. -/
def withReplacingWatcher : Hub :=
  (({} : Hub).watch "a" ["k"] .everyone
    [[.unwatch "b", .watch "c" ["k"] .owner [], .put "k" "2" .owner]]).watch "b" ["k"] .owner []

theorem put_snapshot_of_replacingWatcher :
    let t := withReplacingWatcher.tellingOfPut "k" "1" .owner
    t.calls.map (fun c => c.1.id) = [1, 2] ∧
      (withReplacingWatcher.put "k" "1" .owner).state.registry.entries.map Registration.id =
        [1, 3] := by
  intro t
  have hnumbered : withReplacingWatcher.Numbered :=
    ((numbered_ofStore _).watch _ _ _ _).watch _ _ _ _
  obtain ⟨store, hwrite⟩ :
      ∃ store, withReplacingWatcher.store.write "k" "1" .owner = .ok store := ⟨_, rfl⟩
  obtain ⟨_, _, _, hcalls, _, hentries, _, _⟩ := put_snapshot hnumbered hwrite
  refine ⟨?_, ?_⟩
  · rw [hcalls]
    decide +kernel
  · rw [hentries]
    decide +kernel

end Hub

end TilePanel
