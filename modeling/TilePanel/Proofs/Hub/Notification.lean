import TilePanel.Hub.Notify
import TilePanel.Hub.Watch

/-!
What happens to a hub while a write notifies its listeners, whatever they do in turn. A relation
between the hub before, the journal and the hub after holds of every write if it holds of the single
moves of a notification and can be composed, and if each write keeps it given that the calls of its
listeners do. This is the only induction over nested notifications.
-/

namespace TilePanel

namespace Hub

/-- A relation between a hub, a journal and a later hub that can be composed and holds of what a
notification does between the writes. -/
structure Transit (R : Hub → List Activity → Hub → Prop) : Prop where
  refl : ∀ h, R h [] h
  trans : ∀ {h j h' j' h''}, R h j h' → R h' j' h'' → R h (j ++ j') h''
  changed : ∀ h name key user seen, R h [.changed name key user seen] h
  reacted : ∀ h name reply, R h [.reacted name reply] h
  watch : ∀ h name keys scope responses, R h [] (h.watch name keys scope responses)
  unwatch : ∀ h name, R h [] (h.unwatch name).1
  respond : ∀ h id, R h [] (h.nextResponse id).1
  post : ∀ h key user,
    R h (h.post (.settingChanged key user) (.changeUnreceived user)).journal
      (h.post (.settingChanged key user) (.changeUnreceived user)).state

namespace Transit

variable {R : Hub → List Activity → Hub → Prop}

theorem notifyUsing (hR : Transit R)
    {call : String → UserId → Hub → Registration → Outcome Hub Unit}
    (hcall : ∀ key user h r, R h (call key user h r).journal (call key user h r).state)
    (h : Hub) (key : String) (user : UserId) :
    R h (Hub.notifyUsing call h key user).journal (Hub.notifyUsing call h key user).state :=
  Outcome.forEach_rel hR.refl hR.trans (hcall key user) h (h.registry.hearing key user)

/-- A reaction keeps the relation if a write does. -/
theorem reactUsing (hR : Transit R)
    {call : String → UserId → Hub → Registration → Outcome Hub Unit}
    (hput : ∀ h key value user, R h (Hub.putUsing call h key value user).journal
      (Hub.putUsing call h key value user).state)
    (watcher : String) (h : Hub) (reaction : Reaction) :
    R h (Hub.reactUsing call watcher h reaction).journal
      (Hub.reactUsing call watcher h reaction).state := by
  cases reaction with
  | watch name keys scope responses =>
    exact hR.trans (hR.watch h name keys scope responses) (hR.reacted _ watcher .done)
  | unwatch name =>
    exact hR.trans (hR.unwatch h name) (hR.reacted _ watcher (.flag (h.unwatch name).2))
  | put key value user =>
    exact hR.trans (hput h key value user) (hR.reacted _ watcher _)

/-- The induction over nested notifications, on their depth. -/
theorem call (hR : Transit R)
    (hput : ∀ depth,
      (∀ key user h r, R h (Hub.call depth key user h r).journal
        (Hub.call depth key user h r).state) →
      ∀ h key value user, R h (Hub.putUsing (Hub.call depth) h key value user).journal
        (Hub.putUsing (Hub.call depth) h key value user).state)
    (depth : Nat) (key : String) (user : UserId) (h : Hub) (r : Registration) :
    R h (Hub.call depth key user h r).journal (Hub.call depth key user h r).state := by
  induction depth generalizing key user h r with
  | zero =>
    unfold Hub.call
    cases r.listener with
    | poster => exact hR.post h key user
    | watcher name => exact hR.changed h name key user _
  | succ depth ih =>
    unfold Hub.call
    cases r.listener with
    | poster => exact hR.post h key user
    | watcher name =>
      have hreact := Outcome.forEach_rel hR.refl hR.trans
        (hR.reactUsing (hput depth ih) name) (h.nextResponse r.id).1 (h.nextResponse r.id).2
      exact hR.trans (hR.changed h name key user _) (hR.trans (hR.respond h r.id) hreact)

end Transit

/-- A poster puts one event on an open queue and does nothing else. -/
theorem call_poster {h : Hub} (hopen : h.queue.isOpen = true) {r : Registration}
    (hposter : r.listener = .poster) (depth : Nat) (key : String) (user : UserId) :
    (call depth key user h r).state = { h with queue := h.queue.post (.settingChanged key user) } ∧
      (call depth key user h r).journal = [.posted (.settingChanged key user)] := by
  have hpost : h.post (.settingChanged key user) (.changeUnreceived user) =
      ⟨{ h with queue := h.queue.post (.settingChanged key user) }, true,
        [.posted (.settingChanged key user)]⟩ := by
    simp [post, hopen]
  cases depth <;> simp [call, hposter, hpost]

end Hub

end TilePanel
