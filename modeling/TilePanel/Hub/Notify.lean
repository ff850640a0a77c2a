import TilePanel.Hub.Basic

/-!
Writes and the notifications that follow them. A write is stored first; then the listeners that
concern it at that moment are called, each once and in the order of registration, whatever the
calls before them did to the registry. A watcher may register, unregister and write in turn, and a
write inside a call runs its whole notification before the call goes on.
-/

namespace TilePanel

namespace Hub

/-- Calls the listeners that a write concerns; answers how many there are. -/
def notifyUsing (call : String → UserId → Hub → Registration → Outcome Hub Unit) (h : Hub)
    (key : String) (user : UserId) : Outcome Hub Nat :=
  let heard := h.registry.hearing key user
  (Outcome.forEach (call key user) h heard).mapAnswer fun _ => heard.length

/-- Stores a value and notifies; a failed write notifies nobody. -/
def putUsing (call : String → UserId → Hub → Registration → Outcome Hub Unit) (h : Hub)
    (key value : String) (user : UserId) : Outcome Hub (Except Error Unit) :=
  match h.store.write key value user with
  | .error cause => ⟨h, .error cause, []⟩
  | .ok store =>
    ((notifyUsing call { h with store } key user).mapAnswer fun _ => .ok ()).after
      (report (h.store.writeNotices key value user))

/-- Runs one reaction of a watcher and notes what it came to. -/
def reactUsing (call : String → UserId → Hub → Registration → Outcome Hub Unit) (watcher : String)
    (h : Hub) : Reaction → Outcome Hub Unit
  | .watch name keys scope responses =>
    ⟨h.watch name keys scope responses, (), [.reacted watcher .done]⟩
  | .unwatch name =>
    let (h', found) := h.unwatch name
    ⟨h', (), [.reacted watcher (.flag found)]⟩
  | .put key value user =>
    let o := putUsing call h key value user
    let reply := match o.answer with
      | .ok _ => Reply.done
      | .error cause => .failed cause
    ⟨o.state, (), o.journal ++ [.reacted watcher reply]⟩

/-- Calls one listener. A poster puts an event on the queue. A watcher notes the write with the text
that is stored now, and then runs its next response; `depth` bounds how far responses may nest. -/
def call : Nat → String → UserId → Hub → Registration → Outcome Hub Unit
  | depth, key, user, h, r =>
    match r.listener with
    | .poster => (h.post (.settingChanged key user) (.changeUnreceived user)).mapAnswer fun _ => ()
    | .watcher name =>
      let seen := Activity.changed name key user (h.store.read key user)
      match depth with
      | 0 => ⟨h, (), [seen]⟩
      | depth + 1 =>
        let (h', response) := h.nextResponse r.id
        (Outcome.forEach (reactUsing (call depth) name) h' response).after [seen]

/-- Calls the listeners that concern a key and a user. Every nested write uses up a response, so the
number of pending responses bounds the nesting. -/
def notify (h : Hub) (key : String) (user : UserId) : Outcome Hub Nat :=
  notifyUsing (call (h.pendingResponses + 1)) h key user

/-- Stores a value and calls the listeners that the write concerns. -/
def put (h : Hub) (key value : String) (user : UserId) : Outcome Hub (Except Error Unit) :=
  putUsing (call (h.pendingResponses + 1)) h key value user

/-- Stores an integer as its decimal text. -/
def putInt (h : Hub) (key : String) (value : Int32) (user : UserId) :
    Outcome Hub (Except Error Unit) :=
  h.put key (settingText value) user

end Hub

end TilePanel
