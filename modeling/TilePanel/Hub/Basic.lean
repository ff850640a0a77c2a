import TilePanel.Hub.Reaction
import TilePanel.Journal
import TilePanel.Settings.Registry
import TilePanel.Settings.Store

/-!
The hub joins a settings store, the registrations of its listeners and the queue on which events
wait. It also knows what each watcher will do when it is called.
-/

namespace TilePanel

/-- A watcher: its registration, its name, and the responses that it has not used yet. -/
structure Watcher where
  id : Nat
  name : String
  responses : List (List Reaction)

structure Hub where
  store : SettingsStore := .memory {}
  registry : Registry := {}
  queue : EventQueue := {}
  /-- The watchers, newest first. -/
  watchers : List Watcher := []

namespace Hub

def watch (h : Hub) (name : String) (keys : List String) (scope : UserId)
    (responses : List (List Reaction)) : Hub :=
  { h with
    registry := h.registry.register keys scope (.watcher name)
    watchers := ⟨h.registry.nextId, name, responses⟩ :: h.watchers }

def idOf? (h : Hub) (name : String) : Option Nat :=
  (h.watchers.find? fun w => w.name == name).map Watcher.id

/-- Takes the newest watcher with a name off the registry; answers whether it was there. -/
def unwatch (h : Hub) (name : String) : Hub × Bool :=
  match h.idOf? name with
  | none => (h, false)
  | some id => ({ h with registry := h.registry.unregister id }, h.registry.contains id)

/-- The number of responses that are still to come, those of future watchers included. -/
def pendingResponses (h : Hub) : Nat :=
  h.watchers.foldr (fun w n => Reaction.weightOfAll w.responses + n) 0

/-- Uses up the next response of a watcher, among all watchers. -/
def dropResponse (id : Nat) : List Watcher → List Watcher
  | [] => []
  | w :: ws =>
    if w.id == id then { w with responses := w.responses.tail } :: ws else w :: dropResponse id ws

def nextResponse (h : Hub) (id : Nat) : Hub × List Reaction :=
  let response := ((h.watchers.find? fun w => w.id == id).bind fun w => w.responses.head?).getD []
  ({ h with watchers := dropResponse id h.watchers }, response)

/-- Posts an event, or reports that nobody can take it. -/
def post (h : Hub) (e : Event) (unreceived : Notice) : Outcome Hub Bool :=
  if h.queue.isOpen then ⟨{ h with queue := h.queue.post e }, true, [.posted e]⟩
  else ⟨h, false, [.notice unreceived]⟩

end Hub

end TilePanel
