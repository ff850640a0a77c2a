import TilePanel.Proofs.Hub.Posting

/-!
What may be asked of a hub that changes it, as data. Everything that is known of a write, of a
notification, of watchers that come and go and of an event that is sent is stated once for all of
them: what it posts, which registrations it makes and gives back, and that it makes no poster.
-/

namespace TilePanel

namespace Hub

inductive Demand
  | put (key value : String) (user : UserId)
  | notify (key : String) (user : UserId)
  | watch (name : String) (keys : List String) (scope : UserId) (responses : List (List Reaction))
  | unwatch (name : String)
  | send (event : Event)

namespace Demand

def run : Demand → Hub → Outcome Hub Unit
  | put key value user, h => (h.put key value user).mapAnswer fun _ => ()
  | notify key user, h => (h.notify key user).mapAnswer fun _ => ()
  | watch name keys scope responses, h => ⟨h.watch name keys scope responses, (), []⟩
  | unwatch name, h => ⟨(h.unwatch name).1, (), []⟩
  | send event, h => ⟨{ h with queue := h.queue.post event }, (), [.posted event]⟩

def posts : Demand → Hub → List Event
  | put key value user, h => (h.tellingOfPut key value user).posts
  | notify key user, h => (h.tellingOfNotify key user).posts
  | send event, _ => [event]
  | watch .., _ | unwatch _, _ => []

def made : Demand → Hub → List Registration
  | put key value user, h => (h.tellingOfPut key value user).made
  | notify key user, h => (h.tellingOfNotify key user).made
  | watch name keys scope _, h => [⟨h.registry.nextId, keys, scope, .watcher name⟩]
  | unwatch _, _ | send _, _ => []

def gone : Demand → Hub → List Nat
  | put key value user, h => (h.tellingOfPut key value user).gone
  | notify key user, h => (h.tellingOfNotify key user).gone
  | unwatch name, h => (h.idOf? name).toList
  | watch .., _ | send _, _ => []

end Demand

theorem put_of_refused {h : Hub} {key value : String} {user : UserId} {cause : Error}
    (hwrite : h.store.write key value user = .error cause) :
    h.put key value user = ⟨h, .error cause, []⟩ := by
  simp only [put, putUsing, hwrite]

/-- A write makes and gives back what its telling says, also if the store refuses it. -/
private theorem reregisters_put {h : Hub} (hnumbered : h.Numbered) (key value : String)
    (user : UserId) :
    Reregisters h (h.tellingOfPut key value user).made (h.tellingOfPut key value user).gone
      (h.put key value user).state := by
  cases hwrite : h.store.write key value user with
  | error cause =>
    have hput : (h.put key value user).state = h := by rw [put_of_refused hwrite]
    have htelling : h.tellingOfPut key value user = .nothing := by
      simp [tellingOfPut, insideWrite, hwrite]
    rw [hput, htelling]
    exact .refl hnumbered
  | ok store =>
    obtain ⟨j, htells, _⟩ := tells_put hwrite
    exact { htells.reregisters ⟨hnumbered.registrations, hnumbered.watchers⟩ with }

private theorem reregisters_notify {h : Hub} (hnumbered : h.Numbered) (key : String)
    (user : UserId) :
    Reregisters h (h.tellingOfNotify key user).made (h.tellingOfNotify key user).gone
      (h.notify key user).state :=
  (h.tells_notify key user).reregisters hnumbered

namespace Demand

variable {h : Hub}

/-- A hub goes on for the owners of all registrations, whatever is asked of it. -/
theorem evolves_run (d : Demand) (h : Hub) : h.Evolves (d.run h).journal (d.run h).state := by
  cases d with
  | put key value user => exact h.evolves_put key value user
  | notify key user => exact h.evolves_notify key user
  | watch name keys scope responses => exact h.evolves_watch name keys scope responses
  | unwatch name => exact h.evolves_unwatch name
  | send event => exact h.evolves_send event

/-- An open queue gets the posted events at its end. -/
theorem queue_run (d : Demand) (hopen : h.queue.isOpen = true) :
    (d.run h).state.queue = ⟨h.queue.pending ++ d.posts h, true⟩ := by
  have hsame : h.queue = ⟨h.queue.pending ++ [], true⟩ := by
    rw [List.append_nil, ← hopen]
  cases d with
  | put key value user => exact queue_put hopen key value user
  | notify key user => exact queue_notify hopen key user
  | watch => exact hsame
  | unwatch name => exact (h.queue_unwatch name).trans hsame
  | send event => simp [run, posts, EventQueue.post, hopen]

/-- Exactly these registrations are made and given back. -/
theorem reregisters_run (d : Demand) (hnumbered : h.Numbered) :
    h.Reregisters (d.made h) (d.gone h) (d.run h).state := by
  cases d with
  | put key value user => exact reregisters_put hnumbered key value user
  | notify key user => exact reregisters_notify hnumbered key user
  | watch name keys scope responses => exact reregisters_watch hnumbered name keys scope responses
  | unwatch name => exact reregisters_unwatch hnumbered name
  | send event => exact .quiet hnumbered rfl rfl

theorem keepsPosters_run (d : Demand) (h : Hub) :
    h.KeepsPosters (d.run h).journal (d.run h).state := by
  cases d with
  | put key value user => exact h.keepsPosters_put key value user
  | notify key user => exact h.keepsPosters_notify key user
  | watch name keys scope responses => exact h.keepsPosters_watch name keys scope responses []
  | unwatch name => exact h.keepsPosters_unwatch name []
  | send event => exact keepsPosters_of_registry _ rfl

end Demand

end Hub

end TilePanel
