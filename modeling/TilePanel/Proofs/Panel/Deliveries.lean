import TilePanel.Proofs.Hub.Watching
import TilePanel.Proofs.Panel.Background
import TilePanel.Proofs.Panel.Draining

/-!
What a drain delivers. Taking events and dealing with them until none waits comes to an end on every
panel, since dealing with an event neither posts one nor takes one. What it comes to is the events
that waited, in order, each dealt with as if it had been handed to the panel alone: failures are
reported and change nothing else.
-/

namespace TilePanel

namespace Activity

/-- Whether an entry tells of the queue: of an event that was posted, taken, or dropped with a
failure. -/
def isOfQueue : Activity → Bool
  | posted _ | taken _ | notice (.eventFailed _) => true
  | _ => false

def failed? : Activity → Option Error
  | notice (.eventFailed cause) => some cause
  | _ => none

end Activity

def takenIn (journal : List Activity) : List Event :=
  journal.filterMap Activity.taken?

@[simp]
theorem takenIn_append (journal later : List Activity) :
    takenIn (journal ++ later) = takenIn journal ++ takenIn later :=
  List.filterMap_append

def failedIn (journal : List Activity) : List Error :=
  journal.filterMap Activity.failed?

def OffQueue (journal : List Activity) : Prop :=
  ∀ a ∈ journal, a.isOfQueue = false

namespace OffQueue

variable {journal later : List Activity}

theorem append (h : OffQueue journal) (hlater : OffQueue later) : OffQueue (journal ++ later) := by
  intro a ha
  rcases List.mem_append.mp ha with ha | ha
  · exact h a ha
  · exact hlater a ha

theorem singleton {a : Activity} (h : a.isOfQueue = false) : OffQueue [a] := by
  intro b hb
  obtain rfl := List.mem_singleton.mp hb
  exact h

theorem report {notices : List Notice}
    (h : ∀ n ∈ notices, (Activity.notice n).isOfQueue = false) : OffQueue (report notices) := by
  intro a ha
  obtain ⟨n, hn, rfl⟩ := List.mem_map.mp ha
  exact h n hn

theorem takenIn (h : OffQueue journal) : takenIn journal = [] := by
  refine List.filterMap_eq_nil_iff.mpr fun a ha => ?_
  have hoff := h a ha
  cases a with
  | taken e => cases hoff
  | _ => rfl

theorem failedIn (h : OffQueue journal) : failedIn journal = [] := by
  refine List.filterMap_eq_nil_iff.mpr fun a ha => ?_
  have hoff := h a ha
  cases a with
  | notice n =>
    cases n with
    | eventFailed cause => cases hoff
    | _ => rfl
  | _ => rfl

theorem filter_eq_self (h : OffQueue journal) :
    journal.filter (fun a => !a.isOfQueue) = journal :=
  List.filter_eq_self.mpr fun a ha => by rw [h a ha]; rfl

end OffQueue

theorem SettingsStore.offQueue_readInt (s : SettingsStore) (key : String) (fallback : Int32)
    (user : UserId) :
    ∀ n ∈ s.readIntNotices key fallback user, (Activity.notice n).isOfQueue = false := by
  intro n hn
  unfold readIntNotices at hn
  split at hn
  · split at hn
    · cases hn
    · obtain rfl := List.mem_singleton.mp hn
      rfl
  · cases hn
  · obtain rfl := List.mem_singleton.mp hn
    rfl

namespace Panel

private theorem offQueue_push (p : Panel) (kind : TileKind) : OffQueue (p.push kind).journal := by
  unfold push
  cases p.binding? kind with
  | none => simp [OffQueue]
  | some binding => exact OffQueue.append (.singleton rfl) (.singleton rfl)

private theorem offQueue_refreshBrightness (p : Panel) : OffQueue p.refreshBrightness.journal := by
  refine OffQueue.append (.report fun n hn => ?_) (offQueue_push _ _)
  rcases List.mem_append.mp hn with hn | hn
  · rcases List.mem_append.mp hn with hn | hn
    · exact SettingsStore.offQueue_readInt _ _ _ _ n hn
    · exact SettingsStore.offQueue_readInt _ _ _ _ n hn
  · obtain rfl := List.mem_singleton.mp hn
    rfl

/-- Dealing with an event tells nothing of the queue, even where it moves the watch, which posts on
this very queue. -/
private theorem offQueue_handle (p : Panel) (e : Event) : OffQueue (p.handle e).journal := by
  cases e with
  | settingChanged key user =>
    exact OffQueue.append (.singleton rfl) p.offQueue_refreshBrightness
  | userSwitched user =>
    refine OffQueue.append (.append (.report ?_) (.singleton rfl))
      p.moveWatch.offQueue_refreshBrightness
    split <;> simp [Activity.isOfQueue]

/-- An event about a switched user gives the watch a new registration, for the current user. -/
theorem watch_handle_switched (p : Panel) (user : UserId) :
    (p.handle (.userSwitched user)).state.watch = .observing p.user p.hub.registry.nextId ∧
      ⟨p.hub.registry.nextId, Setting.watched, p.user, .poster⟩ ∈
        (p.handle (.userSwitched user)).state.hub.registry.entries := by
  obtain ⟨slots, hslots⟩ : Retiles p.moveWatch (p.handle (.userSwitched user)).state :=
    p.moveWatch.retiles_update _ _
  have hid : (p.watch.release p.hub).registry.nextId = p.hub.registry.nextId :=
    p.watch.nextId_release p.hub
  rw [hslots, ← hid]
  exact ⟨rfl, List.mem_append_right _ (List.mem_singleton_self _)⟩

def reportOf : Except Error Unit → List Activity
  | .ok _ => []
  | .error cause => [.notice (.eventFailed cause)]

private theorem journal_deliver (p : Panel) (e : Event) :
    (p.deliver e).journal = (p.handle e).journal ++ reportOf (p.handle e).answer := by
  unfold deliver
  cases hanswer : (p.handle e).answer with
  | ok _ => simp only [hanswer, reportOf, List.append_nil]
  | error cause => simp only [hanswer, reportOf]

private theorem background_pending (pending : List Event) (user : UserId) :
    Hub.IsBackground (fun h => { h with queue := { h.queue with pending } }) user :=
  ⟨fun _ => rfl, fun _ _ => rfl, fun _ _ => rfl⟩

/-- Dealing with an event does not look at those that wait. -/
theorem handle_withPending (p : Panel) (pending : List Event) (e : Event) :
    (p.withPending pending).handle e = (p.handle e).mapState (withPending · pending) :=
  handle_mapHub (background_pending pending p.user) e

/-- A drain hands every event that waits to the panel, first in first out. -/
theorem state_drain (p : Panel) :
    p.drain.state =
      p.hub.queue.pending.foldl (fun q e => (q.handle e).state) (p.withPending []) := by
  induction p using drain_induction with
  | empty p hpending hdrain =>
    rw [hdrain, hpending, List.foldl_nil, withPending, ← hpending]
  | waiting p e rest delivered hpending hdelivered hdrain ih =>
    have hstate : delivered.state = ((p.withPending rest).handle e).state := by
      rw [← hdelivered, state_deliver]
    have hwaiting : delivered.state.hub.queue.pending = rest := by
      rw [← hdelivered, pending_deliver]
    have hemptied : delivered.state.withPending [] = ((p.withPending []).handle e).state := by
      rw [hstate, handle_withPending, handle_withPending]
      rfl
    rw [hdrain, hpending, List.foldl_cons, ih, hwaiting, hemptied]

/-- Taking events and dealing with them until none waits, however long that takes. -/
inductive Drains : Panel → Nat → List Activity → Panel → Prop
  | done {p : Panel} (hnone : p.takeEvent.answer = none) : Drains p 0 [] p
  | next {p q : Panel} {e : Event} {n : Nat} {j : List Activity}
      (htaken : p.takeEvent.answer = some e)
      (hrest : Drains (p.takeEvent.state.deliver e).state n j q) :
      Drains p (n + 1) (p.takeEvent.journal ++ (p.takeEvent.state.deliver e).journal ++ j) q

private theorem takeEvent_cases (p : Panel) :
    (p.hub.queue.pending = [] ∧ p.takeEvent = ⟨p, none, []⟩) ∨
      ∃ e rest, p.hub.queue.pending = e :: rest ∧
        p.takeEvent = ⟨p.withPending rest, some e, [.taken e]⟩ := by
  cases hpending : p.hub.queue.pending with
  | nil => exact .inl ⟨rfl, takeEvent_of_empty hpending⟩
  | cons e rest => exact .inr ⟨e, rest, rfl, takeEvent_of_waiting hpending⟩

/-- The loop comes to an end, as a drain says. -/
theorem drains_drain (p : Panel) : p.Drains p.drain.answer p.drain.journal p.drain.state := by
  induction p using drain_induction with
  | empty p hpending hdrain =>
    rw [hdrain]
    refine .done ?_
    rw [takeEvent_of_empty hpending]
  | waiting p e rest delivered hpending hdelivered hdrain ih =>
    have htake := takeEvent_of_waiting hpending
    have hnext := Drains.next (p := p) (e := e) (congrArg Outcome.answer htake)
      (by rw [htake]; rwa [← hdelivered] at ih)
    rw [hdrain, ← hdelivered]
    rwa [htake] at hnext

/-- The loop has no other end. -/
theorem Drains.eq_drain {p q : Panel} {n : Nat} {j : List Activity} (h : p.Drains n j q) :
    n = p.drain.answer ∧ j = p.drain.journal ∧ q = p.drain.state := by
  induction h with
  | @done p hnone =>
    rcases p.takeEvent_cases with ⟨hpending, -⟩ | ⟨e, rest, -, htake⟩
    · rw [drain_of_empty hpending]
      exact ⟨rfl, rfl, rfl⟩
    · rw [htake] at hnone
      cases hnone
  | @next p q e n j htaken _ ih =>
    rcases p.takeEvent_cases with ⟨-, htake⟩ | ⟨first, rest, hpending, htake⟩
    · rw [htake] at htaken
      cases htaken
    · rw [htake] at htaken ih ⊢
      obtain rfl := Option.some.inj htaken
      obtain ⟨rfl, rfl, rfl⟩ := ih
      rw [drain_of_waiting hpending]
      exact ⟨rfl, rfl, rfl⟩

def failure? : Except Error Unit → Option Error
  | .ok _ => none
  | .error cause => some cause

def handleAll : Panel → List Event → Outcome Panel (List (Except Error Unit))
  | p, [] => ⟨p, [], []⟩
  | p, e :: rest => (p.handle e).andThen fun answer q => (handleAll q rest).mapAnswer (answer :: ·)

private theorem handleAll_withPending (p : Panel) (pending events : List Event) :
    (p.withPending pending).handleAll events =
      (p.handleAll events).mapState (withPending · pending) := by
  induction events generalizing p with
  | nil => rfl
  | cons e rest ih =>
    simp only [handleAll, Outcome.andThen, handle_withPending, Outcome.state_mapState, ih]
    rfl

private theorem state_handleAll (p : Panel) (events : List Event) :
    (p.handleAll events).state = events.foldl (fun q e => (q.handle e).state) p := by
  induction events generalizing p with
  | nil => rfl
  | cons e rest ih => exact ih (p.handle e).state

/-- What the delivery of events notes: each is taken, dealt with and, if that failed, reported. -/
def deliveries : Panel → List Event → List Activity
  | _, [] => []
  | p, e :: rest =>
    [.taken e] ++ (p.handle e).journal ++ reportOf (p.handle e).answer ++
      deliveries (p.handle e).state rest

private theorem deliveries_withPending (p : Panel) (pending events : List Event) :
    (p.withPending pending).deliveries events = p.deliveries events := by
  induction events generalizing p with
  | nil => rfl
  | cons e rest ih =>
    simp only [deliveries, handle_withPending, Outcome.journal_mapState, Outcome.answer_mapState,
      Outcome.state_mapState, ih]

/-- A drain notes the deliveries of the events that waited, and nothing else. -/
theorem journal_drain (p : Panel) : p.drain.journal = p.deliveries p.hub.queue.pending := by
  induction p using drain_induction with
  | empty p hpending hdrain =>
    rw [hdrain, hpending]
    rfl
  | waiting p e rest delivered hpending hdelivered hdrain ih =>
    have hwaiting : delivered.state.hub.queue.pending = rest := by
      rw [← hdelivered, pending_deliver]
    have hstate : delivered.state = (p.handle e).state.withPending rest := by
      rw [← hdelivered, state_deliver, handle_withPending]
      rfl
    have hjournal : delivered.journal = (p.handle e).journal ++ reportOf (p.handle e).answer := by
      rw [← hdelivered, journal_deliver, handle_withPending]
      rfl
    rw [hdrain, ih, hwaiting, hstate, deliveries_withPending, hjournal, hpending, deliveries]
    simp only [List.append_assoc]

private theorem takenIn_deliveries (p : Panel) (events : List Event) :
    takenIn (p.deliveries events) = events := by
  induction events generalizing p with
  | nil => rfl
  | cons e rest ih =>
    have htaken : takenIn [Activity.taken e] = [e] := rfl
    have hreport : takenIn (reportOf (p.handle e).answer) = [] := by
      cases (p.handle e).answer <;> rfl
    rw [deliveries, takenIn_append, takenIn_append, takenIn_append, htaken,
      (p.offQueue_handle e).takenIn, hreport, ih]
    rfl

/-- A drain takes all events that wait, in order. -/
theorem takenIn_drain (p : Panel) : takenIn p.drain.journal = p.hub.queue.pending := by
  rw [journal_drain, takenIn_deliveries]

/-- Without what it tells of the queue, a delivery notes what dealing with the events notes. -/
private theorem filter_deliveries (p : Panel) (events : List Event) :
    (p.deliveries events).filter (fun a => !a.isOfQueue) = (p.handleAll events).journal := by
  induction events generalizing p with
  | nil => rfl
  | cons e rest ih =>
    have hreport : (reportOf (p.handle e).answer).filter (fun a => !a.isOfQueue) = [] := by
      cases (p.handle e).answer <;> rfl
    have htaken : [Activity.taken e].filter (fun a => !a.isOfQueue) = [] := rfl
    simp only [deliveries, List.filter_append, htaken, (p.offQueue_handle e).filter_eq_self,
      hreport, ih, List.nil_append, List.append_nil]
    rfl

private theorem failedIn_deliveries (p : Panel) (events : List Event) :
    failedIn (p.deliveries events) =
      (p.handleAll events).answer.filterMap failure? := by
  induction events generalizing p with
  | nil => rfl
  | cons e rest ih =>
    have hhandle : failedIn (p.handle e).journal = [] := (p.offQueue_handle e).failedIn
    have hlast := ih (p.handle e).state
    unfold failedIn at hhandle hlast ⊢
    simp only [deliveries, List.filterMap_append, hhandle, hlast, handleAll, Outcome.answer_andThen,
      Outcome.answer_mapAnswer, List.filterMap_cons]
    cases (p.handle e).answer <;> rfl

theorem pushes_eq_of_filter (journal : List Activity) :
    pushes (journal.filter fun a => !a.isOfQueue) = pushes journal := by
  unfold pushes
  rw [List.filterMap_filter]
  refine List.filterMap_congr fun a _ => ?_
  cases a with
  | notice n => cases n <;> rfl
  | _ => rfl

/-- A drain delivers exactly the events that wait when it begins. Taking events and dealing with them
until none is left comes to an end, and there is one end only: all that waited are taken in order,
their number is answered, failed ones included, and none is left. What is pushed, what is noted apart
from the queue, and the panel in the end are as if the events had been handed to the panel one after
the other and their failures ignored; these are reported in order. For dealing with an event neither
posts nor takes any, although it registers the watch again, which posts on the same queue. -/
theorem drain_delivers_waiting (p : Panel) :
    let waiting := p.hub.queue.pending
    let alone := p.handleAll waiting
    (∀ n j q, p.Drains n j q ↔
        n = waiting.length ∧ j = p.drain.journal ∧ q = p.drain.state) ∧
      p.drain.answer = waiting.length ∧ takenIn p.drain.journal = waiting ∧
      p.drain.state.hub.queue = { p.hub.queue with pending := [] } ∧
      p.drain.state = alone.state.withPending [] ∧
      (∀ kind, p.drain.state.record kind = alone.state.record kind ∧
        p.drain.state.binding? kind = alone.state.binding? kind) ∧
      p.drain.state.observedUser = alone.state.observedUser ∧
      pushes p.drain.journal = pushes alone.journal ∧
      p.drain.journal.filter (fun a => !a.isOfQueue) = alone.journal ∧
      failedIn p.drain.journal = alone.answer.filterMap failure? ∧
      ∀ (q : Panel) (e : Event), (q.handle e).state.hub.queue = q.hub.queue ∧
        (∀ a ∈ (q.handle e).journal, a.isOfQueue = false) ∧
        ∀ user, e = .userSwitched user →
          (q.handle e).state.watch = .observing q.user q.hub.registry.nextId ∧
            ⟨q.hub.registry.nextId, Setting.watched, q.user, .poster⟩ ∈
              (q.handle e).state.hub.registry.entries := by
  intro waiting alone
  have hstate : p.drain.state = alone.state.withPending [] := by
    rw [state_drain, ← state_handleAll, handleAll_withPending]
    rfl
  have hjournal : p.drain.journal.filter (fun a => !a.isOfQueue) = alone.journal := by
    rw [journal_drain, filter_deliveries]
  refine ⟨?_, p.answer_drain, p.takenIn_drain, (surroundings_drain p).queue, hstate, ?_, ?_, ?_,
    hjournal, ?_, ?_⟩
  · intro n j q
    constructor
    · intro hdrains
      rw [← p.answer_drain]
      exact hdrains.eq_drain
    · rintro ⟨rfl, rfl, rfl⟩
      rw [← p.answer_drain]
      exact p.drains_drain
  · intro kind
    rw [hstate]
    exact ⟨rfl, rfl⟩
  · rw [hstate]
    rfl
  · rw [← pushes_eq_of_filter, hjournal]
  · rw [journal_drain, failedIn_deliveries]
  · intro q e
    refine ⟨(surroundings_handle q e).queue, q.offQueue_handle e, ?_⟩
    rintro user rfl
    exact q.watch_handle_switched user

end Panel

end TilePanel
