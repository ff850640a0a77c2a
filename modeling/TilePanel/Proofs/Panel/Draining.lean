import TilePanel.Proofs.Panel.Recomputation

/-!
Draining the queue. Dealing with an event puts nothing on the queue and takes nothing off it, so a
drain delivers the events that wait when it begins, one after the other, and leaves none. The
brightness tile is repainted once for every event, always with the record of the end.
-/

namespace TilePanel

namespace Panel

def withPending (p : Panel) (pending : List Event) : Panel :=
  { p with hub := { p.hub with queue := { p.hub.queue with pending } } }

@[simp]
theorem state_deliver (p : Panel) (e : Event) : (p.deliver e).state = (p.handle e).state := by
  unfold deliver
  cases hanswer : (p.handle e).answer <;> simp only [hanswer]

theorem queue_deliver (p : Panel) (e : Event) : (p.deliver e).state.hub.queue = p.hub.queue := by
  rw [state_deliver]
  exact (surroundings_handle p e).queue

/-- Delivering an event leaves those that wait behind it. -/
theorem pending_deliver (p : Panel) (rest : List Event) (e : Event) :
    ((p.withPending rest).deliver e).state.hub.queue.pending = rest := by
  rw [queue_deliver]
  rfl

theorem drain_of_empty {p : Panel} (h : p.hub.queue.pending = []) : p.drain = ⟨p, 0, []⟩ := by
  unfold drain
  rw [h]
  rfl

theorem takeEvent_of_empty {p : Panel} (h : p.hub.queue.pending = []) :
    p.takeEvent = ⟨p, none, []⟩ := by
  unfold takeEvent
  rw [h]

theorem takeEvent_of_waiting {p : Panel} {e : Event} {rest : List Event}
    (h : p.hub.queue.pending = e :: rest) : p.takeEvent = ⟨p.withPending rest, some e, [.taken e]⟩ := by
  unfold takeEvent
  rw [h]
  rfl

/-- A drain delivers the first event and goes on with the panel after it. -/
theorem drain_of_waiting {p : Panel} {e : Event} {rest : List Event}
    (h : p.hub.queue.pending = e :: rest) :
    p.drain = ⟨((p.withPending rest).deliver e).state.drain.state,
      ((p.withPending rest).deliver e).state.drain.answer + 1,
      [.taken e] ++ ((p.withPending rest).deliver e).journal ++
        ((p.withPending rest).deliver e).state.drain.journal⟩ := by
  have hdrain : ((p.withPending rest).deliver e).state.drain =
      drainUpTo rest.length ((p.withPending rest).deliver e).state := by
    rw [drain, pending_deliver]
  rw [hdrain, drain, h, List.length_cons, drainUpTo]
  simp only [takeEvent_of_waiting h]

/-- The induction over the events that wait. -/
theorem drain_induction {motive : Panel → Prop}
    (empty : ∀ p, p.hub.queue.pending = [] → p.drain = ⟨p, 0, []⟩ → motive p)
    (waiting : ∀ p e rest delivered, p.hub.queue.pending = e :: rest →
      (p.withPending rest).deliver e = delivered →
      p.drain = ⟨delivered.state.drain.state, delivered.state.drain.answer + 1,
        [.taken e] ++ delivered.journal ++ delivered.state.drain.journal⟩ →
      motive delivered.state → motive p)
    (p : Panel) : motive p := by
  induction hpending : p.hub.queue.pending generalizing p with
  | nil => exact empty p hpending (drain_of_empty hpending)
  | cons e rest ih =>
    exact waiting p e rest _ hpending rfl (drain_of_waiting hpending)
      (ih _ (pending_deliver p rest e))

/-- A drain does what its deliveries do one after the other. -/
theorem drain_rel {R : Panel → Panel → Prop} (hrefl : ∀ p, R p p)
    (htrans : ∀ {p q r}, R p q → R q r → R p r)
    (hdeliver : ∀ p e rest, p.hub.queue.pending = e :: rest →
      R p ((p.withPending rest).handle e).state) (p : Panel) : R p p.drain.state := by
  induction p using drain_induction with
  | empty p _ hdrain =>
    rw [hdrain]
    exact hrefl p
  | waiting p e rest delivered hpending hdelivered hdrain ih =>
    have hevent := hdeliver p e rest hpending
    rw [← state_deliver, hdelivered] at hevent
    rw [hdrain]
    exact htrans hevent ih

/-- A drain answers how many events waited. -/
theorem answer_drain (p : Panel) : p.drain.answer = p.hub.queue.pending.length := by
  induction p using drain_induction with
  | empty p hpending hdrain => rw [hdrain, hpending, List.length_nil]
  | waiting p e rest delivered hpending hdelivered hdrain ih =>
    have hrest : delivered.state.hub.queue.pending = rest := by
      rw [← hdelivered, pending_deliver]
    rw [hdrain, hpending, List.length_cons, ← hrest, ← ih]

/-- What a drain leaves of the surroundings: all but the events, of which none is left. -/
theorem surroundings_drain (p : Panel) :
    SameSurroundings (p.withPending []) p.drain.state := by
  induction p using drain_induction with
  | empty p hpending hdrain =>
    have hsame : p.withPending [] = p := by
      unfold withPending
      rw [← hpending]
    rw [hdrain, hsame]
    exact .refl p
  | waiting p e rest delivered _ hdelivered hdrain ih =>
    have hevent : SameSurroundings (p.withPending rest) delivered.state := by
      rw [← hdelivered, state_deliver]
      exact surroundings_handle _ e
    have hemptied : SameSurroundings (p.withPending []) (delivered.state.withPending []) := by
      refine ⟨hevent.store, ?_, hevent.watchers, hevent.user, hevent.catalog⟩
      simp [withPending, hevent.queue]
    rw [hdrain]
    exact hemptied.trans ih

theorem pending_drain (p : Panel) : p.drain.state.hub.queue.pending = [] := by
  rw [(surroundings_drain p).queue]
  rfl

theorem isCurrent_deliver (p : Panel) (e : Event) : (p.deliver e).state.IsCurrent := by
  rw [state_deliver]
  exact isCurrent_handle p e

/-- A drain changes nothing on the tiles of a panel whose brightness is current. -/
theorem IsCurrent.drain {p : Panel} (h : p.IsCurrent) :
    p.drain.state.slots = p.slots ∧ p.drain.state.IsCurrent := by
  induction p using drain_induction with
  | empty p _ hdrain =>
    rw [hdrain]
    exact ⟨rfl, h⟩
  | waiting p e rest delivered _ hdelivered hdrain ih =>
    have hcurrent : (p.withPending rest).IsCurrent := h
    have hslots : delivered.state.slots = p.slots := by
      rw [← hdelivered, state_deliver]
      exact hcurrent.slots_handle e
    have hnext : delivered.state.IsCurrent := by
      rw [← hdelivered]
      exact isCurrent_deliver _ e
    rw [hdrain]
    exact ⟨(ih hnext).1.trans hslots, (ih hnext).2⟩

/-- After an event was delivered the brightness is current. -/
theorem isCurrent_drain {p : Panel} (h : p.hub.queue.pending ≠ []) : p.drain.state.IsCurrent := by
  cases hpending : p.hub.queue.pending with
  | nil => exact absurd hpending h
  | cons e rest =>
    rw [drain_of_waiting hpending]
    exact (isCurrent_deliver (p.withPending rest) e).drain.2

/-- Draining repaints the brightness tile once for every event that waited. -/
theorem repaints_drain (p : Panel) :
    Repaints (List.replicate p.drain.answer .brightness) p.slots p.drain.journal
      p.drain.state.slots := by
  induction p using drain_induction with
  | empty p _ hdrain =>
    rw [hdrain]
    exact Repaints.nothing isQuiet_nil p.slots
  | waiting p e rest delivered _ hdelivered hdrain ih =>
    have hfirst : Repaints [.brightness] p.slots ([.taken e] ++ delivered.journal)
        delivered.state.slots := by
      rw [← hdelivered]
      exact (repaints_deliver (p.withPending rest) e).after_quiet (isQuiet_singleton rfl rfl)
    have hcurrent : delivered.state.IsCurrent := by
      rw [← hdelivered]
      exact isCurrent_deliver _ e
    rw [hdrain]
    refine hfirst.append ih ?_
    intro kind _
    rw [hcurrent.drain.1]

end Panel

end TilePanel
