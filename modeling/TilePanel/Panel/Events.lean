import TilePanel.Panel.Operation

/-!
The panel and its queue: switching users posts events, and draining the queue delivers them.
-/

namespace TilePanel

namespace Panel

/-- Brings a user to the foreground; answers whether an event about it was posted. -/
def switchUser (p : Panel) (user : UserId) : Outcome Panel Bool :=
  let previous := p.user
  if previous = user then ⟨p, false, [.notice (.userUnchanged user)]⟩
  else
    let o := p.hub.post (.userSwitched user) .switchUnreceived
    ⟨{ p with hub := o.state, user }, o.answer,
      .notice (.userSwitched previous user) :: o.journal⟩

def takeEvent (p : Panel) : Outcome Panel (Option Event) :=
  match p.hub.queue.pending with
  | [] => ⟨p, none, []⟩
  | e :: rest =>
    ⟨{ p with hub := { p.hub with queue := { p.hub.queue with pending := rest } } }, some e,
      [.taken e]⟩

/-- Deals with an event; a failure is reported and dropped. -/
def deliver (p : Panel) (e : Event) : Outcome Panel Unit :=
  let o := p.handle e
  match o.answer with
  | .ok _ => ⟨o.state, (), o.journal⟩
  | .error cause => ⟨o.state, (), o.journal ++ [.notice (.eventFailed cause)]⟩

/-- Takes and delivers events until none waits, but at most `limit`; answers their number. -/
def drainUpTo : Nat → Panel → Outcome Panel Nat
  | 0, p => ⟨p, 0, []⟩
  | limit + 1, p =>
    let o := p.takeEvent
    match o.answer with
    | none => ⟨p, 0, []⟩
    | some e =>
      let delivered := o.state.deliver e
      let rest := drainUpTo limit delivered.state
      ⟨rest.state, rest.answer + 1, o.journal ++ delivered.journal ++ rest.journal⟩

/-- Delivers the events that wait; answers how many there were. -/
def drain (p : Panel) : Outcome Panel Nat :=
  drainUpTo p.hub.queue.pending.length p

end Panel

end TilePanel
