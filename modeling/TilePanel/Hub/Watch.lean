import TilePanel.Hub.Basic

/-!
The brightness watch: while it observes a user, it owns one registration, for the two brightness
settings of that user, and posts an event for every write that this registration hears.
-/

namespace TilePanel

inductive BrightnessWatch
  | idle
  | observing (user : UserId) (id : Nat)
deriving DecidableEq, Repr

namespace BrightnessWatch

def user? : BrightnessWatch → Option UserId
  | idle => none
  | observing user _ => some user

/-- Gives the registration back; the watch is idle after that. -/
def release (w : BrightnessWatch) (h : Hub) : Hub :=
  match w with
  | idle => h
  | observing _ id => { h with registry := h.registry.unregister id }

/-- Watches a user, instead of the one watched before. -/
def start (w : BrightnessWatch) (h : Hub) (user : UserId) : Outcome Hub BrightnessWatch :=
  let h := w.release h
  ⟨{ h with registry := h.registry.register Setting.watched user .poster },
    observing user h.registry.nextId, [.notice (.watchStarted user)]⟩

end BrightnessWatch

end TilePanel
