import TilePanel.Settings.User

/-!
What a watcher does when it is told of a write. Reactions are data: each call uses up one response,
a list of reactions, and a watcher without responses only takes note.
-/

namespace TilePanel

inductive Reaction
  /-- Registers another watcher, with responses of its own. -/
  | watch (name : String) (keys : List String) (scope : UserId) (responses : List (List Reaction))
  /-- Takes the newest watcher of a name off the registry. -/
  | unwatch (name : String)
  | put (key value : String) (user : UserId)

namespace Reaction

mutual

/-- The number of responses that a reaction can bring into play. -/
def weight : Reaction → Nat
  | watch _ _ _ responses => weightOfAll responses
  | unwatch _ => 0
  | put _ _ _ => 0

/-- The number of responses in a list and in the reactions that they hold. -/
def weightOfAll : List (List Reaction) → Nat
  | [] => 0
  | r :: rs => 1 + weightOfOne r + weightOfAll rs

/-- The number of responses that the reactions of one response hold. -/
def weightOfOne : List Reaction → Nat
  | [] => 0
  | r :: rs => r.weight + weightOfOne rs

end

end Reaction

end TilePanel
