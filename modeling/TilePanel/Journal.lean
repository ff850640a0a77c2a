import TilePanel.Event
import TilePanel.Notice
import TilePanel.View.Binder

/-!
What happens while an operation runs: the journal lists it in order. An operation has an answer, a
state after it and a journal.
-/

namespace TilePanel

/-- What a reaction of a watcher came to. -/
inductive Reply
  | done
  | flag (value : Bool)
  | failed (cause : Error)
deriving DecidableEq, Repr

inductive Activity
  | notice (n : Notice)
  | posted (e : Event)
  | taken (e : Event)
  /-- The record of a tile was handed to its binding. -/
  | pushed (kind : TileKind) (binding : Binding) (record : TileRecord)
  /-- A watcher was told of a write, and saw this stored text. -/
  | changed (watcher key : String) (user : UserId) (seen : Except Error (Option String))
  /-- A watcher finished a reaction. -/
  | reacted (watcher : String) (reply : Reply)

structure Outcome (σ α : Type) where
  state : σ
  answer : α
  journal : List Activity := []

namespace Outcome

variable {σ τ α β : Type}

/-- Goes on from the answer and the state of an operation, and keeps the second answer. -/
def andThen (o : Outcome σ α) (next : α → σ → Outcome τ β) : Outcome τ β :=
  let o' := next o.answer o.state
  ⟨o'.state, o'.answer, o.journal ++ o'.journal⟩

/-- Puts journal entries in front. -/
def after (o : Outcome σ α) (earlier : List Activity) : Outcome σ α :=
  { o with journal := earlier ++ o.journal }

def mapAnswer (f : α → β) (o : Outcome σ α) : Outcome σ β :=
  ⟨o.state, f o.answer, o.journal⟩

/-- Changes the state, usually to a larger one that holds it. -/
def mapState (f : σ → τ) (o : Outcome σ α) : Outcome τ α :=
  ⟨f o.state, o.answer, o.journal⟩

/-- Runs an operation for every item in turn and joins the journals. -/
def forEach (step : σ → α → Outcome σ Unit) : σ → List α → Outcome σ Unit
  | s, [] => ⟨s, (), []⟩
  | s, a :: as => (step s a).andThen fun _ s' => forEach step s' as

@[simp]
theorem state_andThen (o : Outcome σ α) (next : α → σ → Outcome τ β) :
    (o.andThen next).state = (next o.answer o.state).state := rfl

@[simp]
theorem answer_andThen (o : Outcome σ α) (next : α → σ → Outcome τ β) :
    (o.andThen next).answer = (next o.answer o.state).answer := rfl

@[simp]
theorem journal_andThen (o : Outcome σ α) (next : α → σ → Outcome τ β) :
    (o.andThen next).journal = o.journal ++ (next o.answer o.state).journal := rfl

@[simp]
theorem state_after (o : Outcome σ α) (earlier : List Activity) :
    (o.after earlier).state = o.state := rfl

@[simp]
theorem answer_after (o : Outcome σ α) (earlier : List Activity) :
    (o.after earlier).answer = o.answer := rfl

@[simp]
theorem journal_after (o : Outcome σ α) (earlier : List Activity) :
    (o.after earlier).journal = earlier ++ o.journal := rfl

@[simp]
theorem state_mapAnswer (f : α → β) (o : Outcome σ α) : (o.mapAnswer f).state = o.state := rfl

@[simp]
theorem answer_mapAnswer (f : α → β) (o : Outcome σ α) :
    (o.mapAnswer f).answer = f o.answer := rfl

@[simp]
theorem journal_mapAnswer (f : α → β) (o : Outcome σ α) :
    (o.mapAnswer f).journal = o.journal := rfl

@[simp]
theorem state_mapState (f : σ → τ) (o : Outcome σ α) : (o.mapState f).state = f o.state := rfl

@[simp]
theorem answer_mapState (f : σ → τ) (o : Outcome σ α) : (o.mapState f).answer = o.answer := rfl

@[simp]
theorem journal_mapState (f : σ → τ) (o : Outcome σ α) :
    (o.mapState f).journal = o.journal := rfl

/-- A composable relation that every single step keeps holds of the steps for a whole list. -/
theorem forEach_rel {R : σ → List Activity → σ → Prop} (hrefl : ∀ s, R s [] s)
    (htrans : ∀ {s j s' j' s''}, R s j s' → R s' j' s'' → R s (j ++ j') s'')
    {step : σ → α → Outcome σ Unit}
    (hstep : ∀ s a, R s (step s a).journal (step s a).state) (s : σ) (as : List α) :
    R s (forEach step s as).journal (forEach step s as).state := by
  induction as generalizing s with
  | nil => exact hrefl s
  | cons a as ih => exact htrans (hstep s a) (ih (step s a).state)

end Outcome

namespace Activity

def notice? : Activity → Option Notice
  | notice n => some n
  | _ => none

/-- The events that an entry puts on the queue. -/
def posted? : Activity → Option Event
  | posted e => some e
  | _ => none

/-- The events that an entry takes from the queue. -/
def taken? : Activity → Option Event
  | taken e => some e
  | _ => none

end Activity

def report (notices : List Notice) : List Activity :=
  notices.map Activity.notice

end TilePanel
