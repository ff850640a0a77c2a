import TilePanel.World.Basic

/-!
Steps of a world and their answers. A step that needs a part which is gone answers which part it
misses and changes nothing.
-/

namespace TilePanel

inductive Step
  | read (key : String) (user : UserId)
  | readInt (key : String) (fallback : Int32) (user : UserId)
  | put (key value : String) (user : UserId)
  | putInt (key : String) (value : Int32) (user : UserId)
  | list (user : UserId)
  | watch (name : String) (keys : List String) (scope : UserId) (responses : List (List Reaction))
  | unwatch (name : String)
  | countRegistrations
  | notify (key : String) (user : UserId)
  /-- Another program writes a row of the database. -/
  | replaceRow (row : Row)
  /-- Another program drops the table of the database. -/
  | dropTable
  /-- The database, in the file of this path, is opened again. -/
  | reopen (path : String)
  | text (id : StringId)
  | setText (id : StringId) (text : String)
  | clearText (id : StringId)
  | switchUser (user : UserId)
  | currentUser
  | send (event : Event)
  | tryNext
  | next
  | drain
  | dropQueue
  | dropModel
  | close
  | newWatch (name : String)
  | startWatch (name : String) (user : UserId)
  | watchedUser (name : String)
  | dropWatch (name : String)
  | operate (op : Operation)
  | record (kind : TileKind)
  | records
  | isBound (kind : TileKind)
  | observedUser
  | watchedKeys

/-- A part of a world that a step may miss. -/
inductive Part
  | queue
  | model
  | tracker
  | sender
deriving DecidableEq, Repr

inductive Answer
  | done
  | failed (cause : Error)
  | text (value : Option String)
  | int (value : Int32)
  | count (n : Nat)
  | flag (value : Bool)
  | user (user : Option UserId)
  | entries (entries : List (String × String))
  | event (event : Option Event)
  | pending
  | closed
  | record (record : TileRecord)
  | records (slots : List (TileKind × Slot))
  | keys (keys : List String)
  | missing (part : Part)

namespace Answer

/-- The answer of an operation without a value. -/
def ofResult : Except Error Unit → Answer
  | .ok _ => done
  | .error cause => failed cause

end Answer

namespace World

def peek (w : World) (answer : Answer) : Outcome World Answer :=
  ⟨w, answer, []⟩

/-- An operation on the hub of the store that is open now. -/
def ask (w : World) (f : Hub → Outcome Hub Answer) : Outcome World Answer :=
  w.onHub false f

/-- A step that needs a part. -/
def needing (w : World) (present : Bool) (part : Part) (o : Outcome World Answer) :
    Outcome World Answer :=
  if present then o else w.peek (.missing part)

def slots (w : World) : List (TileKind × Slot) :=
  TileKind.all.map fun kind => (kind, w.panel.slots.get kind)

def withCatalog (w : World) (catalog : Catalog) : World :=
  { w with panel := { w.panel with catalog } }

def dropQueue (w : World) : World :=
  let hub := { w.panel.hub with queue := w.panel.hub.queue.close }
  { w with panel := { w.panel with hub } }

/-- Makes an idle lone watch, instead of the one of that name. -/
def newWatch (w : World) (name : String) : World :=
  let w := w.dropLoneWatches name
  { w with loneWatches := w.loneWatches ++ [{ name }] }

def startWatch (w : World) (name : String) (user : UserId) : Outcome World Answer :=
  match w.loneWatches.find? fun l => l.name == name with
  | none => w.peek (.user none)
  | some l =>
    let o := w.onHub l.isDetached fun h => l.watch.start h user
    ⟨{ o.state with loneWatches := w.loneWatches.map fun m =>
        if m.name == name then { m with watch := o.answer } else m },
      .user o.answer.user?, o.journal⟩

/-- Takes one event, or says why there is none: more may come, or nobody is left to post one. -/
def takeNext (w : World) : Outcome World Answer :=
  let o := w.panel.takeEvent
  match o.answer with
  | some e => ⟨{ w with panel := o.state }, .event (some e), o.journal⟩
  | none => w.peek (if w.hasPoster then .pending else .closed)

def step (w : World) : Step → Outcome World Answer
  | .read key user =>
    w.peek (match w.panel.hub.store.read key user with
      | .ok value => .text value
      | .error cause => .failed cause)
  | .readInt key fallback user =>
    (w.peek (.int (w.panel.hub.store.readInt key fallback user))).after
      (report (w.panel.hub.store.readIntNotices key fallback user))
  | .put key value user => w.ask fun h => (h.put key value user).mapAnswer .ofResult
  | .putInt key value user => w.ask fun h => (h.putInt key value user).mapAnswer .ofResult
  | .list user =>
    w.peek (match w.panel.hub.store.list user with
      | .ok entries => .entries entries
      | .error cause => .failed cause)
  | .watch name keys scope responses =>
    w.ask fun h => ⟨h.watch name keys scope responses, .done, []⟩
  | .unwatch name =>
    w.ask fun h => let (h', found) := h.unwatch name; ⟨h', .flag found, []⟩
  | .countRegistrations => w.peek (.count w.panel.hub.registry.entries.length)
  | .notify key user => w.ask fun h => (h.notify key user).mapAnswer .count
  | .replaceRow row =>
    let (w', result) := w.changeTable fun t => t.replace row
    w'.peek (.ofResult result)
  | .dropTable =>
    let (w', result) := w.dropTable
    w'.peek (.ofResult result)
  | .reopen path => (w.reopen.peek .done).after (report [.databaseOpened path])
  | .text id => w.peek (.text (some (w.panel.catalog.text id)))
  | .setText id text => (w.withCatalog (w.panel.catalog.set id text)).peek .done
  | .clearText id => (w.withCatalog (w.panel.catalog.clear id)).peek .done
  | .switchUser user =>
    w.needing w.hasTracker .tracker
      (((w.panel.switchUser user).mapState fun panel => { w with panel }).mapAnswer .flag)
  | .currentUser => w.needing w.hasTracker .tracker (w.peek (.user (some w.panel.user)))
  | .send event =>
    w.needing w.hasSender .sender <|
      if w.panel.hub.queue.isOpen then
        w.ask fun h => ⟨{ h with queue := h.queue.post event }, .flag true, [.posted event]⟩
      else w.peek (.flag false)
  | .tryNext =>
    w.needing w.panel.hub.queue.isOpen .queue
      ((w.panel.takeEvent.mapState fun panel => { w with panel }).mapAnswer .event)
  | .next => w.needing w.panel.hub.queue.isOpen .queue w.takeNext
  | .drain =>
    w.needing w.panel.hub.queue.isOpen .queue <|
      w.needing w.hasModel .model ((w.onModel Panel.drain).mapAnswer .count)
  | .dropQueue => w.dropQueue.peek .done
  | .dropModel => w.dropModel.peek .done
  | .close => w.close.peek .done
  | .newWatch name => w.needing w.hasSender .sender ((w.newWatch name).peek .done)
  | .startWatch name user => w.startWatch name user
  | .watchedUser name =>
    w.peek (.user ((w.loneWatches.find? fun l => l.name == name).bind fun l => l.watch.user?))
  | .dropWatch name => (w.dropLoneWatches name).peek .done
  | .operate op => w.needing w.hasModel .model ((w.onModel op.run).mapAnswer .ofResult)
  | .record kind => w.needing w.hasModel .model (w.peek (.record (w.panel.record kind)))
  | .records => w.needing w.hasModel .model (w.peek (.records w.slots))
  | .isBound kind => w.needing w.hasModel .model (w.peek (.flag (w.panel.isBound kind)))
  | .observedUser => w.needing w.hasModel .model (w.peek (.user w.panel.observedUser))
  | .watchedKeys => w.needing w.hasModel .model (w.peek (.keys Setting.watched))

/-- Carries out steps in order; the answers come with the journal of each step. -/
def run (w : World) : List Step → World × List (Answer × List Activity)
  | [] => (w, [])
  | s :: rest =>
    let o := w.step s
    let (last, answers) := run o.state rest
    (last, (o.answer, o.journal) :: answers)

end World

end TilePanel
