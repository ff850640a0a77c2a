import TilePanel.Proofs.Panel.Bindings
import TilePanel.Proofs.World.Ownership

/-!
Events are delivered exactly once and in order. Whoever posts and whoever takes, in whatever order,
the events that were taken, followed by those that wait, are the events that were posted, in the
order of posting. The queue says that no more will come exactly if none waits and everybody who could
post one is gone.
-/

namespace TilePanel

def Answer.taken : Answer → List Event
  | event (some e) => [e]
  | _ => []

/-- Whether the queue can still be taken from after something happened. -/
def Incident.keepsQueue : Incident → Bool
  | happens (.step .dropQueue) => false
  | _ => true

namespace Effect

def keepsQueue : Effect → Bool
  | dropQueue => false
  | _ => true

def posts (w : World) : Effect → List Event
  | demand d => d.posts w.panel.hub
  | switchUser user => if w.panel.user = user then [] else [.userSwitched user]
  | _ => []

def takes (w : World) : Effect → List Event
  | take => w.panel.hub.queue.pending.take 1
  | drain => w.panel.hub.queue.pending
  | _ => []

end Effect

namespace World

/-- The events that are posted while something happens, in order: one for a user who is switched to,
one that is sent, and those of the brightness watches that are told of writes. -/
def postedBy (w : World) : Incident → List Event
  | .happens (.step (.put key value user)) => (w.panel.hub.tellingOfPut key value user).posts
  | .happens (.step (.putInt key value user)) =>
    (w.panel.hub.tellingOfPut key (settingText value) user).posts
  | .happens (.step (.notify key user)) => (w.panel.hub.tellingOfNotify key user).posts
  | .happens (.step (.switchUser user)) =>
    if w.hasTracker = true ∧ w.panel.user ≠ user then [.userSwitched user] else []
  | .happens (.step (.send event)) => if w.hasSender then [event] else []
  | _ => []

/-- The events that are taken while something happens, in order: the one that is answered, or those
that the model is handed. -/
def takenBy (w : World) : Incident → List Event
  | .happens (.step .tryNext) => (w.step .tryNext).answer.taken
  | .happens (.step .next) => (w.step .next).answer.taken
  | .happens (.step .drain) => takenIn (w.step .drain).journal
  | _ => []

def postedByAll (w : World) : List Incident → List Event
  | [] => []
  | i :: rest => w.postedBy i ++ (w.meet i).postedByAll rest

def takenByAll (w : World) : List Incident → List Event
  | [] => []
  | i :: rest => w.takenBy i ++ (w.meet i).takenByAll rest

/-- The queue of one moment and that of a later one, with what was posted and taken between. -/
structure Flows (w : World) (posted taken : List Event) (w' : World) : Prop where
  isOpen : w'.panel.hub.queue.isOpen = true
  balance : w.panel.hub.queue.pending ++ posted = taken ++ w'.panel.hub.queue.pending

variable {w w' : World}

namespace Flows

theorem of_queue (hopen : w.panel.hub.queue.isOpen = true)
    (hqueue : w'.panel.hub.queue = w.panel.hub.queue) : Flows w [] [] w' := by
  refine ⟨hqueue ▸ hopen, ?_⟩
  rw [hqueue, List.append_nil, List.nil_append]

theorem of_posted {posted : List Event}
    (hqueue : w'.panel.hub.queue = ⟨w.panel.hub.queue.pending ++ posted, true⟩) :
    Flows w posted [] w' := by
  refine ⟨by rw [hqueue], ?_⟩
  rw [hqueue, List.nil_append]

theorem trans {w'' : World} {posted posted' taken taken' : List Event}
    (h : Flows w posted taken w') (h' : Flows w' posted' taken' w'') :
    Flows w (posted ++ posted') (taken ++ taken') w'' := by
  refine ⟨h'.isOpen, ?_⟩
  rw [← List.append_assoc, h.balance, List.append_assoc, h'.balance, List.append_assoc]

end Flows

private theorem queue_build (w : World) : w.build.panel.hub.queue = w.panel.hub.queue := by
  unfold build
  split <;> rfl

/-- Taking the first event, or finding that none waits. -/
theorem step_tryNext (hopen : w.panel.hub.queue.isOpen = true) :
    (w.panel.hub.queue.pending = [] → w.step .tryNext = ⟨w, .event none, []⟩) ∧
      ∀ e rest, w.panel.hub.queue.pending = e :: rest → w.step .tryNext =
        ⟨{ w with panel := w.panel.withPending rest }, .event (some e), [.taken e]⟩ := by
  refine ⟨fun hpending => ?_, fun e rest hpending => ?_⟩
  · simp only [step, needing, hopen, if_true, Panel.takeEvent_of_empty hpending]
    rfl
  · simp only [step, needing, hopen, if_true, Panel.takeEvent_of_waiting hpending]
    rfl

/-- Taking the first event, or finding that none waits and saying whether one may still come. -/
theorem step_next (hopen : w.panel.hub.queue.isOpen = true) :
    (w.panel.hub.queue.pending = [] →
        w.step .next = ⟨w, if w.hasPoster then .pending else .closed, []⟩) ∧
      ∀ e rest, w.panel.hub.queue.pending = e :: rest → w.step .next =
        ⟨{ w with panel := w.panel.withPending rest }, .event (some e), [.taken e]⟩ := by
  refine ⟨fun hpending => ?_, fun e rest hpending => ?_⟩
  · simp only [step, needing, hopen, if_true, takeNext, Panel.takeEvent_of_empty hpending]
    rfl
  · simp only [step, needing, hopen, if_true, takeNext, Panel.takeEvent_of_waiting hpending]

private theorem onModel_congr {α β : Type} {f : Panel → Outcome Panel α}
    {g : Panel → Outcome Panel β}
    (h : ∀ p, p.hub.queue = w.panel.hub.queue → (f p).state = (g p).state) :
    (w.onModel f).state = (w.onModel g).state := by
  have hattached := h w.panel rfl
  have hdetached := h { w.panel with hub := (swapRegistry w.attic w.panel.hub).2 } rfl
  unfold onModel
  split
  · simp only [hdetached]
  · simp only [Outcome.state_mapState, hattached]

/-- A drain hands the model every event that waits, in order, and answers their number. -/
theorem step_drain (hopen : w.panel.hub.queue.isOpen = true) (hmodel : w.hasModel = true) :
    (w.step .drain).answer = .count w.panel.hub.queue.pending.length ∧
      takenIn (w.step .drain).journal = w.panel.hub.queue.pending ∧
      (w.step .drain).state = (w.onModel fun p =>
        ⟨w.panel.hub.queue.pending.foldl (fun p e => (p.handle e).state) (p.withPending []),
          (), []⟩).state := by
  obtain ⟨before, -, hqueue, -, -, hanswer, hjournal⟩ := w.run_onModel Panel.drain
  simp only [step, needing, hopen, hmodel, if_true, Outcome.state_mapAnswer]
  refine ⟨?_, ?_, onModel_congr fun p hsame => ?_⟩
  · rw [Outcome.answer_mapAnswer, hanswer, Panel.answer_drain, hqueue]
  · rw [Outcome.journal_mapAnswer, hjournal, Panel.takenIn_drain, hqueue]
  · rw [p.state_drain, hsame]

theorem keepsQueue_eq (w : World) (s : Step) :
    (Incident.happens (.step s)).keepsQueue = (w.effect s).keepsQueue := by
  cases s with
  | send | switchUser | tryNext | next | drain | operate | newWatch =>
    simp only [effect, Effect.apply_onlyIf Effect.keepsQueue]
    simp [Incident.keepsQueue, Effect.keepsQueue]
  | _ => rfl

theorem postedBy_eq (hopen : w.panel.hub.queue.isOpen = true) (s : Step) :
    w.postedBy (.happens (.step s)) = (w.effect s).posts w := by
  cases s with
  | switchUser user =>
    simp only [postedBy, effect, Effect.apply_onlyIf (Effect.posts w)]
    by_cases htracker : w.hasTracker = true <;> simp [htracker, Effect.posts]
  | send event =>
    simp only [postedBy, effect, Effect.apply_onlyIf (Effect.posts w), hopen, if_true]
    rfl
  | tryNext | next | drain | operate | newWatch =>
    simp only [effect, Effect.apply_onlyIf (Effect.posts w)]
    simp [postedBy, Effect.posts]
  | _ => rfl

/-- The events that are answered are those that leave the queue. -/
theorem takenBy_eq (hopen : w.panel.hub.queue.isOpen = true) (s : Step) :
    w.takenBy (.happens (.step s)) = (w.effect s).takes w := by
  cases s with
  | tryNext =>
    obtain ⟨hempty, hwaiting⟩ := step_tryNext hopen
    simp only [takenBy, effect, Effect.apply_onlyIf (Effect.takes w), hopen, if_true]
    cases hpending : w.panel.hub.queue.pending with
    | nil =>
      rw [hempty hpending]
      rfl
    | cons e rest => simp [hwaiting e rest hpending, Effect.takes, hpending, Answer.taken]
  | next =>
    obtain ⟨hempty, hwaiting⟩ := step_next hopen
    simp only [takenBy, effect, Effect.apply_onlyIf (Effect.takes w), hopen, if_true]
    cases hpending : w.panel.hub.queue.pending with
    | nil =>
      rw [hempty hpending]
      cases w.hasPoster <;> rfl
    | cons e rest => simp [hwaiting e rest hpending, Effect.takes, hpending, Answer.taken]
  | drain =>
    simp only [effect, Effect.apply_onlyIf (Effect.takes w), hopen, if_true]
    cases hmodel : w.hasModel with
    | true => exact (step_drain hopen hmodel).2.1
    | false =>
      simp only [takenBy, step, needing, hopen, hmodel]
      rfl
  | send | switchUser | operate | newWatch =>
    simp only [effect, Effect.apply_onlyIf (Effect.takes w)]
    simp [takenBy, Effect.takes]
  | _ => rfl

/-- What an effect posts goes to the end of the queue, and what it takes comes from its
beginning. -/
theorem Leads.flows {e : Effect} {journal : List Activity} (hleads : w.Leads e journal w')
    (hopen : w.panel.hub.queue.isOpen = true) (he : e.keepsQueue = true) :
    Flows w (e.posts w) (e.takes w) w' := by
  cases hleads with
  | dropQueue => cases he
  | nothing | restore | retext | reopen => exact .of_queue hopen rfl
  | demand d => exact .of_posted (d.queue_run hopen)
  | switchUser _ user =>
    by_cases huser : w.panel.user = user
    · rw [Panel.switchUser, if_pos huser, Effect.posts, if_pos huser]
      exact .of_queue hopen rfl
    · rw [Panel.switchUser, if_neg huser, Effect.posts, if_neg huser]
      exact .of_posted (Hub.queue_post hopen _ _)
  | take hpending =>
    refine ⟨hopen, ?_⟩
    simp [Effect.posts, Effect.takes, Panel.withPending, hpending]
  | drain =>
    obtain ⟨before, after, hqueue, hafter, hpanel, -⟩ := w.run_onModel Panel.drain
    rw [Panel.surroundings_drain _ |>.queue] at hafter
    have hdrained : (w.onModel Panel.drain).state.panel.hub.queue = ⟨[], true⟩ := by
      rw [hpanel, hafter, ← hopen, ← hqueue]
      rfl
    refine ⟨by rw [hdrained], ?_⟩
    rw [hdrained]
    rfl
  | operate _ op =>
    obtain ⟨before, after, hqueue, hafter, hpanel, -⟩ := w.run_onModel op.run
    refine .of_queue hopen ?_
    rw [hpanel, hafter, (op.surroundings_run _).queue, hqueue]
  | tend t => exact .of_queue hopen (w.keepsScene_tend t).1.queue

theorem flows_meet (hopen : w.panel.hub.queue.isOpen = true) {i : Incident}
    (hi : i.keepsQueue = true) : Flows w (w.postedBy i) (w.takenBy i) (w.meet i) := by
  cases i with
  | endTracker | endSender => exact .of_queue hopen rfl
  | happens e =>
    cases e with
    | build => exact .of_queue hopen w.queue_build
    | step s =>
      rw [postedBy_eq hopen, takenBy_eq hopen]
      exact (w.leads_step s).flows hopen ((w.keepsQueue_eq s).symm.trans hi)

/-- The induction over everything that happens. -/
theorem flows_meetAll (hopen : w.panel.hub.queue.isOpen = true) {incidents : List Incident}
    (hkeeps : ∀ i ∈ incidents, i.keepsQueue = true) :
    Flows w (w.postedByAll incidents) (w.takenByAll incidents) (w.meetAll incidents) := by
  induction incidents generalizing w with
  | nil => exact .of_queue hopen rfl
  | cons i rest ih =>
    have hfirst := flows_meet hopen (hkeeps i List.mem_cons_self)
    exact hfirst.trans (ih hfirst.isOpen fun j hj => hkeeps j (List.mem_cons_of_mem _ hj))

theorem queue_new (store : SettingsStore) (path : Option String) (user : UserId)
    (texts : List (String × String)) (hasModel : Bool) :
    (World.new store path user texts hasModel).state.panel.hub.queue = {} := by
  cases hasModel <;> rfl

/-- Events are delivered exactly once and in the order of posting, and the queue ends with those who
could post. Let anything happen around a queue that is not given up: writes with all that follows
from them, switches, sent events, watches and panels that come, move and go, stores that are opened
again, and events that are taken one at a time or drained, in any order. The events taken so far,
followed by those that wait, are the events posted so far. The next one that is taken is the first
one that waits, and a drain hands all of them to the model. Waiting for one more is given up exactly
if none waits and no model, tracker, sender or lone watch is left, whatever is still registered
anywhere. -/
theorem delivered_once_in_order (store : SettingsStore) (path : Option String) (user : UserId)
    (texts : List (String × String)) (hasModel : Bool) {incidents : List Incident}
    (hkeeps : ∀ i ∈ incidents, i.keepsQueue = true) :
    let start := (World.new store path user texts hasModel).state
    let w := start.meetAll incidents
    let pending := w.panel.hub.queue.pending
    start.takenByAll incidents ++ pending = start.postedByAll incidents ∧
      (∀ e rest, pending = e :: rest →
        (w.step .tryNext).answer = .event (some e) ∧ (w.step .next).answer = .event (some e)) ∧
      (w.hasModel = true → (w.step .drain).answer = .count pending.length ∧
        w.takenBy (.happens (.step .drain)) = pending ∧
        (w.step .drain).state = (w.onModel fun p =>
          ⟨pending.foldl (fun p e => (p.handle e).state) (p.withPending []), (), []⟩).state) ∧
      ((w.step .next).answer = .closed ↔ pending = [] ∧ w.hasModel = false ∧
        w.hasTracker = false ∧ w.hasSender = false ∧ w.loneWatches = []) := by
  intro start w pending
  have hnew : start.panel.hub.queue = {} := queue_new store path user texts hasModel
  have hflows : Flows start (start.postedByAll incidents) (start.takenByAll incidents) w :=
    flows_meetAll (hnew ▸ rfl) hkeeps
  have hopen : w.panel.hub.queue.isOpen = true := hflows.isOpen
  have howned : w.Owned := (Owned.new store path user texts hasModel).meetAll incidents
  refine ⟨?_, fun e rest hpending => ?_, step_drain hopen, ?_⟩
  · rw [← hflows.balance, hnew]
    rfl
  · rw [(step_tryNext hopen).2 e rest hpending, (step_next hopen).2 e rest hpending]
    exact ⟨rfl, rfl⟩
  · cases hpending : pending with
    | cons e rest => simp [(step_next hopen).2 e rest hpending]
    | nil =>
      rw [(step_next hopen).1 hpending]
      have hposter := howned.hasPoster_iff
      cases hleft : w.hasPoster with
      | true =>
        rw [hleft] at hposter
        have hsomebody := hposter.mp rfl
        simp only [if_true, true_and]
        refine ⟨(fun hclosed => nomatch hclosed), fun ⟨hmodel, htracker, hsender, hlone⟩ => ?_⟩
        simp [hmodel, htracker, hsender, hlone] at hsomebody
      | false =>
        rw [hleft] at hposter
        have hnobody := not_or.mp (mt hposter.mpr Bool.false_ne_true)
        simpa [not_or] using hnobody

/-- A panel and a lone watch on its user, a switch and an event that is sent, taken in two ways, and
the end of all who could post one, after the store was opened again. -/
def eventsUntilNoPoster : List Incident :=
  [.happens (.step (.newWatch "a")), .happens (.step (.startWatch "a" .owner)),
    .happens (.step (.put Setting.mode "1" .owner)), .happens (.step (.switchUser ⟨10⟩)),
    .happens (.step .tryNext), .happens (.step (.reopen "s.db")),
    .happens (.step (.send (.settingChanged "k" .owner))), .happens (.step .drain), .endTracker,
    .happens (.step .dropModel), .happens (.step (.dropWatch "a")), .endSender]

def panelOverEmptyTable : World :=
  (World.new (.database (some {})) none .owner [] true).state

theorem delivered_once_in_order_of_eventsUntilNoPoster :
    (∀ i ∈ eventsUntilNoPoster, i.keepsQueue = true) ∧
      panelOverEmptyTable.takenByAll eventsUntilNoPoster = [.settingChanged Setting.mode .owner,
        .settingChanged Setting.mode .owner, .userSwitched ⟨10⟩, .settingChanged "k" .owner] ∧
      ((panelOverEmptyTable.meetAll eventsUntilNoPoster).step .next).answer = .closed := by
  have hkeeps : ∀ i ∈ eventsUntilNoPoster, i.keepsQueue = true := by
    simp [eventsUntilNoPoster, Incident.keepsQueue]
  obtain ⟨hbalance, _, _, hclosed⟩ :=
    delivered_once_in_order (.database (some {})) none .owner [] true hkeeps
  let after := panelOverEmptyTable.meetAll eventsUntilNoPoster
  have hempty : after.panel.hub.queue.pending = [] := by decide +kernel
  have hgone : after.hasModel = false ∧ after.hasTracker = false ∧ after.hasSender = false ∧
      after.loneWatches = [] := by decide +kernel
  have hposted : panelOverEmptyTable.postedByAll eventsUntilNoPoster =
      [.settingChanged Setting.mode .owner, .settingChanged Setting.mode .owner,
        .userSwitched ⟨10⟩, .settingChanged "k" .owner] := by
    decide +kernel
  refine ⟨hkeeps, ?_, hclosed.mpr ⟨hempty, hgone⟩⟩
  have htaken : panelOverEmptyTable.takenByAll eventsUntilNoPoster ++
      after.panel.hub.queue.pending = panelOverEmptyTable.postedByAll eventsUntilNoPoster :=
    hbalance
  rw [hempty, List.append_nil] at htaken
  rw [htaken, hposted]

end World

end TilePanel
