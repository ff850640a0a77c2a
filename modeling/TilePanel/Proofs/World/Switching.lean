import TilePanel.Proofs.World.Delivery

/-!
The tracker of the current user. Whatever else happens, it posts one event for every request that
changes the user and none for a request of the user who is there already; the user is always the one
requested last, and the last event of the tracker that waits is about that user. When the queue is
gone it posts nothing, but follows the requests as before.
-/

namespace TilePanel

namespace Incident

def keepsTracker : Incident → Bool
  | endTracker | happens (.step .close) => false
  | _ => true

def requested : Incident → List UserId
  | happens (.step (.switchUser user)) => [user]
  | _ => []

private theorem requested_cases (i : Incident) :
    i.requested = [] ∨ ∃ user, i = happens (.step (.switchUser user)) := by
  cases i with
  | endTracker | endSender => exact .inl rfl
  | happens e =>
    cases e with
    | build => exact .inl rfl
    | step s =>
      cases s with
      | switchUser user => exact .inr ⟨user, rfl⟩
      | _ => exact .inl rfl

end Incident

namespace Effect

def keepsTracker : Effect → Bool
  | tend .close => false
  | _ => true

def requested : Effect → List UserId
  | switchUser user => [user]
  | _ => []

end Effect

def requests (incidents : List Incident) : List UserId :=
  incidents.flatMap Incident.requested

/-- The requested users without every one who is equal to the one before, which for the first one is
`first`. -/
def changes (first : UserId) (requested : List UserId) : List UserId :=
  ((first :: requested).zip requested).filterMap fun (before, user) =>
    if before = user then none else some user

theorem changes_cons (first user : UserId) (rest : List UserId) :
    changes first (user :: rest) =
      (if first = user then [] else [user]) ++ changes user rest := by
  unfold changes
  rw [List.zip_cons_cons, List.filterMap_cons]
  by_cases h : first = user <;> simp [h]

private theorem getLastD_append {α : Type} (earlier later : List α) (first : α) :
    (earlier ++ later).getLastD first = later.getLastD (earlier.getLastD first) := by
  simp only [List.getLastD_eq_getLast?, List.getLast?_append, Option.getD_or]

theorem changes_append (first : UserId) (earlier later : List UserId) :
    changes first (earlier ++ later) =
      changes first earlier ++ changes (earlier.getLastD first) later := by
  induction earlier generalizing first with
  | nil => rfl
  | cons user rest ih =>
    rw [List.cons_append, changes_cons, changes_cons, ih, List.append_assoc, List.getLastD_cons]

/-- The last change leads to the user requested last. -/
theorem getLastD_changes (first : UserId) (requested : List UserId) :
    (changes first requested).getLastD first = requested.getLastD first := by
  induction requested generalizing first with
  | nil => rfl
  | cons user rest ih =>
    have hfirst : (if first = user then [] else [user]).getLastD first = user := by
      by_cases h : first = user
      · rw [if_pos h]
        exact h
      · rw [if_neg h]
        rfl
    rw [changes_cons, getLastD_append, hfirst, ih, List.getLastD_cons]

theorem EventQueue.isOpen_post (q : EventQueue) (e : Event) : (q.post e).isOpen = q.isOpen := by
  unfold post
  split <;> rfl

theorem Hub.isOpen_post (h : Hub) (e : Event) (unreceived : Notice) :
    (h.post e unreceived).state.queue.isOpen = h.queue.isOpen := by
  unfold post
  split
  · exact h.queue.isOpen_post e
  · rfl

namespace Panel

theorem switchUser_of_same {p : Panel} {user : UserId} (h : p.user = user) :
    p.switchUser user = ⟨p, false, [.notice (.userUnchanged user)]⟩ :=
  if_pos h

theorem switchUser_of_other {p : Panel} {user : UserId} (h : p.user ≠ user) :
    p.switchUser user =
      let o := p.hub.post (.userSwitched user) .switchUnreceived
      ⟨{ p with hub := o.state, user }, o.answer,
        .notice (.userSwitched p.user user) :: o.journal⟩ :=
  if_neg h

end Panel

namespace World

theorem step_switchUser {w : World} (htracker : w.hasTracker = true) (user : UserId) :
    w.step (.switchUser user) =
      ((w.panel.switchUser user).mapState fun panel => { w with panel }).mapAnswer .flag :=
  if_pos htracker

/-- How the tracker goes on while it is asked to switch to some users, and the queue is kept or
not. -/
structure Attends (w : World) (requested : List UserId) (kept : Bool) (w' : World) : Prop where
  hasTracker : w'.hasTracker = w.hasTracker
  user : w'.panel.user = requested.getLastD w.panel.user
  isOpen : w'.panel.hub.queue.isOpen = (w.panel.hub.queue.isOpen && kept)

variable {w w' : World}

theorem keepsTracker_effect (w : World) {s : Step}
    (hs : (Incident.happens (.step s)).keepsTracker = true) :
    (w.effect s).keepsTracker = true := by
  cases s with
  | close => cases hs
  | send | switchUser | tryNext | next | drain | operate | newWatch =>
    simp only [effect, Effect.apply_onlyIf Effect.keepsTracker]
    simp [Effect.keepsTracker]
  | _ => rfl

theorem requested_eq (htracker : w.hasTracker = true) (s : Step) :
    (Incident.happens (.step s)).requested = (w.effect s).requested := by
  cases s with
  | switchUser user =>
    simp only [effect, htracker]
    rfl
  | send | tryNext | next | drain | operate | newWatch =>
    simp only [effect, Effect.apply_onlyIf Effect.requested]
    simp [Incident.requested, Effect.requested]
  | _ => rfl

namespace Attends

theorem trans {w'' : World} {requested requested' : List UserId} {kept kept' : Bool}
    (h : Attends w requested kept w') (h' : Attends w' requested' kept' w'') :
    Attends w (requested ++ requested') (kept && kept') w'' := by
  refine ⟨h'.hasTracker.trans h.hasTracker, ?_, ?_⟩
  · rw [h'.user, h.user, getLastD_append]
  · rw [h'.isOpen, h.isOpen, Bool.and_assoc]

/-- Something that has nothing to do with the tracker. -/
theorem of_same (htracker : w'.hasTracker = w.hasTracker)
    (huser : w'.panel.user = w.panel.user)
    (hopen : w'.panel.hub.queue.isOpen = w.panel.hub.queue.isOpen) : Attends w [] true w' :=
  ⟨htracker, huser, hopen.trans (Bool.and_true _).symm⟩

theorem refl (w : World) : Attends w [] true w :=
  of_same rfl rfl rfl

theorem onModel {α : Type} (w : World) {f : Panel → Outcome Panel α}
    (hf : ∀ p, (f p).state.user = p.user ∧ (f p).state.hub.queue.isOpen = p.hub.queue.isOpen) :
    Attends w [] true (w.onModel f).state := by
  cases w with | mk panel hasModel hasTracker hasSender isDetached loneWatches attic =>
  cases isDetached <;> exact of_same rfl (hf _).1 (hf _).2

theorem switchUser (w : World) (user : UserId) :
    Attends w [user] true { w with panel := (w.panel.switchUser user).state } := by
  by_cases hsame : w.panel.user = user
  · rw [Panel.switchUser_of_same hsame]
    exact ⟨rfl, hsame, (Bool.and_true _).symm⟩
  · rw [Panel.switchUser_of_other hsame]
    refine ⟨rfl, rfl, Eq.trans ?_ (Bool.and_true _).symm⟩
    exact w.panel.hub.isOpen_post (.userSwitched user) .switchUnreceived

theorem tend (w : World) {t : Tending} (ht : t ≠ .close) : Attends w [] true (w.tend t) := by
  obtain ⟨hscene, htracker⟩ := w.keepsScene_tend t
  exact of_same (htracker ht) hscene.user (congrArg EventQueue.isOpen hscene.queue)

/-- Only a switch changes the user, and only the end of the queue closes it. -/
theorem of_leads {e : Effect} {journal : List Activity} (hleads : w.Leads e journal w')
    (he : e.keepsTracker = true) : Attends w e.requested e.keepsQueue w' := by
  cases hleads with
  | nothing => exact refl w
  | demand d => exact of_same rfl rfl (d.evolves_run w.panel.hub).isOpen
  | restore | retext | take | reopen => exact of_same rfl rfl rfl
  | switchUser _ user => exact switchUser w user
  | drain =>
    refine onModel w fun p => ?_
    have hdrained := p.surroundings_drain
    exact ⟨hdrained.user, (congrArg EventQueue.isOpen hdrained.queue).trans rfl⟩
  | operate _ op =>
    refine onModel w fun p => ?_
    have hsame := op.surroundings_run p
    exact ⟨hsame.user, congrArg EventQueue.isOpen hsame.queue⟩
  | dropQueue => exact ⟨rfl, rfl, (Bool.and_false _).symm⟩
  | tend t => exact tend w fun hclose => by simp [hclose, Effect.keepsTracker] at he

theorem meet (htracker : w.hasTracker = true) {i : Incident} (hi : i.keepsTracker = true) :
    Attends w i.requested i.keepsQueue (w.meet i) := by
  cases i with
  | endTracker => cases hi
  | endSender => exact of_same rfl rfl rfl
  | happens e =>
    cases e with
    | build =>
      simp only [World.meet, happen, World.build]
      split <;> exact of_same rfl rfl rfl
    | step s =>
      rw [requested_eq htracker, keepsQueue_eq]
      exact of_leads (w.leads_step s) (w.keepsTracker_effect hi)

/-- The induction over everything that happens. -/
theorem meetAll (htracker : w.hasTracker = true) {incidents : List Incident}
    (hkeeps : ∀ i ∈ incidents, i.keepsTracker = true) :
    Attends w (requests incidents) (incidents.all Incident.keepsQueue) (w.meetAll incidents) := by
  induction incidents generalizing w with
  | nil => exact refl w
  | cons i rest ih =>
    have hfirst := meet htracker (hkeeps i List.mem_cons_self)
    have hrest := ih (hfirst.hasTracker.trans htracker)
      fun j hj => hkeeps j (List.mem_cons_of_mem _ hj)
    exact hfirst.trans hrest

end Attends

/-- The events that are posted while something happens, each with whether the tracker posted it. -/
def markedBy (w : World) (i : Incident) : List (Bool × Event) :=
  (w.postedBy i).map fun e => (!i.requested.isEmpty, e)

def markedByAll (w : World) : List Incident → List (Bool × Event)
  | [] => []
  | i :: rest => w.markedBy i ++ (w.meet i).markedByAll rest

def ofTracker (marked : List (Bool × Event)) : List Event :=
  (marked.filter Prod.fst).map Prod.snd

theorem ofTracker_append (marked later : List (Bool × Event)) :
    ofTracker (marked ++ later) = ofTracker marked ++ ofTracker later := by
  rw [ofTracker, List.filter_append, List.map_append]
  rfl

/-- The marks aside, these are the events that are posted. -/
theorem map_markedByAll (w : World) (incidents : List Incident) :
    (w.markedByAll incidents).map Prod.snd = w.postedByAll incidents := by
  induction incidents generalizing w with
  | nil => rfl
  | cons i rest ih =>
    rw [markedByAll, List.map_append, ih, postedByAll, markedBy, List.map_map]
    congr 1
    exact List.map_id _

/-- A request of another user is announced, and one of the user who is there is not. -/
theorem ofTracker_markedBy (htracker : w.hasTracker = true) (i : Incident) :
    ofTracker (w.markedBy i) = (changes w.panel.user i.requested).map .userSwitched := by
  rcases i.requested_cases with hnone | ⟨user, rfl⟩
  · have hfalse : (w.markedBy i).filter Prod.fst = [] := by
      refine List.filter_eq_nil_iff.mpr fun marked hmarked => ?_
      obtain ⟨e, _, rfl⟩ := List.mem_map.mp hmarked
      simp [hnone]
    rw [ofTracker, hfalse, hnone]
    rfl
  · have hposted : w.postedBy (.happens (.step (.switchUser user))) =
        if w.panel.user = user then [] else [.userSwitched user] := by
      by_cases hsame : w.panel.user = user <;> simp [postedBy, htracker, hsame]
    rw [markedBy, hposted, Incident.requested, changes_cons]
    by_cases hsame : w.panel.user = user
    · simp [hsame, ofTracker, changes]
    · simp [hsame, ofTracker, changes]

/-- The tracker posts the changes among the requests. -/
theorem ofTracker_markedByAll (htracker : w.hasTracker = true) {incidents : List Incident}
    (hkeeps : ∀ i ∈ incidents, i.keepsTracker = true) :
    ofTracker (w.markedByAll incidents) =
      (changes w.panel.user (requests incidents)).map .userSwitched := by
  induction incidents generalizing w with
  | nil => rfl
  | cons i rest ih =>
    have hfirst := Attends.meet htracker (hkeeps i List.mem_cons_self)
    have hrest := ih (hfirst.hasTracker.trans htracker)
      fun j hj => hkeeps j (List.mem_cons_of_mem _ hj)
    have hrequests : requests (i :: rest) = i.requested ++ requests rest := rfl
    rw [markedByAll, ofTracker_append, ofTracker_markedBy htracker, hrest, hfirst.user, hrequests,
      changes_append, List.map_append]

/-- Of the events of the tracker that are left of all, the last one is the last of all. -/
private theorem getLast?_ofTracker_drop {marked : List (Bool × Event)} {n : Nat} {e : Event}
    (h : (ofTracker (marked.drop n)).getLast? = some e) :
    (ofTracker marked).getLast? = some e := by
  rw [← List.take_append_drop n marked, ofTracker_append, List.getLast?_append, h]
  rfl

theorem getLast?_changes {first user : UserId} {requested : List UserId}
    (h : (changes first requested).getLast? = some user) : requested.getLastD first = user := by
  rw [← getLastD_changes, List.getLastD_eq_getLast?, h]
  rfl

/-- What a request answers and what it puts on the queue. -/
theorem step_switchUser_of_open (htracker : w.hasTracker = true)
    (hopen : w.panel.hub.queue.isOpen = true) (user : UserId) :
    (w.step (.switchUser user)).answer = .flag (decide (w.panel.user ≠ user)) ∧
      (w.step (.switchUser user)).state.panel.hub.queue.pending = w.panel.hub.queue.pending ++
        if w.panel.user ≠ user then [.userSwitched user] else [] := by
  rw [step_switchUser htracker]
  by_cases hsame : w.panel.user = user
  · rw [Panel.switchUser_of_same hsame, if_neg (not_not.mpr hsame), List.append_nil,
      decide_eq_false (not_not.mpr hsame)]
    exact ⟨rfl, rfl⟩
  · rw [Panel.switchUser_of_other hsame, if_pos hsame, decide_eq_true hsame]
    refine ⟨?_, ?_⟩
    · simp [Hub.post, hopen]
    · exact congrArg EventQueue.pending (Hub.queue_post hopen _ _)

/-- The event of a switch is dropped, and the user changes all the same. -/
theorem step_switchUser_of_gone (htracker : w.hasTracker = true)
    (hgone : w.panel.hub.queue.isOpen = false) (user : UserId) :
    (w.step (.switchUser user)).answer = .flag false ∧
      (w.step (.switchUser user)).state.panel.hub.queue = w.panel.hub.queue := by
  rw [step_switchUser htracker]
  by_cases hsame : w.panel.user = user
  · rw [Panel.switchUser_of_same hsame]
    exact ⟨rfl, rfl⟩
  · rw [Panel.switchUser_of_other hsame]
    simp [Hub.post, hgone]

/-- Each real change of the user is announced once. Let anything happen around a tracker that is not
ended: requests to switch, events that are taken, sent or posted by others, panels and watches that
come and go. The user is always the one requested last. While the queue is kept, the events that the
tracker has posted are the requested users without those equal to the one before, in order; the
events that wait are the last ones of all that were posted, and the last one of the tracker among
them is about the current user; and one more request answers whether it posts its event, which it
does if it is for another user. After the queue is gone every request answers that it posted
nothing, and so it is. -/
theorem switches_announced_once (store : SettingsStore) (path : Option String) (user : UserId)
    (texts : List (String × String)) (hasModel : Bool) {incidents : List Incident}
    (htracked : ∀ i ∈ incidents, i.keepsTracker = true) :
    let start := (World.new store path user texts hasModel).state
    let w := start.meetAll incidents
    let pending := w.panel.hub.queue.pending
    let marked := start.markedByAll incidents
    let taken := start.takenByAll incidents
    let current := (requests incidents).getLastD user
    (w.step .currentUser).answer = .user (some current) ∧
      ((∀ i ∈ incidents, i.keepsQueue = true) →
        ofTracker marked = (changes user (requests incidents)).map .userSwitched ∧
        pending = (marked.drop taken.length).map Prod.snd ∧
        (∀ e, (ofTracker (marked.drop taken.length)).getLast? = some e →
          e = .userSwitched current) ∧
        ∀ next, (w.step (.switchUser next)).answer = .flag (decide (current ≠ next)) ∧
          (w.step (.switchUser next)).state.panel.hub.queue.pending =
            pending ++ if current ≠ next then [.userSwitched next] else []) ∧
      ((∃ i ∈ incidents, i.keepsQueue = false) →
        ∀ next, (w.step (.switchUser next)).answer = .flag false ∧
          (w.step (.switchUser next)).state.panel.hub.queue = w.panel.hub.queue) := by
  intro start w pending marked taken current
  have hstart : start.hasTracker = true ∧ start.panel.user = user := by
    cases hasModel <;> exact ⟨rfl, rfl⟩
  have hnew : start.panel.hub.queue = {} := queue_new store path user texts hasModel
  have hattends : Attends start (requests incidents) (incidents.all Incident.keepsQueue) w :=
    .meetAll hstart.1 htracked
  have htracker : w.hasTracker = true := hattends.hasTracker.trans hstart.1
  have huser : w.panel.user = current := by rw [hattends.user, hstart.2]
  have hposted : ofTracker marked = (changes user (requests incidents)).map .userSwitched := by
    rw [← hstart.2]
    exact ofTracker_markedByAll hstart.1 htracked
  refine ⟨?_, fun hkeeps => ⟨hposted, ?_, fun e he => ?_, fun next => ?_⟩, fun hdropped next => ?_⟩
  · rw [← huser]
    simp only [step, needing, htracker, if_true]
    rfl
  · have hflows := flows_meetAll (w := start) (hnew ▸ rfl) hkeeps
    have hbalance : marked.map Prod.snd = taken ++ pending := by
      rw [map_markedByAll, ← hflows.balance, hnew]
      rfl
    rw [List.map_drop, hbalance, List.drop_left]
  · have hlast := getLast?_ofTracker_drop he
    rw [hposted, List.getLast?_map, Option.map_eq_some_iff] at hlast
    obtain ⟨last, hlast, rfl⟩ := hlast
    rw [← getLast?_changes hlast]
  · have hopen : w.panel.hub.queue.isOpen = true :=
      (flows_meetAll (w := start) (hnew ▸ rfl) hkeeps).isOpen
    rw [← huser]
    exact step_switchUser_of_open htracker hopen next
  · have hgone : w.panel.hub.queue.isOpen = false := by
      obtain ⟨i, hi, hdrop⟩ := hdropped
      rw [hattends.isOpen, Bool.and_eq_false_iff]
      exact .inr (List.all_eq_false.mpr ⟨i, hi, Bool.not_eq_true _ ▸ hdrop⟩)
    exact step_switchUser_of_gone htracker hgone next

/-- There and back, a request of the user who is there, and an event that the sender made up. -/
def roundTrip : List Incident :=
  [.happens (.step (.switchUser ⟨10⟩)), .happens (.step (.switchUser ⟨10⟩)),
    .happens (.step .tryNext), .happens (.step (.switchUser .owner)),
    .happens (.step (.send (.userSwitched ⟨7⟩))), .endSender]

theorem switches_announced_once_of_roundTrip :
    let start := (World.new (.memory {}) none .owner [] true).state
    (∀ i ∈ roundTrip, i.keepsTracker = true) ∧ (∀ i ∈ roundTrip, i.keepsQueue = true) ∧
      ofTracker (start.markedByAll roundTrip) = [.userSwitched ⟨10⟩, .userSwitched .owner] ∧
      (start.meetAll roundTrip).panel.hub.queue.pending =
        [.userSwitched .owner, .userSwitched ⟨7⟩] ∧
      ((start.meetAll roundTrip).step (.switchUser .owner)).answer = .flag false := by
  intro start
  have htracked : ∀ i ∈ roundTrip, i.keepsTracker = true := by
    simp [roundTrip, Incident.keepsTracker]
  have hkeeps : ∀ i ∈ roundTrip, i.keepsQueue = true := by simp [roundTrip, Incident.keepsQueue]
  obtain ⟨_, hlive, _⟩ := switches_announced_once (.memory {}) none .owner [] true htracked
  obtain ⟨hposted, hpending, _, hnext⟩ := hlive hkeeps
  refine ⟨htracked, hkeeps, hposted.trans (by decide), hpending.trans (by decide), ?_⟩
  exact (hnext .owner).1.trans (congrArg Answer.flag (by decide))

end World

end TilePanel
