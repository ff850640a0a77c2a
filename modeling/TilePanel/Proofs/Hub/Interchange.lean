import TilePanel.Proofs.Settings.Listing
import TilePanel.World.Step

/-!
Nobody who uses a store can tell whether it is in memory or in a database. Users are programs that
go on from the results of their calls; so are the listeners, which may use the store themselves
while they are told of a write, to any depth.
-/

namespace TilePanel

/-- What happened, apart from the notices: only a database reports its writes. -/
def Activity.deeds (journal : List Activity) : List Activity :=
  journal.filter fun a => a.notice?.isNone

namespace Activity

private theorem deeds_append (journal later : List Activity) :
    deeds (journal ++ later) = deeds journal ++ deeds later :=
  List.filter_append ..

private theorem deeds_report (notices : List Notice) : deeds (report notices) = [] := by
  refine List.filter_eq_nil_iff.mpr fun a ha => ?_
  obtain ⟨n, _, rfl⟩ := List.mem_map.mp ha
  exact Bool.noConfusion

end Activity

/-- A program that uses a store. What a listener keeps in mind from one call to the next stands in
the list of watchers. -/
inductive Program (α : Type)
  | done (a : α)
  | read (key : String) (user : UserId) (next : Except Error (Option String) → Program α)
  | readInt (key : String) (fallback : Int32) (user : UserId) (next : Int32 → Program α)
  | list (user : UserId) (next : Except Error (List (String × String)) → Program α)
  | put (key value : String) (user : UserId) (next : Except Error Unit → Program α)
  | putInt (key : String) (value : Int32) (user : UserId) (next : Except Error Unit → Program α)
  | register (keys : List String) (scope : UserId) (name : String) (next : Nat → Program α)
  | unregister (id : Nat) (next : Bool → Program α)
  | recollect (next : List Watcher → Program α)
  | remember (memory : List Watcher) (next : Program α)

namespace Program

variable {α : Type}

def perform (call : String → UserId → Hub → Registration → Outcome Hub Unit) :
    Program α → Hub → Outcome Hub α
  | done a, h => ⟨h, a, []⟩
  | read key user next, h => (next (h.store.read key user)).perform call h
  | readInt key fallback user next, h =>
    ((next (h.store.readInt key fallback user)).perform call h).after
      (report (h.store.readIntNotices key fallback user))
  | list user next, h => (next (h.store.list user)).perform call h
  | put key value user next, h =>
    (Hub.putUsing call h key value user).andThen fun result h => (next result).perform call h
  | putInt key value user next, h =>
    (Hub.putUsing call h key (settingText value) user).andThen fun result h =>
      (next result).perform call h
  | register keys scope name next, h =>
    (next h.registry.nextId).perform call
      { h with registry := h.registry.register keys scope (.watcher name) }
  | unregister id next, h =>
    (next (h.registry.contains id)).perform call { h with registry := h.registry.unregister id }
  | recollect next, h => (next h.watchers).perform call h
  | remember memory next, h => next.perform call { h with watchers := memory }

/-- Calls a listener that runs a program of its own for every write that it is told of. A listener
is first noted with the text that it sees; `depth` bounds how far calls may nest. -/
def listen (conduct : Registration → String → UserId → Program Unit) :
    Nat → String → UserId → Hub → Registration → Outcome Hub Unit
  | depth, key, user, h, r =>
    match r.listener with
    | .poster => (h.post (.settingChanged key user) (.changeUnreceived user)).mapAnswer fun _ => ()
    | .watcher name =>
      let seen := Activity.changed name key user (h.store.read key user)
      match depth with
      | 0 => ⟨h, (), [seen]⟩
      | depth + 1 => ((conduct r key user).perform (listen conduct depth) h).after [seen]

end Program

/-- Two outcomes that nobody can tell apart, given which states nobody can tell apart. -/
structure Outcome.Matches {σ α : Type} (R : σ → σ → Prop) (o o' : Outcome σ α) : Prop where
  state : R o.state o'.state
  answer : o'.answer = o.answer
  deeds : Activity.deeds o'.journal = Activity.deeds o.journal

namespace Outcome.Matches

variable {σ α β : Type} {R : σ → σ → Prop} {o o' : Outcome σ α}

/-- What cannot be told apart cannot be told apart after the same continuation. -/
theorem andThen (h : o.Matches R o') {next next' : α → σ → Outcome σ β}
    (hnext : ∀ a s s', R s s' → (next a s).Matches R (next' a s')) :
    (o.andThen next).Matches R (o'.andThen next') := by
  have hlast := hnext o.answer _ _ h.state
  have hanswer : next' o'.answer o'.state = next' o.answer o'.state := by rw [h.answer]
  refine ⟨?_, ?_, ?_⟩
  · rw [state_andThen, state_andThen, hanswer]
    exact hlast.state
  · rw [answer_andThen, answer_andThen, hanswer]
    exact hlast.answer
  · rw [journal_andThen, journal_andThen, hanswer, Activity.deeds_append, Activity.deeds_append,
      h.deeds, hlast.deeds]

theorem after (h : o.Matches R o') {earlier earlier' : List Activity}
    (hsame : Activity.deeds earlier' = Activity.deeds earlier) :
    (o.after earlier).Matches R (o'.after earlier') := by
  refine ⟨h.state, h.answer, ?_⟩
  rw [journal_after, journal_after, Activity.deeds_append, Activity.deeds_append, hsame, h.deeds]

private theorem after_report (h : o.Matches R o') (notices notices' : List Notice) :
    (o.after (report notices)).Matches R (o'.after (report notices')) :=
  h.after ((Activity.deeds_report notices').trans (Activity.deeds_report notices).symm)

theorem mapAnswer (h : o.Matches R o') (f : α → β) : (o.mapAnswer f).Matches R (o'.mapAnswer f) :=
  ⟨h.state, congrArg f h.answer, h.deeds⟩

theorem forEach {step : σ → α → Outcome σ Unit}
    (hstep : ∀ s s' a, R s s' → (step s a).Matches R (step s' a)) (as : List α) {s s' : σ}
    (hs : R s s') : (Outcome.forEach step s as).Matches R (Outcome.forEach step s' as) := by
  induction as generalizing s s' with
  | nil => exact ⟨hs, rfl, rfl⟩
  | cons a rest ih => exact (hstep s s' a hs).andThen fun _ _ _ hnext => ih hnext

end Outcome.Matches

namespace Hub

/-- Two hubs that nobody can tell apart, one over a memory store and one over a database. -/
structure Alike (h h' : Hub) : Prop where
  store : h.store.Mirrored h'.store
  registry : h'.registry = h.registry
  queue : h'.queue = h.queue
  watchers : h'.watchers = h.watchers

/-- A way to call listeners that does not tell such hubs apart. -/
def Impartial (call : String → UserId → Hub → Registration → Outcome Hub Unit) : Prop :=
  ∀ key user r h h', Alike h h' → (call key user h r).Matches Alike (call key user h' r)

namespace Alike

variable {h h' : Hub} {call : String → UserId → Hub → Registration → Outcome Hub Unit}

theorem post (hsame : Alike h h') (e : Event) (unreceived : Notice) :
    (h.post e unreceived).Matches Alike (h'.post e unreceived) := by
  unfold Hub.post
  rw [hsame.queue]
  split
  · exact ⟨{ hsame with queue := rfl }, rfl, rfl⟩
  · exact ⟨hsame, rfl, rfl⟩

theorem notifyUsing (hsame : Alike h h') (hcall : Impartial call) (key : String) (user : UserId) :
    (Hub.notifyUsing call h key user).Matches Alike (Hub.notifyUsing call h' key user) := by
  unfold Hub.notifyUsing
  rw [hsame.registry]
  exact (Outcome.Matches.forEach (fun s s' r hs => hcall key user r s s' hs) _ hsame).mapAnswer _

theorem putUsing (hsame : Alike h h') (hcall : Impartial call) (key value : String)
    (user : UserId) :
    (Hub.putUsing call h key value user).Matches Alike
      (Hub.putUsing call h' key value user) := by
  obtain ⟨store, store', hwrite, hwrite', hmirrored⟩ := hsame.store.write key value user
  have hstored : Alike { h with store } { h' with store := store' } :=
    { hsame with store := hmirrored }
  simp only [Hub.putUsing, hwrite, hwrite']
  exact ((hstored.notifyUsing hcall key user).mapAnswer _).after_report _ _

/-- A listener that is told of a write sees the same text in both. -/
theorem seen (hsame : Alike h h') (name key : String) (user : UserId) :
    Activity.changed name key user (h'.store.read key user) =
      Activity.changed name key user (h.store.read key user) := by
  rw [hsame.store.read]

end Alike

end Hub

namespace Program

/-- One case for each call that a program makes. -/
theorem matches_perform {α : Type}
    {call : String → UserId → Hub → Registration → Outcome Hub Unit} (hcall : Hub.Impartial call)
    (program : Program α) {h h' : Hub} (hsame : h.Alike h') :
    (program.perform call h).Matches Hub.Alike (program.perform call h') := by
  induction program generalizing h h' with
  | done a => exact ⟨hsame, rfl, rfl⟩
  | read key user next ih =>
    simp only [perform, hsame.store.read]
    exact ih _ hsame
  | readInt key fallback user next ih =>
    simp only [perform, hsame.store.readInt]
    exact (ih _ hsame).after_report _ _
  | list user next ih =>
    simp only [perform, hsame.store.list]
    exact ih _ hsame
  | put key value user next ih =>
    exact (hsame.putUsing hcall key value user).andThen fun result _ _ hnext => ih result hnext
  | putInt key value user next ih =>
    exact (hsame.putUsing hcall key _ user).andThen fun result _ _ hnext => ih result hnext
  | register keys scope name next ih =>
    simp only [perform, hsame.registry]
    exact ih _ { hsame with registry := rfl }
  | unregister id next ih =>
    simp only [perform, hsame.registry]
    exact ih _ { hsame with registry := rfl }
  | recollect next ih =>
    simp only [perform, hsame.watchers]
    exact ih _ hsame
  | remember memory next ih => exact ih { hsame with watchers := rfl }

/-- The induction on the depth of the calls. -/
theorem impartial_listen (conduct : Registration → String → UserId → Program Unit) (depth : Nat) :
    Hub.Impartial (listen conduct depth) := by
  induction depth with
  | zero =>
    intro key user r h h' hsame
    unfold listen
    cases r.listener with
    | poster => exact (hsame.post _ _).mapAnswer _
    | watcher name =>
      simp only [hsame.seen]
      exact ⟨hsame, rfl, rfl⟩
  | succ depth ih =>
    intro key user r h h' hsame
    unfold listen
    cases r.listener with
    | poster => exact (hsame.post _ _).mapAnswer _
    | watcher name =>
      simp only [hsame.seen]
      exact (matches_perform ih _ hsame).after rfl

end Program

namespace Hub

namespace Alike

variable {h h' : Hub} {call : String → UserId → Hub → Registration → Outcome Hub Unit}

theorem watch (hsame : Alike h h') (name : String) (keys : List String) (scope : UserId)
    (responses : List (List Reaction)) :
    Alike (h.watch name keys scope responses) (h'.watch name keys scope responses) := by
  simp only [Hub.watch, hsame.registry, hsame.watchers]
  exact { hsame with registry := rfl, watchers := rfl }

theorem unwatch (hsame : Alike h h') (name : String) :
    Alike (h.unwatch name).1 (h'.unwatch name).1 ∧ (h'.unwatch name).2 = (h.unwatch name).2 := by
  simp only [Hub.unwatch, idOf?, hsame.registry, hsame.watchers]
  split
  · exact ⟨hsame, rfl⟩
  · exact ⟨⟨hsame.store, rfl, hsame.queue, rfl⟩, rfl⟩

theorem nextResponse (hsame : Alike h h') (id : Nat) :
    Alike (h.nextResponse id).1 (h'.nextResponse id).1 ∧
      (h'.nextResponse id).2 = (h.nextResponse id).2 := by
  unfold Hub.nextResponse
  rw [hsame.watchers]
  exact ⟨{ hsame with watchers := rfl }, rfl⟩

/-- A reaction does the same on both hubs, if the calls that it leads to do. -/
theorem reactUsing (hsame : Alike h h') (hcall : Impartial call) (watcher : String)
    (reaction : Reaction) :
    (Hub.reactUsing call watcher h reaction).Matches Alike
      (Hub.reactUsing call watcher h' reaction) := by
  cases reaction with
  | watch name keys scope responses => exact ⟨hsame.watch name keys scope responses, rfl, rfl⟩
  | unwatch name =>
    obtain ⟨hstate, hfound⟩ := hsame.unwatch name
    refine ⟨hstate, rfl, ?_⟩
    simp only [Hub.reactUsing, hfound]
  | put key value user =>
    have hput := hsame.putUsing hcall key value user
    refine ⟨hput.state, rfl, ?_⟩
    simp only [Hub.reactUsing, hput.answer, Activity.deeds_append, hput.deeds]

end Alike

/-- Calls do not tell such hubs apart, however deep they nest. -/
theorem impartial_call (depth : Nat) : Impartial (call depth) := by
  induction depth with
  | zero =>
    intro key user r h h' hsame
    unfold call
    cases r.listener with
    | poster => exact (hsame.post _ _).mapAnswer _
    | watcher name =>
      simp only [hsame.seen]
      exact ⟨hsame, rfl, rfl⟩
  | succ depth ih =>
    intro key user r h h' hsame
    unfold call
    cases r.listener with
    | poster => exact (hsame.post _ _).mapAnswer _
    | watcher name =>
      obtain ⟨hstate, hresponse⟩ := hsame.nextResponse r.id
      simp only [hsame.seen, hresponse]
      exact (Outcome.Matches.forEach (fun s s' a hs => hs.reactUsing ih name a) _ hstate).after rfl

theorem Alike.put {h h' : Hub} (hsame : Alike h h') (key value : String) (user : UserId) :
    (h.put key value user).Matches Alike (h'.put key value user) := by
  have hpending : h'.pendingResponses = h.pendingResponses := by
    rw [pendingResponses, hsame.watchers, pendingResponses]
  unfold Hub.put
  rw [hpending]
  exact hsame.putUsing (impartial_call _) key value user

end Hub

def Step.isOfStore : Step → Bool
  | read .. | readInt .. | put .. | putInt .. | list _ | watch .. | unwatch _
  | countRegistrations => true
  | _ => false

namespace World

def Alike (w w' : World) : Prop :=
  w.panel.hub.Alike w'.panel.hub

theorem matches_ask {w w' : World} {f : Hub → Outcome Hub Answer}
    (hf : (f w.panel.hub).Matches Hub.Alike (f w'.panel.hub)) :
    (w.ask f).Matches Alike (w'.ask f) :=
  ⟨hf.state, hf.answer, hf.deeds⟩

/-- A call of a store is answered alike, and both worlds go on alike. -/
theorem Alike.step {w w' : World} (hsame : w.Alike w') {s : Step} (hs : s.isOfStore = true) :
    (w.step s).Matches Alike (w'.step s) := by
  cases s with
  | read key user =>
    simp only [World.step, hsame.store.read]
    exact ⟨hsame, rfl, rfl⟩
  | readInt key fallback user =>
    have hint := hsame.store.readInt key fallback user
    have hpeek : (w.peek (.int (w.panel.hub.store.readInt key fallback user))).Matches Alike
        (w'.peek (.int (w'.panel.hub.store.readInt key fallback user))) :=
      ⟨hsame, congrArg Answer.int hint, rfl⟩
    exact hpeek.after_report _ _
  | put key value user => exact matches_ask ((Hub.Alike.put hsame key value user).mapAnswer _)
  | putInt key value user => exact matches_ask ((Hub.Alike.put hsame key _ user).mapAnswer _)
  | list user =>
    simp only [World.step, hsame.store.list]
    exact ⟨hsame, rfl, rfl⟩
  | watch name keys scope responses =>
    exact matches_ask ⟨Hub.Alike.watch hsame name keys scope responses, rfl, rfl⟩
  | unwatch name =>
    obtain ⟨hstate, hfound⟩ := Hub.Alike.unwatch hsame name
    exact matches_ask ⟨hstate, congrArg Answer.flag hfound, rfl⟩
  | countRegistrations =>
    simp only [World.step, hsame.registry]
    exact ⟨hsame, rfl, rfl⟩
  | _ => cases hs

/-- What a run answers and what happens in it, step by step and apart from the notices. -/
def course (w : World) (steps : List Step) : List (Answer × List Activity) :=
  (w.run steps).2.map fun told => (told.1, Activity.deeds told.2)

/-- The induction over the steps. -/
theorem Alike.course {w w' : World} (hsame : w.Alike w') {steps : List Step}
    (hsteps : ∀ s ∈ steps, s.isOfStore = true) : w'.course steps = w.course steps := by
  induction steps generalizing w w' with
  | nil => rfl
  | cons s rest ih =>
    have hstep := hsame.step (hsteps s List.mem_cons_self)
    have hrest := ih hstep.state fun t ht => hsteps t (List.mem_cons_of_mem _ ht)
    simp only [World.course, run, List.map_cons] at hrest ⊢
    rw [hstep.answer, hstep.deeds, hrest]

/-- A memory store and a database that begin empty are interchangeable. For every sequence of calls,
with listeners that react as they were set up to, and for every program, with listeners that run
programs of their own, nested to any depth: both give the same answers, and call the same listeners
with the same keys and users in the same order, who see the same texts. -/
theorem stores_interchangeable (user : UserId) (texts : List (String × String)) {steps : List Step}
    (hsteps : ∀ s ∈ steps, s.isOfStore = true) :
    (World.new (.database (some {})) none user texts false).state.course steps =
        (World.new (.memory {}) none user texts false).state.course steps ∧
      ∀ (α : Type) (conduct : Registration → String → UserId → Program Unit) (depth : Nat)
        (program : Program α),
        let inMemory := program.perform (Program.listen conduct depth) { store := .memory {} }
        let inDatabase :=
          program.perform (Program.listen conduct depth) { store := .database (some {}) }
        inDatabase.answer = inMemory.answer ∧
          Activity.deeds inDatabase.journal = Activity.deeds inMemory.journal := by
  refine ⟨?_, ?_⟩
  · have hsame : (World.new (.memory {}) none user texts false).state.Alike
        (World.new (.database (some {})) none user texts false).state :=
      ⟨.empty, rfl, rfl, rfl⟩
    exact hsame.course hsteps
  · intro α conduct depth program inMemory inDatabase
    have hsame : ({ store := .memory {} } : Hub).Alike { store := .database (some {}) } :=
      ⟨.empty, rfl, rfl, rfl⟩
    have hmatches := program.matches_perform (Program.impartial_listen conduct depth) hsame
    exact ⟨hmatches.answer, hmatches.deeds⟩

/-- Writes out of order, a listener that writes in turn, and a listing. -/
def mixedUse : List Step :=
  [.put "b" "1" .owner, .watch "w" ["a"] .everyone [[.put "c" "x" .owner]], .put "a" "2" .owner,
    .putInt "b" 3 ⟨10⟩, .list .owner]

theorem stores_interchangeable_in_mixedUse :
    (∀ s ∈ mixedUse, s.isOfStore = true) ∧
      (World.new (.database (some {})) none .owner [] false).state.course mixedUse =
        (World.new (.memory {}) none .owner [] false).state.course mixedUse := by
  have hsteps : ∀ s ∈ mixedUse, s.isOfStore = true := by simp [mixedUse, Step.isOfStore]
  exact ⟨hsteps, (stores_interchangeable .owner [] hsteps).1⟩

end World

end TilePanel
