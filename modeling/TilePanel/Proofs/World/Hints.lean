import Mathlib.Data.List.Induction
import TilePanel.Proofs.Panel.Bindings
import TilePanel.Proofs.World.Numbering

/-!
Events are hints. What they say, how often and in which order they come makes no difference: each
delivery works the brightness out anew, and all of them hand over the same record. The only thing that
counts is whether a switch of users is among them, and then the watch is moved to the current user,
as often as may be.
-/

namespace TilePanel

/-- What a registration is about, without its number. -/
def Registration.terms (r : Registration) : List String × UserId × Listener :=
  (r.keys, r.scope, r.listener)

namespace Panel

variable {p q : Panel} {events : List Event}

/-- Events change nothing where the tile is current. -/
theorem IsCurrent.slots_drainUpTo (h : p.IsCurrent) (limit : Nat) :
    (drainUpTo limit p).state.slots = p.slots := by
  induction limit generalizing p with
  | zero => rfl
  | succ limit ih =>
    cases hpending : p.hub.queue.pending with
    | nil => simp only [drainUpTo, takeEvent_of_empty hpending]
    | cons e rest =>
      have htaken : (p.withPending rest).IsCurrent := h
      simp only [drainUpTo, takeEvent_of_waiting hpending]
      rw [ih (isCurrent_deliver _ e), state_deliver]
      exact htaken.slots_handle e

/-- However many events are delivered, the tiles are as after one recomputation. -/
theorem slots_drainUpTo (hne : events ≠ []) (limit : Nat) :
    (drainUpTo (limit + 1) (p.withPending events)).state.slots =
      (p.setRecord .brightness p.recomputed).slots := by
  cases events with
  | nil => exact absurd rfl hne
  | cons e rest =>
    have hpending : (p.withPending (e :: rest)).hub.queue.pending = e :: rest := rfl
    simp only [drainUpTo, takeEvent_of_waiting hpending]
    rw [(isCurrent_deliver _ e).slots_drainUpTo, state_deliver]
    exact slots_handle _ e

theorem slots_drain (hne : events ≠ []) :
    (p.withPending events).drain.state.slots = (p.setRecord .brightness p.recomputed).slots := by
  obtain ⟨limit, hlimit⟩ := Nat.exists_eq_succ_of_ne_zero (mt List.eq_nil_of_length_eq_zero hne)
  have hlength : (p.withPending events).hub.queue.pending.length = limit + 1 := hlimit
  rw [drain, hlength]
  exact slots_drainUpTo hne limit

/-- Every delivery hands the same record to the binding of the brightness tile. -/
theorem pushes_drain (p : Panel) (hne : events ≠ []) :
    pushes (p.withPending events).drain.journal =
      match p.binding? .brightness with
      | none => []
      | some binding => .replicate events.length ⟨.brightness, binding, p.recomputed⟩ := by
  have hslot : (p.withPending events).drain.state.slots.get .brightness =
      { p.slots.get .brightness with record := p.recomputed } := by
    rw [slots_drain hne, setRecord, PerTile.get_set, if_pos rfl]
  have hanswer : (p.withPending events).drain.answer = events.length := answer_drain _
  rw [(repaints_drain _).pushed, hanswer, List.filterMap_replicate, hslot]
  unfold Slot.push? binding?
  cases (p.slots.get .brightness).binding <;> rfl

/-- How a panel goes on from another one when its watch was moved, once or more often. -/
structure Rewatched (p q : Panel) : Prop where
  user : q.user = p.user
  nextId : p.hub.registry.nextId ≤ q.hub.registry.nextId
  watching : ∃ id, p.hub.registry.nextId ≤ id ∧ q.watch = .observing p.user id ∧
    q.hub.registry.entries = (p.watch.release p.hub).registry.entries ++
      [⟨id, Setting.watched, p.user, .poster⟩]

private theorem nextId_moveWatch (p : Panel) :
    p.moveWatch.hub.registry.nextId = p.hub.registry.nextId + 1 :=
  BrightnessWatch.nextId_start

theorem Rewatched.once (p : Panel) : Rewatched p p.moveWatch := by
  refine ⟨rfl, ?_, p.hub.registry.nextId, Nat.le_refl _, BrightnessWatch.answer_start, ?_⟩
  · rw [nextId_moveWatch]
    exact Nat.le_succ _
  · unfold moveWatch BrightnessWatch.start Registry.register
    cases p.watch <;> rfl

/-- Moving the watch again replaces the registration of the move before. -/
theorem Rewatched.again (h : Rewatched p q) (hnumbered : p.hub.Numbered) :
    Rewatched p q.moveWatch := by
  obtain ⟨id, hid, hwatch, hentries⟩ := h.watching
  have hothers : ∀ r ∈ (p.watch.release p.hub).registry.entries, (r.id != id) = true := by
    intro r hr
    have hnext : (p.watch.release p.hub).registry.nextId = p.hub.registry.nextId := by
      cases p.watch <;> rfl
    have hbelow := (BrightnessWatch.numbered_release hnumbered).registrations r hr
    rw [hnext] at hbelow
    exact bne_iff_ne.mpr (by omega)
  have hreleased : (q.watch.release q.hub).registry.entries =
      (p.watch.release p.hub).registry.entries := by
    rw [hwatch]
    change q.hub.registry.entries.filter (fun r => r.id != id) = _
    rw [hentries, List.filter_append, List.filter_eq_self.mpr hothers]
    simp
  obtain ⟨id', hid', hwatch', hentries'⟩ := (once q).watching
  refine ⟨h.user, Nat.le_trans h.nextId (once q).nextId, id', Nat.le_trans h.nextId hid', ?_, ?_⟩
  · rw [hwatch', h.user]
  · rw [hentries', hreleased, h.user]

theorem Rewatched.retiles {r : Panel} (h : Rewatched p q) (hslots : Retiles q r) :
    Rewatched p r := by
  obtain ⟨slots, rfl⟩ := hslots
  exact ⟨h.user, h.nextId, h.watching⟩

def HasSwitch (events : List Event) : Prop :=
  ∃ user, .userSwitched user ∈ events

/-- Events move the watch if a switch is among them, and otherwise change slots only. -/
private theorem moved_foldl_handle (hnumbered : p.hub.Numbered) (events : List Event) :
    let q := events.foldl (fun p e => (p.handle e).state) p
    (Retiles p q ∧ ¬HasSwitch events) ∨ (Rewatched p q ∧ HasSwitch events) := by
  -- From the end, so that `p` stays the panel that all moves are compared with.
  induction events using List.reverseRecOn with
  | nil => exact .inl ⟨.refl p, fun ⟨_, hmem⟩ => nomatch hmem⟩
  | append_singleton events e ih =>
    simp only [List.foldl_append, List.foldl_cons, List.foldl_nil]
    generalize events.foldl (fun p e => (p.handle e).state) p = q at ih ⊢
    cases e with
    | settingChanged key user =>
      have hslots : Retiles q (q.handle (.settingChanged key user)).state := q.retiles_update _ _
      have hswitch : HasSwitch (events ++ [.settingChanged key user]) ↔ HasSwitch events := by
        simp [HasSwitch]
      rw [hswitch]
      exact ih.imp (.imp_left fun h => h.trans hslots) (.imp_left fun h => h.retiles hslots)
    | userSwitched user =>
      have hslots : Retiles q.moveWatch (q.handle (.userSwitched user)).state :=
        q.moveWatch.retiles_update _ _
      refine .inr ⟨?_, user, List.mem_append_right _ (List.mem_singleton_self _)⟩
      -- The first move gives back what the watch owned in `p`, a later one what the last move made.
      rcases ih with ⟨⟨slots, rfl⟩, _⟩ | ⟨hmoved, _⟩
      · have hfirst : Retiles p.moveWatch ({ p with slots } : Panel).moveWatch := ⟨slots, rfl⟩
        exact (Rewatched.once p).retiles (hfirst.trans hslots)
      · exact (hmoved.again hnumbered).retiles hslots

/-- After a drain the watch and the registrations depend on one thing: whether a switch waited. -/
theorem registrations_drain (hnumbered : p.hub.Numbered) (events : List Event) :
    let q := (p.withPending events).drain.state
    (¬HasSwitch events → q.watch = p.watch ∧ q.hub.registry = p.hub.registry) ∧
      (HasSwitch events → q.observedUser = some p.user ∧
        q.hub.registry.entries.map Registration.terms =
          (p.watch.release p.hub).registry.entries.map Registration.terms ++
            [(Setting.watched, p.user, .poster)]) := by
  have htaken : (p.withPending []).hub.Numbered := ⟨hnumbered.registrations, hnumbered.watchers⟩
  have hstate : (p.withPending events).drain.state =
      events.foldl (fun p e => (p.handle e).state) (p.withPending []) := state_drain _
  rw [hstate]
  rcases moved_foldl_handle htaken events with ⟨hslots, hnone⟩ | ⟨hmoved, hsome⟩
  · obtain ⟨slots, hslots⟩ := hslots
    rw [hslots]
    exact ⟨fun _ => ⟨rfl, rfl⟩, fun hsome => absurd hsome hnone⟩
  · obtain ⟨id, _, hwatch, hentries⟩ := hmoved.watching
    refine ⟨fun hnone => absurd hsome hnone, fun _ => ⟨?_, ?_⟩⟩
    · rw [observedUser, hwatch]
      rfl
    · have hreleased : ((p.withPending []).watch.release (p.withPending []).hub).registry =
          (p.watch.release p.hub).registry := by
        cases p with | mk hub user catalog slots watch => cases watch <;> rfl
      rw [hentries, List.map_append, hreleased]
      rfl

end Panel

namespace World

/-- Events that wait are hints. Two lists of them, neither empty, that both hold a switch of users or
both hold none leave the same records, the same watched user and registrations for the same things,
whatever they say otherwise. Every delivery works out the same record for the brightness, which its
binding is handed once for each event; the other tiles are neither changed nor pushed. -/
theorem events_are_hints (store : SettingsStore) (path : Option String) (user : UserId)
    (texts : List (String × String)) (hasModel : Bool) (incidents : List Incident)
    {es fs : List Event} (hes : es ≠ []) (hfs : fs ≠ [])
    (hswitch : Panel.HasSwitch es ↔ Panel.HasSwitch fs) :
    let p := ((World.new store path user texts hasModel).state.meetAll incidents).ownPanel
    (∀ kind, (p.withPending es).drain.state.record kind =
      (p.withPending fs).drain.state.record kind) ∧
    (p.withPending es).drain.state.observedUser = (p.withPending fs).drain.state.observedUser ∧
    (p.withPending es).drain.state.hub.registry.entries.map Registration.terms =
      (p.withPending fs).drain.state.hub.registry.entries.map Registration.terms ∧
    ∀ events ∈ [es, fs],
      (∀ limit, 0 < limit →
        (Panel.drainUpTo limit (p.withPending events)).state.record .brightness = p.recomputed) ∧
      (p.withPending events).drain.answer = events.length ∧
      pushes (p.withPending events).drain.journal = (match p.binding? .brightness with
        | none => []
        | some binding => .replicate events.length ⟨.brightness, binding, p.recomputed⟩) ∧
      ∀ kind, kind ≠ .brightness →
        (p.withPending events).drain.state.slots.get kind = p.slots.get kind := by
  intro p
  have hnumbered : p.hub.Numbered :=
    (Numbered.new store path user texts hasModel).meetAll incidents _
  have hslots : (p.withPending es).drain.state.slots = (p.withPending fs).drain.state.slots :=
    (Panel.slots_drain hes).trans (Panel.slots_drain hfs).symm
  obtain ⟨hunmoved, hmoved⟩ := Panel.registrations_drain hnumbered es
  obtain ⟨hunmoved', hmoved'⟩ := Panel.registrations_drain hnumbered fs
  refine ⟨?_, ?_, ?_, ?_⟩
  · intro kind
    rw [Panel.record, hslots]
    rfl
  · by_cases hsome : Panel.HasSwitch es
    · rw [(hmoved hsome).1, (hmoved' (hswitch.mp hsome)).1]
    · rw [Panel.observedUser, (hunmoved hsome).1, Panel.observedUser,
        (hunmoved' (mt hswitch.mpr hsome)).1]
  · by_cases hsome : Panel.HasSwitch es
    · rw [(hmoved hsome).2, (hmoved' (hswitch.mp hsome)).2]
    · rw [(hunmoved hsome).2, (hunmoved' (mt hswitch.mpr hsome)).2]
  · intro events hmem
    have hne : events ≠ [] := by
      rcases List.mem_pair.mp hmem with rfl | rfl
      · exact hes
      · exact hfs
    refine ⟨?_, Panel.answer_drain _, p.pushes_drain hne, ?_⟩
    · intro limit hlimit
      obtain ⟨limit, rfl⟩ := Nat.exists_eq_succ_of_ne_zero (Nat.ne_of_gt hlimit)
      rw [Panel.record, Panel.slots_drainUpTo hne]
      exact p.record_setRecord_self _ _
    · intro kind hkind
      rw [Panel.slots_drain hne]
      exact p.slots_setRecord_of_ne hkind _

/-- The brightness tile is bound, and another user comes to the foreground. -/
def arrival : List Incident :=
  [.happens (.step (.operate (.add .brightness ⟨.recorder, "b"⟩))),
    .happens (.step (.put Setting.mode "1" ⟨10⟩)), .happens (.step (.switchUser ⟨10⟩))]

def afterArrival : Panel :=
  ((World.new (.memory {}) none .owner [] true).state.meetAll arrival).ownPanel

/-- Events about a key that nobody watches and about users who are not there. -/
def rumours : List Event :=
  [.settingChanged "k" ⟨3⟩, .userSwitched ⟨7⟩, .userSwitched .owner]

/-- Three events of which none is true, next to one that is: the watch moves to the same user, and
the tile is repainted three times with the record that it has anyway. -/
theorem events_are_hints_of_rumours :
    rumours ≠ [] ∧ Panel.HasSwitch rumours ∧
      (afterArrival.withPending rumours).drain.state.observedUser =
        (afterArrival.withPending [.userSwitched ⟨10⟩]).drain.state.observedUser ∧
      pushes (afterArrival.withPending rumours).drain.journal =
        .replicate 3 ⟨.brightness, ⟨.recorder, "b"⟩, afterArrival.recomputed⟩ := by
  have hrumours : rumours ≠ [] := by simp [rumours]
  have hsome : Panel.HasSwitch rumours := ⟨⟨7⟩, by simp [rumours]⟩
  have hone : Panel.HasSwitch [.userSwitched ⟨10⟩] := ⟨⟨10⟩, List.mem_singleton_self _⟩
  obtain ⟨_, hobserved, _, hdelivered⟩ := events_are_hints (.memory {}) none .owner [] true arrival
    hrumours (List.cons_ne_nil _ _) ⟨fun _ => hone, fun _ => hsome⟩
  exact ⟨hrumours, hsome, hobserved, (hdelivered rumours List.mem_cons_self).2.2.1⟩

end World

end TilePanel
