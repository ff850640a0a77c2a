import Mathlib.Data.List.Find
import TilePanel.Proofs.Panel.Congruence
import TilePanel.Proofs.Panel.Deliveries
import TilePanel.Proofs.Panel.UpToDate

/-!
What the bindings of a panel decide, and what they do not. They decide where a record is painted and
what an operation answers: it fails exactly if a tile that it concerns is not bound, and names the
first such tile. They decide nothing that is recorded. Two panels with the same records, the same
watched user, the same current user and the same texts, over stores in which the same is found, go on
to record the same, whatever is bound in them.
-/

namespace TilePanel

namespace SettingsStore

/-- The text that is found for a key and a user. A read that fails finds nothing. -/
def found? (s : SettingsStore) (key : String) (user : UserId) : Option String :=
  (s.read key user).toOption.join

private theorem readInt_eq (s : SettingsStore) (key : String) (fallback : Int32) (user : UserId) :
    s.readInt key fallback user = ((s.found? key user).bind parseInt?).getD fallback := by
  unfold readInt found?
  cases s.read key user with
  | error cause => rfl
  | ok value => cases value <;> rfl

end SettingsStore

def Operation.isBinding : Operation → Bool
  | add .. => true
  | _ => false

namespace Panel

/-- What the bindings let an operation answer that concerns some tiles: the first of them that is not
bound is missed. -/
def verdict (p : Panel) (kinds : List TileKind) : Except Error Unit :=
  match kinds.find? fun kind => !p.isBound kind with
  | none => .ok ()
  | some kind => .error (.tileNotBound kind)

theorem verdict_congr {p q : Panel} {kinds : List TileKind}
    (h : ∀ kind ∈ kinds, q.isBound kind = p.isBound kind) : q.verdict kinds = p.verdict kinds := by
  have hfind : (kinds.find? fun kind => !q.isBound kind) =
      kinds.find? fun kind => !p.isBound kind :=
    List.find?_congr fun kind hkind => congrArg Bool.not (h kind hkind)
  simp only [verdict, hfind]

theorem verdict_of_isBound {p : Panel} {kinds : List TileKind}
    (h : ∀ kind ∈ kinds, p.isBound kind = true) : p.verdict kinds = .ok () := by
  have hnone : kinds.find? (fun kind => !p.isBound kind) = none := by
    rw [List.find?_eq_none]
    intro kind hkind
    simp [h kind hkind]
  simp only [verdict, hnone]

private theorem isBound_setRecord (p : Panel) (kind : TileKind) (record : TileRecord)
    (other : TileKind) : (p.setRecord kind record).isBound other = p.isBound other :=
  congrArg Option.isSome (p.binding?_setRecord kind other record)

theorem answer_push (p : Panel) (kind : TileKind) : (p.push kind).answer = p.verdict [kind] := by
  unfold push verdict isBound
  cases hbinding : p.binding? kind <;> simp [hbinding]

theorem answer_update (p : Panel) (kind : TileKind) (change : TileRecord → TileRecord) :
    (p.update kind change).answer = p.verdict [kind] :=
  (answer_push _ kind).trans (verdict_congr fun other _ => p.isBound_setRecord kind _ other)

/-- The first error of several answers is that of the first tile that is not bound. -/
private theorem firstError_verdict (p : Panel) (kinds : List TileKind) :
    firstError (kinds.map fun kind => p.verdict [kind]) = p.verdict kinds := by
  induction kinds with
  | nil => rfl
  | cons kind rest ih =>
    cases hbound : p.isBound kind with
    | true =>
      have hone : p.verdict [kind] = .ok () := by simp [verdict, hbound]
      have hall : p.verdict (kind :: rest) = p.verdict rest := by simp [verdict, hbound]
      rw [List.map_cons, hone, firstError, ih, hall]
    | false => simp [verdict, hbound, firstError]

/-- All three tiles are worked out again, and the first that is not bound is missed. -/
theorem answer_updateResources (p : Panel) :
    p.updateResources.answer = p.verdict [.settings, .battery, .brightness] := by
  have hsettings : ∀ kind, p.refreshSettings.state.isBound kind = p.isBound kind := by
    intro kind
    rw [refreshSettings, state_update, isBound_setRecord]
  have hbattery : ∀ kind, p.refreshSettings.state.refreshBattery.state.isBound kind =
      p.isBound kind := by
    intro kind
    rw [refreshBattery, state_push, hsettings]
  have hanswers : p.updateResources.answer = firstError [p.refreshSettings.answer,
      p.refreshSettings.state.refreshBattery.answer,
      p.refreshSettings.state.refreshBattery.state.refreshBrightness.answer] := rfl
  rw [hanswers, ← firstError_verdict]
  have hfirst : p.refreshSettings.answer = p.verdict [.settings] := answer_update _ _ _
  have hsecond : p.refreshSettings.state.refreshBattery.answer = p.verdict [.battery] :=
    (answer_push _ _).trans (verdict_congr fun kind _ => hsettings kind)
  have hthird : p.refreshSettings.state.refreshBattery.state.refreshBrightness.answer =
      p.verdict [.brightness] :=
    (answer_update _ _ _).trans (verdict_congr fun kind _ => hbattery kind)
  rw [hfirst, hsecond, hthird]
  rfl

end Panel

/-- An operation that binds nothing fails exactly if a tile that it concerns is not bound. -/
theorem Operation.answer_run (op : Operation) (hop : op.isBinding = false) (p : Panel) :
    (op.run p).answer = p.verdict op.concerned := by
  cases op with
  | add kind binding => cases hop
  | battery | user | certificate | refreshSettings | refreshBrightness =>
    exact p.answer_update _ _
  | refreshUser | refreshTime | refreshBattery => exact p.answer_push _
  | updateResources => exact p.answer_updateResources
  | userSwitched announced => exact p.moveWatch.answer_update _ _
  | handle event =>
    cases event with
    | settingChanged key user => exact p.answer_update _ _
    | userSwitched user => exact p.moveWatch.answer_update _ _

/-- An operation that binds nothing pushes every tile that it concerns and that is bound, in order,
also if another one is not bound. -/
theorem Operation.pushes_run (op : Operation) (hop : op.isBinding = false) (p : Panel) :
    pushes (op.run p).journal = op.concerned.filterMap fun kind =>
      (p.binding? kind).map fun binding => ⟨kind, binding, (op.run p).state.record kind⟩ := by
  rw [(op.repaints_run p).pushed]
  refine List.filterMap_congr fun kind _ => ?_
  have hbinding : (op.run p).state.binding? kind = p.binding? kind := by
    rw [op.binding?_run p kind]
    cases op with
    | add added binding => cases hop
    | _ => rfl
  rw [← hbinding]
  rfl

namespace Panel

/-- Two panels that record the same, in surroundings in which the same is found. Their bindings and
all else may differ. -/
structure Twins (p q : Panel) : Prop where
  record : ∀ kind, q.record kind = p.record kind
  observedUser : q.observedUser = p.observedUser
  user : q.user = p.user
  catalog : q.catalog = p.catalog
  found : ∀ key user, q.hub.store.found? key user = p.hub.store.found? key user

/-- Whatever is done to the one is done to the other. Wherever the watches were, both are moved to
the current user. -/
theorem Twins.congruence : Congruence Twins where
  catalog h := h.catalog
  brightnessMode h := by
    simp only [Panel.brightnessMode, SettingsStore.readInt_eq, h.user, h.found]
  update := by
    intro p q h kind change
    rw [state_update, state_update, h.record]
    refine ⟨fun other => ?_, h.observedUser, h.user, h.catalog, h.found⟩
    by_cases hsame : other = kind
    · subst hsame
      rw [record_setRecord_self, record_setRecord_self]
    · rw [record_setRecord_of_ne _ hsame, record_setRecord_of_ne _ hsame, h.record]
  bind := by
    intro p q h kind binding
    refine ⟨fun other => ?_, h.observedUser, h.user, h.catalog, h.found⟩
    rw [record_bind, record_bind, h.record]
  moveWatch := by
    intro p q h
    refine ⟨h.record, ?_, h.user, h.catalog, ?_⟩
    · change some q.user = some p.user
      rw [h.user]
    · intro key user
      rw [store_moveWatch, store_moveWatch, h.found]

end Panel

/-- Twins stay twins, whether an operation fails in one of them or not. -/
theorem Operation.twins_run (op : Operation) {p q : Panel} (h : p.Twins q) :
    (op.run p).state.Twins (op.run q).state :=
  Panel.Twins.congruence.run h op

namespace Panel

/-- Twins for which the same events wait stay twins when these are delivered. -/
theorem Twins.drain {p q : Panel} (h : Twins p q)
    (hpending : q.hub.queue.pending = p.hub.queue.pending) :
    Twins p.drain.state q.drain.state := by
  have hemptied : Twins (p.withPending []) (q.withPending []) :=
    ⟨h.record, h.observedUser, h.user, h.catalog, h.found⟩
  rw [state_drain, state_drain, hpending]
  exact congruence.foldl_handle hemptied _

/-- Operations fail only for missing bindings, and failure never changes what is recorded. An
operation leaves the same records and the same watched user in two panels that agreed in them, over
stores in which the same is found, whatever is bound in either and whatever the operation answers.
One that binds nothing answers an error exactly if a tile that it concerns is not bound, namely that
of the first such tile, and pushes the others all the same. A drain hands over all events, answers
their number, and leaves the same in both panels if the same events waited. -/
theorem failure_is_missing_binding {p q : Panel} (h : p.Twins q) :
    (∀ op : Operation,
      (∀ kind, (op.run q).state.record kind = (op.run p).state.record kind) ∧
        (op.run q).state.observedUser = (op.run p).state.observedUser ∧
        (op.run p).state.Twins (op.run q).state) ∧
    (∀ (op : Operation) (r : Panel), op.isBinding = false →
      (op.run r).answer = r.verdict op.concerned ∧
        pushes (op.run r).journal = op.concerned.filterMap fun kind =>
          (r.binding? kind).map fun binding => ⟨kind, binding, (op.run r).state.record kind⟩) ∧
    (q.hub.queue.pending = p.hub.queue.pending →
      (∀ kind, q.drain.state.record kind = p.drain.state.record kind) ∧
        q.drain.state.observedUser = p.drain.state.observedUser ∧
        q.drain.answer = p.drain.answer) ∧
    ∀ r : Panel, r.drain.answer = r.hub.queue.pending.length ∧
      r.drain.state.hub.queue.pending = [] ∧
      r.drain.state =
        r.hub.queue.pending.foldl (fun r e => (r.handle e).state) (r.withPending []) := by
  have hruns : ∀ op : Operation, (op.run p).state.Twins (op.run q).state := fun op => op.twins_run h
  refine ⟨?_, ?_, ?_, ?_⟩
  · exact fun op => ⟨(hruns op).record, (hruns op).observedUser, hruns op⟩
  · exact fun op r hop => ⟨op.answer_run hop r, op.pushes_run hop r⟩
  · intro hpending
    have hdrained := h.drain hpending
    refine ⟨hdrained.record, hdrained.observedUser, ?_⟩
    rw [answer_drain, answer_drain, hpending]
  · exact fun r => ⟨r.answer_drain, r.pending_drain, r.state_drain⟩

/-- A panel without bindings over a store that nothing can be read from. -/
def blindPanel : Panel :=
  (new { store := .failing (.io .notFound) } .owner {}).state.refreshSettings.state

/-- A panel over a dropped table, in which the tiles of the settings and the battery are bound. -/
def halfBoundPanel : Panel :=
  let labelled := (new { store := .database none } .owner {}).state.add .settings ⟨.recorder, "s"⟩
  (labelled.state.add .battery ⟨.recorder, "b"⟩).state

/-- Two panels that record the same and answer differently, because their bindings differ. -/
theorem failure_is_missing_binding_of_halfBound :
    blindPanel.updateResources.answer = .error (.tileNotBound .settings) ∧
      halfBoundPanel.updateResources.answer = .error (.tileNotBound .brightness) ∧
      (pushes halfBoundPanel.updateResources.journal).map Push.kind = [.settings, .battery] ∧
      ∀ kind, halfBoundPanel.updateResources.state.record kind =
        blindPanel.updateResources.state.record kind := by
  have htwins : Twins blindPanel halfBoundPanel :=
    ⟨fun kind => by cases kind <;> rfl, rfl, rfl, rfl, fun _ _ => rfl⟩
  obtain ⟨hrecords, hanswers, -, -⟩ := failure_is_missing_binding htwins
  refine ⟨?_, ?_, ?_, (hrecords .updateResources).1⟩
  · exact (hanswers .updateResources blindPanel rfl).1
  · exact (hanswers .updateResources halfBoundPanel rfl).1
  · exact congrArg (List.map Push.kind) (hanswers .updateResources halfBoundPanel rfl).2

end Panel

end TilePanel
