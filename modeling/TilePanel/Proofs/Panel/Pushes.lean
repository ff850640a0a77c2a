import Mathlib.Data.List.Basic
import TilePanel.Panel.Events

/-!
Which records an operation pushes. Each operation pushes the tiles it concerns, in order and once
each, through the bindings that they have at its end and with the records that they have at its end;
every other slot stays as it is. Draining the queue does the same for the brightness tile, once for
every event. The brightness settings are read for the brightness tile only.
-/

namespace TilePanel

structure Push where
  kind : TileKind
  binding : Binding
  record : TileRecord
deriving DecidableEq, Repr

namespace Activity

def pushed? : Activity → Option Push
  | pushed kind binding record => some ⟨kind, binding, record⟩
  | _ => none

def isReading : Activity → Bool
  | notice (.brightnessRead ..) => true
  | _ => false

end Activity

def pushes (journal : List Activity) : List Push :=
  journal.filterMap Activity.pushed?

@[simp]
theorem pushes_append (journal later : List Activity) :
    pushes (journal ++ later) = pushes journal ++ pushes later :=
  List.filterMap_append

@[simp]
theorem pushes_report (notices : List Notice) : pushes (report notices) = [] := by
  simp [pushes, report, Activity.pushed?, Function.comp_def]

/-- Whether a journal tells neither of pushes nor of the brightness settings. -/
def IsQuiet (journal : List Activity) : Prop :=
  ∀ a ∈ journal, a.pushed? = none ∧ a.isReading = false

theorem isQuiet_nil : IsQuiet [] := by
  simp [IsQuiet]

private theorem isQuiet_cons {a : Activity} {journal : List Activity} (hpush : a.pushed? = none)
    (hread : a.isReading = false) (h : IsQuiet journal) : IsQuiet (a :: journal) := by
  intro b hb
  rcases List.mem_cons.mp hb with rfl | hb
  · exact ⟨hpush, hread⟩
  · exact h b hb

theorem isQuiet_singleton {a : Activity} (hpush : a.pushed? = none)
    (hread : a.isReading = false) : IsQuiet [a] :=
  isQuiet_cons hpush hread isQuiet_nil

theorem isQuiet_append {journal later : List Activity} (h : IsQuiet journal)
    (hlater : IsQuiet later) : IsQuiet (journal ++ later) := by
  intro a ha
  rcases List.mem_append.mp ha with ha | ha
  · exact h a ha
  · exact hlater a ha

theorem isQuiet_report {notices : List Notice}
    (h : ∀ n ∈ notices, (Activity.notice n).isReading = false) : IsQuiet (report notices) := by
  intro a ha
  obtain ⟨n, hn, rfl⟩ := List.mem_map.mp ha
  exact ⟨rfl, h n hn⟩

theorem IsQuiet.pushes {journal : List Activity} (h : IsQuiet journal) :
    TilePanel.pushes journal = [] :=
  List.filterMap_eq_nil_iff.mpr fun a ha => (h a ha).1

def Slot.push? (kind : TileKind) (slot : Slot) : Option Push :=
  slot.binding.map fun binding => ⟨kind, binding, slot.record⟩

theorem Slot.kind_of_push? {kind : TileKind} {slot : Slot} {u : Push}
    (h : slot.push? kind = some u) : u.kind = kind := by
  obtain ⟨binding, _, rfl⟩ := Option.map_eq_some_iff.mp h
  rfl

/-- What it means that a change of slots repaints tiles: its pushes are those of the tiles in order,
as their slots are in the end, the other slots are as before, and the brightness settings are read
only if the brightness tile is repainted. -/
structure Repaints (kinds : List TileKind) (before : PerTile Slot) (journal : List Activity)
    (after : PerTile Slot) : Prop where
  pushed : pushes journal = kinds.filterMap fun kind => (after.get kind).push? kind
  kept : ∀ kind, kind ∉ kinds → after.get kind = before.get kind
  read : ∀ a ∈ journal, a.isReading = true → .brightness ∈ kinds

namespace Repaints

variable {kinds later : List TileKind} {before between after : PerTile Slot}
  {journal journal' : List Activity}

/-- A quiet journal, and slots that stay. -/
theorem nothing (hj : IsQuiet journal) (slots : PerTile Slot) :
    Repaints [] slots journal slots := by
  refine ⟨hj.pushes, fun _ _ => rfl, ?_⟩
  intro a ha hread
  rw [(hj a ha).2] at hread
  cases hread

/-- Two changes in a row, of which the second leaves what the first one painted as it was. -/
theorem append (hfirst : Repaints kinds before journal between)
    (hsecond : Repaints later between journal' after)
    (hkeep : ∀ kind ∈ kinds, after.get kind = between.get kind) :
    Repaints (kinds ++ later) before (journal ++ journal') after := by
  refine ⟨?_, ?_, ?_⟩
  · have hpushed : (kinds.filterMap fun kind => (between.get kind).push? kind) =
        kinds.filterMap fun kind => (after.get kind).push? kind := by
      refine List.filterMap_congr fun kind hkind => ?_
      rw [hkeep kind hkind]
    rw [pushes_append, List.filterMap_append, hfirst.pushed, hsecond.pushed, hpushed]
  · intro kind hkind
    rw [List.mem_append, not_or] at hkind
    rw [hsecond.kept kind hkind.2, hfirst.kept kind hkind.1]
  · intro a ha hread
    rcases List.mem_append.mp ha with ha | ha
    · exact List.mem_append_left _ (hfirst.read a ha hread)
    · exact List.mem_append_right _ (hsecond.read a ha hread)

/-- Two changes in a row that repaint different tiles. -/
private theorem append_of_disjoint (hfirst : Repaints kinds before journal between)
    (hsecond : Repaints later between journal' after) (hdisjoint : ∀ kind ∈ kinds, kind ∉ later) :
    Repaints (kinds ++ later) before (journal ++ journal') after :=
  hfirst.append hsecond fun kind hkind => hsecond.kept kind (hdisjoint kind hkind)

/-- Quiet entries in front change nothing. -/
theorem after_quiet (h : Repaints kinds before journal after) {earlier : List Activity}
    (hearlier : IsQuiet earlier) : Repaints kinds before (earlier ++ journal) after :=
  (nothing hearlier before).append h (by simp)

/-- Quiet entries behind change nothing. -/
private theorem before_quiet (h : Repaints kinds before journal after) {last : List Activity}
    (hlast : IsQuiet last) : Repaints kinds before (journal ++ last) after := by
  have happend := h.append (nothing hlast after) fun _ _ => rfl
  rwa [List.append_nil] at happend

/-- Every push is that of a repainted tile as its slot is in the end. -/
theorem of_mem_pushes (h : Repaints kinds before journal after) {u : Push}
    (hu : u ∈ pushes journal) :
    u.kind ∈ kinds ∧ (after.get u.kind).push? u.kind = some u := by
  rw [h.pushed, List.mem_filterMap] at hu
  obtain ⟨kind, hkind, hpush⟩ := hu
  rw [Slot.kind_of_push? hpush]
  exact ⟨hkind, hpush⟩

/-- What is pushed of one tile depends on its own slot alone. -/
theorem pushes_of_kind (h : Repaints kinds before journal after) (kind : TileKind) :
    (pushes journal).filter (fun u => u.kind = kind) =
      (kinds.filter fun other => other = kind).filterMap fun _ => (after.get kind).push? kind := by
  rw [h.pushed, List.filter_filterMap, List.filterMap_filter]
  refine List.filterMap_congr fun other _ => ?_
  cases hpush : (after.get other).push? other with
  | none =>
    by_cases hsame : other = kind
    · subst hsame
      simp [hpush]
    · simp [hsame]
  | some u =>
    have hkind : u.kind = other := Slot.kind_of_push? hpush
    by_cases hsame : other = kind
    · subst hsame
      simp [hpush, hkind]
    · simp [hsame, hkind]

end Repaints

def lastPush? (kind : TileKind) (journal : List Activity) : Option Push :=
  ((pushes journal).filter fun u => u.kind = kind).getLast?

private theorem lastPush?_append (kind : TileKind) (journal later : List Activity) :
    lastPush? kind (journal ++ later) = (lastPush? kind later).or (lastPush? kind journal) := by
  simp [lastPush?, List.getLast?_append]

/-- Whether the last record that each bound tile was handed, through the binding that it has now, is
the one in its slot. -/
def Shows (slots : PerTile Slot) (journal : List Activity) : Prop :=
  ∀ kind u, (slots.get kind).push? kind = some u → lastPush? kind journal = some u

/-- What is repainted is pushed as it is in the end, and the rest was not touched. -/
theorem Shows.of_repaints {kinds : List TileKind} {before after : PerTile Slot}
    {journal later : List Activity} (hshows : Shows before journal)
    (h : Repaints kinds before later after) : Shows after (journal ++ later) := by
  intro kind u hu
  have hkind : u.kind = kind := Slot.kind_of_push? hu
  rw [lastPush?_append]
  by_cases hmem : kind ∈ kinds
  · have hpushed : u ∈ (pushes later).filter fun u => u.kind = kind := by
      refine List.mem_filter.mpr ⟨?_, by simp [hkind]⟩
      rw [h.pushed]
      exact List.mem_filterMap.mpr ⟨kind, hmem, hu⟩
    have hlast := List.getLast_mem (List.ne_nil_of_mem hpushed)
    have hsame : ((pushes later).filter fun u => u.kind = kind).getLast
        (List.ne_nil_of_mem hpushed) = u := by
      obtain ⟨hv, hvkind⟩ := List.mem_filter.mp hlast
      have hslot := (h.of_mem_pushes hv).2
      rw [of_decide_eq_true hvkind, hu] at hslot
      exact (Option.some.inj hslot).symm
    rw [lastPush?, List.getLast?_eq_some_getLast (List.ne_nil_of_mem hpushed), hsame]
    rfl
  · have hnone : lastPush? kind later = none := by
      rw [lastPush?, List.getLast?_eq_none_iff, List.filter_eq_nil_iff]
      intro v hv hvkind
      rw [decide_eq_true_eq] at hvkind
      exact hmem (hvkind ▸ (h.of_mem_pushes hv).1)
    rw [hnone, Option.none_or]
    refine hshows kind u ?_
    rw [← h.kept kind hmem]
    exact hu

namespace Panel

theorem isReading_push (p : Panel) (kind : TileKind) :
    ∀ a ∈ (p.push kind).journal, a.isReading = false := by
  unfold push
  cases p.binding? kind <;> simp [Activity.isReading]

/-- A tile that is not bound is left as it is and pushes nothing. -/
theorem repaints_push (p : Panel) (kind : TileKind) :
    Repaints [kind] p.slots (p.push kind).journal (p.push kind).state.slots := by
  refine ⟨?_, ?_, ?_⟩
  · rw [state_push]
    unfold push binding? Slot.push?
    cases hbinding : (p.slots.get kind).binding with
    | none => simp [hbinding, pushes]
    | some binding =>
      simp only [List.filterMap_cons, List.filterMap_nil, hbinding, Option.map_some]
      rfl
  · intro other _
    rw [state_push]
  · intro a ha hread
    rw [isReading_push p kind a ha] at hread
    cases hread

/-- Changes before a push that concern only the pushed tile. -/
private theorem repaints_push_of_kept {p q : Panel} {kind : TileKind}
    (hkept : ∀ other, other ≠ kind → q.slots.get other = p.slots.get other) :
    Repaints [kind] p.slots (q.push kind).journal (q.push kind).state.slots := by
  refine ⟨(repaints_push q kind).pushed, ?_, (repaints_push q kind).read⟩
  intro other hother
  rw [(repaints_push q kind).kept other hother]
  exact hkept other (by simpa using hother)

theorem repaints_update (p : Panel) (kind : TileKind) (change : TileRecord → TileRecord) :
    Repaints [kind] p.slots (p.update kind change).journal (p.update kind change).state.slots :=
  repaints_push_of_kept fun _ hother => p.slots_setRecord_of_ne hother _

theorem repaints_refreshBrightness (p : Panel) :
    Repaints [.brightness] p.slots p.refreshBrightness.journal p.refreshBrightness.state.slots := by
  have hupdate := repaints_update p .brightness
    fun r => r.mapBrightness (showBrightness p.brightnessMode (p.catalog.text .brightnessLabel))
  refine ⟨?_, hupdate.kept, fun _ _ _ => List.mem_singleton_self _⟩
  rw [refreshBrightness, Outcome.journal_after, pushes_append, pushes_report, List.nil_append]
  exact hupdate.pushed

/-- The tile is pushed through the new binding, once. -/
theorem repaints_add (p : Panel) (kind : TileKind) (binding : Binding) :
    Repaints [kind] p.slots (p.add kind binding).journal (p.add kind binding).state.slots := by
  have hbound : ∀ other, other ∉ [kind] →
      (p.bind kind binding).state.slots.get other = p.slots.get other :=
    fun other hother => p.slots_bind_of_ne (by simpa using hother) binding
  have hquiet : IsQuiet (p.bind kind binding).journal := by
    refine isQuiet_report ?_
    cases p.isBound kind <;> simp [Activity.isReading]
  have hpainted : ∀ {journal : List Activity} {after : PerTile Slot},
      Repaints [kind] (p.bind kind binding).state.slots journal after →
      Repaints [kind] p.slots ((p.bind kind binding).journal ++ journal) after := by
    intro journal after h
    have hall := h.after_quiet hquiet
    refine ⟨hall.pushed, ?_, hall.read⟩
    intro other hother
    rw [h.kept other hother, hbound other hother]
  unfold add
  cases kind with
  | user | time | battery => exact hpainted (repaints_push _ _)
  | brightness => exact hpainted (repaints_refreshBrightness _)
  | settings | certificate => exact hpainted (repaints_update _ _ _)

theorem repaints_updateResources (p : Panel) :
    Repaints [.settings, .battery, .brightness] p.slots p.updateResources.journal
      p.updateResources.state.slots := by
  have hsettings := repaints_update p .settings
    fun r => r.mapBase fun b => { b with label := some (p.catalog.text .settingsLabel) }
  have hbattery := repaints_push p.refreshSettings.state .battery
  have hbrightness := repaints_refreshBrightness p.refreshSettings.state.refreshBattery.state
  exact hsettings.append_of_disjoint
    (hbattery.append_of_disjoint hbrightness (by decide)) (by decide)

def moveWatch (p : Panel) : Panel :=
  { p with hub := (p.watch.start p.hub p.user).state, watch := (p.watch.start p.hub p.user).answer }

theorem repaints_onUserSwitched (p : Panel) (announced : UserId) :
    Repaints [.brightness] p.slots (p.onUserSwitched announced).journal
      (p.onUserSwitched announced).state.slots := by
  have hmoved := repaints_refreshBrightness p.moveWatch
  refine hmoved.after_quiet (isQuiet_append (isQuiet_report ?_) (isQuiet_singleton rfl rfl))
  split <;> simp [Activity.isReading]

theorem repaints_handle (p : Panel) (e : Event) :
    Repaints [.brightness] p.slots (p.handle e).journal (p.handle e).state.slots := by
  cases e with
  | settingChanged key user =>
    exact (repaints_refreshBrightness p).after_quiet (isQuiet_singleton rfl rfl)
  | userSwitched user => exact repaints_onUserSwitched p user

/-- Every event repaints the brightness tile, whatever it tells. -/
theorem repaints_deliver (p : Panel) (e : Event) :
    Repaints [.brightness] p.slots (p.deliver e).journal (p.deliver e).state.slots := by
  unfold deliver
  cases hanswer : (p.handle e).answer with
  | ok _ =>
    simp only [hanswer]
    exact repaints_handle p e
  | error cause =>
    simp only [hanswer]
    exact (repaints_handle p e).before_quiet (isQuiet_singleton rfl rfl)

private theorem isQuiet_post (h : Hub) (e : Event) {n : Notice}
    (hn : (Activity.notice n).isReading = false) : IsQuiet (h.post e n).journal := by
  unfold Hub.post
  split
  · exact isQuiet_singleton rfl rfl
  · exact isQuiet_singleton rfl hn

theorem isQuiet_switchUser (p : Panel) (user : UserId) : IsQuiet (p.switchUser user).journal := by
  unfold switchUser
  dsimp only
  split
  · exact isQuiet_singleton rfl rfl
  · exact isQuiet_cons rfl rfl (isQuiet_post _ _ rfl)

/-- A switch changes the user, and what waits on the queue at most. -/
theorem exists_queue_switchUser (p : Panel) (user : UserId) :
    ∃ queue, (p.switchUser user).state = { p with hub := { p.hub with queue }, user } := by
  simp only [switchUser, Hub.post]
  split
  · next hsame => exact ⟨p.hub.queue, by rw [← hsame]⟩
  · split <;> exact ⟨_, rfl⟩

theorem slots_switchUser (p : Panel) (user : UserId) :
    (p.switchUser user).state.slots = p.slots := by
  obtain ⟨queue, hstate⟩ := p.exists_queue_switchUser user
  rw [hstate]

theorem repaints_switchUser (p : Panel) (user : UserId) :
    Repaints [] p.slots (p.switchUser user).journal (p.switchUser user).state.slots := by
  rw [slots_switchUser]
  exact Repaints.nothing (p.isQuiet_switchUser user) _

end Panel

/-- What an operation pushes and what it leaves alone. -/
theorem Operation.repaints_run (op : Operation) (p : Panel) :
    Repaints op.concerned p.slots (op.run p).journal (op.run p).state.slots := by
  cases op with
  | add kind binding => exact p.repaints_add kind binding
  | battery level pluggedIn =>
    refine (p.repaints_update .battery _).after_quiet (isQuiet_report ?_)
    split <;> simp [Activity.isReading]
  | user name avatar => exact p.repaints_update .user _
  | certificate hasCertificate isManaged => exact p.repaints_update .certificate _
  | refreshUser => exact p.repaints_push .user
  | refreshTime => exact p.repaints_push .time
  | refreshBattery => exact p.repaints_push .battery
  | refreshSettings => exact p.repaints_update .settings _
  | refreshBrightness => exact p.repaints_refreshBrightness
  | updateResources => exact p.repaints_updateResources
  | userSwitched announced => exact p.repaints_onUserSwitched announced
  | handle event => exact p.repaints_handle event

end TilePanel
