import TilePanel.Proofs.World.Effects

/-!
Which records the steps of a world push. Only the operations of the panel and drains push any, and
after every run the last record that was handed to a bound tile is the one that its slot holds.
-/

namespace TilePanel

namespace World

/-- An operation of the model is carried out on its panel, with the registrations of the store that
the model belongs to. -/
theorem run_onModel {α : Type} (w : World) (f : Panel → Outcome Panel α) :
    ∃ before after : Hub, before.queue = w.panel.hub.queue ∧
      let o := f { w.panel with hub := before }
      after.queue = o.state.hub.queue ∧
        (w.onModel f).state.panel = { o.state with hub := after } ∧
        (w.onModel f).answer = o.answer ∧ (w.onModel f).journal = o.journal := by
  unfold onModel
  split
  · let swapped := swapRegistry w.attic w.panel.hub
    let last := (f { w.panel with hub := swapped.2 }).state.hub
    exact ⟨swapped.2, (swapRegistry swapped.1 last).2, rfl, rfl, rfl, rfl, rfl⟩
  · exact ⟨w.panel.hub, (f w.panel).state.hub, rfl, rfl, rfl, rfl, rfl⟩

theorem repaints_onModel {α : Type} (w : World) {f : Panel → Outcome Panel α}
    {kinds : List TileKind}
    (hf : ∀ p : Panel, p.hub.queue = w.panel.hub.queue →
      Repaints kinds p.slots (f p).journal (f p).state.slots) :
    Repaints kinds w.panel.slots (w.onModel f).journal (w.onModel f).state.panel.slots := by
  obtain ⟨before, after, hqueue, -, hpanel, -, hjournal⟩ := w.run_onModel f
  rw [hjournal, hpanel]
  exact hf { w.panel with hub := before } hqueue

/-- The tiles that a step pushes, in order: those that an operation concerns, and the brightness
tile once for every event that a drain delivers. -/
def concernedBy (w : World) : Step → List TileKind
  | .operate op => if w.hasModel then op.concerned else []
  | .drain =>
    if w.panel.hub.queue.isOpen && w.hasModel then
      List.replicate w.panel.hub.queue.pending.length .brightness
    else []
  | _ => []

end World

def Effect.concerned (w : World) : Effect → List TileKind
  | operate op => op.concerned
  | drain => List.replicate w.panel.hub.queue.pending.length .brightness
  | _ => []

namespace World

theorem concernedBy_eq (w : World) (s : Step) : w.concernedBy s = (w.effect s).concerned w := by
  cases s with
  | operate | drain | send | switchUser | tryNext | next | newWatch =>
    simp only [effect, Effect.apply_onlyIf (Effect.concerned w)]
    simp [concernedBy, Effect.concerned, ite_and]
  | _ => rfl

/-- What an effect repaints and what it leaves alone. -/
theorem Leads.repaints {w w' : World} {e : Effect} {journal : List Activity}
    (h : w.Leads e journal w') :
    Repaints (e.concerned w) w.panel.slots journal w'.panel.slots := by
  cases h with
  | nothing hquiet => exact .nothing hquiet _
  | demand d =>
    exact .nothing (isQuiet_of_isOfHub (d.evolves_run w.panel.hub).entries) w.panel.slots
  | restore | retext | dropQueue => exact .nothing isQuiet_nil w.panel.slots
  | switchUser _ user => exact w.panel.repaints_switchUser user
  | take => exact .nothing (isQuiet_singleton rfl rfl) w.panel.slots
  | drain =>
    refine w.repaints_onModel fun p hqueue => ?_
    rw [Effect.concerned, ← hqueue, ← p.answer_drain]
    exact p.repaints_drain
  | operate _ op => exact w.repaints_onModel fun p _ => op.repaints_run p
  | reopen hquiet => exact .nothing hquiet w.panel.slots
  | tend t hquiet =>
    rw [(w.keepsScene_tend t).1.slots]
    exact .nothing hquiet _

theorem repaints_step (w : World) (s : Step) :
    Repaints (w.concernedBy s) w.panel.slots (w.step s).journal (w.step s).state.panel.slots := by
  rw [concernedBy_eq]
  exact (w.leads_step s).repaints

/-- A drain concerns the brightness tile once for each event that it answers to have delivered. -/
theorem concernedBy_drain {w : World} {n : Nat} (hn : (w.step .drain).answer = .count n) :
    w.concernedBy .drain = List.replicate n .brightness := by
  cases hopen : w.panel.hub.queue.isOpen with
  | false => simp [step, needing, peek, hopen] at hn
  | true =>
    cases hmodel : w.hasModel with
    | false => simp [step, needing, peek, hopen, hmodel] at hn
    | true =>
      have hcount : (w.onModel Panel.drain).answer = w.panel.hub.queue.pending.length := by
        unfold onModel
        split
        · exact Panel.answer_drain _
        · exact Panel.answer_drain _
      simp only [step, needing, hopen, hmodel, if_true, Outcome.answer_mapAnswer,
        Answer.count.injEq] at hn
      simp [concernedBy, hopen, hmodel, ← hn, hcount]

def journalOf (answers : List (Answer × List Activity)) : List Activity :=
  answers.flatMap Prod.snd

theorem pushes_run_cons (w : World) (s : Step) (rest : List Step) :
    pushes (journalOf (w.run (s :: rest)).2) =
      pushes (w.step s).journal ++ pushes (journalOf ((w.step s).state.run rest).2) := by
  simp [run, journalOf]

/-- A run ends with its last step. -/
theorem run_concat (w : World) (steps : List Step) (s : Step) :
    w.run (steps ++ [s]) = (((w.run steps).1.step s).state,
      (w.run steps).2 ++ [(((w.run steps).1.step s).answer, ((w.run steps).1.step s).journal)]) := by
  induction steps generalizing w with
  | nil => rfl
  | cons first rest ih =>
    rw [List.cons_append, run, ih]
    rfl

theorem pushes_run_concat (w : World) (steps : List Step) (s : Step) :
    pushes (journalOf (w.run (steps ++ [s])).2) =
      pushes (journalOf (w.run steps).2) ++ pushes ((w.run steps).1.step s).journal := by
  rw [run_concat]
  simp [journalOf]

/-- A run keeps what a step keeps: bound tiles show what their slots hold. -/
theorem shows_run (w : World) (steps : List Step) {journal : List Activity}
    (h : Shows w.panel.slots journal) :
    Shows (w.run steps).1.panel.slots (journal ++ journalOf (w.run steps).2) := by
  induction steps generalizing w journal with
  | nil =>
    rw [run, journalOf, List.flatMap_nil, List.append_nil]
    exact h
  | cons s rest ih =>
    have hstep := ih (w.step s).state (h.of_repaints (w.repaints_step s))
    rw [List.append_assoc] at hstep
    exact hstep

/-- Nothing is bound yet. -/
theorem shows_new (store : SettingsStore) (path : Option String) (user : UserId)
    (texts : List (String × String)) (hasModel : Bool) :
    Shows (World.new store path user texts hasModel).state.panel.slots [] := by
  have hunbound : ∀ kind, ((World.new store path user texts hasModel).state.panel.slots.get
      kind).binding = none := by
    intro kind
    unfold World.new
    cases hasModel <;> cases kind <;> rfl
  intro kind u hu
  simp [Slot.push?, hunbound kind] at hu

/-- After every run, the last record that a bound tile was handed is the record in its slot, through
the binding that it has. Every step hands over, in order and once each, the records of the bound
tiles that it concerns, as they are after the step and through their bindings after the step, and
leaves all other tiles alone. A drain concerns the brightness tile once for each event that it
delivers. -/
theorem push_on_change (store : SettingsStore) (path : Option String) (user : UserId)
    (texts : List (String × String)) (hasModel : Bool) (steps : List Step) :
    let ran := (World.new store path user texts hasModel).state.run steps
    let w := ran.1
    (∀ kind binding, w.panel.binding? kind = some binding →
      lastPush? kind (journalOf ran.2) = some ⟨kind, binding, w.panel.record kind⟩) ∧
    (∀ s, let o := w.step s
      pushes o.journal = ((w.concernedBy s).filterMap fun kind =>
        (o.state.panel.binding? kind).map fun binding =>
          ⟨kind, binding, o.state.panel.record kind⟩) ∧
      ∀ kind, kind ∉ w.concernedBy s →
        o.state.panel.record kind = w.panel.record kind ∧
          o.state.panel.binding? kind = w.panel.binding? kind) ∧
    ∀ n, (w.step .drain).answer = .count n →
      w.concernedBy .drain = List.replicate n .brightness := by
  intro ran w
  refine ⟨?_, ?_, ?_⟩
  · intro kind binding hbinding
    have hshows := shows_run _ steps (shows_new store path user texts hasModel)
    refine hshows kind ⟨kind, binding, w.panel.record kind⟩ ?_
    exact Option.map_eq_some_iff.mpr ⟨binding, hbinding, rfl⟩
  · intro s o
    have hstep := w.repaints_step s
    refine ⟨hstep.pushed, ?_⟩
    intro kind hkind
    have hslot := hstep.kept kind hkind
    exact ⟨congrArg Slot.record hslot, congrArg Slot.binding hslot⟩
  · exact fun n hn => concernedBy_drain hn

end World

end TilePanel
