import TilePanel.Proofs.World.Ownership

/-!
Numbers of registrations are given out in ascending order, whatever happens, and also when the store
is opened again: every number in use at the store that is open, or at one that was opened before it,
is below the next one.
-/

namespace TilePanel

namespace Hub

/-- Whether a hub goes on counting from where another one was. -/
structure Counts (h h' : Hub) : Prop where
  nextId : h.registry.nextId ≤ h'.registry.nextId
  numbered : h.Numbered → h'.Numbered

namespace Counts

variable {h h' h'' : Hub}

theorem refl (h : Hub) : Counts h h :=
  ⟨Nat.le_refl _, id⟩

theorem trans (hfirst : Counts h h') (hnext : Counts h' h'') : Counts h h'' :=
  ⟨Nat.le_trans hfirst.nextId hnext.nextId, fun hn => hnext.numbered (hfirst.numbered hn)⟩

theorem of_registry (hregistry : h'.registry = h.registry) (hwatchers : h'.watchers = h.watchers) :
    Counts h h' := by
  refine ⟨Nat.le_of_eq (congrArg Registry.nextId hregistry.symm), fun hn => ⟨?_, ?_⟩⟩
  · rw [hregistry]
    exact hn.registrations
  · rw [hregistry, hwatchers]
    exact hn.watchers

theorem evolves {journal : List Activity} (hev : Evolves h journal h') : Counts h h' :=
  ⟨(hev.keeps 0).nextId, (hev.keeps 0).numbered⟩

theorem release (v : BrightnessWatch) (h : Hub) : Counts h (v.release h) :=
  ⟨(Later.release v h).nextId, BrightnessWatch.numbered_release⟩

theorem start (v : BrightnessWatch) (h : Hub) (user : UserId) : Counts h (v.start h user).state :=
  ⟨(Later.start v h user).nextId, BrightnessWatch.numbered_start⟩

end Counts

end Hub

namespace Panel

theorem counts_run (op : Operation) (p : Panel) : p.hub.Counts (op.run p).state.hub := by
  rcases op.run_cases p with ⟨slots, hstays⟩ | ⟨slots, hmoves⟩
  · rw [hstays]
    exact .refl p.hub
  · rw [hmoves]
    exact .start p.watch p.hub p.user

theorem counts_drain (p : Panel) : p.hub.Counts p.drain.state.hub := by
  refine drain_rel (R := fun p q => p.hub.Counts q.hub) ?_ ?_ ?_ p
  · exact fun p => .refl p.hub
  · exact fun hfirst hnext => hfirst.trans hnext
  · intro p e rest _
    have htaken : p.hub.Counts (p.withPending rest).hub := .of_registry rfl rfl
    exact htaken.trans (counts_run (.handle e) (p.withPending rest))

end Panel

namespace World

/-- Every number in use at the store that is open and at the earlier ones is below the next one. -/
def Numbered (w : World) : Prop :=
  ∀ d, (w.hubOf d).Numbered

variable {w w' : World}

private theorem hubOf_onHub {α : Type} (w : World) (d : Bool) (f : Hub → Outcome Hub α) :
    (w.onHub d f).state.hubOf d = (f (w.hubOf d)).state := by
  cases d <;> rfl

/-- The panel as it is at the store that it belongs to. -/
def ownPanel (w : World) : Panel :=
  { w.panel with hub := w.hubOf w.isDetached }

namespace Numbered

/-- One hub counts on, and at the other one the registrations stay. -/
theorem rehub (h : w.Numbered) {d : Bool} (hcounts : (w.hubOf d).Counts (w'.hubOf d))
    (hothers : ∀ e, e ≠ d → w'.registrations e = w.registrations e) : w'.Numbered := by
  have hnextId : ∀ (v : World) e, (v.hubOf e).registry.nextId = v.panel.hub.registry.nextId := by
    intro v e
    cases e <;> rfl
  have hwatchers : ∀ (v : World) e, (v.hubOf e).watchers = v.panel.hub.watchers := by
    intro v e
    cases e <;> rfl
  have hlater := hcounts.nextId
  have hnumbered := hcounts.numbered (h d)
  rw [hnextId, hnextId] at hlater
  intro e
  by_cases he : e = d
  · rw [he]
    exact hnumbered
  · refine ⟨?_, ?_⟩
    · intro r hr
      rw [entries_hubOf, hothers e he, ← entries_hubOf] at hr
      have hold := (h e).registrations r hr
      rw [hnextId] at hold ⊢
      exact Nat.lt_of_lt_of_le hold hlater
    · intro v hv
      rw [hwatchers, ← hwatchers w' d] at hv
      rw [hnextId, ← hnextId w' d]
      exact hnumbered.watchers v hv

theorem of_panel {panel : Panel} (h : w.Numbered) (hcounts : w.panel.hub.Counts panel.hub) :
    ({ w with panel } : World).Numbered := by
  refine h.rehub (d := false) hcounts fun e he => ?_
  cases e with
  | false => exact absurd rfl he
  | true => rfl

theorem onHub {α : Type} {f : Hub → Outcome Hub α} {d : Bool} (h : w.Numbered)
    (hcounts : (w.hubOf d).Counts (f (w.hubOf d)).state) : (w.onHub d f).state.Numbered := by
  refine h.rehub ?_ (w.registrations_onHub d f).2.2
  rw [hubOf_onHub]
  exact hcounts

theorem onModel {α : Type} {f : Panel → Outcome Panel α} (h : w.Numbered)
    (hcounts : w.ownPanel.hub.Counts (f w.ownPanel).state.hub) : (w.onModel f).state.Numbered := by
  refine h.rehub (d := w.isDetached) ?_ (w.state_onModel f).2.2
  have hown : (w.onModel f).state.hubOf w.isDetached = (f w.ownPanel).state.hub := by
    cases w with | mk panel hasModel hasTracker hasSender isDetached loneWatches attic =>
    cases isDetached <;> rfl
  rw [hown]
  exact hcounts

theorem releaseWatch (h : w.Numbered) (v : BrightnessWatch) (d : Bool) :
    (w.releaseWatch v d).Numbered :=
  h.onHub (.release v _)

theorem releaseAll (h : w.Numbered) (ls : List LoneWatch) :
    (ls.foldl (fun w l => w.releaseWatch l.watch l.isDetached) w).Numbered := by
  induction ls generalizing w with
  | nil => exact h
  | cons l rest ih => exact ih (h.releaseWatch l.watch l.isDetached)

theorem dropModel (h : w.Numbered) : w.dropModel.Numbered :=
  h.releaseWatch w.panel.watch w.isDetached

theorem dropLoneWatches (h : w.Numbered) (name : String) : (w.dropLoneWatches name).Numbered :=
  h.releaseAll _

theorem startWatch (h : w.Numbered) (name : String) (user : UserId) :
    (w.startWatch name user).state.Numbered := by
  unfold World.startWatch
  cases w.loneWatches.find? (fun l => l.name == name) with
  | none => exact h
  | some l => exact h.onHub (.start l.watch _ user)

/-- The numbers go on from where they were, and the registrations so far go to the attic. -/
theorem reopen (h : w.Numbered) : w.reopen.Numbered := by
  intro d
  cases d with
  | false => exact ⟨(fun _ hr => nomatch hr), (h false).watchers⟩
  | true =>
    refine ⟨fun r hr => ?_, (h true).watchers⟩
    rcases List.mem_append.mp hr with hr | hr
    · exact (h true).registrations r hr
    · exact (h false).registrations r hr

theorem build (h : w.Numbered) : w.build.Numbered := by
  unfold World.build
  split
  · exact h
  · exact h.of_panel (.start .idle w.panel.hub w.panel.user)

/-- Effects that make registrations take their numbers from the counter. -/
theorem of_leads {e : Effect} {journal : List Activity} (h : w.Numbered)
    (hleads : w.Leads e journal w') : w'.Numbered := by
  cases hleads with
  | nothing => exact h
  | demand d => exact h.of_panel (.evolves (d.evolves_run w.panel.hub))
  | restore | retext | take | dropQueue => exact h.of_panel (.of_registry rfl rfl)
  | switchUser _ user =>
    obtain ⟨queue, hstate⟩ := w.panel.exists_queue_switchUser user
    rw [hstate]
    exact h.of_panel (.of_registry rfl rfl)
  | drain => exact h.onModel w.ownPanel.counts_drain
  | operate _ op => exact h.onModel (w.ownPanel.counts_run op)
  | reopen => exact h.reopen
  | tend t =>
    cases t with
    | dropModel => exact h.dropModel
    | close => exact h.dropModel.releaseAll _
    | newWatch name | dropWatch name => exact h.dropLoneWatches name
    | startWatch name user => exact h.startWatch name user

theorem meet (h : w.Numbered) (i : Incident) : (w.meet i).Numbered := by
  cases i with
  | endTracker | endSender => exact h
  | happens e =>
    cases e with
    | build => exact h.build
    | step s => exact h.of_leads (w.leads_step s)

theorem meetAll (h : w.Numbered) (incidents : List Incident) : (w.meetAll incidents).Numbered := by
  induction incidents generalizing w with
  | nil => exact h
  | cons i rest ih => exact ih (h.meet i)

theorem new (store : SettingsStore) (path : Option String) (user : UserId)
    (texts : List (String × String)) (hasModel : Bool) :
    (World.new store path user texts hasModel).state.Numbered := by
  have hstore := Hub.numbered_ofStore store
  cases hasModel with
  | false =>
    intro d
    cases d with
    | false => exact hstore
    | true => exact ⟨(fun _ hr => nomatch hr), hstore.watchers⟩
  | true =>
    intro d
    have hstarted : (BrightnessWatch.idle.start { store } user).state.Numbered :=
      BrightnessWatch.numbered_start hstore
    cases d with
    | false => exact hstarted
    | true => exact ⟨(fun _ hr => nomatch hr), hstarted.watchers⟩

end Numbered

end World

end TilePanel
