import TilePanel.Proofs.Panel.Bindings
import TilePanel.Proofs.View.Overwriting

/-!
Refreshing twice. A refresh works out the records of derived tiles and pushes what its tiles show; it
takes nothing new. The second of two refreshes finds its tiles up to date, so that it leaves the panel
as it is, answers and pushes the same again, and paints what is painted already. All that counts of
the store is what it answers when the mode is read.
-/

namespace TilePanel

/-- The operations that repaint tiles and take nothing new. -/
def Operation.refreshes : List Operation :=
  [refreshUser, refreshTime, refreshBattery, refreshSettings, refreshBrightness, updateResources]

theorem Slot.eq_of_fields {a b : Slot} (hrecord : a.record = b.record)
    (hbinding : a.binding = b.binding) : a = b := by
  cases a
  cases b
  exact congrArg₂ Slot.mk hrecord hbinding

namespace Operation

variable {op : Operation} {p : Panel}

theorem isBinding_of_refreshes (hop : op ∈ refreshes) : op.isBinding = false := by
  simp only [refreshes, List.mem_cons, List.not_mem_nil, or_false] at hop
  rcases hop with rfl | rfl | rfl | rfl | rfl | rfl <;> rfl

private theorem movesWatch_of_refreshes (hop : op ∈ refreshes) : op.movesWatch = false := by
  simp only [refreshes, List.mem_cons, List.not_mem_nil, or_false] at hop
  rcases hop with rfl | rfl | rfl | rfl | rfl | rfl <;> rfl

/-- A refresh changes slots at most. -/
private theorem retiles_refresh (hop : op ∈ refreshes) (p : Panel) :
    Panel.Retiles p (op.run p).state := by
  have hretiles := op.retiles_run p
  rwa [movesWatch_of_refreshes hop] at hretiles

theorem binding?_refresh (hop : op ∈ refreshes) (p : Panel) (kind : TileKind) :
    (op.run p).state.binding? kind = p.binding? kind := by
  rw [op.binding?_run p kind]
  cases op with
  | add added binding => exact absurd (isBinding_of_refreshes hop) (by simp [isBinding])
  | _ => rfl

/-- A refresh changes the records of derived tiles only. -/
private theorem record_refresh_of_not_derived (hop : op ∈ refreshes) (p : Panel) {kind : TileKind}
    (hkind : kind.isDerived = false) : (op.run p).state.record kind = p.record kind := by
  have hsettings : kind ≠ .settings := by
    rintro rfl
    cases hkind
  have hbrightness : kind ≠ .brightness := by
    rintro rfl
    cases hkind
  simp only [refreshes, List.mem_cons, List.not_mem_nil, or_false] at hop
  rcases hop with rfl | rfl | rfl | rfl | rfl | rfl
  · exact congrArg (Panel.record · kind) (p.state_push .user)
  · exact congrArg (Panel.record · kind) (p.state_push .time)
  · exact congrArg (Panel.record · kind) (p.state_push .battery)
  · exact (congrArg (Panel.record · kind) (p.state_update .settings _)).trans
      (p.record_setRecord_of_ne hsettings _)
  · exact (congrArg (Panel.record · kind) p.state_refreshBrightness).trans
      (p.record_setRecord_of_ne hbrightness _)
  · change p.refreshSettings.state.refreshBattery.state.refreshBrightness.state.record kind = _
    rw [Panel.state_refreshBrightness, Panel.record_setRecord_of_ne _ hbrightness,
      Panel.refreshBattery, Panel.state_push, Panel.refreshSettings, Panel.state_update,
      Panel.record_setRecord_of_ne _ hsettings]

/-- A refresh finds nothing to do on a panel whose tiles are up to date. -/
theorem state_refresh_of_upToDate (hop : op ∈ refreshes)
    (hcurrent : ∀ kind ∈ op.concerned, p.UpToDate kind) : (op.run p).state = p := by
  have hrecord : ∀ kind ∈ op.concerned, (op.run p).state.record kind = p.record kind := by
    intro kind hkind
    cases hderived : kind.isDerived with
    | false => exact record_refresh_of_not_derived hop p hderived
    | true =>
      cases kind with
      | brightness => exact (op.record_run_brightness p hkind).trans (hcurrent _ hkind)
      | settings => exact (op.record_run_settings p hkind).trans (hcurrent _ hkind)
      | user | time | battery | certificate => cases hderived
  have hslots : (op.run p).state.slots = p.slots := by
    apply PerTile.ext_get
    intro kind
    by_cases hkind : kind ∈ op.concerned
    · exact Slot.eq_of_fields (hrecord kind hkind) (binding?_refresh hop p kind)
    · exact (op.repaints_run p).kept kind hkind
  obtain ⟨slots, hretiled⟩ := retiles_refresh hop p
  have hsame : slots = p.slots := (congrArg Panel.slots hretiled).symm.trans hslots
  rw [hretiled, hsame]

/-- After a refresh its tiles are up to date, also over another store in which the same mode is read. -/
private theorem upToDate_rehub_run (op : Operation) {later : Hub}
    (hread : later.store.read Setting.mode p.user = p.hub.store.read Setting.mode p.user)
    {kind : TileKind} (hkind : kind ∈ op.concerned) :
    ({ (op.run p).state with hub := later } : Panel).UpToDate kind := by
  have hcurrent : (op.run p).state.UpToDate kind := op.upToDate_run (.inl hkind)
  cases kind with
  | brightness =>
    have hsame := op.surroundings_run p
    have hmode : ({ (op.run p).state with hub := later } : Panel).brightnessMode =
        (op.run p).state.brightnessMode := by
      have hread' : later.store.read Setting.mode (op.run p).state.user =
          (op.run p).state.hub.store.read Setting.mode (op.run p).state.user := by
        rw [hsame.user, hsame.store]
        exact hread
      exact congrArg BrightnessMode.ofSetting (SettingsStore.readInt_congr _ hread')
    change Panel.recomputed _ = (op.run p).state.record .brightness
    rw [Panel.recomputed, hmode]
    exact hcurrent
  | user | time | battery | settings | certificate => exact hcurrent

/-- The calls of a journal show the time of day only through the bindings of clocks. -/
theorem clock_not_mem_viewCalls {journal : List Activity}
    (h : ∀ u ∈ pushes journal, u.binding.binder ≠ .clock) (view : String) :
    ViewCall.clock view ∉ Shell.Session.viewCalls journal := by
  rw [Shell.Session.viewCalls_eq, List.mem_flatMap]
  rintro ⟨u, hu, hcall⟩
  have hbinder := h u hu
  rw [Binding.paint] at hcall
  cases hpainter : u.binding.binder with
  | clock => exact hbinder hpainter
  | recorder | summary | userLine | batteryLine => simp [hpainter, Binder.paint] at hcall
  | basic own hides =>
    rw [hpainter] at hcall
    simp only [Binder.paint, Binder.paintBase, List.mem_append, Option.mem_toList,
      Option.map_eq_some_iff, reduceCtorEq, and_false, exists_false, or_false] at hcall
    split at hcall <;> simp at hcall

/-- A second refresh, over a store in which the same mode is read (or fails to be read), answers the
same again, changes nothing, pushes the same records again, and leaves icon, text and visibility of
every view as the first one left them, whatever was on the views before. Only a view that shows the
time of day may change, if that has gone on. -/
theorem refreshed_twice (hop : op ∈ refreshes) (p : Panel) {later : Hub}
    (hread : later.store.read Setting.mode p.user = p.hub.store.read Setting.mode p.user) :
    let first := op.run p
    let second := op.run { first.state with hub := later }
    second.answer = first.answer ∧
      second.state = { first.state with hub := later } ∧
      pushes second.journal = pushes first.journal ∧
      ∀ (name : String) (v : TextView) (clock clock' : String),
        (clock' = clock ∨ ∀ u ∈ pushes first.journal, u.binding.binder ≠ .clock) →
          let painted := v.applyAll name clock (Shell.Session.viewCalls first.journal)
          painted.applyAll name clock' (Shell.Session.viewCalls second.journal) = painted := by
  intro first second
  have hstate : second.state = { first.state with hub := later } :=
    state_refresh_of_upToDate hop fun kind hkind => op.upToDate_rehub_run hread hkind
  have hbound : ∀ kind, ({ first.state with hub := later } : Panel).isBound kind =
      p.isBound kind :=
    fun kind => congrArg Option.isSome (binding?_refresh hop p kind)
  have hanswer : second.answer = first.answer := by
    have hbinding := isBinding_of_refreshes hop
    rw [op.answer_run hbinding p, op.answer_run hbinding { first.state with hub := later }]
    exact Panel.verdict_congr fun kind _ => hbound kind
  have hpushes : pushes second.journal = pushes first.journal := by
    have hslots : second.state.slots = first.state.slots := by rw [hstate]
    rw [(op.repaints_run p).pushed, (op.repaints_run { first.state with hub := later }).pushed]
    exact congrArg (fun slots : PerTile Slot =>
      op.concerned.filterMap fun kind => (slots.get kind).push? kind) hslots
  refine ⟨hanswer, hstate, hpushes, ?_⟩
  intro name v clock clock' hclock painted
  have hcalls : Shell.Session.viewCalls second.journal = Shell.Session.viewCalls first.journal := by
    rw [Shell.Session.viewCalls_eq, Shell.Session.viewCalls_eq, hpushes]
  rw [hcalls]
  exact TextView.applyAll_again name (hclock.imp_right clock_not_mem_viewCalls) v

/-- A panel whose settings and brightness tiles are painted on one view. The battery is not bound. -/
def sharedViewPanel : Panel :=
  let store := SettingsStore.database (some (({} : SettingsTable).write Setting.mode "1" .owner))
  let labelled := (Panel.new { store } .owner {}).state.add .settings ⟨.basic "wall" false, "s"⟩
  (labelled.state.add .brightness ⟨.basic "wall" true, "b"⟩).state

/-- The texts of both tiles go to the view, and after the second refresh it shows what it showed after
the first one, although the table has gone and memory has taken its place. -/
theorem refreshed_twice_of_sharedView :
    let later : Hub := { store := .memory (({} : MemoryStore).write Setting.mode "1" .owner) }
    let first := updateResources.run sharedViewPanel
    let second := updateResources.run { first.state with hub := later }
    updateResources ∈ refreshes ∧
      later.store.read Setting.mode .owner =
        sharedViewPanel.hub.store.read Setting.mode .owner ∧
      second.answer = .error (.tileNotBound .battery) ∧
      ({ text := "old" } : TextView).applyAll "wall" "" (Shell.Session.viewCalls first.journal) =
        { icon := some .brightnessAutoOn, text := "Brightness", visible := false } ∧
      ({ icon := some .brightnessAutoOn, text := "Brightness", visible := false } : TextView).applyAll
          "wall" "" (Shell.Session.viewCalls second.journal) =
        { icon := some .brightnessAutoOn, text := "Brightness", visible := false } := by
  intro later first second
  have hop : updateResources ∈ refreshes := by simp [refreshes]
  have hread : later.store.read Setting.mode .owner =
      sharedViewPanel.hub.store.read Setting.mode .owner := by rfl
  obtain ⟨hanswer, -, -, hviews⟩ := refreshed_twice hop sharedViewPanel hread
  have hfirst : ({ text := "old" } : TextView).applyAll "wall" ""
      (Shell.Session.viewCalls first.journal) =
        { icon := some .brightnessAutoOn, text := "Brightness", visible := false } := by rfl
  have hagain := hviews "wall" { text := "old" } "" "" (.inl rfl)
  exact ⟨hop, hread, hanswer, hfirst, hfirst ▸ hagain⟩

end Operation

end TilePanel
