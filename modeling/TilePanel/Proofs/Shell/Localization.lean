import TilePanel.Proofs.Panel.Bindings
import TilePanel.Proofs.Shell.Appearance
import TilePanel.Proofs.World.Pushes

/-!
Which tiles a change of the texts reaches. Three tiles show a text of the catalog. Updating the
resources gives two of them the text that is in force and repaints them; the third one, the tile of
the certificate warning, is left out and keeps the text that was in force when it was bound or when
its facts came last.
-/

namespace TilePanel

def StringId.tile : StringId → TileKind
  | settingsLabel => .settings
  | brightnessLabel => .brightness
  | certificateWarning => .certificate

namespace Panel

/-- Whether the record of the brightness tile is of the form that it has from the beginning. -/
def HasBrightness (p : Panel) : Prop :=
  (p.record .brightness).brightness?.isSome = true

private theorem label_recomputed {p : Panel} (h : p.HasBrightness) :
    p.recomputed.base.label = some (p.catalog.text .brightnessLabel) := by
  unfold HasBrightness at h
  unfold recomputed
  cases hrecord : p.record .brightness with
  | brightness b => rfl
  | _ => simp [hrecord, TileRecord.brightness?] at h

theorem HasBrightness.succeeds {p q : Panel} (h : p.HasBrightness) (hsucceeds : q.Succeeds p) :
    q.HasBrightness :=
  (hsucceeds .brightness).brightness.trans h

/-- Updating the resources gives the settings and the brightness tile the texts in force. -/
theorem label_updateResources {p : Panel} (h : p.HasBrightness) {id : StringId}
    (hid : id ≠ .certificateWarning) :
    (p.updateResources.state.record id.tile).base.label = some (p.catalog.text id) := by
  cases id with
  | settingsLabel =>
    change (p.updateResources.state.record .settings).base.label = _
    rw [record_updateResources_settings, relabelled, TileRecord.base_mapBase]
  | brightnessLabel =>
    change (p.updateResources.state.record .brightness).base.label = _
    rw [record_updateResources_brightness, label_recomputed h]
  | certificateWarning => exact absurd rfl hid

theorem label_setCertificate (p : Panel) (hasCertificate isManaged : Bool) :
    ((p.setCertificate hasCertificate isManaged).state.record .certificate).base.label =
      some (p.catalog.text .certificateWarning) := by
  unfold setCertificate
  rw [state_update, record_setRecord_self, TileRecord.base_mapBase]

end Panel

/-- Binding the certificate tile and taking its facts give it the text in force. -/
theorem Operation.label_run_certificate (op : Operation) (p : Panel)
    (hconcerned : .certificate ∈ op.concerned) :
    ((op.run p).state.record .certificate).base.label =
      some (p.catalog.text .certificateWarning) := by
  cases op with
  | add kind binding =>
    obtain rfl := List.mem_singleton.mp hconcerned
    exact (p.bind .certificate binding).state.label_setCertificate false true
  | certificate hasCertificate isManaged => exact p.label_setCertificate _ _
  | battery | user | refreshUser | refreshTime | refreshBattery | refreshSettings
  | refreshBrightness | updateResources | userSwitched | handle =>
    simp [concerned] at hconcerned

namespace World

variable {w : World}

private theorem succeeds_onModel {α : Type} {f : Panel → Outcome Panel α}
    (hf : ∀ p, (f p).state.Succeeds p) (w : World) :
    (w.onModel f).state.panel.Succeeds w.panel := by
  obtain ⟨before, after, -, -, hpanel, -⟩ := w.run_onModel f
  rw [hpanel]
  exact hf { w.panel with hub := before }

theorem Leads.succeeds {w w' : World} {e : Effect} {journal : List Activity}
    (hleads : w.Leads e journal w') : w'.panel.Succeeds w.panel := by
  cases hleads with
  | operate _ op => exact w.succeeds_onModel op.succeeds_run
  | drain => exact w.succeeds_onModel Panel.succeeds_drain
  | switchUser _ user => exact .of_slots (w.panel.slots_switchUser user)
  | tend t => exact .of_slots (w.keepsScene_tend t).1.slots
  | nothing | demand | restore | retext | take | dropQueue | reopen => exact .of_slots rfl

/-- No step takes anything from a record. -/
theorem succeeds_step (w : World) (s : Step) : (w.step s).state.panel.Succeeds w.panel :=
  (w.leads_step s).succeeds

theorem succeeds_run (w : World) (steps : List Step) :
    (w.run steps).1.panel.Succeeds w.panel := by
  induction steps generalizing w with
  | nil => exact .refl _
  | cons s rest ih => exact (w.succeeds_step s).trans (ih _)

theorem hasBrightness_new (store : SettingsStore) (path : Option String) (user : UserId)
    (texts : List (String × String)) (hasModel : Bool) :
    (World.new store path user texts hasModel).state.panel.HasBrightness := by
  cases hasModel <;> rfl

/-- What an operation of a model that is there answers and leaves, told of a panel that differs from
that of the model in its hub only. -/
theorem step_operate (hmodel : w.hasModel = true) (op : Operation) :
    ∃ before after : Hub,
      let p : Panel := { w.panel with hub := before }
      (w.step (.operate op)).answer = .ofResult (op.run p).answer ∧
        (w.step (.operate op)).state.panel = { (op.run p).state with hub := after } := by
  obtain ⟨before, after, -, -, hpanel, hanswer, -⟩ := w.run_onModel op.run
  refine ⟨before, after, ?_, ?_⟩
  · rw [step, hmodel, needing, if_pos rfl, Outcome.answer_mapAnswer, hanswer]
  · rw [step, hmodel, needing, if_pos rfl, Outcome.state_mapAnswer, hpanel]

/-- Updating the resources of a model whose tiles are bound: two of the three tiles are given the
texts in force and repainted, the third one is left alone. -/
theorem step_updateResources (hmodel : w.hasModel = true)
    (hbound : ∀ kind, w.panel.isBound kind = true) (hform : w.panel.HasBrightness) :
    let o := w.step (.operate .updateResources)
    o.answer = .done ∧
      (∀ id, id ≠ .certificateWarning →
        (o.state.panel.record id.tile).base.label = some (w.panel.catalog.text id) ∧
          ∃ binding, w.panel.binding? id.tile = some binding ∧
            ⟨id.tile, binding, o.state.panel.record id.tile⟩ ∈ pushes o.journal) ∧
      o.state.panel.record .certificate = w.panel.record .certificate ∧
      ∀ u ∈ pushes o.journal, u.kind ≠ .certificate := by
  intro o
  obtain ⟨before, after, hanswer, hpanel⟩ := w.step_operate hmodel .updateResources
  let p : Panel := { w.panel with hub := before }
  have hrepaints := w.repaints_step (.operate .updateResources)
  have hconcerned : w.concernedBy (.operate .updateResources) = [.settings, .battery, .brightness] :=
    if_pos hmodel
  rw [hconcerned] at hrepaints
  refine ⟨?_, fun id hid => ⟨?_, ?_⟩, ?_, ?_⟩
  · have hverdict : p.updateResources.answer = .ok () :=
      p.answer_updateResources.trans (Panel.verdict_of_isBound fun kind _ => hbound kind)
    exact hanswer.trans (congrArg Answer.ofResult hverdict)
  · have hbrightness : p.HasBrightness := hform
    rw [hpanel]
    exact Panel.label_updateResources hbrightness hid
  · obtain ⟨binding, hbinding⟩ := Option.isSome_iff_exists.mp (hbound id.tile)
    have htile : id.tile ∈ [TileKind.settings, .battery, .brightness] := by
      cases id with
      | settingsLabel | brightnessLabel => decide
      | certificateWarning => exact absurd rfl hid
    have hkept : o.state.panel.binding? id.tile = some binding := by
      rw [hpanel]
      exact (Operation.updateResources.binding?_run p id.tile).trans hbinding
    refine ⟨binding, hbinding, ?_⟩
    rw [hrepaints.pushed]
    exact List.mem_filterMap.mpr ⟨id.tile, htile, Option.map_eq_some_iff.mpr ⟨binding, hkept, rfl⟩⟩
  · exact congrArg Slot.record (hrepaints.kept .certificate (by decide))
  · intro u hu hkind
    have hmem := (hrepaints.of_mem_pushes hu).1
    rw [hkind] at hmem
    exact absurd hmem (by decide)

/-- The tile of the certificate warning is given the text in force by the steps that concern it, and
no other step touches it. -/
theorem certificate_step (w : World) (s : Step) :
    if .certificate ∈ w.concernedBy s
    then ((w.step s).state.panel.record .certificate).base.label =
      some (w.panel.catalog.text .certificateWarning)
    else (w.step s).state.panel.record .certificate = w.panel.record .certificate := by
  split
  · next hmem =>
    cases s with
    | operate op =>
      cases hmodel : w.hasModel with
      | false => simp [concernedBy, hmodel] at hmem
      | true =>
        simp only [concernedBy, hmodel, if_true] at hmem
        obtain ⟨before, after, -, hpanel⟩ := w.step_operate hmodel op
        rw [hpanel]
        exact op.label_run_certificate { w.panel with hub := before } hmem
    | drain =>
      simp only [concernedBy] at hmem
      split at hmem
      · cases List.eq_of_mem_replicate hmem
      · cases hmem
    | _ => cases hmem
  · next hother => exact congrArg Slot.record ((w.repaints_step s).kept .certificate hother)

end World

namespace Shell.Session

/-- A command that gives a tile another text succeeds, and the tile shows it unless it is that of the
certificate warning, which keeps its record. -/
theorem Presented.apply_string {hides : Bool} {s : Session} (h : Presented hides s) (clock : String)
    {key : String} {id : StringId} (hkey : StringId.ofKey? key = some id) (text : String) :
    let o := s.apply clock (.string key text)
    o.answer = .ok () ∧
      (id ≠ .certificateWarning → (o.state.panel.record id.tile).base.label = some text) ∧
      o.state.panel.record .certificate = s.panel.record .certificate := by
  intro o
  let p : Panel := (s.withText id text).panel
  have hanswer : p.updateResources.answer = .ok () :=
    (p.answer_updateResources).trans (Panel.verdict_of_isBound fun kind _ => h.bound kind)
  have hact : s.act clock (.string key text) =
      (s.withText id text).operate clock .updateResources := by
    simp only [act, hkey]
  have hok : (s.act clock (.string key text)).answer = .ok () := by
    rw [hact]
    change p.updateResources.answer.mapError Failure.library = _
    rw [hanswer]
    rfl
  have ho : o.answer = .ok () ∧
      o.state = ((s.act clock (.string key text)).state.pump clock).state := by
    simp only [o, apply, Outcome.andThen, hok]
    exact ⟨rfl, rfl⟩
  have hpanel : o.state.panel = p.updateResources.state.drain.state := by
    rw [ho.2, hact]
    rfl
  have hbrightness : TileKind.brightness ∈ Operation.updateResources.concerned := by decide
  have hcurrent : p.updateResources.state.IsCurrent :=
    Operation.updateResources.upToDate_run (.inl hbrightness)
  have hslots : o.state.panel.slots = p.updateResources.state.slots := by
    rw [hpanel]
    exact hcurrent.drain.1
  have hrecord : ∀ kind, o.state.panel.record kind = p.updateResources.state.record kind :=
    fun kind => congrArg (fun slots => Slot.record (slots.get kind)) hslots
  refine ⟨ho.1, fun hid => ?_, ?_⟩
  · have hbrightness : p.HasBrightness := h.brightness
    have hlabel : (p.updateResources.state.record id.tile).base.label =
        some ((s.panel.catalog.set id text).text id) :=
      Panel.label_updateResources hbrightness hid
    rw [Catalog.text_set_self] at hlabel
    rw [hrecord]
    exact hlabel
  · have hkept := p.repaints_updateResources.kept .certificate (by decide)
    rw [hrecord]
    exact congrArg Slot.record hkept

/-- After any run, and whatever the texts are then, updating the resources gives the text in force
to the settings and the brightness tile and repaints them, if all tiles are bound. The tile of the
certificate warning keeps its record, so that it shows the text in force only if it did before; what
gives it that text is binding it and taking its facts. A command of a session that changes a text
does the same. -/
theorem relocalized_but_for_certificate (store : SettingsStore) (path : Option String)
    (user : UserId) (texts : List (String × String)) (steps : List Step) (catalog : Catalog)
    (c : Config) (clock now : String) (orders : List Order) (key : String) (id : StringId)
    (text : String) :
    let w := ((World.new store path user texts true).state.run steps).1.withCatalog catalog
    let o := w.step (.operate .updateResources)
    let s := (Session.new c store clock).state.obeyAll orders
    let t := s.apply now (.string key text)
    (w.hasModel = true → (∀ kind, w.panel.isBound kind = true) →
      o.answer = .done ∧
        (∀ id, id ≠ .certificateWarning →
          (o.state.panel.record id.tile).base.label = some (catalog.text id) ∧
            ∃ binding, w.panel.binding? id.tile = some binding ∧
              ⟨id.tile, binding, o.state.panel.record id.tile⟩ ∈ pushes o.journal) ∧
        (∀ u ∈ pushes o.journal, u.kind ≠ .certificate) ∧
        ((o.state.panel.record .certificate).base.label = some (catalog.text .certificateWarning) ↔
          (w.panel.record .certificate).base.label = some (catalog.text .certificateWarning))) ∧
      (∀ step, if .certificate ∈ w.concernedBy step
        then ((w.step step).state.panel.record .certificate).base.label =
          some (catalog.text .certificateWarning)
        else (w.step step).state.panel.record .certificate = w.panel.record .certificate) ∧
      (StringId.ofKey? key = some id →
        t.answer = .ok () ∧
          (id ≠ .certificateWarning → (t.state.panel.record id.tile).base.label = some text) ∧
          t.state.panel.record .certificate = s.panel.record .certificate) := by
  intro w o s t
  have hform : w.panel.HasBrightness :=
    (World.hasBrightness_new store path user texts true).succeeds (World.succeeds_run _ steps)
  have hpresented : Presented c.panel.hidesWarning s :=
    (presented_new c store clock).obeyAll orders
  refine ⟨fun hmodel hbound => ?_, w.certificate_step, fun hkey =>
    hpresented.apply_string now hkey text⟩
  obtain ⟨hdone, hothers, hkept, hunpushed⟩ := World.step_updateResources hmodel hbound hform
  exact ⟨hdone, hothers, hunpushed, by rw [hkept]⟩

def bindingSteps : List Step :=
  TileKind.all.map fun kind => .operate (.add kind ⟨.recorder, kind.name⟩)

def carefulTexts : Catalog :=
  ({} : Catalog).set .certificateWarning "Careful"

theorem relocalized_but_for_certificate_after_bindings :
    let w := ((World.new (.memory {}) none .owner [] true).state.run
      bindingSteps).1.withCatalog carefulTexts
    let o := w.step (.operate .updateResources)
    let t := (Session.new {} (.memory {}) "").state.apply ""
      (.string "quick_settings_settings_label" "Setup")
    o.answer = .done ∧
      (o.state.panel.record .settings).base.label = some "Settings" ∧
      (o.state.panel.record .certificate).base.label ≠ some "Careful" ∧
      (t.state.panel.record .settings).base.label = some "Setup" := by
  intro w o t
  have hbound : ∀ kind, w.panel.isBound kind = true := fun kind => by cases kind <;> rfl
  have hkey : StringId.ofKey? "quick_settings_settings_label" = some .settingsLabel := rfl
  obtain ⟨hupdated, -, hchanged⟩ :=
    relocalized_but_for_certificate (.memory {}) none .owner [] bindingSteps carefulTexts {} "" ""
      [] "quick_settings_settings_label" .settingsLabel "Setup"
  obtain ⟨hdone, hothers, -, hsame⟩ := hupdated rfl hbound
  obtain ⟨-, htext, -⟩ := hchanged hkey
  have hbefore : (w.panel.record .certificate).base.label ≠ some "Careful" := by decide +kernel
  exact ⟨hdone, (hothers .settingsLabel nofun).1, mt hsame.mp hbefore, htext nofun⟩

/-- A command that changes the text of the certificate warning succeeds, and the tile does not show
that text. -/
theorem certificate_keeps_text :
    let o := (Session.new {} (.memory {}) "").state.apply ""
      (.string "ssl_ca_cert_warning" "Careful")
    o.answer = .ok () ∧ o.state.panel.isBound .certificate = true ∧
      o.state.panel.catalog.text .certificateWarning = "Careful" ∧
      (o.state.panel.record .certificate).base.label = some "Network may\nbe monitored" := by
  refine ⟨rfl, rfl, rfl, ?_⟩
  decide +kernel

end Shell.Session

end TilePanel
