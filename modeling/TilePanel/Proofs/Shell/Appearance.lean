import TilePanel.Proofs.Panel.Succession
import TilePanel.Proofs.Shell.Agreement
import TilePanel.Proofs.Shell.Commands
import TilePanel.Proofs.Text.Decimal
import TilePanel.Shell.Snapshot

/-!
What the views of a session show. After every command the view of each tile but the time is the one
that its record alone calls for, as if it had been painted for the first time: since no record ever
loses an icon or a label, a view keeps nothing of an earlier one.
-/

namespace TilePanel.Shell.Session

open TextView

/-- What a record shows on a view that was never painted. -/
def fresh (hides : Bool) (kind : TileKind) (record : TileRecord) : TextView :=
  ({} : TextView).applyAll kind.name "" ((bindingOf hides kind).paint record)

/-- Only the view of the time shows the clock. -/
private theorem applyAll_paint_clock (hides : Bool) (clock : String) {kind : TileKind}
    (hkind : kind ≠ .time) (record : TileRecord) (v : TextView) :
    v.applyAll kind.name clock ((bindingOf hides kind).paint record) =
      v.applyAll kind.name "" ((bindingOf hides kind).paint record) := by
  by_cases hbasic : kind.isBasic = true
  · rw [applyAll_paint_of_basic _ _ hbasic, applyAll_paint_of_basic _ _ hbasic]
  · cases kind with
    | user => cases record <;> rfl
    | battery => cases record <;> rfl
    | time => exact absurd rfl hkind
    | brightness | settings | certificate => exact absurd rfl hbasic

/-- A line on a view is replaced by another one. -/
theorem applyAll_line (name : String) {line line' : Option String}
    (hform : line'.isSome = line.isSome) :
    (({} : TextView).applyAll name "" (line.map (ViewCall.text name)).toList).applyAll name ""
        (line'.map (ViewCall.text name)).toList =
      ({} : TextView).applyAll name "" (line'.map (ViewCall.text name)).toList := by
  cases line' with
  | none =>
    cases line with
    | none => rfl
    | some text => cases hform
  | some text' => cases line <;> simp [applyAll, TextView.apply]

theorem paint_user (hides : Bool) (r : TileRecord) :
    (bindingOf hides .user).paint r =
      ((r.user?.map UserRecord.line).map (ViewCall.text TileKind.user.name)).toList := by
  rw [Option.map_map]
  rfl

theorem paint_battery (hides : Bool) (r : TileRecord) :
    (bindingOf hides .battery).paint r =
      ((r.battery?.map BatteryRecord.line).map (ViewCall.text TileKind.battery.name)).toList := by
  rw [Option.map_map]
  rfl

/-- A record that succeeds the one that a view shows leaves nothing of it there. -/
theorem repaint_fresh (hides : Bool) (clock : String) {kind : TileKind} (hkind : kind ≠ .time)
    {r r' : TileRecord} (hsucceeds : r'.Succeeds r) :
    (fresh hides kind r).applyAll kind.name clock ((bindingOf hides kind).paint r') =
      fresh hides kind r' := by
  rw [applyAll_paint_clock hides clock hkind]
  by_cases hbasic : kind.isBasic = true
  · simp only [fresh, applyAll_paint_of_basic _ _ hbasic, wearing]
    have hicon : r'.base.icon.or r.base.icon = r'.base.icon := by
      cases hnew : r'.base.icon with
      | none => exact hsucceeds.icon hnew
      | some icon => rfl
    have htext : (r'.base.label.map oneLine).getD ((r.base.label.map oneLine).getD "") =
        (r'.base.label.map oneLine).getD "" := by
      cases hnew : r'.base.label with
      | none => rw [hsucceeds.label hnew]; rfl
      | some label => rfl
    simp only [Option.or_none, hicon, htext]
    cases mayHide hides kind <;> rfl
  · cases kind with
    | user =>
      simp only [fresh, paint_user]
      exact applyAll_line _ (by simpa using hsucceeds.user)
    | battery =>
      simp only [fresh, paint_battery]
      exact applyAll_line _ (by simpa using hsucceeds.battery)
    | time => exact absurd rfl hkind
    | brightness | settings | certificate => exact absurd rfl hbasic

/-- What holds of a session from the moment it is built: a tile that is bound shows its record, and
one that is not shows nothing. -/
structure Presents (hides : Bool) (s : Session) : Prop where
  user : (s.panel.record .user).user?.isSome = true
  battery : (s.panel.record .battery).battery?.isSome = true
  brightness : (s.panel.record .brightness).brightness?.isSome = true
  bindings : ∀ kind binding, s.panel.binding? kind = some binding →
    binding = bindingOf hides kind
  labels : ∀ kind, kind.isBasic = true → s.panel.isBound kind = true →
    (s.panel.record kind).base.label ≠ none
  views : ∀ kind, kind ≠ .time → s.views.get kind =
    if s.panel.isBound kind then fresh hides kind (s.panel.record kind) else {}

variable {hides : Bool} {s : Session} {α : Type}

/-- What repaints the tiles that it concerns, all of them bound, and takes nothing from a record. -/
theorem Presents.onPanel (h : Presents hides s) (clock : String) {f : Panel → Outcome Panel α}
    {kinds : List TileKind}
    (hrepaints : Repaints kinds s.panel.slots (f s.panel).journal (f s.panel).state.slots)
    (hsucceeds : (f s.panel).state.Succeeds s.panel)
    (hbindings : ∀ kind binding, (f s.panel).state.binding? kind = some binding →
      binding = bindingOf hides kind)
    (hbound : ∀ kind ∈ kinds, (f s.panel).state.isBound kind = true)
    (hlabels : ∀ kind ∈ kinds, kind.isBasic = true → s.panel.isBound kind = false →
      ((f s.panel).state.record kind).base.label ≠ none) :
    Presents hides (s.onPanel clock f).state := by
  have hkept : ∀ kind, kind ∉ kinds →
      (f s.panel).state.slots.get kind = s.panel.slots.get kind := hrepaints.kept
  refine ⟨(hsucceeds .user).user.trans h.user, (hsucceeds .battery).battery.trans h.battery,
    (hsucceeds .brightness).brightness.trans h.brightness, hbindings, ?_, ?_⟩
  · intro kind hbasic hnow
    cases hbefore : s.panel.isBound kind with
    | true => exact fun hnone => h.labels kind hbasic hbefore ((hsucceeds kind).label hnone)
    | false =>
      by_cases hmem : kind ∈ kinds
      · exact hlabels kind hmem hbasic hbefore
      · have hsame : (f s.panel).state.isBound kind = s.panel.isBound kind :=
          congrArg (fun slot : Slot => slot.binding.isSome) (hkept kind hmem)
        have hnow' : (f s.panel).state.isBound kind = true := hnow
        rw [hsame, hbefore] at hnow'
        cases hnow'
  · intro kind hkind
    have hbinding : ∀ k ∈ kinds,
        ((f s.panel).state.slots.get k).binding = some (bindingOf hides k) := by
      intro k hk
      obtain ⟨binding, hsome⟩ := Option.isSome_iff_exists.mp (hbound k hk)
      rw [← hbindings k binding hsome]
      exact hsome
    change (paint clock (f s.panel).journal s.views).get kind = _
    rw [get_paint hrepaints hbinding clock s.views kind, h.views kind hkind]
    by_cases hmem : kind ∈ kinds
    · have hnow : (s.onPanel clock f).state.panel.isBound kind = true := hbound kind hmem
      rw [if_pos hmem, if_pos hnow]
      split
      · exact repaint_fresh hides clock hkind (hsucceeds kind)
      · exact applyAll_paint_clock hides clock hkind _ {}
    · rw [if_neg hmem]
      change _ = if ((f s.panel).state.slots.get kind).binding.isSome then
        fresh hides kind ((f s.panel).state.slots.get kind).record else {}
      rw [hkept kind hmem]
      rfl

/-- Binding a tile as one that shows its label gives it one. -/
theorem label_add {p : Panel} {kind : TileKind} (hbasic : kind.isBasic = true)
    (hbrightness : (p.record .brightness).brightness?.isSome = true) (binding : Binding) :
    ((p.add kind binding).state.record kind).base.label ≠ none := by
  cases kind with
  | brightness =>
    rw [p.record_add_brightness, Panel.recomputed]
    cases hold : p.record .brightness with
    | brightness b => exact Option.some_ne_none _
    | _ =>
      rw [hold] at hbrightness
      cases hbrightness
  | settings =>
    rw [p.record_add_settings, Panel.relabelled, TileRecord.base_mapBase]
    exact Option.some_ne_none _
  | certificate =>
    change (((p.bind .certificate binding).state.setCertificate false true).state.record
      .certificate).base.label ≠ none
    rw [Panel.setCertificate, Panel.state_update, Panel.record_setRecord_self,
      TileRecord.base_mapBase]
    exact Option.some_ne_none _
  | user | time | battery => cases hbasic

theorem Presents.add (h : Presents hides s) (clock : String) (kind : TileKind) :
    Presents hides (s.onPanel clock fun p => p.add kind (bindingOf hides kind)).state := by
  let op : Operation := .add kind (bindingOf hides kind)
  have hbinding : ∀ other, (op.run s.panel).state.binding? other =
      if other = kind then some (bindingOf hides kind) else s.panel.binding? other :=
    fun other => op.binding?_run s.panel other
  refine h.onPanel clock (op.repaints_run s.panel) (op.succeeds_run s.panel) ?_ ?_ ?_
  · intro other binding hother
    change (op.run s.panel).state.binding? other = _ at hother
    rw [hbinding] at hother
    split at hother
    · next hsame =>
      subst hsame
      exact (Option.some.inj hother).symm
    · exact h.bindings other binding hother
  · intro other hother
    obtain rfl := List.mem_singleton.mp hother
    change ((op.run s.panel).state.binding? other).isSome = true
    rw [hbinding, if_pos rfl]
    rfl
  · intro other hother hbasic _
    obtain rfl := List.mem_singleton.mp hother
    exact label_add hbasic h.brightness _

/-- What holds of a session between two commands: all tiles are bound. -/
structure Presented (hides : Bool) (s : Session) : Prop extends Presents hides s where
  bound : ∀ kind, s.panel.isBound kind = true

/-- Binding the tiles that are left. -/
theorem Presents.addAll (h : Presents hides s) (clock : String) {kinds : List TileKind}
    (hdone : ∀ kind, kind ∈ kinds ∨ s.panel.isBound kind = true) :
    Presented hides (s.onPanel clock (addAll hides kinds)).state := by
  induction kinds generalizing s with
  | nil =>
    have hbound : ∀ kind, s.panel.isBound kind = true :=
      fun kind => (hdone kind).resolve_left (by simp)
    have hnothing : Repaints [] s.panel.slots [] s.panel.slots := .nothing isQuiet_nil _
    exact ⟨h.onPanel clock hnothing (.refl _) h.bindings (by simp) (by simp), hbound⟩
  | cons kind rest ih =>
    let op : Operation := .add kind (bindingOf hides kind)
    have hfirst : Session.addAll hides (kind :: rest) = fun p =>
        (p.add kind (bindingOf hides kind)).andThen fun _ p => Session.addAll hides rest p := rfl
    rw [hfirst, onPanel_andThen]
    refine ih (h.add clock kind) fun other => ?_
    have hbinding : (op.run s.panel).state.binding? other =
        if other = kind then some (bindingOf hides kind) else s.panel.binding? other :=
      op.binding?_run s.panel other
    change other ∈ rest ∨ ((op.run s.panel).state.binding? other).isSome = true
    rw [hbinding]
    by_cases hsame : other = kind
    · rw [if_pos hsame]
      exact .inr rfl
    · rw [if_neg hsame]
      exact (hdone other).imp_left fun hmem => (List.mem_cons.mp hmem).resolve_left hsame

/-- A session starts by binding all tiles. -/
theorem presented_new (c : Config) (store : SettingsStore) (clock : String) :
    Presented c.panel.hidesWarning (Session.new c store clock).state := by
  let p := (Panel.new { store } c.panel.initialUser (Catalog.ofTable c.strings.entries).1).state
  have hpresents : Presents c.panel.hidesWarning ⟨p, .ofFn fun _ => {}⟩ := by
    refine ⟨rfl, rfl, rfl, ?_, ?_, ?_⟩
    · intro kind binding hbinding
      cases kind <;> cases hbinding
    · intro kind _ hbound
      cases kind <;> cases hbound
    · intro kind _
      cases kind <;> rfl
  exact hpresents.addAll clock fun kind => .inl kind.mem_all

/-- What paints bound tiles, binds none, and takes nothing from a record. -/
theorem Presented.onPanel (h : Presented hides s) (clock : String) {f : Panel → Outcome Panel α}
    {kinds : List TileKind}
    (hrepaints : Repaints kinds s.panel.slots (f s.panel).journal (f s.panel).state.slots)
    (hsucceeds : (f s.panel).state.Succeeds s.panel)
    (hbinding : ∀ kind, (f s.panel).state.binding? kind = s.panel.binding? kind) :
    Presented hides (s.onPanel clock f).state := by
  have hbound : ∀ kind, (f s.panel).state.isBound kind = true := by
    intro kind
    rw [Panel.isBound, hbinding]
    exact h.bound kind
  refine ⟨h.toPresents.onPanel clock hrepaints hsucceeds ?_ (fun kind _ => hbound kind) ?_, hbound⟩
  · intro kind binding hsome
    rw [hbinding] at hsome
    exact h.bindings kind binding hsome
  · intro kind _ _ hunbound
    rw [h.bound kind] at hunbound
    cases hunbound

/-- What commands are made of leaves all views showing their records. -/
theorem conduct_presented (hides : Bool) :
    Conduct fun s t => Presented hides s → Presented hides t where
  refl _ h := h
  trans hfirst hnext h := hnext (hfirst h)
  operate s clock op hop h :=
    h.onPanel clock (op.repaints_run s.panel) (op.succeeds_run s.panel)
      (binding?_painting hop s.panel)
  pump s clock h :=
    h.onPanel clock s.panel.repaints_drain s.panel.succeeds_drain s.panel.binding?_drain
  quietly s clock f hslots hquiet h := by
    have hrepaints : Repaints [] s.panel.slots (f s.panel).journal (f s.panel).state.slots := by
      rw [hslots]
      exact .nothing hquiet _
    have hbinding : ∀ kind, (f s.panel).state.binding? kind = s.panel.binding? kind := by
      intro kind
      rw [Panel.binding?, hslots]
      rfl
    exact h.onPanel clock hrepaints (.of_slots hslots) hbinding
  withText s id text h :=
    ⟨⟨h.user, h.battery, h.brightness, h.bindings, h.labels, h.views⟩, h.bound⟩

/-- A command, as a line of words or as what it asks for, with what surrounds it when it is
given. -/
structure Order where
  surroundings : Surroundings
  disk : Disk
  command : List String ⊕ Request

def obey (s : Session) (o : Order) : Session :=
  match o.command with
  | .inl words => (s.runArguments o.surroundings o.disk words).session
  | .inr r => (s.runRequest o.surroundings o.disk r).session

def obeyAll (s : Session) (orders : List Order) : Session :=
  orders.foldl obey s

/-- The induction over the commands. -/
theorem Conduct.obeyAll {R : Session → Session → Prop} (hR : Conduct R) (s : Session)
    (orders : List Order) : R s (s.obeyAll orders) := by
  induction orders generalizing s with
  | nil => exact hR.refl s
  | cons o rest ih =>
    refine hR.trans ?_ (ih (s.obey o))
    unfold obey
    cases o.command with
    | inl words => exact hR.runArguments s _ _ words
    | inr r => exact hR.runRequest s _ _ r

theorem Presented.obeyAll (h : Presented hides s) (orders : List Order) :
    Presented hides (s.obeyAll orders) :=
  (conduct_presented hides).obeyAll s orders h

private theorem oneLine_eq_map (text : String) :
    oneLine text = text.map fun c => if c = '\n' then ' ' else c := by
  rw [← String.toList_inj, oneLine, String.toList_ofList, String.toList_map]

private theorem oneLine_eq_self {text : String} (h : '\n' ∉ text.toList) : oneLine text = text := by
  have hsame : (text.toList.map fun c => if c = '\n' then ' ' else c) = text.toList := by
    refine (List.map_congr_left fun c hc => ?_).trans (List.map_id _)
    have hbreak : c ≠ '\n' := fun hbreak => h (hbreak ▸ hc)
    rw [if_neg hbreak]
    rfl
  rw [oneLine, hsame, String.ofList_toList]

/-- The line of a battery has no line breaks. -/
theorem oneLine_battery (b : BatteryRecord) : oneLine b.line = b.line := by
  refine oneLine_eq_self fun hmem => ?_
  simp only [BatteryRecord.line, Text.showNat, String.toList_append, String.toList_ofList,
    List.mem_append] at hmem
  rcases hmem with (hdigit | hpercent) | hsuffix
  · exact absurd (Text.Decimal.isDigit_of_mem_digits _ _ hdigit) (by decide)
  · exact absurd hpercent (by decide)
  · split at hsuffix
    · exact absurd hsuffix (by decide)
    · exact absurd hsuffix (by decide)

theorem Presented.view (h : Presented hides s) (kind : TileKind) (hkind : kind ≠ .time) :
    s.views.get kind = fresh hides kind (s.panel.record kind) := by
  rw [h.views kind hkind, if_pos (h.bound kind)]

/-- The label, or a dash where there is none, and the source of the avatar in brackets. -/
theorem Presented.view_user (h : Presented hides s) :
    ∃ u, s.panel.record .user = .user u ∧ s.views.get .user =
      { icon := none
        text := oneLine (u.base.label.getD "-" ++
          u.avatar.elim "" fun avatar => " [" ++ avatar.source ++ "]")
        visible := true } := by
  cases hrecord : s.panel.record .user with
  | user u =>
    refine ⟨u, rfl, ?_⟩
    have hline : u.line = u.base.label.getD "-" ++
        u.avatar.elim "" fun avatar => " [" ++ avatar.source ++ "]" := by
      unfold UserRecord.line
      cases u.avatar with
      | none => exact (String.append_empty).symm
      | some avatar => simp only [Option.elim_some, String.append_assoc]
    rw [h.view .user nofun, hrecord, ← hline]
    rfl
  | _ =>
    have huser := h.user
    rw [hrecord] at huser
    cases huser

/-- The level in percent, and whether the battery charges. -/
theorem Presented.view_battery (h : Presented hides s) :
    ∃ b, s.panel.record .battery = .battery b ∧ s.views.get .battery =
      { icon := none
        text := Text.showNat b.level.toNat ++ "%" ++ if b.pluggedIn then " (charging)" else ""
        visible := true } := by
  cases hrecord : s.panel.record .battery with
  | battery b =>
    refine ⟨b, rfl, ?_⟩
    rw [h.view .battery nofun, hrecord, ← BatteryRecord.line, ← oneLine_battery]
    rfl
  | _ =>
    have hbattery := h.battery
    rw [hrecord] at hbattery
    cases hbattery

/-- The icon and the label. Only the tile of the certificate warning may be hidden. -/
theorem Presented.view_basic (h : Presented hides s) {kind : TileKind}
    (hbasic : kind.isBasic = true) :
    ∃ label, (s.panel.record kind).base.label = some label ∧ s.views.get kind =
      { icon := (s.panel.record kind).base.icon
        text := oneLine label
        visible := if hides && kind == .certificate then (s.panel.record kind).base.enabled
          else true } := by
  have htime : kind ≠ .time := by
    rintro rfl
    cases hbasic
  obtain ⟨label, hlabel⟩ := Option.ne_none_iff_exists'.mp (h.labels kind hbasic (h.bound kind))
  refine ⟨label, hlabel, ?_⟩
  rw [h.view kind htime, fresh, applyAll_paint_of_basic _ _ hbasic, wearing, hlabel]
  simp only [Option.or_none, Option.map_some, Option.getD_some]
  cases kind <;> cases hides <;> rfl

/-- After every command the snapshot shows each tile but the time as its record alone says. -/
theorem painted_by_records (c : Config) (store : SettingsStore) (clock : String)
    (orders : List Order) :
    let hides := c.panel.hidesWarning
    let s := (Session.new c store clock).state.obeyAll orders
    let unbroken (text : String) : String := text.map fun ch => if ch = '\n' then ' ' else ch
    let drawable : Icon → String := fun
      | .brightnessAutoOn => "ic_qs_brightness_auto_on"
      | .brightnessAutoOff => "ic_qs_brightness_auto_off"
      | .certificateInfo => "ic_qs_certificate_info"
      | .notifyError => "stat_notify_error"
    (∀ kind, kind ≠ .time → s.views.get kind = fresh hides kind (s.panel.record kind)) ∧
      s.snapshot.tiles.map TileSnapshot.tile = TileKind.all ∧
      ∀ t ∈ s.snapshot.tiles, t.state = s.panel.record t.tile ∧
        match t.tile with
        | .time => True
        | .user => ∃ u, t.state = .user u ∧ t.visible = true ∧ t.icon = none ∧
            t.text = unbroken (u.base.label.getD "-" ++
              u.avatar.elim "" fun avatar => " [" ++ avatar.source ++ "]")
        | .battery => ∃ b, t.state = .battery b ∧ t.visible = true ∧ t.icon = none ∧
            t.text = toString b.level.toNat ++ "%" ++ if b.pluggedIn then " (charging)" else ""
        | .brightness | .settings => ∃ label, t.state.base.label = some label ∧
            t.visible = true ∧ t.icon = t.state.base.icon.map drawable ∧ t.text = unbroken label
        | .certificate => ∃ label, t.state.base.label = some label ∧
            t.visible = (if hides then t.state.base.enabled else true) ∧
            t.icon = t.state.base.icon.map drawable ∧ t.text = unbroken label := by
  intro hides s unbroken drawable
  have hs : Presented hides s := (presented_new c store clock).obeyAll orders
  have hunbroken : ∀ text, oneLine text = unbroken text := oneLine_eq_map
  have hdrawable : ∀ icon : Option Icon, icon.map Icon.resourceName = icon.map drawable :=
    fun icon => congrArg (icon.map ·) (funext fun i => by cases i <;> rfl)
  refine ⟨hs.view, rfl, fun t ht => ?_⟩
  obtain ⟨kind, -, rfl⟩ := List.mem_map.mp ht
  refine ⟨rfl, ?_⟩
  have hbasic (hkind : kind.isBasic = true) :
      let t := s.tileSnapshot kind
      ∃ label, t.state.base.label = some label ∧
        t.visible = (if hides && kind == .certificate then t.state.base.enabled else true) ∧
        t.icon = t.state.base.icon.map drawable ∧ t.text = unbroken label := by
    obtain ⟨label, hlabel, hview⟩ := hs.view_basic hkind
    rw [tileSnapshot, hview, hunbroken, hdrawable]
    exact ⟨label, hlabel, rfl, rfl, rfl⟩
  cases kind with
  | time => trivial
  | user =>
    obtain ⟨u, hrecord, hview⟩ := hs.view_user
    rw [tileSnapshot, hview, hunbroken]
    exact ⟨u, hrecord, rfl, rfl, rfl⟩
  | battery =>
    obtain ⟨b, hrecord, hview⟩ := hs.view_battery
    rw [tileSnapshot, hview, Text.showNat_eq]
    exact ⟨b, hrecord, rfl, rfl, rfl⟩
  | brightness | settings =>
    obtain ⟨label, hlabel, hvisible, hshown⟩ := hbasic rfl
    refine ⟨label, hlabel, ?_, hshown⟩
    rw [hvisible]
    cases hides <;> rfl
  | certificate =>
    obtain ⟨label, hlabel, hvisible, hshown⟩ := hbasic rfl
    refine ⟨label, hlabel, ?_, hshown⟩
    rw [hvisible]
    cases hides <;> rfl

end TilePanel.Shell.Session
