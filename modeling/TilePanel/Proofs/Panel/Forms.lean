import TilePanel.Proofs.Panel.Succession
import TilePanel.Tile.Written

/-!
The forms that the records of a panel take. There are five changes that operations make of records,
each for one tile, and none of them leads out of the forms of that tile: whatever the store holds and
whatever the operations are told, the parts of a record fit each other, and a change that looks at the
variant of a record always finds the one that it is made for.
-/

namespace TilePanel

namespace TileRecord

inductive Fits : TileKind → TileRecord → Prop
  | user (label : Option String) (avatar : Option Avatar) :
    Fits .user (.user { base := { label }, avatar })
  | time : Fits .time (.basic {})
  | battery {level : UInt8} (hlevel : level ≤ 100) (pluggedIn : Bool) :
    Fits .battery (.battery { level, pluggedIn })
  | brightnessInitial : Fits .brightness (.brightness {})
  | brightness (label : String) (automatic : Bool) :
    Fits .brightness (.brightness
      { base := {
          icon := some (if automatic then .brightnessAutoOn else .brightnessAutoOff)
          label := some label }
        automatic })
  | settings (label : Option String) : Fits .settings (.basic { label })
  | certificateInitial : Fits .certificate (.basic {})
  | certificate (label : String) (isManaged enabled : Bool) :
    Fits .certificate (.basic
      { icon := some (if isManaged then .certificateInfo else .notifyError)
        label := some label
        enabled })

theorem Fits.initial (kind : TileKind) : Fits kind (.initial kind) := by
  cases kind with
  | user => exact .user none none
  | time => exact .time
  | battery => exact .battery (by decide) false
  | brightness => exact .brightnessInitial
  | settings => exact .settings none
  | certificate => exact .certificateInitial

namespace Fits

variable {r : TileRecord}

theorem named (h : Fits .user r) (name : String) (avatar : Option Avatar) :
    Fits .user (r.mapUser fun u => { base := { u.base with label := some name }, avatar }) := by
  cases h
  exact .user (some name) avatar

private theorem charged (h : Fits .battery r) (level : UInt8) (pluggedIn : Bool) :
    Fits .battery
      (r.mapBattery fun b => { b with level := if 100 < level then 100 else level, pluggedIn }) := by
  cases h
  refine .battery ?_ pluggedIn
  split
  · decide
  · next hlevel => exact UInt8.not_lt.mp hlevel

private theorem lit (h : Fits .brightness r) (mode : BrightnessMode) (label : String) :
    Fits .brightness (r.mapBrightness (Panel.showBrightness mode label)) := by
  cases h <;> cases mode
  case brightnessInitial.automatic | brightness.automatic => exact .brightness label true
  case brightnessInitial.manual | brightness.manual => exact .brightness label false

theorem labelled (h : Fits .settings r) (label : String) :
    Fits .settings (r.mapBase fun b => { b with label := some label }) := by
  cases h
  exact .settings (some label)

private theorem certified (h : Fits .certificate r) (label : String)
    (hasCertificate isManaged : Bool) : Fits .certificate (r.mapBase fun _ =>
      { enabled := hasCertificate
        icon := some (if isManaged then .certificateInfo else .notifyError)
        label := some label }) := by
  cases h <;> exact .certificate label isManaged hasCertificate

theorem variant {kind : TileKind} (h : Fits kind r) :
    r.variant = (TileRecord.initial kind).variant := by
  cases h <;> rfl

theorem enabled {kind : TileKind} (h : Fits kind r) (hkind : kind ≠ .certificate) :
    r.base.enabled = false := by
  cases h
  case certificateInitial | certificate => exact absurd rfl hkind
  all_goals rfl

theorem icon {kind : TileKind} (h : Fits kind r) (hbrightness : kind ≠ .brightness)
    (hcertificate : kind ≠ .certificate) : r.base.icon = none := by
  cases h
  case brightnessInitial | brightness => exact absurd rfl hbrightness
  case certificateInitial | certificate => exact absurd rfl hcertificate
  all_goals rfl

end Fits

end TileRecord

namespace Panel

def Formed (p : Panel) : Prop :=
  ∀ kind, TileRecord.Fits kind (p.record kind)

theorem formed_new (hub : Hub) (user : UserId) (catalog : Catalog) :
    (new hub user catalog).state.Formed := by
  intro kind
  have hrecord : (new hub user catalog).state.record kind = .initial kind := by
    cases kind <;> rfl
  rw [hrecord]
  exact .initial kind

namespace Formed

variable {p q : Panel}

theorem of_slots (h : p.Formed) (hslots : q.slots = p.slots) : q.Formed := by
  intro kind
  rw [Panel.record, hslots]
  exact h kind

/-- A change of one record into another one of its tile. -/
theorem update (h : p.Formed) {kind : TileKind} {change : TileRecord → TileRecord}
    (hchange : TileRecord.Fits kind (p.record kind) →
      TileRecord.Fits kind (change (p.record kind))) : (p.update kind change).state.Formed := by
  intro other
  rw [state_update]
  by_cases hsame : other = kind
  · subst hsame
    rw [record_setRecord_self]
    exact hchange (h other)
  · rw [record_setRecord_of_ne _ hsame]
    exact h other

theorem push (h : p.Formed) (kind : TileKind) : (p.push kind).state.Formed := by
  rw [state_push]
  exact h

theorem refreshSettings (h : p.Formed) : p.refreshSettings.state.Formed :=
  h.update fun hsettings => hsettings.labelled _

theorem refreshBrightness (h : p.Formed) : p.refreshBrightness.state.Formed :=
  h.update fun hbrightness => hbrightness.lit _ _

theorem setCertificate (h : p.Formed) (hasCertificate isManaged : Bool) :
    (p.setCertificate hasCertificate isManaged).state.Formed :=
  h.update fun hcertificate => hcertificate.certified _ _ _

/-- Binding a tile shows it as it is, or works it out for the first time. -/
theorem add (h : p.Formed) (kind : TileKind) (binding : Binding) :
    (p.add kind binding).state.Formed := by
  have hbound : (p.bind kind binding).state.Formed := by
    intro other
    rw [record_bind]
    exact h other
  cases kind with
  | user | time | battery => exact hbound.push _
  | brightness => exact hbound.refreshBrightness
  | settings => exact hbound.refreshSettings
  | certificate => exact hbound.setCertificate false true

theorem handle (h : p.Formed) (e : Event) : (p.handle e).state.Formed := by
  cases e with
  | settingChanged key user => exact h.refreshBrightness
  | userSwitched user =>
    have hmoved : p.moveWatch.Formed := h
    exact hmoved.refreshBrightness

/-- One case for each operation. -/
theorem run (h : p.Formed) (op : Operation) : (op.run p).state.Formed := by
  cases op with
  | add kind binding => exact h.add kind binding
  | battery level pluggedIn => exact h.update fun hbattery => hbattery.charged level pluggedIn
  | user name avatar => exact h.update fun huser => huser.named name avatar
  | certificate hasCertificate isManaged => exact h.setCertificate hasCertificate isManaged
  | refreshUser | refreshTime | refreshBattery => exact h.push _
  | refreshSettings => exact h.refreshSettings
  | refreshBrightness => exact h.refreshBrightness
  | updateResources => exact (h.refreshSettings.push .battery).refreshBrightness
  | userSwitched announced => exact h.handle (.userSwitched announced)
  | handle event => exact h.handle event

theorem drain (h : p.Formed) : p.drain.state.Formed := by
  refine drain_rel (R := fun p q => p.Formed → q.Formed) ?_ ?_ ?_ p h
  · exact fun _ h => h
  · exact fun hfirst hnext h => hnext (hfirst h)
  · intro p e rest _ h
    have htaken : (p.withPending rest).Formed := h
    exact htaken.handle e

end Formed

/-- What a panel goes through: its operations, its drains, and between them any change of what
surrounds it, the store included. -/
inductive Moment
  | operate (op : Operation)
  | drain
  | surround (hub : Hub) (user : UserId) (catalog : Catalog)

def live (p : Panel) : Moment → Panel
  | .operate op => (op.run p).state
  | .drain => p.drain.state
  | .surround hub user catalog => { p with hub, user, catalog }

def liveAll (p : Panel) (moments : List Moment) : Panel :=
  moments.foldl live p

/-- The induction over what a panel goes through. -/
theorem Formed.liveAll {p : Panel} (h : p.Formed) (moments : List Moment) :
    (p.liveAll moments).Formed := by
  induction moments generalizing p with
  | nil => exact h
  | cons moment rest ih =>
    refine ih ?_
    cases moment with
    | operate op => exact h.run op
    | drain => exact h.drain
    | surround hub user catalog => exact h

/-- No record loses its form, its icon or its label, whatever a panel goes through. -/
theorem succeeds_liveAll (p : Panel) (moments : List Moment) : (p.liveAll moments).Succeeds p := by
  induction moments generalizing p with
  | nil => exact .refl p
  | cons moment rest ih =>
    refine Succeeds.trans ?_ (ih (p.live moment))
    cases moment with
    | operate op => exact op.succeeds_run p
    | drain => exact p.succeeds_drain
    | surround hub user catalog => exact .of_slots rfl

namespace Formed

variable {p : Panel}

/-- A name that is set is taken up by the record. -/
theorem user (h : p.Formed) : ∃ u, p.record .user = .user u ∧ ∀ name avatar,
    (p.setUser name avatar).state.record .user =
      .user { base := { u.base with label := some name }, avatar } := by
  generalize hrecord : p.record .user = r
  have hform := h .user
  rw [hrecord] at hform
  cases hform with
  | user label avatar =>
    refine ⟨_, rfl, fun name avatar => ?_⟩
    rw [setUser, state_update, record_setRecord_self, hrecord]
    rfl

/-- A level is at most 100, and a higher one is cut. -/
theorem battery (h : p.Formed) : ∃ b, p.record .battery = .battery b ∧ b.level ≤ 100 ∧
    ∀ level pluggedIn, (p.setBattery level pluggedIn).state.record .battery =
      .battery { b with level := if 100 < level then 100 else level, pluggedIn } := by
  generalize hrecord : p.record .battery = r
  have hform := h .battery
  rw [hrecord] at hform
  cases hform with
  | battery hlevel pluggedIn =>
    refine ⟨_, rfl, hlevel, fun level pluggedIn => ?_⟩
    rw [setBattery, Outcome.state_after, state_update, record_setRecord_self, hrecord]
    rfl

/-- The icon tells the mode once the tile was worked out, and every operation that concerns the tile
works it out. -/
theorem brightness (h : p.Formed) : ∃ b, p.record .brightness = .brightness b ∧
    (b = {} ∨ b.base.label ≠ none ∧
      b.base.icon = some (if b.automatic then .brightnessAutoOn else .brightnessAutoOff)) ∧
    ∀ op : Operation, .brightness ∈ op.concerned → (op.run p).state.record .brightness =
      .brightness (showBrightness p.brightnessMode (p.catalog.text .brightnessLabel) b) := by
  have hform := h .brightness
  have hrewritten : ∀ b, p.record .brightness = .brightness b → ∀ op : Operation,
      .brightness ∈ op.concerned → (op.run p).state.record .brightness =
        .brightness (showBrightness p.brightnessMode (p.catalog.text .brightnessLabel) b) := by
    intro b hrecord op hconcerned
    rw [op.record_run_brightness p hconcerned, recomputed, hrecord]
    rfl
  generalize hrecord : p.record .brightness = r at hform hrewritten
  cases hform with
  | brightnessInitial => exact ⟨_, rfl, .inl rfl, hrewritten _ rfl⟩
  | brightness label automatic =>
    exact ⟨_, rfl, .inr ⟨Option.some_ne_none _, rfl⟩, hrewritten _ rfl⟩

/-- The tile is blank, or it warns with one of two icons. -/
theorem certificate (h : p.Formed) : ∃ b, p.record .certificate = .basic b ∧
    (b = {} ∨ b.label ≠ none ∧ (b.icon = some .certificateInfo ∨ b.icon = some .notifyError)) := by
  generalize hrecord : p.record .certificate = r
  have hform := h .certificate
  rw [hrecord] at hform
  cases hform with
  | certificateInitial => exact ⟨_, rfl, .inl rfl⟩
  | certificate label isManaged enabled =>
    refine ⟨_, rfl, .inr ⟨Option.some_ne_none _, ?_⟩⟩
    cases isManaged with
    | true => exact .inl rfl
    | false => exact .inr rfl

theorem time (h : p.Formed) : p.record .time = .initial .time := by
  generalize hrecord : p.record .time = r
  have hform := h .time
  rw [hrecord] at hform
  cases hform
  rfl

end Formed

/-- The records of a panel are well-formed, whatever it goes through and whatever surrounds it. Every
tile keeps the variant of record that it began with, so that each report and each reading is taken up
by its record. A battery level is at most 100. The brightness and the certificate show what they began
with, or a label and an icon that fits. The time never changes. Only the certificate can be enabled,
and users, batteries and settings have no icon. What had a label keeps one. -/
theorem records_well_formed (hub : Hub) (user : UserId) (catalog : Catalog)
    (moments : List Moment) :
    let start := (new hub user catalog).state
    let p := start.liveAll moments
    (∀ kind, (p.record kind).variant = (TileRecord.initial kind).variant) ∧
      (∃ u, p.record .user = .user u ∧ ∀ name avatar,
        (p.setUser name avatar).state.record .user =
          .user { base := { u.base with label := some name }, avatar }) ∧
      (∃ b, p.record .battery = .battery b ∧ b.level ≤ 100 ∧
        ∀ level pluggedIn, (p.setBattery level pluggedIn).state.record .battery =
          .battery { b with level := if 100 < level then 100 else level, pluggedIn }) ∧
      (∃ b, p.record .brightness = .brightness b ∧
        (b = {} ∨ b.base.label ≠ none ∧
          b.base.icon = some (if b.automatic then .brightnessAutoOn else .brightnessAutoOff)) ∧
        ∀ op : Operation, .brightness ∈ op.concerned → (op.run p).state.record .brightness =
          .brightness (showBrightness p.brightnessMode (p.catalog.text .brightnessLabel) b)) ∧
      (∃ b, p.record .certificate = .basic b ∧
        (b = {} ∨ b.label ≠ none ∧
          (b.icon = some .certificateInfo ∨ b.icon = some .notifyError))) ∧
      p.record .time = .initial .time ∧
      (∀ kind, kind ≠ .certificate → (p.record kind).base.enabled = false) ∧
      (∀ kind ∈ [.user, .battery, .settings], (p.record kind).base.icon = none) ∧
      ∀ earlier later, moments = earlier ++ later → ∀ kind,
        ((start.liveAll earlier).record kind).base.label ≠ none →
          (p.record kind).base.label ≠ none := by
  intro start p
  have hp : p.Formed := (formed_new hub user catalog).liveAll moments
  refine ⟨fun kind => (hp kind).variant, hp.user, hp.battery, hp.brightness, hp.certificate, hp.time,
    fun kind => (hp kind).enabled, ?_, ?_⟩
  · intro kind hkind
    simp only [List.mem_cons, List.not_mem_nil, or_false] at hkind
    rcases hkind with rfl | rfl | rfl
    · exact (hp .user).icon nofun nofun
    · exact (hp .battery).icon nofun nofun
    · exact (hp .settings).icon nofun nofun
  · rintro earlier later rfl kind hlabel hnone
    have hlater : p = (start.liveAll earlier).liveAll later := List.foldl_append
    rw [hlater] at hnone
    exact hlabel ((succeeds_liveAll _ later kind).label hnone)

end Panel

end TilePanel
