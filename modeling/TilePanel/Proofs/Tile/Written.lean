import TilePanel.Proofs.Text.Json
import TilePanel.Tile.Written

/-!
The JSON text of a record is lossless. Its first member names the variant, so that records of
different variants differ there, whatever fields they share; the other members hold every field of the
record, each in a form that determines it. The text determines the members.
-/

namespace TilePanel

open TilePanel.Text

@[simp]
theorem Text.Json.ofText?_inj {a b : Option String} : Json.ofText? a = Json.ofText? b ↔ a = b := by
  cases a <;> cases b <;> simp [Json.ofText?]

theorem Icon.tag_inj {a b : Icon} (h : a.tag = b.tag) : a = b := by
  cases a <;> cases b <;> first | rfl | simp [Icon.tag] at h

/-- Neither two icons nor an icon and none are written alike. -/
@[simp]
theorem Icon.json?_inj {a b : Option Icon} : Icon.json? a = Icon.json? b ↔ a = b := by
  constructor
  · intro h
    cases a with
    | none => cases b <;> simp_all [Icon.json?]
    | some a =>
      cases b with
      | none => simp [Icon.json?] at h
      | some b => exact congrArg some (Icon.tag_inj (Json.string.inj h))
  · rintro rfl
    rfl

@[simp]
theorem Avatar.map_source_inj {a b : Option Avatar} :
    a.map Avatar.source = b.map Avatar.source ↔ a = b := by
  constructor
  · intro h
    exact Option.map_injective (fun x y hsource => by cases x; cases y; exact congrArg _ hsource) h
  · rintro rfl
    rfl

@[simp]
theorem BaseRecord.members_inj {a b : BaseRecord} : a.members = b.members ↔ a = b := by
  cases a
  cases b
  simp [BaseRecord.members]

@[simp]
theorem BaseRecord.json_inj {a b : BaseRecord} : a.json = b.json ↔ a = b := by
  simp [BaseRecord.json]

@[simp]
theorem ActivityRecord.json_inj {a b : ActivityRecord} : a.json = b.json ↔ a = b := by
  cases a
  cases b
  simp [ActivityRecord.json]

namespace TileRecord

/-- The members of a record of a variant hold all its fields. -/
theorem members_inj {r r' : TileRecord} (hvariant : r.variant = r'.variant)
    (h : r.members = r'.members) : r = r' := by
  cases r with
  | basic b =>
    cases r' with
    | basic b' => exact congrArg basic (BaseRecord.members_inj.mp h)
    | _ => simp [variant] at hvariant
  | battery b =>
    cases r' with
    | battery b' =>
      obtain ⟨base, level, pluggedIn⟩ := b
      obtain ⟨base', level', pluggedIn'⟩ := b'
      simpa [members, Int.natCast_inj, UInt8.toNat_inj] using h
    | _ => simp [variant] at hvariant
  | user u =>
    cases r' with
    | user u' =>
      obtain ⟨base, avatar⟩ := u
      obtain ⟨base', avatar'⟩ := u'
      simpa [members] using h
    | _ => simp [variant] at hvariant
  | brightness b =>
    cases r' with
    | brightness b' =>
      obtain ⟨base, automatic⟩ := b
      obtain ⟨base', automatic'⟩ := b'
      simpa [members] using h
    | _ => simp [variant] at hvariant
  | rssi l =>
    cases r' with
    | rssi l' =>
      obtain ⟨activity, signalIcon, signalDescription, dataTypeIcon, dataDescription⟩ := l
      obtain ⟨activity', signalIcon', signalDescription', dataTypeIcon', dataDescription'⟩ := l'
      simpa [members] using h
    | _ => simp [variant] at hvariant
  | wifi l =>
    cases r' with
    | wifi l' =>
      obtain ⟨activity, signalDescription, connected⟩ := l
      obtain ⟨activity', signalDescription', connected'⟩ := l'
      simpa [members] using h
    | _ => simp [variant] at hvariant
  | bluetooth l =>
    cases r' with
    | bluetooth l' =>
      obtain ⟨base, connected, stateDescription⟩ := l
      obtain ⟨base', connected', stateDescription'⟩ := l'
      simpa [members] using h
    | _ => simp [variant] at hvariant

/-- Two records have the same compact JSON text exactly if they are the same, in their variant and in
every field. -/
theorem json_text_lossless (r r' : TileRecord) : r.json.render = r'.json.render ↔ r = r' := by
  constructor
  · intro h
    have hmembers := Json.object.inj (Json.render_inj h)
    have hvariant : r.variant = r'.variant :=
      Json.string.inj (congrArg Prod.snd (List.cons.inj hmembers).1)
    exact members_inj hvariant (List.cons.inj hmembers).2
  · rintro rfl
    rfl

end TileRecord

end TilePanel
