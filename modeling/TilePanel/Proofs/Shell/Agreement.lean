import TilePanel.Proofs.Shell.Upkeep

/-!
A session that has run any number of command lines agrees with one that is opened now: on the same
store, for the user that is current, and with the texts that are in force, the brightness and the
settings tiles of both have the same records and the same views.
-/

namespace TilePanel

namespace StringId

def byKey : List StringId :=
  [brightnessLabel, settingsLabel, certificateWarning]

private theorem mem_byKey (id : StringId) : id ∈ byKey := by
  cases id <;> decide

private theorem byKey_sorted : byKey.Pairwise fun a b => Text.precedes a.key b.key = true := by
  decide

end StringId

namespace Catalog

open TilePanel.Text

def row? (c : Catalog) (id : StringId) : Option (String × String) :=
  (c.override id).map fun text => (id.key, text)

def table (c : Catalog) : TextTable where
  entries := StringId.byKey.filterMap c.row?
  sorted := by
    refine List.Pairwise.filterMap c.row? ?_ StringId.byKey_sorted
    intro a b hab e he f hf
    obtain ⟨_, _, rfl⟩ := Option.map_eq_some_iff.mp he
    obtain ⟨_, _, rfl⟩ := Option.map_eq_some_iff.mp hf
    exact hab

/-- Adding the entries of some identifiers overrides exactly these. -/
private theorem override_foldl_addEntry (c : Catalog) (ids : List StringId)
    (found : Catalog × List String) (id : StringId) :
    ((ids.filterMap c.row?).foldl addEntry found).1.override id =
      if id ∈ ids then (c.override id).or (found.1.override id) else found.1.override id := by
  induction ids generalizing found with
  | nil => simp
  | cons first rest ih =>
    rw [List.filterMap_cons]
    cases hfirst : c.override first with
    | none =>
      simp only [row?, hfirst, Option.map_none]
      rw [ih]
      by_cases hid : id = first
      · subst hid
        simp [hfirst]
      · simp [hid]
    | some text =>
      simp only [row?, hfirst, Option.map_some, List.foldl_cons, addEntry, StringId.ofKey?_key]
      rw [ih]
      by_cases hid : id = first
      · subst hid
        simp [hfirst, set]
      · simp [hid, set]

/-- The catalog of the table of the overrides of a catalog is that catalog. -/
theorem ofTable_table (c : Catalog) : (ofTable c.table.entries).1 = c := by
  have hoverride : (ofTable c.table.entries).1.override = c.override := by
    funext id
    rw [ofTable, table, override_foldl_addEntry, if_pos id.mem_byKey]
    exact Option.or_none
  cases c
  exact congrArg Catalog.mk hoverride

end Catalog

namespace Shell.Session

open TextView

variable {hides : Bool}

theorem onPanel_andThen {α β : Type} (s : Session) (clock : String) (f : Panel → Outcome Panel α)
    (g : α → Panel → Outcome Panel β) :
    (s.onPanel clock fun p => (f p).andThen g).state =
      ((s.onPanel clock f).state.onPanel clock (g (f s.panel).answer)).state := by
  simp only [onPanel, Outcome.state_andThen, Outcome.journal_andThen, paint_append]

/-- Binding the tiles that are left. -/
theorem Kept.addAll {s : Session} (h : Kept hides s) (clock : String) {kinds : List TileKind}
    (hempty : s.panel.hub.queue.pending = [])
    (hdone : ∀ kind, kind ∈ kinds ∨ s.panel.isBound kind = true ∧ s.panel.UpToDate kind) :
    Settled hides (s.onPanel clock (addAll hides kinds)).state := by
  induction kinds generalizing s with
  | nil =>
    have hall : ∀ kind, s.panel.isBound kind = true ∧ s.panel.UpToDate kind :=
      fun kind => (hdone kind).resolve_left (by simp)
    refine { toKept := ?_, bound := fun kind => (hall kind).1, settings := (hall .settings).2,
             brightness := .inl (hall .brightness).2, empty := hempty }
    exact h.onPanel clock h.tracks h.plain h.bindings (.nothing isQuiet_nil _) (by simp) (by simp)
  | cons kind rest ih =>
    let op : Operation := .add kind (bindingOf hides kind)
    have hfirst : Session.addAll hides (kind :: rest) = fun p =>
        (p.add kind (bindingOf hides kind)).andThen fun _ p => Session.addAll hides rest p := rfl
    rw [hfirst, onPanel_andThen]
    refine ih (h.add clock kind) ?_ ?_
    · change (op.run s.panel).state.hub.queue.pending = []
      rw [(op.surroundings_run s.panel).queue]
      exact hempty
    · intro other
      have hbinding : (op.run s.panel).state.binding? other =
          if other = kind then some (bindingOf hides kind) else s.panel.binding? other :=
        op.binding?_run s.panel other
      change other ∈ rest ∨ ((op.run s.panel).state.binding? other).isSome = true ∧
        (op.run s.panel).state.UpToDate other
      by_cases hsame : other = kind
      · subst hsame
        right
        refine ⟨?_, op.upToDate_run (.inl (List.mem_singleton_self other))⟩
        rw [hbinding, if_pos rfl]
        rfl
      · rcases hdone other with hmem | ⟨hbound, hcurrent⟩
        · exact .inl ((List.mem_cons.mp hmem).resolve_left hsame)
        · right
          refine ⟨?_, op.upToDate_run (.inr hcurrent)⟩
          rw [hbinding, if_neg hsame]
          exact hbound

/-- A new session is settled. -/
theorem settled_new (c : Config) (store : SettingsStore) (clock : String) :
    Settled c.panel.hidesWarning (Session.new c store clock).state := by
  let p := (Panel.new { store } c.panel.initialUser (Catalog.ofTable c.strings.entries).1).state
  have htracks : p.Tracks := Panel.tracks_new (Hub.numbered_ofStore store) rfl _ _
  have hkept : Kept c.panel.hidesWarning ⟨p, .ofFn fun _ => {}⟩ := by
    refine ⟨htracks, ⟨⟨none, none, false, rfl⟩, ⟨none, rfl⟩⟩, ?_, ?_⟩
    · intro kind binding hbinding
      cases kind <;> cases hbinding
    · intro kind hkind
      cases kind with
      | brightness | settings => rfl
      | user | time | battery | certificate => cases hkind
  exact hkept.addAll clock rfl fun kind => .inl kind.mem_all

structure CommandLine where
  surroundings : Surroundings
  disk : Disk
  words : List String

def afterAll (s : Session) : List CommandLine → Session
  | [] => s
  | l :: rest => (s.runArguments l.surroundings l.disk l.words).session.afterAll rest

theorem Settled.afterAll {s : Session} (h : Settled hides s) (lines : List CommandLine) :
    Settled hides (s.afterAll lines) := by
  induction lines generalizing s with
  | nil => exact h
  | cons l rest ih => exact ih (h.runArguments l.surroundings l.disk l.words)

/-- Two settled sessions over the same store, for the same user and with the same texts, agree on
the derived tiles, however they came about. -/
theorem Settled.agree {s t : Session} {hides' : Bool} (hs : Settled hides s)
    (ht : Settled hides' t) (hstore : t.panel.hub.store = s.panel.hub.store)
    (huser : t.panel.user = s.panel.user) (hcatalog : t.panel.catalog = s.panel.catalog)
    {kind : TileKind} (hkind : kind.isDerived = true) :
    t.panel.record kind = s.panel.record kind ∧ t.views.get kind = s.views.get kind := by
  have hcurrent : ∀ {hides : Bool} {s : Session}, Settled hides s →
      s.panel.UpToDate .brightness :=
    fun h => h.brightness.resolve_right (not_not_intro h.empty)
  have hmode : t.panel.brightnessMode = s.panel.brightnessMode := by
    rw [Panel.brightnessMode, Panel.brightnessMode, hstore, huser]
  have hrecord : t.panel.record kind = s.panel.record kind := by
    cases kind with
    | brightness =>
      rw [hs.plain.record_brightness (hcurrent hs), ht.plain.record_brightness (hcurrent ht),
        hmode, hcatalog]
    | settings =>
      rw [hs.plain.record_settings hs.settings, ht.plain.record_settings ht.settings, hcatalog]
    | user | time | battery | certificate => cases hkind
  refine ⟨hrecord, ?_⟩
  rw [hs.views kind hkind, ht.views kind hkind, hrecord]

/-- The surroundings of the panel of a new session. -/
theorem surroundings_addAll (hides : Bool) (kinds : List TileKind) (p : Panel) :
    Panel.SameSurroundings p (Session.addAll hides kinds p).state := by
  induction kinds generalizing p with
  | nil => exact .refl p
  | cons kind rest ih => exact (p.retiles_add kind _).surroundings.trans (ih _)

/-- After every command line, whether it succeeded or failed, no event waits, all tiles are bound,
the watch is on the current user, and the brightness and settings tiles have the records and the
views that a session would have which is opened now, on the same store, for the current user and with
the texts that are in force. -/
theorem agrees_with_new (c : Config) (store : SettingsStore) (clock : String)
    (lines : List CommandLine) :
    let s := (Session.new c store clock).state.afterAll lines
    s.panel.hub.queue.pending = [] ∧ (∀ kind, s.panel.isBound kind = true) ∧
      s.panel.observedUser = some s.panel.user ∧
      ∀ (now : Config) (clock' : String), now.panel.initialUser = s.panel.user →
        now.strings = s.panel.catalog.table →
        let t := (Session.new now s.panel.hub.store clock').state
        ∀ kind ∈ [.brightness, .settings],
          t.panel.record kind = s.panel.record kind ∧ t.views.get kind = s.views.get kind := by
  intro s
  have hs : Settled c.panel.hidesWarning s := (settled_new c store clock).afterAll lines
  refine ⟨hs.empty, hs.bound, hs.tracks.observedUser hs.empty, ?_⟩
  intro now clock' huser hstrings t kind hkind
  have hderived : kind.isDerived = true := by
    simp only [List.mem_cons, List.not_mem_nil, or_false] at hkind
    rcases hkind with rfl | rfl <;> rfl
  let p := (Panel.new { store := s.panel.hub.store } now.panel.initialUser
    (Catalog.ofTable now.strings.entries).1).state
  have hsame : Panel.SameSurroundings p t.panel := surroundings_addAll _ _ p
  refine hs.agree (settled_new now s.panel.hub.store clock') ?_ ?_ ?_ hderived
  · exact hsame.store
  · exact hsame.user.trans huser
  · refine hsame.catalog.trans ?_
    change (Catalog.ofTable now.strings.entries).1 = _
    rw [hstrings, Catalog.ofTable_table]

end Shell.Session

end TilePanel
