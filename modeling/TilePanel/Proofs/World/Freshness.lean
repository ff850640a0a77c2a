import TilePanel.Proofs.Panel.Course
import TilePanel.Proofs.World.Pushes

/-!
Whoever writes settings, switches users, sends events or starts watches: as long as the queue lives
and events leave it by drains only, the brightness tile is never stale while the queue is empty. The
invariant is that of the panel, together with the lone watches, none of which may own the
registration of the panel's watch.
-/

namespace TilePanel

namespace Step

/-- Whether a step leaves the queue and the model alive, takes no event off the queue past the
model, and changes the store by writes of its own only. -/
def keepsParts : Step → Bool
  | replaceRow _ | dropTable | reopen _ | tryNext | next | dropQueue | dropModel | close => false
  | _ => true

end Step

def Effect.keepsParts : Effect → Bool
  | restore _ | take | dropQueue | reopen | tend .dropModel | tend .close => false
  | _ => true

/-- Whether a lone watch belongs to the store that is open and is not the watch of a panel. -/
def LoneWatch.Apart (l : LoneWatch) (p : Panel) : Prop :=
  l.isDetached = false ∧ ∀ id, l.watch.id? = some id →
    id < p.hub.registry.nextId ∧ p.watch.id? ≠ some id

theorem LoneWatch.Apart.renews {l : LoneWatch} {p q : Panel} (h : l.Apart p)
    (hrenews : p.Renews q) : l.Apart q := by
  refine ⟨h.1, ?_⟩
  intro id hid
  obtain ⟨hbelow, hother⟩ := h.2 id hid
  refine ⟨Nat.lt_of_lt_of_le hbelow hrenews.nextId, ?_⟩
  rcases hrenews.watch with hsame | ⟨new, hnew, hfresh⟩
  · rw [hsame]
    exact hother
  · rw [hnew]
    intro heq
    obtain rfl := Option.some.inj heq
    omega

namespace World

def around (hub : Hub) (user : UserId) (catalog : Catalog) : World :=
  { panel := (Panel.new hub user catalog).state }

/-- The panel is there and tracked, and every lone watch is apart from it. -/
structure Tracks (w : World) : Prop where
  hasModel : w.hasModel = true
  attached : w.isDetached = false
  panel : w.panel.Tracks
  apart : ∀ l ∈ w.loneWatches, l.Apart w.panel

/-- A step of which it is known how it moves the panel on. -/
structure Follows (w : World) (kinds : List TileKind) (w' : World) : Prop where
  course : w.panel.Course kinds w'.panel
  hasModel : w'.hasModel = w.hasModel
  attached : w'.isDetached = w.isDetached
  apart : ∀ l ∈ w'.loneWatches, l ∈ w.loneWatches ∨ l.Apart w'.panel

theorem Follows.tracks {w w' : World} {kinds : List TileKind} (hfollows : Follows w kinds w')
    (h : w.Tracks) : w'.Tracks := by
  refine ⟨hfollows.hasModel.trans h.hasModel, hfollows.attached.trans h.attached,
    hfollows.course.tracks h.panel, ?_⟩
  intro l hl
  rcases hfollows.apart l hl with hold | hnew
  · exact (h.apart l hold).renews (hfollows.course.renews h.panel)
  · exact hnew

theorem follows_refl (w : World) : Follows w [] w :=
  ⟨.refl _, rfl, rfl, fun _ hl => .inl hl⟩

theorem follows_panel {w : World} {kinds : List TileKind} {panel : Panel}
    (hcourse : w.panel.Course kinds panel) : Follows w kinds { w with panel } :=
  ⟨hcourse, rfl, rfl, fun _ hl => .inl hl⟩

/-- Several watches of the open store give their registrations back. -/
theorem foldl_releaseWatch (ls : List LoneWatch) (w : World)
    (hattached : ∀ l ∈ ls, l.isDetached = false) :
    ls.foldl (fun w l => w.releaseWatch l.watch l.isDetached) w =
      { w with panel := { w.panel with
        hub := (ls.map LoneWatch.watch).foldl (fun h v => v.release h) w.panel.hub } } := by
  induction ls generalizing w with
  | nil => rfl
  | cons l rest ih =>
    rw [List.foldl_cons, ih _ fun m hm => hattached m (List.mem_cons_of_mem _ hm)]
    simp [releaseWatch, onHub, hattached l List.mem_cons_self, Outcome.mapState]

private theorem follows_dropLoneWatches {w : World} (h : w.Tracks) (name : String) :
    Follows w [] (w.dropLoneWatches name) := by
  have hdropped : ∀ l ∈ w.loneWatches.filter (fun l => l.name == name), l ∈ w.loneWatches :=
    fun l hl => (List.mem_filter.mp hl).1
  have hfold := foldl_releaseWatch _ w fun l hl => (h.apart l (hdropped l hl)).1
  have hkeeps : ∀ id, w.panel.watch.id? = some id → w.panel.hub.Keeps id
      (((w.loneWatches.filter fun l => l.name == name).map LoneWatch.watch).foldl
        (fun h v => v.release h) w.panel.hub) := by
    intro id hid
    apply Hub.keeps_releaseAll
    intro v hv hsame
    obtain ⟨l, hl, rfl⟩ := List.mem_map.mp hv
    exact ((h.apart l (hdropped l hl)).2 id hsame).2 hid
  unfold dropLoneWatches
  rw [hfold]
  refine ⟨.rehub _ hkeeps, rfl, rfl, ?_⟩
  intro l hl
  exact .inl (List.mem_filter.mp hl).1

private theorem apart_idle (p : Panel) (name : String) : ({ name } : LoneWatch).Apart p :=
  ⟨rfl, fun _ hid => by cases hid⟩

private theorem follows_newWatch {w : World} (h : w.Tracks) (name : String) :
    Follows w [] (w.newWatch name) := by
  have hdropped := follows_dropLoneWatches h name
  refine ⟨hdropped.course, hdropped.hasModel, hdropped.attached, ?_⟩
  intro l hl
  rcases List.mem_append.mp hl with hl | hl
  · exact hdropped.apart l hl
  · obtain rfl := List.mem_singleton.mp hl
    exact .inr (apart_idle _ name)

private theorem follows_startWatch {w : World} (h : w.Tracks) (name : String) (user : UserId) :
    Follows w [] (w.startWatch name user).state := by
  unfold startWatch
  cases hfind : w.loneWatches.find? (fun l => l.name == name) with
  | none => exact follows_refl w
  | some l =>
    obtain ⟨hattached, hapart⟩ := h.apart l (List.mem_of_find?_eq_some hfind)
    have hkeeps : ∀ id, w.panel.watch.id? = some id →
        w.panel.hub.Keeps id (l.watch.start w.panel.hub user).state :=
      fun id hid => Hub.keeps_start (fun hsame => (hapart id hsame).2 hid) user
    have hcourse : w.panel.Course []
        { w.panel with hub := (l.watch.start w.panel.hub user).state } := .rehub _ hkeeps
    simp only [onHub, hattached, Bool.false_eq_true, if_false, Outcome.state_mapState,
      Outcome.answer_mapState]
    refine ⟨hcourse, rfl, rfl, ?_⟩
    intro m hm
    obtain ⟨m', hm', rfl⟩ := List.mem_map.mp hm
    split
    · -- The number of the new registration is the next one, which nobody has yet.
      right
      refine ⟨(h.apart m' hm').1, ?_⟩
      intro id hid
      rw [BrightnessWatch.answer_start] at hid
      obtain rfl := Option.some.inj hid
      obtain ⟨owner, own, hwatch, hserves, _⟩ := h.panel.watching
      refine ⟨?_, ?_⟩
      · change _ < (l.watch.start w.panel.hub user).state.registry.nextId
        rw [BrightnessWatch.nextId_start]
        exact Nat.lt_succ_self _
      · change w.panel.watch.id? ≠ _
        rw [hwatch]
        intro heq
        have hown : own = w.panel.hub.registry.nextId := Option.some.inj heq
        have hbelow := hserves.numbered
        omega
    · exact .inl hm'

theorem onModel_of_attached {α : Type} {w : World} (hattached : w.isDetached = false)
    (f : Panel → Outcome Panel α) :
    w.onModel f = (f w.panel).mapState fun panel => { w with panel } := by
  unfold onModel
  rw [hattached]
  rfl

theorem dropModel_of_attached {w : World} (hattached : w.isDetached = false) :
    w.dropModel = { w with
      panel := { w.panel with hub := w.panel.watch.release w.panel.hub, watch := .idle }
      hasModel := false } := by
  simp [dropModel, releaseWatch, onHub, hattached]

theorem keepsParts_effect (w : World) {s : Step} (hs : s.keepsParts = true) :
    (w.effect s).keepsParts = true := by
  cases s with
  | replaceRow | dropTable | reopen | tryNext | next | dropQueue | dropModel | close => cases hs
  | send | drain | switchUser | operate | newWatch =>
    simp only [effect, Effect.apply_onlyIf Effect.keepsParts]
    simp [Effect.keepsParts]
  | _ => rfl

/-- What an effect does to the panel and to the lone watches. -/
theorem Leads.follows {w w' : World} {e : Effect} {journal : List Activity}
    (hleads : w.Leads e journal w') (h : w.Tracks) (he : e.keepsParts = true) :
    Follows w (e.concerned w) w' := by
  cases hleads with
  | restore | take | dropQueue | reopen => cases he
  | nothing => exact follows_refl w
  | demand d => exact follows_panel (.rehub _ fun id _ => (d.evolves_run w.panel.hub).keeps id)
  | retext catalog => exact follows_panel (.texts catalog)
  | switchUser _ user => exact follows_panel (.switch user)
  | drain =>
    rw [onModel_of_attached h.attached]
    exact follows_panel .drain
  | operate _ op =>
    rw [onModel_of_attached h.attached]
    exact follows_panel (.operate op)
  | tend t =>
    cases t with
    | dropModel | close => cases he
    | newWatch name => exact follows_newWatch h name
    | startWatch name user => exact follows_startWatch h name user
    | dropWatch name => exact follows_dropLoneWatches h name

theorem follows_step {w : World} (h : w.Tracks) {s : Step} (hs : s.keepsParts = true) :
    Follows w (w.concernedBy s) (w.step s).state := by
  rw [concernedBy_eq]
  exact (w.leads_step s).follows h (w.keepsParts_effect hs)

/-- A step that reads the brightness settings concerns the brightness tile. -/
theorem concernedBy_of_isReading {w : World} {s : Step} {a : Activity}
    (ha : a ∈ (w.step s).journal) (hreading : a.isReading = true) :
    .brightness ∈ w.concernedBy s :=
  (w.repaints_step s).read a ha hreading

/-- From the first reading of the brightness settings on the tile is settled. -/
theorem settled_run {w : World} (h : w.Tracks) {steps : List Step}
    (hsteps : ∀ s ∈ steps, s.keepsParts = true) :
    (w.run steps).1.Tracks ∧
      (w.panel.Settled ∨ (∃ a ∈ journalOf (w.run steps).2, a.isReading = true) →
        (w.run steps).1.panel.Settled) := by
  induction steps generalizing w with
  | nil =>
    refine ⟨h, ?_⟩
    rintro (hsettled | ⟨a, ha, _⟩)
    · exact hsettled
    · simp [run, journalOf] at ha
  | cons s rest ih =>
    have hfollows := follows_step h (hsteps s List.mem_cons_self)
    obtain ⟨htracks, hlast⟩ :=
      ih (hfollows.tracks h) fun t ht => hsteps t (List.mem_cons_of_mem _ ht)
    refine ⟨htracks, ?_⟩
    rintro (hsettled | ⟨a, ha, hreading⟩)
    · exact hlast (.inl (hfollows.course.settled h.panel (.inl hsettled)))
    · simp only [run, journalOf, List.flatMap_cons, List.mem_append] at ha
      rcases ha with ha | ha
      · have hconcerned := concernedBy_of_isReading ha hreading
        exact hlast (.inl (hfollows.course.settled h.panel (.inr hconcerned)))
      · exact hlast (.inr ⟨a, ha, hreading⟩)

theorem tracks_around {hub : Hub} (hnumbered : hub.Numbered) (hopen : hub.queue.isOpen = true)
    (user : UserId) (catalog : Catalog) : (World.around hub user catalog).Tracks :=
  ⟨rfl, rfl, Panel.tracks_new hnumbered hopen user catalog, fun _ hl => by cases hl⟩

/-- The brightness tile never goes stale. Let a panel be built over any hub whose queue is open and
whose numbers are in order, and let anything happen after that, except that the queue or the model
end, that events are taken past the model, or that the store is changed from outside. Whenever the
queue is empty, the watch is on the current user, and once the settings were read, the tile shows
the mode that is stored for this user, with its icon. -/
theorem brightness_never_stale {hub : Hub} (hnumbered : hub.Numbered)
    (hopen : hub.queue.isOpen = true) (user : UserId) (catalog : Catalog) {steps : List Step}
    (hsteps : ∀ s ∈ steps, s.keepsParts = true) :
    let ran := (World.around hub user catalog).run steps
    let p := ran.1.panel
    p.hub.queue.pending = [] →
      p.observedUser = some p.user ∧
      ((∃ a ∈ journalOf ran.2, a.isReading = true) →
        ∃ b, p.record .brightness = .brightness b ∧
          b.automatic = (p.hub.store.readInt Setting.mode 0 p.user == 1) ∧
          b.base.icon = some (if b.automatic then .brightnessAutoOn else .brightnessAutoOff)) := by
  intro ran p hempty
  obtain ⟨htracks, hsettled⟩ := settled_run (tracks_around hnumbered hopen user catalog) hsteps
  refine ⟨htracks.panel.observedUser hempty, ?_⟩
  intro hread
  rcases hsettled (.inr hread) with hshows | hne
  · exact hshows
  · exact absurd hempty hne

/-- A switch, and a write for the new user before the watch has moved. -/
def lateWrite : List Step :=
  [.operate .refreshBrightness, .switchUser ⟨10⟩, .putInt Setting.mode 1 ⟨10⟩, .drain]

/-- The write for the new user comes while the watch still observes the old one, and the tile shows
it after the drain. -/
theorem brightness_fresh_after_lateWrite :
    let ran := (World.around {} .owner {}).run lateWrite
    let p := ran.1.panel
    (∀ s ∈ lateWrite, s.keepsParts = true) ∧ p.hub.queue.pending = [] ∧
      p.observedUser = some ⟨10⟩ ∧ (∃ a ∈ journalOf ran.2, a.isReading = true) ∧
      ∃ b, p.record .brightness = .brightness b ∧ b.automatic = true := by
  intro ran p
  have hsteps : ∀ s ∈ lateWrite, s.keepsParts = true := by simp [lateWrite, Step.keepsParts]
  have hempty : p.hub.queue.pending = [] := by decide +kernel
  have hread : ∃ a ∈ journalOf ran.2, a.isReading = true := by
    rw [← List.any_eq_true]
    decide +kernel
  have hmode : (p.hub.store.readInt Setting.mode 0 p.user == 1) = true := by decide +kernel
  have huser : p.user = ⟨10⟩ := by decide +kernel
  obtain ⟨hobserved, hshows⟩ :=
    brightness_never_stale (Hub.numbered_ofStore _) rfl .owner {} hsteps hempty
  obtain ⟨b, hb, hautomatic, _⟩ := hshows hread
  refine ⟨hsteps, hempty, ?_, hread, b, hb, hautomatic.trans hmode⟩
  rw [hobserved, huser]

end World

end TilePanel
