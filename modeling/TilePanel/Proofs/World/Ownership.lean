import TilePanel.Proofs.World.Registrations

/-!
Every registration that posts belongs to a brightness watch that is alive, at the store that is open
as well as at those that were opened before it, whatever happens. So nobody is left who could post
an event once the panel and the lone watches, the tracker and the sender are gone.
-/

namespace TilePanel

/-- What may happen around a queue: what may happen around a store, and the tracker or the sender
ends. -/
inductive Incident
  | happens (e : Happening)
  | endTracker
  | endSender

namespace Panel

/-- Whether the registrations that post still belong to the watch of the panel and to others, whoever
these others are. -/
def KeepsPosters (p q : Panel) : Prop :=
  ∀ others : BrightnessWatch → Prop,
    PostersOf p.hub.registry.entries (fun u => u = p.watch ∨ others u) →
      PostersOf q.hub.registry.entries (fun u => u = q.watch ∨ others u)

namespace KeepsPosters

variable {p q : Panel}

theorem of_same (hregistry : q.hub.registry = p.hub.registry) (hwatch : q.watch = p.watch) :
    KeepsPosters p q := by
  intro others h
  rw [hregistry, hwatch]
  exact h

theorem moveWatch (p : Panel) : KeepsPosters p p.moveWatch :=
  fun _ h => h.start p.user

theorem operate (op : Operation) (p : Panel) : KeepsPosters p (op.run p).state := by
  rcases op.run_cases p with ⟨slots, hstays⟩ | ⟨slots, hmoves⟩
  · rw [hstays]
    exact of_same rfl rfl
  · rw [hmoves]
    exact moveWatch p

theorem drain (p : Panel) : KeepsPosters p p.drain.state := by
  refine drain_rel (fun _ => of_same rfl rfl) ?_ ?_ p
  · exact fun hfirst hnext others h => hnext others (hfirst others h)
  · exact fun p e rest _ => operate (.handle e) (p.withPending rest)

end KeepsPosters

end Panel

namespace World

def meet (w : World) : Incident → World
  | .happens e => w.happen e
  | .endTracker => { w with hasTracker := false }
  | .endSender => { w with hasSender := false }

def meetAll (w : World) (incidents : List Incident) : World :=
  incidents.foldl meet w

/-- The registrations at the store that is open, or those at all the earlier ones. -/
def registrations (w : World) (isDetached : Bool) : List Registration :=
  if isDetached then w.attic else w.panel.hub.registry.entries

/-- The hub as it is for those who belong to the store that is open, or to an earlier one. -/
def hubOf (w : World) (isDetached : Bool) : Hub :=
  if isDetached then (swapRegistry w.attic w.panel.hub).2 else w.panel.hub

def HasLone (w : World) (isDetached : Bool) (v : BrightnessWatch) : Prop :=
  ∃ l ∈ w.loneWatches, l.isDetached = isDetached ∧ l.watch = v

def Has (w : World) (isDetached : Bool) (v : BrightnessWatch) : Prop :=
  (w.isDetached = isDetached ∧ v = w.panel.watch) ∨ w.HasLone isDetached v

/-- Whether a watch is that of the panel or a lone one of another name. -/
def HasBeside (w : World) (name : String) (isDetached : Bool) (v : BrightnessWatch) : Prop :=
  (w.isDetached = isDetached ∧ v = w.panel.watch) ∨
    ∃ l ∈ w.loneWatches, l.name ≠ name ∧ l.isDetached = isDetached ∧ l.watch = v

/-- Every registration that posts belongs to the panel or to a lone watch, at each store. -/
structure Owned (w : World) : Prop where
  named : (w.loneWatches.map LoneWatch.name).Nodup
  ended : w.hasModel = false → w.panel.watch = .idle
  owned : ∀ d, PostersOf (w.registrations d) (w.Has d)

variable {w w' : World}

theorem entries_hubOf (w : World) (d : Bool) :
    (w.hubOf d).registry.entries = w.registrations d := by
  cases d <;> rfl

/-- Something on the hub changes the registrations at one store only. -/
theorem registrations_onHub {α : Type} (w : World) (d : Bool) (f : Hub → Outcome Hub α) :
    (w.onHub d f).answer = (f (w.hubOf d)).answer ∧
      (w.onHub d f).state.registrations d = (f (w.hubOf d)).state.registry.entries ∧
      ∀ e, e ≠ d → (w.onHub d f).state.registrations e = w.registrations e := by
  refine ⟨?_, ?_, ?_⟩
  · cases d <;> rfl
  · cases d <;> rfl
  · intro e he
    cases d <;> cases e <;> first | rfl | exact absurd rfl he

/-- An operation of the model changes its panel and the registrations at the store that it belongs
to. -/
theorem state_onModel {α : Type} (w : World) (f : Panel → Outcome Panel α) :
    let p : Panel := { w.panel with hub := w.hubOf w.isDetached }
    (∃ hub attic, (w.onModel f).state = { w with panel := { (f p).state with hub }, attic }) ∧
      (w.onModel f).state.registrations w.isDetached = (f p).state.hub.registry.entries ∧
      ∀ e, e ≠ w.isDetached → (w.onModel f).state.registrations e = w.registrations e := by
  cases w with | mk panel hasModel hasTracker hasSender isDetached loneWatches attic =>
  refine ⟨?_, ?_, ?_⟩
  · cases isDetached <;> exact ⟨_, _, rfl⟩
  · cases isDetached <;> rfl
  · intro e he
    cases isDetached <;> cases e <;> first | rfl | exact absurd rfl he

/-- A watch gives its registration back. -/
private theorem posters_releaseWatch {others : Bool → BrightnessWatch → Prop} {v : BrightnessWatch}
    {d : Bool} (h : ∀ e, PostersOf (w.registrations e) fun u => (d = e ∧ u = v) ∨ others e u)
    (e : Bool) : PostersOf ((w.releaseWatch v d).registrations e) (others e) := by
  obtain ⟨_, hself, hother⟩ :=
    w.registrations_onHub d fun h => (⟨v.release h, (), []⟩ : Outcome Hub Unit)
  unfold releaseWatch
  by_cases he : e = d
  · subst he
    rw [hself]
    refine PostersOf.release ?_
    rw [entries_hubOf]
    exact (h e).imp fun u hu => hu.imp_left And.right
  · rw [hother e he]
    refine (h e).imp ?_
    rintro u (⟨hd, _⟩ | hu)
    · exact absurd hd.symm he
    · exact hu

private theorem posters_foldl_releaseWatch {others : Bool → BrightnessWatch → Prop}
    (ls : List LoneWatch) (h : ∀ e, PostersOf (w.registrations e) fun u =>
      (∃ l ∈ ls, l.isDetached = e ∧ l.watch = u) ∨ others e u) (e : Bool) :
    PostersOf ((ls.foldl (fun w l => w.releaseWatch l.watch l.isDetached) w).registrations e)
      (others e) := by
  induction ls generalizing w with
  | nil =>
    refine (h e).imp ?_
    rintro u (⟨l, hl, _⟩ | hu)
    · cases hl
    · exact hu
  | cons l rest ih =>
    refine ih (posters_releaseWatch fun e => (h e).imp ?_)
    rintro u (⟨m, hm, hd, rfl⟩ | hu)
    · rcases List.mem_cons.mp hm with rfl | hm
      · exact .inl ⟨hd, rfl⟩
      · exact .inr (.inl ⟨m, hm, hd, rfl⟩)
    · exact .inr (.inr hu)

/-- Names are given once, so that the watch of a name is the only one that goes when the name is
dropped. -/
theorem Has.beside {l : LoneWatch} {d : Bool} {u : BrightnessWatch}
    (hnamed : (w.loneWatches.map LoneWatch.name).Nodup) (hl : l ∈ w.loneWatches)
    (hu : w.Has d u) : (l.isDetached = d ∧ u = l.watch) ∨ w.HasBeside l.name d u := by
  rcases hu with hpanel | ⟨m, hm, hd, rfl⟩
  · exact .inr (.inl hpanel)
  · by_cases hname : m.name = l.name
    · obtain rfl := List.inj_on_of_nodup_map hnamed hm hl hname
      exact .inl ⟨hd, rfl⟩
    · exact .inr (.inr ⟨m, hm, hname, hd, rfl⟩)

/-- A lone watch that is started has another watch, and the panel and those of other names keep
theirs. -/
private theorem has_restarted {l : LoneWatch} {a u : BrightnessWatch} {d : Bool}
    (hl : l ∈ w.loneWatches)
    (hdetached : w'.isDetached = w.isDetached) (hwatch : w'.panel.watch = w.panel.watch)
    (hlone : w'.loneWatches =
      w.loneWatches.map fun m => if m.name == l.name then { m with watch := a } else m)
    (hu : (l.isDetached = d ∧ u = a) ∨ w.HasBeside l.name d u) : w'.Has d u := by
  rw [Has, HasLone, hdetached, hwatch, hlone]
  rcases hu with ⟨hd, rfl⟩ | hpanel | ⟨m, hm, hname, hd, rfl⟩
  · exact .inr ⟨_, List.mem_map_of_mem hl, by simpa using hd, by simp⟩
  · exact .inl hpanel
  · refine .inr ⟨m, List.mem_map.mpr ⟨m, hm, ?_⟩, hd, rfl⟩
    simp [hname]

namespace Owned

theorem of_panel {panel : Panel} (h : w.Owned)
    (hregistry : panel.hub.registry = w.panel.hub.registry) (hwatch : panel.watch = w.panel.watch) :
    ({ w with panel } : World).Owned := by
  refine ⟨h.named, fun hmodel => hwatch.trans (h.ended hmodel), fun d => ?_⟩
  have hentries : ({ w with panel } : World).registrations d = w.registrations d := by
    simp only [registrations, hregistry]
  rw [hentries]
  exact (h.owned d).imp fun u hu => hu.imp_left fun hpanel => ⟨hpanel.1, hpanel.2.trans hwatch.symm⟩

theorem rehub {hub : Hub} {j : List Activity} (h : w.Owned)
    (hkeeps : w.panel.hub.KeepsPosters j hub) :
    ({ w with panel := { w.panel with hub } } : World).Owned := by
  refine ⟨h.named, h.ended, fun d => ?_⟩
  cases d with
  | false => exact (h.owned false).of_keepsPosters hkeeps
  | true => exact h.owned true

/-- An operation of the model. -/
theorem onModel {α : Type} {f : Panel → Outcome Panel α} (h : w.Owned)
    (hmodel : w.hasModel = true) (hf : ∀ p : Panel, p.KeepsPosters (f p).state) :
    (w.onModel f).state.Owned := by
  obtain ⟨⟨hub, attic, hstate⟩, hself, hother⟩ := w.state_onModel f
  have hwatches : ∀ d u, (w.onModel f).state.Has d u ↔
      (w.isDetached = d ∧ u = (f { w.panel with hub := w.hubOf w.isDetached }).state.watch) ∨
        w.HasLone d u := by
    rw [hstate]
    exact fun _ _ => Iff.rfl
  refine ⟨?_, ?_, fun d => ?_⟩
  · rw [hstate]
    exact h.named
  · rw [hstate]
    exact fun hended => absurd hmodel (by simpa using hended)
  · by_cases hd : d = w.isDetached
    · subst hd
      rw [hself]
      have hbefore : PostersOf (w.hubOf w.isDetached).registry.entries
          fun u => u = w.panel.watch ∨ w.HasLone w.isDetached u := by
        rw [entries_hubOf]
        exact (h.owned w.isDetached).imp fun u hu => hu.imp_left And.right
      refine (hf _ (w.HasLone w.isDetached) hbefore).imp fun u hu => (hwatches _ u).mpr ?_
      exact hu.imp_left fun hwatch => ⟨rfl, hwatch⟩
    · rw [hother d hd]
      refine (h.owned d).imp fun u hu => (hwatches d u).mpr ?_
      exact hu.imp_left fun hpanel => absurd hpanel.1.symm hd

theorem dropModel (h : w.Owned) : w.dropModel.Owned := by
  obtain ⟨hub, attic, hstate, _⟩ := w.state_releaseWatch w.panel.watch w.isDetached
  have hreleased := posters_releaseWatch h.owned
  have hlone : w.dropModel.loneWatches = w.loneWatches := by
    simp only [World.dropModel, hstate]
  refine ⟨hlone ▸ h.named, fun _ => rfl, fun d => ?_⟩
  have hentries : w.dropModel.registrations d =
      (w.releaseWatch w.panel.watch w.isDetached).registrations d := by
    cases d <;> rfl
  rw [hentries]
  refine (hreleased d).imp fun u hu => .inr ?_
  rw [HasLone, hlone]
  exact hu

/-- Lone watches are dropped, and the others stay. -/
theorem releaseLone {dropped kept : List LoneWatch} (h : w.Owned)
    (hkept : kept.Sublist w.loneWatches) (hall : ∀ l ∈ w.loneWatches, l ∈ dropped ∨ l ∈ kept) :
    ({ dropped.foldl (fun w l => w.releaseWatch l.watch l.isDetached) w with
      loneWatches := kept } : World).Owned := by
  obtain ⟨hub, attic, hstate, _⟩ := state_foldl_releaseWatch dropped w
  have hposters : ∀ e, PostersOf (w.registrations e) fun u =>
      (∃ l ∈ dropped, l.isDetached = e ∧ l.watch = u) ∨
        ((w.isDetached = e ∧ u = w.panel.watch) ∨ ∃ l ∈ kept, l.isDetached = e ∧ l.watch = u) := by
    refine fun e => (h.owned e).imp ?_
    rintro u (hpanel | ⟨l, hl, hlone⟩)
    · exact .inr (.inl hpanel)
    · rcases hall l hl with hdropped | hkept
      · exact .inl ⟨l, hdropped, hlone⟩
      · exact .inr (.inr ⟨l, hkept, hlone⟩)
  have hreleased := posters_foldl_releaseWatch dropped hposters
  rw [hstate] at hreleased ⊢
  refine ⟨h.named.sublist (hkept.map _), h.ended, fun d => ?_⟩
  have hentries : ∀ v : World, ({ v with loneWatches := kept } : World).registrations d =
      v.registrations d := fun _ => rfl
  rw [hentries]
  exact hreleased d

theorem dropLoneWatches (h : w.Owned) (name : String) : (w.dropLoneWatches name).Owned := by
  unfold World.dropLoneWatches
  simp only [loneWatches_foldl_releaseWatch]
  refine h.releaseLone List.filter_sublist fun l hl => ?_
  by_cases hname : l.name = name
  · exact .inl (List.mem_filter.mpr ⟨hl, by simp [hname]⟩)
  · exact .inr (List.mem_filter.mpr ⟨hl, by simp [hname]⟩)

theorem close (h : w.Owned) : w.close.Owned := by
  have hdropped : w.dropModel.dropAllLoneWatches.Owned :=
    h.dropModel.releaseLone (List.nil_sublist _) fun l hl => .inl hl
  exact ⟨hdropped.named, hdropped.ended, hdropped.owned⟩

theorem newWatch (h : w.Owned) (name : String) : (w.newWatch name).Owned := by
  have hdropped := h.dropLoneWatches name
  refine ⟨nodup_names_newWatch hdropped.named, hdropped.ended, fun d => ?_⟩
  refine PostersOf.imp (hdropped.owned d) fun u hu => hu.imp_right ?_
  exact fun ⟨l, hl, hlone⟩ => ⟨l, List.mem_append_left _ hl, hlone⟩

/-- The watch of that name gives its registration back and owns another one, and the others keep
theirs. -/
theorem startWatch (h : w.Owned) (name : String) (user : UserId) :
    (w.startWatch name user).state.Owned := by
  unfold World.startWatch
  cases hfind : w.loneWatches.find? (fun l => l.name == name) with
  | none => exact h
  | some l =>
    have hl : l ∈ w.loneWatches := List.mem_of_find?_eq_some hfind
    obtain rfl : l.name = name := by simpa using List.find?_some hfind
    obtain ⟨hub, attic, hstate, _⟩ := w.state_onHub l.isDetached fun h => l.watch.start h user
    obtain ⟨hanswer, hself, hother⟩ :=
      w.registrations_onHub l.isDetached fun h => l.watch.start h user
    dsimp only
    generalize ho : w.onHub l.isDetached (fun h => l.watch.start h user) = o at *
    refine ⟨?_, ?_, fun d => ?_⟩
    · exact (names_restarted l.name o.answer w.loneWatches) ▸ h.named
    · rw [hstate]
      exact h.ended
    · have hregistrations : ∀ ls, ({ o.state with loneWatches := ls } : World).registrations d =
          o.state.registrations d := fun _ => rfl
      rw [hregistrations]
      have hdetached : o.state.isDetached = w.isDetached := by rw [hstate]
      have hwatch : o.state.panel.watch = w.panel.watch := by rw [hstate]
      have hafter : ∀ u, (l.isDetached = d ∧ u = o.answer) ∨ w.HasBeside l.name d u →
          ({ o.state with loneWatches := w.loneWatches.map fun m =>
            if m.name == l.name then { m with watch := o.answer } else m } : World).Has d u :=
        fun _ => has_restarted hl hdetached hwatch rfl
      by_cases hd : d = l.isDetached
      · subst hd
        have hown : PostersOf (w.hubOf l.isDetached).registry.entries
            fun u => u = l.watch ∨ w.HasBeside l.name l.isDetached u := by
          rw [entries_hubOf]
          exact (h.owned l.isDetached).imp fun u hu => (hu.beside h.named hl).imp_left And.right
        rw [hself]
        refine (hown.start user).imp fun u hu => hafter u ?_
        exact hu.imp_left fun hstarted => ⟨rfl, hstarted.trans hanswer.symm⟩
      · rw [hother d hd]
        refine (h.owned d).imp fun u hu => hafter u (.inr ?_)
        rcases hu.beside h.named hl with ⟨hsame, _⟩ | hu
        · exact absurd hsame.symm hd
        · exact hu

/-- The registrations so far, and those who own them, belong to an earlier opening from now on. -/
theorem reopen (h : w.Owned) : w.reopen.Owned := by
  refine ⟨?_, h.ended, fun d => ?_⟩
  · have hnames : (w.loneWatches.map fun l => { l with isDetached := true }).map LoneWatch.name =
        w.loneWatches.map LoneWatch.name := by
      rw [List.map_map]
      rfl
    exact hnames ▸ h.named
  · have hall : ∀ e u, w.Has e u → w.reopen.Has true u := by
      rintro e u (⟨_, hpanel⟩ | ⟨l, hl, _, rfl⟩)
      · exact .inl ⟨rfl, hpanel⟩
      · exact .inr ⟨_, List.mem_map_of_mem hl, rfl, rfl⟩
    cases d with
    | false => exact fun r hr => nomatch hr
    | true =>
      intro r hr hposter
      rcases List.mem_append.mp hr with hr | hr
      · exact (h.owned true).imp (hall true) r hr hposter
      · exact (h.owned false).imp (hall false) r hr hposter

/-- A panel is built where there was none, so that nobody loses a registration. -/
theorem build (h : w.Owned) : w.build.Owned := by
  unfold World.build
  by_cases hmodel : w.hasModel = true
  · rw [if_pos hmodel]
    exact h
  · rw [if_neg hmodel]
    have hidle : w.panel.watch = .idle := h.ended (Bool.eq_false_iff.mpr hmodel)
    have hlone : ∀ d, PostersOf (w.registrations d) fun u => u = .idle ∨ w.HasLone d u := by
      refine fun d => (h.owned d).imp fun u hu => hu.imp_left fun hpanel => ?_
      exact hpanel.2.trans hidle
    refine ⟨h.named, (fun hended => nomatch hended), fun d => ?_⟩
    cases d with
    | false =>
      refine ((hlone false).start (h := w.panel.hub) w.panel.user).imp fun u hu => ?_
      exact hu.imp_left fun hstarted => ⟨rfl, hstarted⟩
    | true =>
      intro r hr hposter
      obtain ⟨u, rfl | hu, hid⟩ := hlone true r hr hposter
      · cases hid
      · exact ⟨u, .inr hu, hid⟩

/-- Others make no registration that posts, and those who hold a watch own what it makes. -/
theorem of_leads {e : Effect} {journal : List Activity} (h : w.Owned)
    (hleads : w.Leads e journal w') : w'.Owned := by
  cases hleads with
  | nothing => exact h
  | demand d => exact h.rehub (d.keepsPosters_run w.panel.hub)
  | restore | retext | take | dropQueue => exact h.of_panel rfl rfl
  | switchUser _ user =>
    obtain ⟨queue, hstate⟩ := w.panel.exists_queue_switchUser user
    rw [hstate]
    exact h.of_panel rfl rfl
  | drain _ hmodel => exact h.onModel hmodel Panel.KeepsPosters.drain
  | operate hmodel op => exact h.onModel hmodel (Panel.KeepsPosters.operate op)
  | reopen => exact h.reopen
  | tend t =>
    cases t with
    | dropModel => exact h.dropModel
    | close => exact h.close
    | newWatch name => exact h.newWatch name
    | startWatch name user => exact h.startWatch name user
    | dropWatch name => exact h.dropLoneWatches name

theorem meet (h : w.Owned) (i : Incident) : (w.meet i).Owned := by
  cases i with
  | endTracker | endSender => exact ⟨h.named, h.ended, h.owned⟩
  | happens e =>
    cases e with
    | build => exact h.build
    | step s => exact h.of_leads (w.leads_step s)

theorem meetAll (h : w.Owned) (incidents : List Incident) : (w.meetAll incidents).Owned := by
  induction incidents generalizing w with
  | nil => exact h
  | cons i rest ih => exact ih (h.meet i)

theorem new (store : SettingsStore) (path : Option String) (user : UserId)
    (texts : List (String × String)) (hasModel : Bool) :
    (World.new store path user texts hasModel).state.Owned := by
  have hnobody : ∀ watches, PostersOf ({ store } : Hub).registry.entries watches :=
    fun _ r hr => nomatch hr
  cases hasModel with
  | false => exact ⟨.nil, fun _ => rfl, fun d => by cases d <;> exact hnobody _⟩
  | true =>
    refine ⟨.nil, (fun hended => nomatch hended), fun d => ?_⟩
    cases d with
    | false =>
      have hnone : PostersOf ({ store } : Hub).registry.entries fun u => u = .idle ∨ False :=
        hnobody _
      refine (PostersOf.start (v := .idle) user hnone).imp ?_
      rintro u (hstarted | hnone)
      · exact .inl ⟨rfl, hstarted⟩
      · exact hnone.elim
    | true => exact fun r hr => nomatch hr

/-- No registration is left over when the panel and the lone watches are gone. -/
theorem hasPoster_iff (h : w.Owned) :
    w.hasPoster = true ↔ w.hasModel = true ∨ w.hasTracker = true ∨ w.hasSender = true ∨
      w.loneWatches ≠ [] := by
  have hnone : ∀ d, w.hasModel = false → w.loneWatches = [] →
      ((w.registrations d).any fun r => r.listener == .poster) = false := by
    intro d hmodel hlone
    refine Bool.eq_false_iff.mpr fun hany => ?_
    obtain ⟨r, hr, hposter⟩ := List.any_eq_true.mp hany
    obtain ⟨u, ⟨_, rfl⟩ | ⟨l, hl, _⟩, hid⟩ := h.owned d r hr hposter
    · rw [h.ended hmodel] at hid
      cases hid
    · rw [hlone] at hl
      cases hl
  have hopen := hnone false
  have hearlier := hnone true
  simp only [registrations, Bool.false_eq_true, if_false, if_true] at hopen hearlier
  unfold World.hasPoster Registry.hasPoster
  by_cases hmodel : w.hasModel = true
  · simp [hmodel]
  · by_cases hlone : w.loneWatches = []
    · simp [hlone, hopen (Bool.eq_false_iff.mpr hmodel) hlone,
        hearlier (Bool.eq_false_iff.mpr hmodel) hlone, or_assoc]
    · simp [hlone]

end Owned

end World

end TilePanel
