import TilePanel.Proofs.Hub.Demands
import TilePanel.Proofs.World.Freshness

/-!
The books on the registrations of one store, over everything that happens to it: writes and what
follows from them, watchers that come and go, lone watches that are made, started any number of
times and dropped, and panels that are built, moved from user to user and ended.
-/

namespace TilePanel

namespace Panel

/-- A panel that went on without others: the books stay right for its watch and any other ones. -/
structure KeepsBooks (p q : Panel) : Prop where
  books : ∀ {rest made gone}, p.hub.Books (p.watch :: rest) made gone →
    q.hub.Books (q.watch :: rest) made gone
  later : p.hub.Later q.hub

namespace KeepsBooks

variable {p q r : Panel}

theorem trans (h : KeepsBooks p q) (h' : KeepsBooks q r) : KeepsBooks p r :=
  ⟨fun hbooks => h'.books (h.books hbooks), h.later.trans h'.later⟩

theorem of_registry (hregistry : q.hub.registry = p.hub.registry)
    (hwatchers : q.hub.watchers = p.hub.watchers) (hwatch : q.watch = p.watch) :
    KeepsBooks p q := by
  refine ⟨?_, .of_registry hregistry⟩
  intro rest made gone hbooks
  rw [hwatch]
  exact hbooks.congr hregistry hwatchers

theorem refl (p : Panel) : KeepsBooks p p :=
  of_registry rfl rfl rfl

theorem moveWatch (p : Panel) : KeepsBooks p p.moveWatch :=
  ⟨fun hbooks => hbooks.start p.user, .start p.watch p.hub p.user⟩

theorem of_retiles (h : Retiles p q) : KeepsBooks p q := by
  obtain ⟨slots, rfl⟩ := h
  exact of_registry rfl rfl rfl

theorem operate (op : Operation) (p : Panel) : KeepsBooks p (op.run p).state := by
  rcases op.run_cases p with hstays | hmoves
  · exact of_retiles hstays
  · exact (moveWatch p).trans (of_retiles hmoves)

theorem drain (p : Panel) : KeepsBooks p p.drain.state := by
  refine drain_rel refl trans (fun p e rest _ => ?_) p
  have htaken : KeepsBooks p (p.withPending rest) := of_registry rfl rfl rfl
  exact htaken.trans (operate (.handle e) (p.withPending rest))

end KeepsBooks

end Panel

/-- What may happen around a store: a step, or a panel is built where there is none. -/
inductive Happening
  | step (s : Step)
  | build

/-- Whether something happens around the store that is open, and not around one that is opened
instead of it. -/
def Happening.keepsStore : Happening → Bool
  | step (.reopen _) => false
  | _ => true

namespace Effect

def keepsStore : Effect → Bool
  | reopen => false
  | _ => true

def made (w : World) : Effect → List Registration
  | demand d => d.made w.panel.hub
  | _ => []

def gone (w : World) : Effect → List Nat
  | demand d => d.gone w.panel.hub
  | _ => []

end Effect

namespace World

def build (w : World) : World :=
  if w.hasModel then w
  else { w with
    panel := (Panel.new w.panel.hub w.panel.user w.panel.catalog).state
    hasModel := true
    isDetached := false }

def happen (w : World) : Happening → World
  | .step s => (w.step s).state
  | .build => w.build

def happenAll (w : World) (hs : List Happening) : World :=
  hs.foldl happen w

/-- The registrations that others than brightness watches make while something happens. -/
def madeBy (w : World) : Happening → List Registration
  | .step (.watch name keys scope _) => [⟨w.panel.hub.registry.nextId, keys, scope, .watcher name⟩]
  | .step (.put key value user) => (w.panel.hub.tellingOfPut key value user).made
  | .step (.putInt key value user) =>
    (w.panel.hub.tellingOfPut key (settingText value) user).made
  | .step (.notify key user) => (w.panel.hub.tellingOfNotify key user).made
  | _ => []

def goneBy (w : World) : Happening → List Nat
  | .step (.unwatch name) => (w.panel.hub.idOf? name).toList
  | .step (.put key value user) => (w.panel.hub.tellingOfPut key value user).gone
  | .step (.putInt key value user) =>
    (w.panel.hub.tellingOfPut key (settingText value) user).gone
  | .step (.notify key user) => (w.panel.hub.tellingOfNotify key user).gone
  | _ => []

def madeByAll (w : World) : List Happening → List Registration
  | [] => []
  | e :: rest => w.madeBy e ++ (w.happen e).madeByAll rest

def goneByAll (w : World) : List Happening → List Nat
  | [] => []
  | e :: rest => w.goneBy e ++ (w.happen e).goneByAll rest

/-- The brightness watches that there are. A panel that ended has an idle one. -/
def watches (w : World) : List BrightnessWatch :=
  w.panel.watch :: w.loneWatches.map LoneWatch.watch

theorem loneWatches_foldl_releaseWatch (ls : List LoneWatch) (w : World) :
    (ls.foldl (fun w l => w.releaseWatch l.watch l.isDetached) w).loneWatches =
      w.loneWatches := by
  obtain ⟨hub, attic, hstate, _⟩ := state_foldl_releaseWatch ls w
  rw [hstate]

theorem names_restarted (name : String) (a : BrightnessWatch) (ls : List LoneWatch) :
    (ls.map fun m => if m.name == name then { m with watch := a } else m).map LoneWatch.name =
      ls.map LoneWatch.name := by
  rw [List.map_map]
  refine List.map_congr_left fun m _ => ?_
  simp only [Function.comp_apply]
  split <;> rfl

/-- A new watch takes a name that no other one has. -/
theorem nodup_names_newWatch {w : World} {name : String}
    (hnamed : ((w.dropLoneWatches name).loneWatches.map LoneWatch.name).Nodup) :
    ((w.newWatch name).loneWatches.map LoneWatch.name).Nodup := by
  simp only [newWatch, List.map_append, List.map_cons, List.map_nil]
  refine List.nodup_append.mpr ⟨hnamed, List.nodup_singleton name, ?_⟩
  intro other hother only honly hsame
  obtain rfl := List.mem_singleton.mp honly
  obtain ⟨l, hl, rfl⟩ := List.mem_map.mp hother
  have hkept := (List.mem_filter.mp hl).2
  simp [hsame] at hkept

/-- A lone watch that is started leaves those of other names as they are. -/
private theorem watches_restarted {ls : List LoneWatch} (hnamed : (ls.map LoneWatch.name).Nodup)
    {l : LoneWatch} (hl : l ∈ ls) (a : BrightnessWatch) :
    ∃ others, (ls.map LoneWatch.watch).Perm (l.watch :: others) ∧
      ((ls.map fun m => if m.name == l.name then { m with watch := a } else m).map
        LoneWatch.watch).Perm (a :: others) := by
  obtain ⟨before, after, rfl⟩ := List.append_of_mem hl
  rw [List.map_append, List.map_cons] at hnamed
  obtain ⟨_, hafter, hbefore⟩ := List.nodup_append.mp hnamed
  have hothers : ∀ ms : List LoneWatch, (∀ m ∈ ms, m.name ≠ l.name) →
      (ms.map fun m => if m.name == l.name then { m with watch := a } else m) = ms := by
    intro ms hms
    refine (List.map_congr_left fun m hm => ?_).trans (List.map_id _)
    simp [hms m hm]
  have hnotbefore : ∀ m ∈ before, m.name ≠ l.name := fun m hm =>
    hbefore m.name (List.mem_map_of_mem hm) l.name List.mem_cons_self
  have hnotafter : ∀ m ∈ after, m.name ≠ l.name := fun m hm hsame =>
    (List.nodup_cons.mp hafter).1 (hsame ▸ List.mem_map_of_mem hm)
  refine ⟨before.map LoneWatch.watch ++ after.map LoneWatch.watch, ?_, ?_⟩
  · rw [List.map_append, List.map_cons]
    exact List.perm_middle
  · rw [List.map_append, List.map_cons, hothers before hnotbefore, hothers after hnotafter,
      beq_self_eq_true, if_pos rfl, List.map_append, List.map_cons]
    exact List.perm_middle

/-- The books are right, and everybody belongs to the store that is open. -/
structure Accounted (w : World) (made : List Registration) (gone : List Nat) : Prop where
  attached : w.isDetached = false
  loneAttached : ∀ l ∈ w.loneWatches, l.isDetached = false
  named : (w.loneWatches.map LoneWatch.name).Nodup
  ended : w.hasModel = false → w.panel.watch = .idle
  books : w.panel.hub.Books w.watches made gone

/-- From one moment to another the books are kept, for what others made and gave back between. -/
structure Accounts (w : World) (made : List Registration) (gone : List Nat) (w' : World) :
    Prop where
  carries : ∀ {m g}, w.Accounted m g →
    w'.Accounted (m ++ made) (g ++ gone) ∧ w.panel.hub.Later w'.panel.hub

namespace Accounts

variable {w w' w'' : World} {made made' : List Registration} {gone gone' : List Nat}

theorem trans (hfirst : Accounts w made gone w') (hnext : Accounts w' made' gone' w'') :
    Accounts w (made ++ made') (gone ++ gone') w'' := by
  refine ⟨fun h => ?_⟩
  obtain ⟨hbetween, hlater⟩ := hfirst.carries h
  obtain ⟨hlast, hlatest⟩ := hnext.carries hbetween
  rw [List.append_assoc, List.append_assoc] at hlast
  exact ⟨hlast, hlater.trans hlatest⟩

/-- Nobody but brightness watches made or gave back registrations. -/
theorem of_quiet
    (h : ∀ {m g}, w.Accounted m g → w'.Accounted m g ∧ w.panel.hub.Later w'.panel.hub) :
    Accounts w [] [] w' := by
  refine ⟨fun hw => ?_⟩
  rw [List.append_nil, List.append_nil]
  exact h hw

theorem refl (w : World) : Accounts w [] [] w :=
  of_quiet fun h => ⟨h, .refl _⟩

theorem of_panel {panel : Panel} (hkeeps : w.panel.KeepsBooks panel)
    (hended : w.hasModel = false → panel.watch = w.panel.watch) :
    Accounts w [] [] { w with panel } := by
  refine of_quiet fun h => ⟨?_, hkeeps.later⟩
  exact { h with
    ended := fun hmodel => (hended hmodel).trans (h.ended hmodel)
    books := hkeeps.books h.books }

theorem of_registry {panel : Panel} (hregistry : panel.hub.registry = w.panel.hub.registry)
    (hwatchers : panel.hub.watchers = w.panel.hub.watchers) (hwatch : panel.watch = w.panel.watch) :
    Accounts w [] [] { w with panel } :=
  of_panel (.of_registry hregistry hwatchers hwatch) fun _ => hwatch

theorem of_reregisters {hub : Hub}
    (hothers : w.panel.hub.Numbered → w.panel.hub.Reregisters made gone hub) :
    Accounts w made gone { w with panel := { w.panel with hub } } := by
  refine ⟨fun h => ?_⟩
  have hreregisters := hothers h.books.numbered
  refine ⟨?_, .reregisters hreregisters⟩
  exact ⟨h.attached, h.loneAttached, h.named, h.ended, h.books.reregisters hreregisters⟩

theorem dropModel (w : World) : Accounts w [] [] w.dropModel := by
  refine of_quiet fun h => ?_
  rw [dropModel_of_attached h.attached]
  refine ⟨⟨h.attached, h.loneAttached, h.named, fun _ => rfl, ?_⟩, .release _ _⟩
  exact { Hub.Books.release h.books with }

/-- Lone watches are dropped, and the others stay. -/
theorem releaseLone {dropped kept : List LoneWatch}
    (hperm : w.loneWatches.Perm (dropped ++ kept)) (hkept : kept.Sublist w.loneWatches) :
    Accounts w [] [] { dropped.foldl (fun w l => w.releaseWatch l.watch l.isDetached) w with
      loneWatches := kept } := by
  refine of_quiet fun h => ?_
  rw [foldl_releaseWatch dropped w fun l hl =>
    h.loneAttached l (hperm.mem_iff.mpr (List.mem_append_left _ hl))]
  refine ⟨⟨h.attached, fun l hl => h.loneAttached l (hkept.subset hl),
    h.named.sublist (hkept.map _), h.ended, ?_⟩, .releaseAll _ _⟩
  have hordered : w.watches.Perm
      (dropped.map LoneWatch.watch ++ w.panel.watch :: kept.map LoneWatch.watch) := by
    refine ((hperm.map LoneWatch.watch).cons w.panel.watch).trans ?_
    rw [List.map_append]
    exact List.perm_middle.symm
  exact (h.books.perm hordered).releaseAll

theorem dropLoneWatches (w : World) (name : String) :
    Accounts w [] [] (w.dropLoneWatches name) := by
  unfold World.dropLoneWatches
  simp only [loneWatches_foldl_releaseWatch]
  exact releaseLone (List.filter_append_perm (fun l => l.name == name) w.loneWatches).symm
    List.filter_sublist

theorem close (w : World) : Accounts w [] [] w.close := by
  have hdropped : Accounts w.dropModel [] [] w.dropModel.dropAllLoneWatches :=
    releaseLone (by simp) (List.nil_sublist _)
  have hended : Accounts w.dropModel.dropAllLoneWatches [] [] w.close :=
    of_quiet fun h => ⟨{ h with }, .refl _⟩
  exact ((dropModel w).trans hdropped).trans hended

/-- The one of that name is dropped first. -/
theorem newWatch (w : World) (name : String) : Accounts w [] [] (w.newWatch name) := by
  refine (dropLoneWatches w name).trans (of_quiet fun h => ⟨?_, .refl _⟩)
  refine ⟨h.attached, ?_, ?_, h.ended, ?_⟩
  · intro l hl
    rcases List.mem_append.mp hl with hl | hl
    · exact h.loneAttached l hl
    · obtain rfl := List.mem_singleton.mp hl
      rfl
  · exact nodup_names_newWatch h.named
  · -- A new watch is idle and owns nothing.
    refine ⟨h.books.numbered, h.books.ordered, ?_, h.books.others, h.books.apart, h.books.past⟩
    have hwatches : (w.newWatch name).watches = (w.dropLoneWatches name).watches ++ [.idle] := by
      simp [World.newWatch, watches]
    rw [hwatches, List.filterMap_append]
    exact h.books.owned.trans (List.Perm.of_eq (List.append_nil _).symm)

/-- The watch of that name has its registration exchanged for another one. -/
theorem startWatch (w : World) (name : String) (user : UserId) :
    Accounts w [] [] (w.startWatch name user).state := by
  unfold World.startWatch
  cases hfind : w.loneWatches.find? (fun l => l.name == name) with
  | none => exact refl w
  | some l =>
    refine of_quiet fun h => ?_
    have hl : l ∈ w.loneWatches := List.mem_of_find?_eq_some hfind
    have hname : l.name = name := by simpa using List.find?_some hfind
    simp only [onHub, h.loneAttached l hl, Bool.false_eq_true, if_false, Outcome.state_mapState,
      Outcome.answer_mapState]
    refine ⟨⟨h.attached, ?_, ?_, h.ended, ?_⟩, .start l.watch w.panel.hub user⟩
    · intro m hm
      obtain ⟨m', hm', rfl⟩ := List.mem_map.mp hm
      split
      · exact h.loneAttached m' hm'
      · exact h.loneAttached m' hm'
    · rw [names_restarted]
      exact h.named
    · obtain ⟨others, hbefore, hafter⟩ :=
        watches_restarted h.named hl (l.watch.start w.panel.hub user).answer
      rw [hname] at hafter
      have hfirst : w.watches.Perm (l.watch :: w.panel.watch :: others) :=
        (hbefore.cons _).trans (List.Perm.swap ..)
      have hstarted := (h.books.perm hfirst).start user
      exact hstarted.perm ((List.Perm.swap ..).trans (hafter.symm.cons _))

theorem build (w : World) : Accounts w [] [] w.build := by
  unfold World.build
  by_cases hmodel : w.hasModel = true
  · rw [if_pos hmodel]
    exact refl w
  · rw [if_neg hmodel]
    refine of_quiet fun h => ?_
    have hbooks := h.books
    rw [watches, h.ended (Bool.eq_false_iff.mpr hmodel)] at hbooks
    exact ⟨⟨rfl, h.loneAttached, h.named, fun h => Bool.noConfusion h, hbooks.start w.panel.user⟩,
      .start .idle w.panel.hub w.panel.user⟩

end Accounts

theorem keepsStore_effect (w : World) {s : Step} (hs : (Happening.step s).keepsStore = true) :
    (w.effect s).keepsStore = true := by
  cases s with
  | reopen => cases hs
  | send | switchUser | tryNext | next | drain | operate | newWatch =>
    simp only [effect, Effect.apply_onlyIf Effect.keepsStore]
    simp [Effect.keepsStore]
  | _ => rfl

theorem madeBy_eq (w : World) (s : Step) : w.madeBy (.step s) = (w.effect s).made w := by
  cases s with
  | send | switchUser | tryNext | next | drain | operate | newWatch =>
    simp only [effect, Effect.apply_onlyIf (Effect.made w)]
    simp [madeBy, Effect.made, Hub.Demand.made]
  | _ => rfl

theorem goneBy_eq (w : World) (s : Step) : w.goneBy (.step s) = (w.effect s).gone w := by
  cases s with
  | send | switchUser | tryNext | next | drain | operate | newWatch =>
    simp only [effect, Effect.apply_onlyIf (Effect.gone w)]
    simp [goneBy, Effect.gone, Hub.Demand.gone]
  | _ => rfl

/-- What others make and give back is that of the demands on the hub; all else is done by the
watches. -/
theorem Leads.accounts {w w' : World} {e : Effect} {journal : List Activity}
    {made : List Registration} {gone : List Nat} (hleads : w.Leads e journal w')
    (h : w.Accounted made gone) (he : e.keepsStore = true) :
    Accounts w (e.made w) (e.gone w) w' := by
  cases hleads with
  | reopen => cases he
  | nothing => exact .refl w
  | demand d => exact .of_reregisters fun hnumbered => d.reregisters_run hnumbered
  | restore | retext | take | dropQueue => exact .of_registry rfl rfl rfl
  | switchUser _ user =>
    obtain ⟨queue, hstate⟩ := w.panel.exists_queue_switchUser user
    rw [hstate]
    exact .of_registry rfl rfl rfl
  | drain _ hmodel =>
    rw [onModel_of_attached h.attached]
    exact .of_panel (.drain w.panel) fun hended => absurd hmodel (by simp [hended])
  | operate hmodel op =>
    rw [onModel_of_attached h.attached]
    exact .of_panel (.operate op w.panel) fun hended => absurd hmodel (by simp [hended])
  | tend t =>
    cases t with
    | dropModel => exact .dropModel w
    | close => exact .close w
    | newWatch name => exact .newWatch w name
    | startWatch name user => exact .startWatch w name user
    | dropWatch name => exact .dropLoneWatches w name

theorem accounts_happen {w : World} {made : List Registration} {gone : List Nat}
    (h : w.Accounted made gone) {e : Happening} (he : e.keepsStore = true) :
    Accounts w (w.madeBy e) (w.goneBy e) (w.happen e) := by
  cases e with
  | build => exact .build w
  | step s =>
    rw [madeBy_eq, goneBy_eq]
    exact (w.leads_step s).accounts h (w.keepsStore_effect he)

/-- The induction over everything that happens. -/
theorem accounts_happenAll {w : World} {made : List Registration} {gone : List Nat}
    (h : w.Accounted made gone) {hs : List Happening} (hstore : ∀ e ∈ hs, e.keepsStore = true) :
    (w.happenAll hs).Accounted (made ++ w.madeByAll hs) (gone ++ w.goneByAll hs) ∧
      w.panel.hub.Later (w.happenAll hs).panel.hub := by
  induction hs generalizing w made gone with
  | nil =>
    rw [madeByAll, goneByAll, List.append_nil, List.append_nil]
    exact ⟨h, .refl _⟩
  | cons e rest ih =>
    obtain ⟨hnext, hlater⟩ := (accounts_happen h (hstore e List.mem_cons_self)).carries h
    obtain ⟨hlast, hlatest⟩ := ih hnext fun e' he => hstore e' (List.mem_cons_of_mem _ he)
    rw [madeByAll, goneByAll, ← List.append_assoc, ← List.append_assoc]
    exact ⟨hlast, hlater.trans hlatest⟩

theorem accounted_new (store : SettingsStore) (path : Option String) (user : UserId)
    (texts : List (String × String)) (hasModel : Bool) :
    (World.new store path user texts hasModel).state.Accounted [] [] := by
  have hbooks := Hub.Books.ofStore store
  cases hasModel with
  | true => exact ⟨rfl, by simp [World.new], .nil, fun h => Bool.noConfusion h, hbooks.start user⟩
  | false => exact ⟨rfl, by simp [World.new], .nil, fun _ => rfl, hbooks⟩

/-- The books on the registrations of a store that nobody had watched, whatever happened since, and
however often. No number is given out twice, at one moment or at two. Each watch that observes owns
one registration, for its user and the two watched settings; the idle ones and the panel that ended
own none. The other registrations are those that others made and have not given back, in the order
in which they were made. A write that the store takes while the queue is open, and to which no
listener reacts, posts one event for each watch on its user if its key is one of the two, and none
otherwise; one that the store refuses posts none. -/
theorem registrations_accounted (store : SettingsStore) (path : Option String) (user : UserId)
    (texts : List (String × String)) (hasModel : Bool) {happenings : List Happening}
    (hstore : ∀ e ∈ happenings, e.keepsStore = true) :
    let start := (World.new store path user texts hasModel).state
    let w := start.happenAll happenings
    let entries := w.panel.hub.registry.entries
    let others := (start.madeByAll happenings).filter fun r => r.id ∉ start.goneByAll happenings
    entries.Pairwise (fun r s => r.id < s.id) ∧
      (∀ earlier later, happenings = earlier ++ later →
        ∀ r ∈ (start.happenAll earlier).panel.hub.registry.entries, ∀ s ∈ entries,
          r.id = s.id → r = s) ∧
      (entries.filter Registration.isPoster).Perm
        (w.watches.filterMap BrightnessWatch.registration?) ∧
      (w.hasModel = false → w.panel.watch = .idle) ∧
      (entries.filter fun r => !r.isPoster) = others ∧
      entries.length = w.watches.countP (fun v => v.user?.isSome) + others.length ∧
      (∀ key value owner after, w.panel.hub.queue.isOpen = true →
        w.panel.hub.store.write key value owner = .ok after →
        (∀ r ∈ w.panel.hub.registry.hearing key owner, ∀ name, r.listener = .watcher name →
          (w.panel.hub.nextResponse r.id).2 = []) →
        let posted := List.replicate
          (if key ∈ Setting.watched then w.watches.countP (BrightnessWatch.minds owner) else 0)
          (.settingChanged key owner)
        (w.step (.put key value owner)).journal.filterMap Activity.posted? = posted ∧
          (w.step (.put key value owner)).state.panel.hub.queue.pending =
            w.panel.hub.queue.pending ++ posted) ∧
      ∀ key value owner cause, w.panel.hub.store.write key value owner = .error cause →
        (w.step (.put key value owner)).journal.filterMap Activity.posted? = [] ∧
          (w.step (.put key value owner)).state.panel.hub.queue = w.panel.hub.queue := by
  intro start w entries others
  have hnew : start.Accounted [] [] := accounted_new store path user texts hasModel
  obtain ⟨haccounted, _⟩ := accounts_happenAll hnew hstore
  rw [List.nil_append, List.nil_append] at haccounted
  have hbooks := haccounted.books
  refine ⟨hbooks.ordered, ?_, hbooks.owned, haccounted.ended, hbooks.others, hbooks.count, ?_, ?_⟩
  · rintro earlier later rfl r hr s hs hid
    obtain ⟨hbetween, _⟩ :=
      accounts_happenAll hnew fun e he => hstore e (List.mem_append_left _ he)
    obtain ⟨_, hlater⟩ :=
      accounts_happenAll hbetween fun e he => hstore e (List.mem_append_right _ he)
    have hlast : w = (start.happenAll earlier).happenAll later := List.foldl_append
    have hknown : s ∈ (start.happenAll earlier).panel.hub.registry.entries := by
      refine hlater.known s (hlast ▸ hs) ?_
      rw [← hid]
      exact hbetween.books.numbered.registrations r hr
    exact Registration.eq_of_id hbetween.books.ordered hr hknown hid
  · intro key value owner after hopen hwrite hcalm
    exact hbooks.posted_put hopen hwrite hcalm
  · intro key value owner cause hwrite
    have hput : w.panel.hub.put key value owner = ⟨w.panel.hub, .error cause, []⟩ :=
      Hub.put_of_refused hwrite
    change ((w.panel.hub.put key value owner).mapAnswer Answer.ofResult).journal.filterMap _ = [] ∧
      ((w.panel.hub.put key value owner).mapAnswer Answer.ofResult).state.queue = w.panel.hub.queue
    rw [hput]
    exact ⟨rfl, rfl⟩

/-- A panel that is built and moves to another user, two lone watches of which one is started twice
and the other one is dropped, and a watcher. -/
def panelAndLoneWatches : List Happening :=
  [.build, .step (.newWatch "a"), .step (.startWatch "a" ⟨10⟩), .step (.watch "w" ["k"] .owner []),
    .step (.newWatch "b"), .step (.startWatch "b" .owner), .step (.startWatch "a" .owner),
    .step (.switchUser ⟨10⟩), .step .drain, .step (.dropWatch "b")]

def afterPanelAndLoneWatches : World :=
  (World.new (.memory {}) none .owner [] false).state.happenAll panelAndLoneWatches

theorem registrations_accounted_of_panelAndLoneWatches :
    (∀ e ∈ panelAndLoneWatches, e.keepsStore = true) ∧
      afterPanelAndLoneWatches.panel.hub.registry.entries.length = 3 ∧
      (afterPanelAndLoneWatches.step (.put Setting.mode "1" .owner)).journal.filterMap
        Activity.posted? = [.settingChanged Setting.mode .owner] := by
  have hstore : ∀ e ∈ panelAndLoneWatches, e.keepsStore = true := by
    simp [panelAndLoneWatches, Happening.keepsStore]
  obtain ⟨_, _, _, _, _, hcount, hposted, _⟩ :=
    registrations_accounted (.memory {}) none .owner [] false hstore
  have hopen : afterPanelAndLoneWatches.panel.hub.queue.isOpen = true := by decide +kernel
  have hwrite : afterPanelAndLoneWatches.panel.hub.store.write Setting.mode "1" .owner =
      .ok (.memory ⟨[⟨.owner, Setting.mode, "1"⟩]⟩) := by
    have hmemory : afterPanelAndLoneWatches.panel.hub.store = .memory {} := by decide +kernel
    rw [hmemory]
    rfl
  have hcalm : ∀ r ∈ afterPanelAndLoneWatches.panel.hub.registry.hearing Setting.mode .owner,
      ∀ name, r.listener = .watcher name →
        (afterPanelAndLoneWatches.panel.hub.nextResponse r.id).2 = [] := by
    have hposters : ∀ r ∈ afterPanelAndLoneWatches.panel.hub.registry.hearing Setting.mode .owner,
        r.listener = .poster := by decide +kernel
    intro r hr name hname
    rw [hposters r hr] at hname
    cases hname
  obtain ⟨hjournal, _⟩ := hposted Setting.mode "1" .owner _ hopen hwrite hcalm
  refine ⟨hstore, ?_, ?_⟩
  · exact hcount.trans (by decide +kernel)
  · exact hjournal.trans (by decide +kernel)

end World

end TilePanel
