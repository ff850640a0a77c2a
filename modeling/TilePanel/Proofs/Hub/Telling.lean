import TilePanel.Proofs.Hub.Watching

/-!
The rules by which listeners are told of writes, without any bound on how deep writes may nest, and
what the whole of it does to the registrations: those made on the way come behind those that were
there, in the order in which they were made, and those given back on the way are gone.
-/

namespace TilePanel

/-- What happens while listeners are told of writes, one thing after the other. What a call or a
write leads to stands inside of it. -/
inductive Telling
  | nothing
  | called (listener : Registration) (key : String) (user : UserId) (inside rest : Telling)
  | watched (registration : Registration) (rest : Telling)
  | unwatched (id : Option Nat) (rest : Telling)
  | wrote (key value : String) (user : UserId) (inside rest : Telling)
  | refused (key value : String) (user : UserId) (rest : Telling)

namespace Telling

/-- The calls that are not inside of other calls, in order. -/
def calls : Telling → List (Registration × String × UserId)
  | nothing => []
  | called listener key user _ rest => (listener, key, user) :: rest.calls
  | watched _ rest | unwatched _ rest | wrote _ _ _ _ rest | refused _ _ _ rest => rest.calls

def made : Telling → List Registration
  | nothing => []
  | watched registration rest => registration :: rest.made
  | called _ _ _ inside rest | wrote _ _ _ inside rest => inside.made ++ rest.made
  | unwatched _ rest | refused _ _ _ rest => rest.made

def gone : Telling → List Nat
  | nothing => []
  | unwatched id rest => id.toList ++ rest.gone
  | called _ _ _ inside rest | wrote _ _ _ inside rest => inside.gone ++ rest.gone
  | watched _ rest | refused _ _ _ rest => rest.gone

end Telling

namespace Hub

inductive Agenda
  /-- To call listeners, one after the other. -/
  | tell (key : String) (user : UserId) (listeners : List Registration)
  /-- To carry out reactions of a watcher. -/
  | react (watcher : String) (reactions : List Reaction)

/-- The rules of notification. A listener that is called carries out its whole response before the
next one is called. A write among the reactions is stored, and all listeners that hear of it at that
moment are told, before the next reaction. -/
inductive Tells : Agenda → Hub → Telling → List Activity → Hub → Prop
  | told {key : String} {user : UserId} {h : Hub} : Tells (.tell key user []) h .nothing [] h
  | poster {key : String} {user : UserId} {r : Registration} {rest : List Registration}
      {h h' : Hub} {t : Telling} {j : List Activity} (hposter : r.listener = .poster)
      (hrest : Tells (.tell key user rest)
        (h.post (.settingChanged key user) (.changeUnreceived user)).state t j h') :
      Tells (.tell key user (r :: rest)) h (.called r key user .nothing t)
        ((h.post (.settingChanged key user) (.changeUnreceived user)).journal ++ j) h'
  | watcher {key name : String} {user : UserId} {r : Registration} {rest : List Registration}
      {h h' h'' : Hub} {inside t : Telling} {j j' : List Activity}
      (hwatcher : r.listener = .watcher name)
      (hinside : Tells (.react name (h.nextResponse r.id).2) (h.nextResponse r.id).1 inside j h')
      (hrest : Tells (.tell key user rest) h' t j' h'') :
      Tells (.tell key user (r :: rest)) h (.called r key user inside t)
        (.changed name key user (h.store.read key user) :: j ++ j') h''
  | reacted {watcher : String} {h : Hub} : Tells (.react watcher []) h .nothing [] h
  | watch {watcher name : String} {keys : List String} {scope : UserId}
      {responses : List (List Reaction)} {rest : List Reaction} {h h' : Hub} {t : Telling}
      {j : List Activity}
      (hrest : Tells (.react watcher rest) (h.watch name keys scope responses) t j h') :
      Tells (.react watcher (.watch name keys scope responses :: rest)) h
        (.watched ⟨h.registry.nextId, keys, scope, .watcher name⟩ t)
        (.reacted watcher .done :: j) h'
  | unwatch {watcher name : String} {rest : List Reaction} {h h' : Hub} {t : Telling}
      {j : List Activity} (hrest : Tells (.react watcher rest) (h.unwatch name).1 t j h') :
      Tells (.react watcher (.unwatch name :: rest)) h (.unwatched (h.idOf? name) t)
        (.reacted watcher (.flag (h.unwatch name).2) :: j) h'
  | put {watcher key value : String} {user : UserId} {rest : List Reaction} {h h' h'' : Hub}
      {store : SettingsStore} {inside t : Telling} {j j' : List Activity}
      (hwrite : h.store.write key value user = .ok store)
      (hinside : Tells (.tell key user (h.registry.hearing key user)) { h with store } inside j h')
      (hrest : Tells (.react watcher rest) h' t j' h'') :
      Tells (.react watcher (.put key value user :: rest)) h (.wrote key value user inside t)
        (report (h.store.writeNotices key value user) ++ j ++ .reacted watcher .done :: j') h''
  | refused {watcher key value : String} {user : UserId} {rest : List Reaction} {h h' : Hub}
      {cause : Error} {t : Telling} {j : List Activity}
      (hwrite : h.store.write key value user = .error cause)
      (hrest : Tells (.react watcher rest) h t j h') :
      Tells (.react watcher (.put key value user :: rest)) h (.refused key value user t)
        (.reacted watcher (.failed cause) :: j) h'

/-- Exactly the listeners on the agenda are called, each once and in order, all with the same key
and user. -/
theorem Tells.calls {key : String} {user : UserId} {listeners : List Registration} {h h' : Hub}
    {t : Telling} {j : List Activity} (htells : Tells (.tell key user listeners) h t j h') :
    t.calls = listeners.map fun r => (r, key, user) := by
  generalize hagenda : Agenda.tell key user listeners = agenda at htells
  induction htells generalizing listeners with
  | told =>
    obtain ⟨rfl, rfl, rfl⟩ := Agenda.tell.inj hagenda
    rfl
  | poster _ _ ih =>
    obtain ⟨rfl, rfl, rfl⟩ := Agenda.tell.inj hagenda
    rw [Telling.calls, ih rfl, List.map_cons]
  | watcher _ _ _ _ ih =>
    obtain ⟨rfl, rfl, rfl⟩ := Agenda.tell.inj hagenda
    rw [Telling.calls, ih rfl, List.map_cons]
  | reacted | watch | unwatch | put | refused => cases hagenda

/-- How others than brightness watches change the registrations between two moments: those that they
made come last, and those that they gave back are gone. -/
structure Reregisters (h : Hub) (made : List Registration) (gone : List Nat) (h' : Hub) : Prop where
  numbered : h'.Numbered
  nextId : h.registry.nextId ≤ h'.registry.nextId
  entries : h'.registry.entries =
    (h.registry.entries ++ made).filter fun r => r.id ∉ gone
  fresh : ∀ r ∈ made, h.registry.nextId ≤ r.id ∧ r.id < h'.registry.nextId
  ordered : made.Pairwise fun r s => r.id < s.id
  listening : ∀ r ∈ made, r.listener ≠ .poster
  watchers : h'.watchers.map Watcher.id = (made.map Registration.id).reverse ++
    h.watchers.map Watcher.id
  known : ∀ id ∈ gone, id ∈ h'.watchers.map Watcher.id

namespace Reregisters

variable {h h' h'' : Hub} {made made' : List Registration} {gone gone' : List Nat}

/-- A hub with the same registrations and watchers, who may have used up responses. -/
theorem quiet (hn : h.Numbered) (hregistry : h'.registry = h.registry)
    (hwatchers : h'.watchers.map Watcher.id = h.watchers.map Watcher.id) :
    Reregisters h [] [] h' where
  numbered := by
    refine ⟨by rw [hregistry]; exact hn.registrations, ?_⟩
    intro w hw
    have hid : w.id ∈ h.watchers.map Watcher.id := by
      rw [← hwatchers]
      exact List.mem_map_of_mem hw
    obtain ⟨v, hv, hsame⟩ := List.mem_map.mp hid
    rw [hregistry, ← hsame]
    exact hn.watchers v hv
  nextId := Nat.le_of_eq (congrArg Registry.nextId hregistry.symm)
  entries := by
    rw [hregistry, List.append_nil]
    exact (List.filter_eq_self.mpr (by simp)).symm
  fresh := by simp
  ordered := .nil
  listening := by simp
  watchers := by simpa using hwatchers
  known := by simp

theorem refl (hn : h.Numbered) : Reregisters h [] [] h :=
  quiet hn rfl rfl

private theorem mem_watchers (hfirst : Reregisters h made gone h') {id : Nat}
    (hid : id ∈ h.watchers.map Watcher.id) : id ∈ h'.watchers.map Watcher.id := by
  rw [hfirst.watchers]
  exact List.mem_append_right _ hid

/-- The numbers given back are below the next one. -/
theorem lt_of_gone (hfirst : Reregisters h made gone h') {id : Nat} (hid : id ∈ gone) :
    id < h'.registry.nextId := by
  obtain ⟨w, hw, rfl⟩ := List.mem_map.mp (hfirst.known id hid)
  exact hfirst.numbered.watchers w hw

/-- What was made and given back between two moments and after them comes together. A registration
that was made first and given back later is not left over. -/
theorem trans (hfirst : Reregisters h made gone h') (hnext : Reregisters h' made' gone' h'') :
    Reregisters h (made ++ made') (gone ++ gone') h'' where
  numbered := hnext.numbered
  nextId := Nat.le_trans hfirst.nextId hnext.nextId
  entries := by
    -- What is made later has a number that was not yet in use when the first ones were given back.
    have hlater : made'.filter (fun r => r.id ∉ gone) = made' := by
      refine List.filter_eq_self.mpr fun r hr => decide_eq_true fun hgone => ?_
      have hbelow := hfirst.lt_of_gone hgone
      have habove := (hnext.fresh r hr).1
      omega
    calc h''.registry.entries
        = (((h.registry.entries ++ made).filter fun r => r.id ∉ gone) ++
            made'.filter fun r => r.id ∉ gone).filter fun r => r.id ∉ gone' := by
          rw [hnext.entries, hfirst.entries, hlater]
      _ = (h.registry.entries ++ (made ++ made')).filter fun r => r.id ∉ gone ++ gone' := by
          rw [← List.filter_append, List.filter_filter, List.append_assoc]
          refine List.filter_congr fun r _ => ?_
          simp [Bool.and_comm]
  fresh := by
    intro r hr
    rcases List.mem_append.mp hr with hr | hr
    · obtain ⟨hlow, hhigh⟩ := hfirst.fresh r hr
      exact ⟨hlow, Nat.lt_of_lt_of_le hhigh hnext.nextId⟩
    · obtain ⟨hlow, hhigh⟩ := hnext.fresh r hr
      exact ⟨Nat.le_trans hfirst.nextId hlow, hhigh⟩
  ordered := by
    refine List.pairwise_append.mpr ⟨hfirst.ordered, hnext.ordered, ?_⟩
    intro r hr s hs
    exact Nat.lt_of_lt_of_le (hfirst.fresh r hr).2 (hnext.fresh s hs).1
  listening := by
    intro r hr
    exact (List.mem_append.mp hr).elim (hfirst.listening r) (hnext.listening r)
  watchers := by
    rw [hnext.watchers, hfirst.watchers]
    simp
  known := by
    intro id hid
    rcases List.mem_append.mp hid with hid | hid
    · exact hnext.mem_watchers (hfirst.known id hid)
    · exact hnext.known id hid

end Reregisters

theorem reregisters_watch {h : Hub} (hn : h.Numbered) (name : String) (keys : List String)
    (scope : UserId) (responses : List (List Reaction)) :
    Reregisters h [⟨h.registry.nextId, keys, scope, .watcher name⟩] []
      (h.watch name keys scope responses) where
  numbered := hn.watch name keys scope responses
  nextId := Nat.le_succ _
  entries := (List.filter_eq_self.mpr (by simp)).symm
  fresh := by simp [Hub.watch, Registry.register]
  ordered := List.pairwise_singleton ..
  listening := by simp
  watchers := by simp [Hub.watch]
  known := by simp

/-- A watcher who is not there gives nothing back. -/
theorem reregisters_unwatch {h : Hub} (hn : h.Numbered) (name : String) :
    Reregisters h [] (h.idOf? name).toList (h.unwatch name).1 := by
  unfold Hub.unwatch
  cases hid : h.idOf? name with
  | none => exact .refl hn
  | some id =>
    obtain ⟨w, hfound, rfl⟩ := Option.map_eq_some_iff.mp hid
    refine ⟨hn.unregister _, Nat.le_refl _, ?_, by simp, .nil, by simp, by simp, ?_⟩
    · simp only [Registry.unregister, List.append_nil, Option.toList_some, List.mem_singleton]
      refine List.filter_congr fun r _ => ?_
      by_cases hsame : r.id = w.id <;> simp [hsame]
    · simp only [Option.toList_some, List.mem_singleton, forall_eq]
      exact List.mem_map_of_mem (List.mem_of_find?_eq_some hfound)

private theorem ids_dropResponse (id : Nat) (ws : List Watcher) :
    (dropResponse id ws).map Watcher.id = ws.map Watcher.id := by
  induction ws with
  | nil => rfl
  | cons w rest ih =>
    rw [dropResponse]
    split
    · rfl
    · rw [List.map_cons, ih, List.map_cons]

private theorem reregisters_respond {h : Hub} (hn : h.Numbered) (id : Nat) :
    Reregisters h [] [] (h.nextResponse id).1 :=
  .quiet hn rfl (ids_dropResponse id h.watchers)

private theorem reregisters_post {h : Hub} (hn : h.Numbered) (e : Event) (unreceived : Notice) :
    Reregisters h [] [] (h.post e unreceived).state := by
  unfold post
  split
  · exact .quiet hn rfl rfl
  · exact .refl hn

/-- What a notification does to the registrations, at whatever depth. -/
theorem Tells.reregisters {agenda : Agenda} {h h' : Hub} {t : Telling} {j : List Activity}
    (htells : Tells agenda h t j h') (hn : h.Numbered) : Reregisters h t.made t.gone h' := by
  induction htells with
  | told | reacted => exact .refl hn
  | @poster key user _ _ _ _ _ _ _ _ ih =>
    have hposted := reregisters_post hn (.settingChanged key user) (.changeUnreceived user)
    exact hposted.trans (ih hposted.numbered)
  | @watcher _ _ _ r _ _ _ _ _ _ _ _ _ _ _ ihinside ih =>
    have hresponding := reregisters_respond hn r.id
    have hinside := ihinside hresponding.numbered
    exact hresponding.trans (hinside.trans (ih hinside.numbered))
  | @watch _ name keys scope responses _ _ _ _ _ _ ih =>
    have hwatched := reregisters_watch hn name keys scope responses
    exact hwatched.trans (ih hwatched.numbered)
  | @unwatch _ name _ _ _ _ _ _ ih =>
    have hunwatched := reregisters_unwatch hn name
    exact hunwatched.trans (ih hunwatched.numbered)
  | put _ _ _ ihinside ih =>
    have hinside := ihinside ⟨hn.registrations, hn.watchers⟩
    have hstored := hinside.trans (ih hinside.numbered)
    exact { hstored with }
  | refused _ _ ih => exact ih hn

end Hub

end TilePanel
