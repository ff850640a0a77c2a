import Mathlib.Data.List.Nodup
import TilePanel.Proofs.Hub.Telling

/-!
The books on the registrations of a store. The registrations that post are those of the brightness
watches that observe, one for each of them. The others are what everybody else registered, in order,
without what was given back.
-/

namespace TilePanel

namespace Registration

def isPoster (r : Registration) : Bool :=
  r.listener == .poster

theorem isPoster_iff (r : Registration) : r.isPoster = true ↔ r.listener = .poster := by
  simp [isPoster]

theorem eq_of_id {entries : List Registration} (hordered : entries.Pairwise fun r s => r.id < s.id)
    {r s : Registration} (hr : r ∈ entries) (hs : s ∈ entries) (hid : r.id = s.id) : r = s := by
  have hdistinct : (entries.map Registration.id).Nodup :=
    List.pairwise_map.mpr (hordered.imp Nat.ne_of_lt)
  exact List.inj_on_of_nodup_map hdistinct hr hs hid

end Registration

namespace BrightnessWatch

def registration? : BrightnessWatch → Option Registration
  | idle => none
  | observing user id => some ⟨id, Setting.watched, user, .poster⟩

def minds (user : UserId) (v : BrightnessWatch) : Bool :=
  v.user?.any fun observed => observed.covers user

end BrightnessWatch

namespace Hub

/-- What is true of the registrations of a store at every moment, for the watches that there are,
the registrations that others made so far, and the numbers that others gave back. -/
structure Books (h : Hub) (watches : List BrightnessWatch) (made : List Registration)
    (gone : List Nat) : Prop where
  numbered : h.Numbered
  ordered : h.registry.entries.Pairwise fun r s => r.id < s.id
  owned : (h.registry.entries.filter Registration.isPoster).Perm
    (watches.filterMap BrightnessWatch.registration?)
  others : (h.registry.entries.filter fun r => !r.isPoster) = made.filter fun r => r.id ∉ gone
  apart : ∀ r ∈ h.registry.entries, r.isPoster = true → ∀ w ∈ h.watchers, w.id ≠ r.id
  past : ∀ id ∈ gone, id < h.registry.nextId

namespace Books

variable {h h' : Hub} {watches watches' rest : List BrightnessWatch}
  {made made' : List Registration} {gone gone' : List Nat}

/-- A store that nobody has watched yet. -/
theorem ofStore (store : SettingsStore) : ({ store } : Hub).Books [.idle] [] [] :=
  ⟨numbered_ofStore store, .nil, .refl _, rfl, by simp, by simp⟩

/-- The books look at the registry and at the watchers alone. -/
theorem congr (hbooks : h.Books watches made gone) (hregistry : h'.registry = h.registry)
    (hwatchers : h'.watchers = h.watchers) : h'.Books watches made gone where
  numbered := ⟨by rw [hregistry]; exact hbooks.numbered.registrations,
    by rw [hregistry, hwatchers]; exact hbooks.numbered.watchers⟩
  ordered := by rw [hregistry]; exact hbooks.ordered
  owned := by rw [hregistry]; exact hbooks.owned
  others := by rw [hregistry]; exact hbooks.others
  apart := by rw [hregistry, hwatchers]; exact hbooks.apart
  past := by rw [hregistry]; exact hbooks.past

theorem perm (hbooks : h.Books watches made gone) (hperm : watches.Perm watches') :
    h.Books watches' made gone :=
  { hbooks with owned := hbooks.owned.trans (hperm.filterMap _) }

private theorem mem_of_registration? (hbooks : h.Books watches made gone) {v : BrightnessWatch}
    (hv : v ∈ watches) {r : Registration} (hr : v.registration? = some r) :
    r ∈ h.registry.entries := by
  have howned : r ∈ watches.filterMap BrightnessWatch.registration? :=
    List.mem_filterMap.mpr ⟨v, hv, hr⟩
  exact List.mem_of_mem_filter (hbooks.owned.mem_iff.mpr howned)

/-- What others make does not post. -/
private theorem isPoster_of_mem_made (hothers : Reregisters h made' gone' h') {r : Registration}
    (hr : r ∈ made') : r.isPoster = false :=
  Bool.eq_false_iff.mpr fun hposter => hothers.listening r hr ((r.isPoster_iff).mp hposter)

private theorem mem_of_isPoster (hothers : Reregisters h made' gone' h') {r : Registration}
    (hr : r ∈ h.registry.entries ++ made') (hposter : r.isPoster = true) :
    r ∈ h.registry.entries := by
  refine (List.mem_append.mp hr).resolve_right fun hmade => ?_
  rw [isPoster_of_mem_made hothers hmade] at hposter
  cases hposter

/-- The watchers never have the number of a registration that posts: it is new or apart from it. -/
private theorem ne_of_watcher (hbooks : h.Books watches made gone)
    (hothers : Reregisters h made' gone' h') {id : Nat} (hid : id ∈ h'.watchers.map Watcher.id)
    {r : Registration} (hr : r ∈ h.registry.entries) (hposter : r.isPoster = true) :
    id ≠ r.id := by
  intro hsame
  have hbelow := hbooks.numbered.registrations r hr
  rw [hothers.watchers, List.mem_append, List.mem_reverse] at hid
  rcases hid with hid | hid
  · obtain ⟨s, hs, rfl⟩ := List.mem_map.mp hid
    have habove := (hothers.fresh s hs).1
    omega
  · obtain ⟨w, hw, rfl⟩ := List.mem_map.mp hid
    exact hbooks.apart r hr hposter w hw hsame

/-- What others do leaves the registrations that post alone. -/
theorem posters_reregisters (hbooks : h.Books watches made gone)
    (hothers : Reregisters h made' gone' h') :
    h'.registry.entries.filter Registration.isPoster =
      h.registry.entries.filter Registration.isPoster := by
  have hnoposter : made'.filter Registration.isPoster = [] :=
    List.filter_eq_nil_iff.mpr fun r hr =>
      Bool.eq_false_iff.mp (isPoster_of_mem_made hothers hr)
  rw [hothers.entries, List.filter_comm, List.filter_append, hnoposter, List.append_nil]
  refine List.filter_eq_self.mpr fun r hr => decide_eq_true fun hgone => ?_
  obtain ⟨hmem, hposter⟩ := List.mem_filter.mp hr
  exact hbooks.ne_of_watcher hothers (hothers.known _ hgone) hmem hposter rfl

/-- The others have what they made later as well, without what they gave back. -/
theorem others_reregisters (hbooks : h.Books watches made gone)
    (hothers : Reregisters h made' gone' h') :
    (h'.registry.entries.filter fun r => !r.isPoster) =
      (made ++ made').filter fun r => r.id ∉ gone ++ gone' := by
  have hall : (made'.filter fun r => !r.isPoster) = made' :=
    List.filter_eq_self.mpr fun r hr => by rw [isPoster_of_mem_made hothers hr]; rfl
  have hlater : made'.filter (fun r => r.id ∉ gone) = made' := by
    refine List.filter_eq_self.mpr fun r hr => decide_eq_true fun hgone => ?_
    have hbelow := hbooks.past r.id hgone
    have habove := (hothers.fresh r hr).1
    omega
  calc (h'.registry.entries.filter fun r => !r.isPoster)
      = ((h.registry.entries ++ made').filter fun r => !r.isPoster).filter
          fun r => r.id ∉ gone' := by
        rw [hothers.entries, List.filter_comm]
    _ = ((made.filter fun r => r.id ∉ gone) ++ made'.filter fun r => r.id ∉ gone).filter
          fun r => r.id ∉ gone' := by
        rw [List.filter_append, hbooks.others, hlater, hall]
    _ = (made ++ made').filter fun r => r.id ∉ gone ++ gone' := by
        rw [← List.filter_append, List.filter_filter]
        refine List.filter_congr fun r _ => ?_
        simp [Bool.and_comm]

/-- The books after what others did. -/
theorem reregisters (hbooks : h.Books watches made gone) (hothers : Reregisters h made' gone' h') :
    h'.Books watches (made ++ made') (gone ++ gone') where
  numbered := hothers.numbered
  ordered := by
    rw [hothers.entries]
    refine List.Pairwise.filter _ (List.pairwise_append.mpr ⟨hbooks.ordered, hothers.ordered, ?_⟩)
    intro r hr s hs
    exact Nat.lt_of_lt_of_le (hbooks.numbered.registrations r hr) (hothers.fresh s hs).1
  owned := by
    rw [hbooks.posters_reregisters hothers]
    exact hbooks.owned
  others := hbooks.others_reregisters hothers
  apart := by
    intro r hr hposter w hw
    rw [hothers.entries] at hr
    exact hbooks.ne_of_watcher hothers (List.mem_map_of_mem hw)
      (mem_of_isPoster hothers (List.mem_filter.mp hr).1 hposter) hposter
  past := by
    intro id hid
    rcases List.mem_append.mp hid with hid | hid
    · exact Nat.lt_of_lt_of_le (hbooks.past id hid) hothers.nextId
    · exact hothers.lt_of_gone hid

/-- A watch gives its registration back. -/
theorem release {v : BrightnessWatch} (hbooks : h.Books (v :: rest) made gone) :
    (v.release h).Books rest made gone := by
  cases v with
  | idle => exact { hbooks with }
  | observing user id =>
    have hmem := hbooks.mem_of_registration? List.mem_cons_self rfl
    refine ⟨hbooks.numbered.unregister id, hbooks.ordered.filter _, ?_, ?_, ?_, hbooks.past⟩
    · have howned : (h.registry.entries.filter Registration.isPoster).Perm
          (⟨id, Setting.watched, user, .poster⟩ ::
            rest.filterMap BrightnessWatch.registration?) := hbooks.owned
      have hdistinct := (howned.pairwise_iff fun hne => Ne.symm hne).mp
        ((hbooks.ordered.filter Registration.isPoster).imp Nat.ne_of_lt)
      have hrest : (rest.filterMap BrightnessWatch.registration?).filter (fun r => r.id != id) =
          rest.filterMap BrightnessWatch.registration? :=
        List.filter_eq_self.mpr fun r hr =>
          bne_iff_ne.mpr ((List.pairwise_cons.mp hdistinct).1 r hr).symm
      have hposters : (h.registry.unregister id).entries.filter Registration.isPoster =
          (h.registry.entries.filter Registration.isPoster).filter fun r => r.id != id :=
        List.filter_comm ..
      have hleft := howned.filter fun r => r.id != id
      rw [← hposters, List.filter_cons_of_neg (by simp), hrest] at hleft
      exact hleft
    · have hkept : ((h.registry.entries.filter fun r => !r.isPoster).filter fun r => r.id != id) =
          h.registry.entries.filter fun r => !r.isPoster := by
        refine List.filter_eq_self.mpr fun r hr => bne_iff_ne.mpr fun hid => ?_
        obtain ⟨hr, hposter⟩ := List.mem_filter.mp hr
        obtain rfl := Registration.eq_of_id hbooks.ordered hr hmem hid
        cases hposter
      exact (List.filter_comm ..).trans (hkept.trans hbooks.others)
    · intro r hr
      exact hbooks.apart r (List.mem_filter.mp hr).1

theorem releaseAll {vs : List BrightnessWatch} (hbooks : h.Books (vs ++ rest) made gone) :
    (vs.foldl (fun h v => v.release h) h).Books rest made gone := by
  induction vs generalizing h with
  | nil => exact hbooks
  | cons v vs ih => exact ih hbooks.release

/-- A watch starts: it gives its registration back and owns a new one. -/
theorem start {v : BrightnessWatch} (hbooks : h.Books (v :: rest) made gone) (user : UserId) :
    (v.start h user).state.Books ((v.start h user).answer :: rest) made gone := by
  have hreleased := hbooks.release
  refine ⟨BrightnessWatch.numbered_start hbooks.numbered, ?_, ?_, ?_, ?_, ?_⟩
  · refine List.pairwise_append.mpr ⟨hreleased.ordered, List.pairwise_singleton .., ?_⟩
    intro r hr s hs
    obtain rfl := List.mem_singleton.mp hs
    exact hreleased.numbered.registrations r hr
  · simp only [BrightnessWatch.start, Registry.register, List.filter_append,
      BrightnessWatch.nextId_release]
    exact (List.perm_append_singleton _ _).trans (hreleased.owned.cons _)
  · rw [← hreleased.others]
    simp [BrightnessWatch.start, Registry.register, Registration.isPoster]
  · intro r hr hposter w hw
    rcases List.mem_append.mp hr with hr | hr
    · exact hreleased.apart r hr hposter w hw
    · obtain rfl := List.mem_singleton.mp hr
      exact Nat.ne_of_lt (hreleased.numbered.watchers w hw)
  · intro id hid
    exact Nat.lt_succ_of_lt (hreleased.past id hid)

/-- How many registrations there are. -/
theorem count (hbooks : h.Books watches made gone) :
    h.registry.entries.length = watches.countP (fun v => v.user?.isSome) +
      (made.filter fun r => r.id ∉ gone).length := by
  have howned : (h.registry.entries.filter Registration.isPoster).length =
      watches.countP fun v => v.user?.isSome := by
    rw [hbooks.owned.length_eq, List.length_filterMap_eq_countP]
    refine List.countP_congr fun v _ => ?_
    cases v <;> rfl
  rw [← howned, ← hbooks.others]
  exact List.length_eq_length_filter_add Registration.isPoster

/-- How many of the registrations that hear of a write post an event: one for each watch on the
user, if the key is one of the two that are watched. -/
private theorem countP_hearing (hbooks : h.Books watches made gone) (key : String) (user : UserId) :
    (h.registry.hearing key user).countP Registration.isPoster =
      if key ∈ Setting.watched then watches.countP (BrightnessWatch.minds user) else 0 := by
  have hposting : (h.registry.hearing key user).countP Registration.isPoster =
      watches.countP fun v => (v.registration?.map fun r => r.hears key user).getD false := by
    calc (h.registry.hearing key user).countP Registration.isPoster
        = (h.registry.entries.filter Registration.isPoster).countP
            fun r => r.hears key user := by
          rw [Registry.hearing, List.countP_filter, List.countP_filter]
          exact List.countP_congr fun r _ => by rw [Bool.and_comm]
      _ = (watches.filterMap BrightnessWatch.registration?).countP
            fun r => r.hears key user := hbooks.owned.countP_eq _
      _ = _ := List.countP_filterMap ..
  rw [hposting]
  by_cases hkey : key ∈ Setting.watched
  · rw [if_pos hkey]
    refine List.countP_congr fun v _ => ?_
    cases v with
    | idle => rfl
    | observing observed id =>
      simp [BrightnessWatch.registration?, BrightnessWatch.minds, BrightnessWatch.user?,
        Registration.hears, hkey]
  · rw [if_neg hkey]
    refine List.countP_eq_zero.mpr fun v _ => ?_
    cases v with
    | idle => simp [BrightnessWatch.registration?]
    | observing observed id => simp [BrightnessWatch.registration?, Registration.hears, hkey]

end Books

/-- A later moment of a store: its numbers are never given out again. -/
structure Later (h h' : Hub) : Prop where
  nextId : h.registry.nextId ≤ h'.registry.nextId
  known : ∀ r ∈ h'.registry.entries, r.id < h.registry.nextId → r ∈ h.registry.entries

namespace Later

variable {h h' h'' : Hub}

theorem refl (h : Hub) : Later h h :=
  ⟨Nat.le_refl _, fun _ hr _ => hr⟩

theorem trans (hfirst : Later h h') (hnext : Later h' h'') : Later h h'' where
  nextId := Nat.le_trans hfirst.nextId hnext.nextId
  known r hr hold :=
    hfirst.known r (hnext.known r hr (Nat.lt_of_lt_of_le hold hfirst.nextId)) hold

theorem of_registry (hregistry : h'.registry = h.registry) : Later h h' := by
  constructor
  · exact Nat.le_of_eq (congrArg Registry.nextId hregistry.symm)
  · intro r hr _
    rwa [hregistry] at hr

theorem reregisters {made : List Registration} {gone : List Nat}
    (hothers : Reregisters h made gone h') : Later h h' := by
  refine ⟨hothers.nextId, ?_⟩
  intro r hr hold
  rw [hothers.entries] at hr
  refine (List.mem_append.mp (List.mem_filter.mp hr).1).resolve_right fun hmade => ?_
  exact absurd hold (Nat.not_lt.mpr (hothers.fresh r hmade).1)

theorem release (v : BrightnessWatch) (h : Hub) : Later h (v.release h) := by
  cases v with
  | idle => exact .refl h
  | observing user id => exact ⟨Nat.le_refl _, fun r hr _ => (List.mem_filter.mp hr).1⟩

theorem releaseAll (vs : List BrightnessWatch) (h : Hub) :
    Later h (vs.foldl (fun h v => v.release h) h) := by
  induction vs generalizing h with
  | nil => exact .refl h
  | cons v vs ih => exact (release v h).trans (ih (v.release h))

theorem start (v : BrightnessWatch) (h : Hub) (user : UserId) :
    Later h (v.start h user).state := by
  refine (release v h).trans ⟨Nat.le_succ _, ?_⟩
  intro r hr hold
  refine (List.mem_append.mp hr).resolve_right fun hnew => ?_
  obtain rfl := List.mem_singleton.mp hnew
  exact Nat.lt_irrefl _ hold

end Later

private theorem find?_dropResponse_of_ne {id other : Nat} (hne : other ≠ id) (ws : List Watcher) :
    (dropResponse id ws).find? (fun w => w.id == other) = ws.find? fun w => w.id == other := by
  induction ws with
  | nil => rfl
  | cons w rest ih =>
    by_cases hid : (w.id == id) = true
    · have hother : (w.id == other) = false := by
        rw [beq_iff_eq.mp hid]
        exact beq_false_of_ne hne.symm
      simp [dropResponse, hid, hother]
    · simp [dropResponse, hid, List.find?_cons, ih]

/-- Responses are taken from the watcher of a number alone. -/
theorem nextResponse_of_ne (h : Hub) {id other : Nat} (hne : other ≠ id) :
    ((h.nextResponse id).1.nextResponse other).2 = (h.nextResponse other).2 := by
  simp only [nextResponse, find?_dropResponse_of_ne hne]

/-- Listeners that do not react: those that post put one event each on the queue, the others
nothing. -/
private theorem posted_forEach (depth : Nat) (key : String) (user : UserId)
    {heard : List Registration}
    {h : Hub} (hopen : h.queue.isOpen = true) (hordered : heard.Pairwise fun r s => r.id < s.id)
    (hcalm : ∀ r ∈ heard, ∀ name, r.listener = .watcher name → (h.nextResponse r.id).2 = []) :
    let o := Outcome.forEach (call (depth + 1) key user) h heard
    let posted := List.replicate (heard.countP Registration.isPoster) (.settingChanged key user)
    o.journal.filterMap Activity.posted? = posted ∧
      o.state.queue.pending = h.queue.pending ++ posted := by
  induction heard generalizing h with
  | nil => simp [Outcome.forEach]
  | cons r rest ih =>
    obtain ⟨hbefore, hrest⟩ := List.pairwise_cons.mp hordered
    simp only [Outcome.forEach, Outcome.journal_andThen, Outcome.state_andThen,
      List.filterMap_append]
    cases hlistener : r.listener with
    | poster =>
      obtain ⟨hstate, hjournal⟩ := call_poster hopen hlistener (depth + 1) key user
      rw [hstate, hjournal]
      have hposter : r.isPoster = true := (r.isPoster_iff).mpr hlistener
      obtain ⟨hposted, hpending⟩ := ih (h := { h with queue := h.queue.post _ })
        (by simp [EventQueue.post, hopen]) hrest
        fun s hs => hcalm s (List.mem_cons_of_mem _ hs)
      rw [List.countP_cons_of_pos hposter, List.replicate_succ, hposted, hpending]
      simp [Activity.posted?, EventQueue.post, hopen]
    | watcher name =>
      have hnone := hcalm r List.mem_cons_self name hlistener
      have hcall : call (depth + 1) key user h r =
          ⟨(h.nextResponse r.id).1, (), [.changed name key user (h.store.read key user)]⟩ := by
        simp [call, hlistener, hnone, Outcome.forEach, Outcome.after]
      have hposter : ¬r.isPoster = true := by simp [Registration.isPoster, hlistener]
      obtain ⟨hposted, hpending⟩ := ih (h := (h.nextResponse r.id).1) hopen hrest (by
        intro s hs other hother
        rw [h.nextResponse_of_ne (Nat.ne_of_gt (hbefore s hs))]
        exact hcalm s (List.mem_cons_of_mem _ hs) other hother)
      rw [List.countP_cons_of_neg hposter, hcall, hposted, hpending]
      exact ⟨rfl, rfl⟩

/-- A write whose listeners do not react posts one event for each watch on its user, if its key is
one of the two that are watched. -/
theorem Books.posted_put {h : Hub} {watches : List BrightnessWatch} {made : List Registration}
    {gone : List Nat} (hbooks : h.Books watches made gone) (hopen : h.queue.isOpen = true)
    {key value : String} {user : UserId} {store : SettingsStore}
    (hwrite : h.store.write key value user = .ok store)
    (hcalm : ∀ r ∈ h.registry.hearing key user, ∀ name, r.listener = .watcher name →
      (h.nextResponse r.id).2 = []) :
    let posted := List.replicate
      (if key ∈ Setting.watched then watches.countP (BrightnessWatch.minds user) else 0)
      (.settingChanged key user)
    (h.put key value user).journal.filterMap Activity.posted? = posted ∧
      (h.put key value user).state.queue.pending = h.queue.pending ++ posted := by
  intro posted
  have hreported : (report (h.store.writeNotices key value user)).filterMap Activity.posted? =
      [] := by
    simp [report, List.filterMap_map, Activity.posted?]
  have hordered : (h.registry.hearing key user).Pairwise fun r s => r.id < s.id :=
    hbooks.ordered.filter _
  have htold := posted_forEach (h := { h with store }) h.pendingResponses key user hopen hordered
    hcalm
  rw [hbooks.countP_hearing] at htold
  obtain ⟨hposted, hpending⟩ := htold
  simp only [put, putUsing, hwrite, notifyUsing, Outcome.journal_after, Outcome.journal_mapAnswer,
    Outcome.state_after, Outcome.state_mapAnswer, List.filterMap_append, hreported,
    List.nil_append]
  exact ⟨hposted, hpending⟩

end Hub

end TilePanel
