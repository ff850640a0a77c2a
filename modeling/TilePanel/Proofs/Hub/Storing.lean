import TilePanel.Proofs.Hub.Snapshot
import TilePanel.Proofs.Settings.Integers
import TilePanel.Proofs.Settings.Writes

/-!
What is stored in the course of writes. A write may lead to others, by the watchers that are told of
it, and all of them are stored, at whatever depth and in the order in which they are made. So a hub
that takes writes reads the last text that was written for a key and a user, whoever wrote it, and
lists exactly what it reads; and an integer that was written reads back as that integer until its
place is written again.
-/

namespace TilePanel

namespace Telling

/-- The writes that are stored, at whatever depth, in order. -/
def stored : Telling → List Write
  | nothing => []
  | called _ _ _ inside rest => inside.stored ++ rest.stored
  | wrote key value user inside rest => ⟨key, value, user⟩ :: inside.stored ++ rest.stored
  | watched _ rest | unwatched _ rest | refused _ _ _ rest => rest.stored

end Telling

namespace Hub

variable {h h' : Hub} {agenda : Agenda} {t : Telling} {j : List Activity}

private theorem store_post (h : Hub) (e : Event) (unreceived : Notice) :
    (h.post e unreceived).state.store = h.store := by
  unfold post
  split <;> rfl

private theorem store_unwatch (h : Hub) (name : String) : (h.unwatch name).1.store = h.store := by
  unfold unwatch
  split <;> rfl

/-- A notification leaves the store as the writes inside of it make it. -/
theorem Tells.store (htells : Tells agenda h t j h') :
    h.store.writeAll t.stored = .ok h'.store := by
  induction htells with
  | told | reacted => rfl
  | poster _ _ ih =>
    rw [store_post] at ih
    exact ih
  | watcher _ _ _ ihinside ih => exact SettingsStore.writeAll_trans ihinside ih
  | watch _ ih => exact ih
  | unwatch _ ih =>
    rw [store_unwatch] at ih
    exact ih
  | put hwrite _ _ ihinside ih =>
    rw [Telling.stored, List.cons_append, SettingsStore.writeAll_cons, hwrite]
    exact SettingsStore.writeAll_trans ihinside ih
  | refused _ _ ih => exact ih

/-- Whether no reactions are left to carry out but those of listeners that are yet to be called. -/
def Agenda.IsBare : Agenda → Prop
  | tell .. => True
  | react _ reactions => reactions = []

/-- Where no responses are to come, nobody writes in turn. -/
theorem Tells.stored_eq_nil (htells : Tells agenda h t j h') (hagenda : agenda.IsBare)
    (hnone : h.pendingResponses = 0) : t.stored = [] ∧ h'.pendingResponses = 0 := by
  induction htells with
  | told | reacted => exact ⟨rfl, hnone⟩
  | poster _ _ ih =>
    rw [pending_post] at ih
    exact ih trivial hnone
  | @watcher _ _ _ r _ h _ _ _ _ _ _ _ _ _ ihinside ih =>
    obtain ⟨hle, hlt⟩ := h.pending_nextResponse r.id
    have hresponse : (h.nextResponse r.id).2 = [] := by
      by_contra hne
      have := hlt hne
      omega
    obtain ⟨hinside, hnext⟩ := ihinside hresponse (by omega)
    obtain ⟨hrest, hlast⟩ := ih trivial hnext
    exact ⟨by rw [Telling.stored, hinside, hrest, List.append_nil], hlast⟩
  | watch | unwatch | put | refused => cases hagenda

/-- The writes that one write brings about, itself first. A write that is refused brings about
none. -/
def writesOf (h : Hub) (w : Write) : List Write :=
  match h.store.write w.key w.value w.user with
  | .error _ => []
  | .ok _ => w :: (h.tellingOfPut w.key w.value w.user).stored

theorem writesOf_of_ok {w : Write} {store : SettingsStore}
    (hwrite : h.store.write w.key w.value w.user = .ok store) :
    h.writesOf w = w :: (h.tellingOfPut w.key w.value w.user).stored := by
  simp only [writesOf, hwrite]

/-- A write leaves the store as the writes that it brings about do, one after the other. -/
theorem store_put (h : Hub) (w : Write) :
    h.store.writeAll (h.writesOf w) = .ok (h.put w.key w.value w.user).state.store := by
  cases hwrite : h.store.write w.key w.value w.user with
  | error cause =>
    simp only [writesOf, hwrite, put, putUsing]
    rfl
  | ok store =>
    obtain ⟨j, htells, -, -⟩ := tells_put hwrite
    rw [writesOf_of_ok hwrite, SettingsStore.writeAll_cons, hwrite]
    exact htells.store

theorem writesOf_of_unresponsive {w : Write} (hwritable : h.store.isWritable = true)
    (hnone : h.pendingResponses = 0) :
    h.writesOf w = [w] ∧ (h.put w.key w.value w.user).state.pendingResponses = 0 := by
  obtain ⟨store, hwrite, -⟩ := SettingsStore.write_of_isWritable hwritable w.key w.value w.user
  obtain ⟨j, htells, -, -⟩ := tells_put hwrite
  obtain ⟨hstored, hlast⟩ := htells.stored_eq_nil trivial hnone
  exact ⟨by rw [writesOf_of_ok hwrite, hstored], hlast⟩

/-- A store that takes writes takes them with all that they lead to, and goes on to take writes. -/
theorem put_of_isWritable (hwritable : h.store.isWritable = true) (w : Write) :
    (h.put w.key w.value w.user).answer = .ok () ∧
      (h.put w.key w.value w.user).state.store.isWritable = true := by
  obtain ⟨store, hwrite, -⟩ := SettingsStore.write_of_isWritable hwritable w.key w.value w.user
  obtain ⟨j, -, -, hanswer⟩ := tells_put hwrite
  refine ⟨hanswer, ?_⟩
  refine SettingsStore.writeAll_keeps (P := fun s => s.isWritable = true) ?_ (h.store_put w)
    hwritable
  intro s key value user s' hs hwrite
  obtain ⟨after, hafter, hkept⟩ := SettingsStore.write_of_isWritable hs key value user
  rw [hwrite] at hafter
  obtain rfl := Except.ok.inj hafter
  exact hkept

def putAll : Hub → List Write → Outcome Hub (List (Except Error Unit))
  | h, [] => ⟨h, [], []⟩
  | h, w :: rest =>
    (h.put w.key w.value w.user).andThen fun answer h => (putAll h rest).mapAnswer (answer :: ·)

/-- The writes that are stored while some are made one after the other, those that they lead to
included, in order. -/
def writesOfAll : Hub → List Write → List Write
  | _, [] => []
  | h, w :: rest => h.writesOf w ++ writesOfAll (h.put w.key w.value w.user).state rest

theorem store_putAll (h : Hub) (writes : List Write) :
    h.store.writeAll (h.writesOfAll writes) = .ok (h.putAll writes).state.store := by
  induction writes generalizing h with
  | nil => rfl
  | cons w rest ih => exact SettingsStore.writeAll_trans (h.store_put w) (ih _)

theorem answer_putAll (hwritable : h.store.isWritable = true) (writes : List Write) :
    (h.putAll writes).answer = writes.map fun _ => .ok () := by
  induction writes generalizing h with
  | nil => rfl
  | cons w rest ih =>
    obtain ⟨hanswer, hkept⟩ := put_of_isWritable hwritable w
    rw [putAll, Outcome.answer_andThen, Outcome.answer_mapAnswer, hanswer, ih hkept, List.map_cons]

theorem writesOfAll_of_unresponsive (hwritable : h.store.isWritable = true)
    (hnone : h.pendingResponses = 0) (writes : List Write) : h.writesOfAll writes = writes := by
  induction writes generalizing h with
  | nil => rfl
  | cons w rest ih =>
    obtain ⟨hown, hlast⟩ := writesOf_of_unresponsive (w := w) hwritable hnone
    rw [writesOfAll, hown, ih (put_of_isWritable hwritable w).2 hlast, List.singleton_append]

/-- An integer that is written reads back. Whatever is written after it, by whomever, to other keys
or for other users: whoever reads the integer finds it, whatever the fallback, stored as the shortest
text that denotes it. Any other pair of a key and a user that was not written either reads the
integer that it read before. Where nobody reacts to writes, the writes after it are those that were
asked for. -/
theorem readInt_after_putInt (hwritable : h.store.isWritable = true) (key : String) (v : Int32)
    (user : UserId) (writes : List Write) :
    let first := h.putInt key v user
    let last := first.state.putAll writes
    let since :=
      (h.tellingOfPut key (settingText v) user).stored ++ first.state.writesOfAll writes
    first.answer = .ok () ∧ last.answer = writes.map (fun _ => .ok ()) ∧
      (h.pendingResponses = 0 → since = writes) ∧
      ((∀ w ∈ since, w.isFor key user = false) →
        (∀ fallback, last.state.store.readInt key fallback user = v) ∧
          last.state.store.read key user = .ok (some (settingText v))) ∧
      (Text.Denotes (settingText v) v.toInt ∧ ∀ raw, Text.Denotes raw v.toInt →
        raw = settingText v ∨ (settingText v).length < raw.length) ∧
      ∀ other owner, ¬(owner = user ∧ other = key) →
        (∀ w ∈ since, w.isFor other owner = false) →
        ∀ fallback, last.state.store.readInt other fallback owner =
          h.store.readInt other fallback owner := by
  intro first last since
  let own : Write := ⟨key, settingText v, user⟩
  obtain ⟨store, hwrite, -⟩ :=
    SettingsStore.write_of_isWritable hwritable key (settingText v) user
  obtain ⟨hanswer, hkept⟩ := put_of_isWritable hwritable own
  -- All that is stored from the integer on, and what the store was right after the integer.
  have hall : h.store.writeAll (own :: since) = .ok last.state.store := by
    have hfirst := h.store_put own
    rw [writesOf_of_ok hwrite] at hfirst
    exact SettingsStore.writeAll_trans hfirst (first.state.store_putAll writes)
  have hsince : store.writeAll since = .ok last.state.store := by
    rw [SettingsStore.writeAll_cons, hwrite] at hall
    exact hall
  refine ⟨hanswer, answer_putAll hkept writes, ?_, ?_, ?_, ?_⟩
  · intro hnone
    obtain ⟨hown, hlast⟩ := writesOf_of_unresponsive (w := own) hwritable hnone
    rw [writesOf_of_ok hwrite] at hown
    have hinside := (List.cons.inj hown).2
    have hlater := writesOfAll_of_unresponsive hkept hlast writes
    exact (congrArg₂ (· ++ ·) hinside hlater).trans (List.nil_append writes)
  · intro hunwritten
    have hread : last.state.store.read key user = .ok (some (settingText v)) := by
      rw [SettingsStore.read_writeAll_of_unwritten hsince hunwritten]
      exact SettingsStore.read_write_self hwrite
    refine ⟨fun fallback => ?_, hread⟩
    simp only [SettingsStore.readInt, hread, SettingsStore.parseInt?_settingText, Option.getD_some]
  · exact ⟨Text.denotes_showInt v.toInt, fun raw hraw => hraw.shortest⟩
  · intro other owner hne hunwritten fallback
    refine SettingsStore.readInt_congr fallback ?_
    rw [SettingsStore.read_writeAll_of_unwritten hsince hunwritten]
    exact SettingsStore.read_write_of_ne hwrite hne

/-- A hub with a watcher that answers the first write that it hears of with one for its owner. -/
def echoing : Hub :=
  ({ store := .database (some {}) } : Hub).watch "e" ["k"] .everyone [[.put "k" "07" .owner]]

/-- The least integer, written for every user, while somebody else writes the key for the owner. -/
theorem readInt_after_putInt_of_echoing :
    let first := echoing.putInt "k" (-2147483648) .everyone
    let last := first.state.putAll [⟨"k", "x", .owner⟩, ⟨"l", "1", .everyone⟩]
    (∀ fallback, last.state.store.readInt "k" fallback .everyone = -2147483648) ∧
      last.state.store.read "k" .everyone = .ok (some "-2147483648") ∧
      ∀ fallback, last.state.store.readInt "k" fallback ⟨7⟩ = fallback := by
  intro first last
  obtain ⟨-, -, -, hself, -, hothers⟩ := readInt_after_putInt (h := echoing) rfl "k" (-2147483648)
    .everyone [⟨"k", "x", .owner⟩, ⟨"l", "1", .everyone⟩]
  obtain ⟨hint, hread⟩ := hself (by decide +kernel)
  have htext : settingText (-2147483648) = "-2147483648" := by decide +kernel
  rw [htext] at hread
  refine ⟨hint, hread, fun fallback => ?_⟩
  exact hothers "k" ⟨7⟩ (by decide) (by decide +kernel) fallback

/-- A hub whose store was empty when its first write came. Whatever was written since then, by
whomever, for each key and each user the text that was written last for exactly this key and this
user is read, and none if there was no write; every user is a user of its own here. A listing stands
strictly in the order of the UTF-8 bytes of its keys, so that no key stands twice, and says exactly
what is read. Memory and a table do the same. -/
theorem reads_and_listings {h : Hub}
    (hempty : h.store = .memory {} ∨ h.store = .database (some {})) (writes : List Write) :
    let o := h.putAll writes
    let stored := h.writesOfAll writes
    o.answer = writes.map (fun _ => .ok ()) ∧
      (h.pendingResponses = 0 → stored = writes) ∧
      (∀ key user, o.state.store.read key user = .ok (lastWrite? key user stored)) ∧
      ∀ user, ∃ entries, o.state.store.list user = .ok entries ∧
        entries.Pairwise (fun a b => Text.bytes a.1 < Text.bytes b.1) ∧
        (entries.map Prod.fst).Nodup ∧
        ∀ key value, (key, value) ∈ entries ↔
          o.state.store.read key user = .ok (some value) := by
  intro o stored
  have hwritable : h.store.isWritable = true := by
    rcases hempty with hstore | hstore <;> rw [hstore] <;> rfl
  have htidy : h.store.Tidy := by
    rcases hempty with hstore | hstore
    · rw [hstore]
      exact Mirrors.empty.keyed
    · rw [hstore]
      exact Mirrors.empty.tidy
  have hunread : ∀ key user, h.store.read key user = .ok none := by
    intro key user
    rcases hempty with hstore | hstore <;> rw [hstore] <;> rfl
  have hstored : h.store.writeAll stored = .ok o.state.store := h.store_putAll writes
  refine ⟨answer_putAll hwritable writes, ?_, ?_, ?_⟩
  · exact fun hnone => writesOfAll_of_unresponsive hwritable hnone writes
  · intro key user
    rw [SettingsStore.read_writeAll hstored, hunread]
    cases lastWrite? key user stored <;> rfl
  · intro user
    obtain ⟨entries, hlist, hascending, hmem⟩ := (htidy.writeAll hstored).list user
    refine ⟨entries, hlist, ?_, hascending.keys_nodup, fun key value => hmem (key, value)⟩
    exact hascending.imp fun hbefore => of_decide_eq_true hbefore

/-- Writes of a key that is no ASCII text, of one key for a user and for every user, and of a text
that replaces an earlier one. -/
theorem reads_and_listings_of_table :
    let writes : List Write :=
      [⟨"ü", "1", .owner⟩, ⟨"z", "2", .owner⟩, ⟨"z", "3", .everyone⟩, ⟨"ü", "4", .owner⟩]
    let o := ({ store := .database (some {}) } : Hub).putAll writes
    o.state.store.read "z" .owner = .ok (some "2") ∧
      o.state.store.read "z" .everyone = .ok (some "3") ∧
      o.state.store.read "z" ⟨10⟩ = .ok none ∧
      ∃ entries, o.state.store.list .owner = .ok entries ∧ ("ü", "4") ∈ entries ∧
        ("ü", "1") ∉ entries := by
  intro writes o
  obtain ⟨-, hstored, hread, hlist⟩ :=
    reads_and_listings (h := { store := .database (some {}) }) (.inr rfl) writes
  rw [hstored rfl] at hread
  obtain ⟨entries, hentries, -, -, hmem⟩ := hlist .owner
  refine ⟨hread "z" .owner, hread "z" .everyone, hread "z" ⟨10⟩, entries, hentries, ?_, ?_⟩
  · exact (hmem "ü" "4").mpr (hread "ü" .owner)
  · rw [hmem, hread]
    decide

end Hub

end TilePanel
