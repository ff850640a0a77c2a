import Mathlib.Data.List.Infix
import Mathlib.Data.List.Nodup
import TilePanel.Toml.Document

/-!
The tables of documents. However a document builds up its tables, by headers, by keys with dots, by
arrays of tables or inline, none of them ends up with a key twice.
-/

namespace TilePanel.Toml

/-- Whether every table in a value has each key once. -/
inductive Value.Distinct : Value → Prop
  | string (text : String) : (Value.string text).Distinct
  | integer (n : Int) : (Value.integer n).Distinct
  | float : Value.float.Distinct
  | boolean (b : Bool) : (Value.boolean b).Distinct
  | dateTime (text : String) : (Value.dateTime text).Distinct
  | array {items : List Value} (items_distinct : ∀ v ∈ items, v.Distinct) :
    (Value.array items).Distinct
  | table {entries : List (String × Value)} (keys : (entries.map Prod.fst).Nodup)
    (values : ∀ e ∈ entries, e.2.Distinct) : (Value.table entries).Distinct

inductive Node.Distinct : Node → Prop
  | value {v : Value} (h : v.Distinct) : (Node.value v).Distinct
  | table {origin : Origin} {entries : Entries} (keys : (entries.map Prod.fst).Nodup)
    (nodes : ∀ e ∈ entries, e.2.Distinct) : (Node.table origin entries).Distinct
  | tables {items : List Entries} (keys : ∀ es ∈ items, (es.map Prod.fst).Nodup)
    (nodes : ∀ es ∈ items, ∀ e ∈ es, e.2.Distinct) : (Node.tables items).Distinct

structure Entries.Distinct (es : Entries) : Prop where
  keys : (es.map Prod.fst).Nodup
  nodes : ∀ e ∈ es, e.2.Distinct

theorem Node.distinct_table_iff {origin : Origin} {es : Entries} :
    (Node.table origin es).Distinct ↔ es.Distinct :=
  ⟨fun | .table keys nodes => ⟨keys, nodes⟩, fun h => .table h.keys h.nodes⟩

theorem Node.distinct_tables_iff {items : List Entries} :
    (Node.tables items).Distinct ↔ ∀ es ∈ items, Entries.Distinct es :=
  ⟨fun | .tables keys nodes => fun es hes => ⟨keys es hes, nodes es hes⟩,
    fun h => .tables (fun es hes => (h es hes).keys) fun es hes => (h es hes).nodes⟩

namespace Entries

variable {es es' : Entries}

private theorem distinct_nil : Distinct [] :=
  ⟨.nil, fun _ h => nomatch h⟩

/-- An update puts a new key behind all others, or a new node in the place of the old one. -/
private theorem update_cases {key : String} {change : Option Node → Option Node}
    (h : update key change es = some es') :
    (key ∉ es.map Prod.fst ∧ ∃ node, change none = some node ∧ es' = es ++ [(key, node)]) ∨
      ∃ before old node after, es = before ++ (key, old) :: after ∧
        change (some old) = some node ∧ es' = before ++ (key, node) :: after := by
  induction es generalizing es' with
  | nil =>
    obtain ⟨node, hnode, rfl⟩ := Option.map_eq_some_iff.mp h
    exact .inl ⟨List.not_mem_nil, node, hnode, rfl⟩
  | cons e es ih =>
    rw [update] at h
    by_cases hkey : e.1 = key
    · rw [if_pos hkey] at h
      obtain ⟨node, hnode, rfl⟩ := Option.map_eq_some_iff.mp h
      exact .inr ⟨[], e.2, node, es, by rw [← hkey]; rfl, hnode, rfl⟩
    · rw [if_neg hkey] at h
      obtain ⟨rest, hrest, rfl⟩ := Option.map_eq_some_iff.mp h
      rcases ih hrest with ⟨hfresh, node, hnode, rfl⟩ | ⟨before, old, node, after, rfl, hnode, rfl⟩
      · refine .inl ⟨?_, node, hnode, rfl⟩
        rw [List.map_cons, List.mem_cons, not_or]
        exact ⟨Ne.symm hkey, hfresh⟩
      · exact .inr ⟨e :: before, old, node, after, rfl, hnode, rfl⟩

/-- An update keeps the keys apart if what it puts in has its own keys apart. -/
theorem Distinct.update {key : String} {change : Option Node → Option Node} (h : es.Distinct)
    (hchange : ∀ old node, (∀ n ∈ old, Node.Distinct n) → change old = some node → node.Distinct)
    (hupdate : Entries.update key change es = some es') : es'.Distinct := by
  rcases update_cases hupdate with ⟨hfresh, node, hnode, rfl⟩ |
    ⟨before, old, node, after, rfl, hnode, rfl⟩
  · have hnew := hchange none node (fun _ hnone => nomatch hnone) hnode
    refine ⟨?_, fun e he => ?_⟩
    · rw [List.map_append, List.nodup_append]
      refine ⟨h.keys, List.nodup_singleton key, fun k hk k' hk' hsame => hfresh ?_⟩
      rwa [hsame, List.mem_singleton.mp hk'] at hk
    · rcases List.mem_append.mp he with he | he
      · exact h.nodes e he
      · rw [List.mem_singleton.mp he]
        exact hnew
  · have hold : old.Distinct := h.nodes (key, old) (by simp)
    have hnew := hchange (some old) node (fun n hn => Option.mem_some.mp hn ▸ hold) hnode
    have hkeys := h.keys
    refine ⟨by simpa using hkeys, fun e he => ?_⟩
    rcases List.mem_append.mp he with he | he
    · exact h.nodes e (List.mem_append_left _ he)
    · rcases List.mem_cons.mp he with rfl | he
      · exact hnew
      · exact h.nodes e (List.mem_append_right _ (List.mem_cons_of_mem _ he))

/-! What is put in the place of an old node: the table under it, or the last of the tables under it,
after a change that keeps keys apart. -/

section

variable {change : Entries → Option Entries} {node : Node}

private theorem distinct_inside {origin : Origin} (h : es.Distinct)
    (hchange : ∀ {es es'}, Distinct es → change es = some es' → Distinct es')
    (hinside : (change es).map (.table origin) = some node) : node.Distinct := by
  obtain ⟨es', hes', rfl⟩ := Option.map_eq_some_iff.mp hinside
  exact Node.distinct_table_iff.mpr (hchange h hes')

private theorem distinct_onLast {items : List Entries} (h : ∀ es ∈ items, Distinct es)
    (hchange : ∀ {es es'}, Distinct es → change es = some es' → Distinct es')
    (hlast : onLast change items = some node) : node.Distinct := by
  obtain ⟨last, hfound, hchanged⟩ := Option.bind_eq_some_iff.mp hlast
  obtain ⟨last', hlast', rfl⟩ := Option.map_eq_some_iff.mp hchanged
  refine Node.distinct_tables_iff.mpr fun es hes => ?_
  rcases List.mem_append.mp hes with hes | hes
  · exact h es (List.mem_of_mem_dropLast hes)
  · rw [List.mem_singleton.mp hes]
    exact hchange (h last (List.mem_of_getLast? hfound)) hlast'

end

/-- The change of one node that an update along a path makes keeps keys apart, if the update along
the rest of the path does. One case for each thing that may stand under the first key. -/
theorem Distinct.along {key : String} {change : Option Node → Option Node} (h : es.Distinct)
    (hnone : ∀ node, change none = some node → node.Distinct)
    (hvalue : ∀ v node, change (some (.value v)) = some node → node.Distinct)
    (htable : ∀ origin inner node, Distinct inner →
      change (some (.table origin inner)) = some node → node.Distinct)
    (htables : ∀ items node, (∀ es ∈ items, Distinct es) →
      change (some (.tables items)) = some node → node.Distinct)
    (hupdate : Entries.update key change es = some es') : es'.Distinct := by
  refine h.update (fun old node hold hnode => ?_) hupdate
  cases old with
  | none => exact hnone node hnode
  | some old =>
    have hold := hold old rfl
    cases old with
    | value v => exact hvalue v node hnode
    | table origin inner => exact htable origin inner node (Node.distinct_table_iff.mp hold) hnode
    | tables items => exact htables items node (Node.distinct_tables_iff.mp hold) hnode

/-- A key that is taken is not assigned again. -/
theorem distinct_assign {v : Value} (hv : v.Distinct) {key : List String} (h : es.Distinct)
    (hassign : assign v key es = some es') : es'.Distinct := by
  induction key generalizing es es' with
  | nil => cases hassign
  | cons k rest ih =>
    refine h.along (fun node hnode => ?_) (fun _ _ hnode => by cases hnode)
      (fun origin inner node hinner hnode => ?_) (fun items node hitems hnode => ?_) hassign
    · dsimp only at hnode
      split at hnode
      · obtain rfl := Option.some.inj hnode
        exact .value hv
      · exact distinct_inside distinct_nil ih hnode
    · cases origin with
      | header => cases hnode
      | implied =>
        dsimp only at hnode
        split at hnode
        · cases hnode
        · exact distinct_inside hinner ih hnode
      | dotted => exact distinct_inside hinner ih hnode
    · dsimp only at hnode
      split at hnode
      · cases hnode
      · exact distinct_onLast hitems ih hnode

/-- A header opens a table that is there or makes one under a key that is free. -/
theorem distinct_openTable {path : List String} (h : es.Distinct)
    (hopen : openTable path es = some es') : es'.Distinct := by
  induction path generalizing es es' with
  | nil => cases hopen
  | cons k rest ih =>
    refine h.along (fun node hnode => ?_) (fun _ _ hnode => by cases hnode)
      (fun origin inner node hinner hnode => ?_) (fun items node hitems hnode => ?_) hopen
    · dsimp only at hnode
      split at hnode
      · obtain rfl := Option.some.inj hnode
        exact Node.distinct_table_iff.mpr distinct_nil
      · exact distinct_inside distinct_nil ih hnode
    · dsimp only at hnode
      split at hnode
      · split at hnode
        · obtain rfl := Option.some.inj hnode
          exact Node.distinct_table_iff.mpr hinner
        · cases hnode
      · exact distinct_inside hinner ih hnode
    · dsimp only at hnode
      split at hnode
      · cases hnode
      · exact distinct_onLast hitems ih hnode

/-- A header of an array adds a table to an array that is there or makes one under a key that is
free. -/
theorem distinct_openItem {path : List String} (h : es.Distinct)
    (hopen : openItem path es = some es') : es'.Distinct := by
  have hitem : ∀ es ∈ [([] : Entries)], Distinct es := fun es hes =>
    List.mem_singleton.mp hes ▸ distinct_nil
  induction path generalizing es es' with
  | nil => cases hopen
  | cons k rest ih =>
    refine h.along (fun node hnode => ?_) (fun _ _ hnode => by cases hnode)
      (fun origin inner node hinner hnode => ?_) (fun items node hitems hnode => ?_) hopen
    · dsimp only at hnode
      split at hnode
      · obtain rfl := Option.some.inj hnode
        exact Node.distinct_tables_iff.mpr hitem
      · exact distinct_inside distinct_nil ih hnode
    · dsimp only at hnode
      split at hnode
      · cases hnode
      · exact distinct_inside hinner ih hnode
    · dsimp only at hnode
      split at hnode
      · obtain rfl := Option.some.inj hnode
        refine Node.distinct_tables_iff.mpr fun es hes => ?_
        rcases List.mem_append.mp hes with hes | hes
        · exact hitems es hes
        · exact hitem es hes
      · exact distinct_onLast hitems ih hnode

theorem distinct_assignIn {v : Value} (hv : v.Distinct) {key path : List String} (h : es.Distinct)
    (hassign : assignIn v key path es = some es') : es'.Distinct := by
  induction path generalizing es es' with
  | nil => exact distinct_assign hv h hassign
  | cons k rest ih =>
    exact h.along (fun _ hnode => by cases hnode) (fun _ _ hnode => by cases hnode)
      (fun _ _ _ hinner hnode => distinct_inside hinner ih hnode)
      (fun _ _ hitems hnode => distinct_onLast hitems ih hnode) hassign

end Entries

/-! What the tables are as values. -/

theorem Entries.toValues_eq_map (es : Entries) :
    es.toValues = es.map fun e => (e.1, e.2.toValue) := by
  induction es with
  | nil => rfl
  | cons e es ih =>
    rw [Entries.toValues, ih]
    rfl

private theorem itemValues_eq_map (items : List Entries) :
    itemValues items = items.map fun es => .table es.toValues := by
  induction items with
  | nil => rfl
  | cons es items ih =>
    rw [itemValues, ih]
    rfl

theorem Entries.keys_toValues (es : Entries) :
    es.toValues.map Prod.fst = es.map Prod.fst := by
  rw [toValues_eq_map, List.map_map]
  rfl

/-- A table whose nodes are such values is one. -/
theorem Entries.distinct_toValues {es : Entries} (keys : (es.map Prod.fst).Nodup)
    (values : ∀ e ∈ es, e.2.toValue.Distinct) : (Value.table es.toValues).Distinct := by
  refine .table (by rwa [keys_toValues]) fun e he => ?_
  rw [toValues_eq_map] at he
  obtain ⟨node, hnode, rfl⟩ := List.mem_map.mp he
  exact values node hnode

/-- Turning what was built into values keeps the keys. -/
theorem Node.Distinct.toValue {node : Node} (h : node.Distinct) : node.toValue.Distinct := by
  induction h with
  | value h => exact h
  | table keys _ ih =>
    rw [Node.toValue]
    exact Entries.distinct_toValues keys ih
  | tables keys _ ih =>
    rw [Node.toValue, itemValues_eq_map]
    refine .array fun v hv => ?_
    obtain ⟨es, hes, rfl⟩ := List.mem_map.mp hv
    exact Entries.distinct_toValues (keys es hes) (ih es hes)

theorem Entries.Distinct.toValues {es : Entries} (h : es.Distinct) :
    (Value.table es.toValues).Distinct :=
  distinct_toValues h.keys fun e he => (h.nodes e he).toValue

/-! Values as they are read. -/

private theorem distinct_of_word? {cs : List Char} {v : Value} (h : word? cs = some v) :
    v.Distinct := by
  unfold word? at h
  split at h
  · obtain rfl := Option.some.inj h
    exact .boolean true
  · split at h
    · obtain rfl := Option.some.inj h
      exact .boolean false
    · split at h
      · obtain rfl := Option.some.inj h
        exact .integer _
      · split at h
        · obtain rfl := Option.some.inj h
          exact .float
        · obtain ⟨text, _, rfl⟩ := Option.map_eq_some_iff.mp h
          exact .dateTime _

private theorem distinct_of_scalar? {cs r : List Char} {v : Value} (h : scalar? cs = some (v, r)) :
    v.Distinct := by
  unfold scalar? at h
  dsimp only at h
  split at h
  · next hspaced =>
    unfold spacedDateTime? at hspaced
    split at hspaced
    · obtain ⟨time, _, htime⟩ := Option.map_eq_some_iff.mp hspaced
      rw [← htime] at h
      obtain ⟨rfl, -⟩ := Prod.mk.inj (Option.some.inj h)
      exact .dateTime _
    · cases hspaced
  · obtain ⟨word, hword, hv⟩ := Option.map_eq_some_iff.mp h
    obtain ⟨rfl, -⟩ := Prod.mk.inj hv
    exact distinct_of_word? hword

/-- Whether everything that a reader reads is such a value. -/
def ReadsDistinct (value? : List Char → Reading Value) : Prop :=
  ∀ {cs v r}, value? cs = some (v, r) → v.Distinct

section

variable {reader? : List Char → Reading Value}

private theorem distinct_of_items? (hreader : ReadsDistinct reader?) {limit : Nat}
    {cs r : List Char}
    {vs : List Value} (h : items? reader? limit cs = some (vs, r)) : ∀ v ∈ vs, v.Distinct := by
  induction limit generalizing cs vs r with
  | zero => cases h
  | succ limit ih =>
    unfold items? at h
    split at h
    · obtain ⟨rfl, -⟩ := Prod.mk.inj (Option.some.inj h)
      exact fun _ hv => nomatch hv
    · split at h
      · cases h
      · next first _ hfirst =>
        have hfirst : first.Distinct := hreader hfirst
        split at h
        · obtain ⟨rest, hrest, hvs⟩ := Option.map_eq_some_iff.mp h
          obtain ⟨rfl, -⟩ := Prod.mk.inj hvs
          exact List.forall_mem_cons.mpr ⟨hfirst, ih hrest⟩
        · obtain ⟨rfl, -⟩ := Prod.mk.inj (Option.some.inj h)
          exact List.forall_mem_singleton.mpr hfirst
        · cases h

private theorem distinct_of_pair? (hreader : ReadsDistinct reader?) {cs r : List Char}
    {key : List String} {v : Value} (h : pair? reader? cs = some ((key, v), r)) : v.Distinct := by
  unfold pair? at h
  split at h
  · obtain ⟨value, hvalue, hpair⟩ := Option.map_eq_some_iff.mp h
    obtain ⟨hfirst, -⟩ := Prod.mk.inj hpair
    obtain ⟨-, rfl⟩ := Prod.mk.inj hfirst
    exact hreader hvalue
  · cases h

private theorem distinct_of_pairs? (hreader : ReadsDistinct reader?) {limit : Nat}
    {cs r : List Char}
    {es es' : Entries} (hes : es.Distinct) (h : pairs? reader? limit es cs = some (es', r)) :
    es'.Distinct := by
  induction limit generalizing cs es with
  | zero => cases h
  | succ limit ih =>
    unfold pairs? at h
    split at h
    · cases h
    · next hpair =>
      have hv := distinct_of_pair? hreader hpair
      split at h
      · next hassigned _ => exact ih (Entries.distinct_assign hv hes hassigned) h
      · next hassigned _ =>
        obtain ⟨rfl, -⟩ := Prod.mk.inj (Option.some.inj h)
        exact Entries.distinct_assign hv hes hassigned
      · cases h

private theorem distinct_of_inlineTable? (hreader : ReadsDistinct reader?) {cs r : List Char}
    {v : Value} (h : inlineTable? reader? cs = some (v, r)) : v.Distinct := by
  unfold inlineTable? at h
  split at h
  · obtain ⟨rfl, -⟩ := Prod.mk.inj (Option.some.inj h)
    exact .table .nil fun _ he => nomatch he
  · obtain ⟨pairs, hpairs, hv⟩ := Option.map_eq_some_iff.mp h
    obtain ⟨rfl, -⟩ := Prod.mk.inj hv
    have hes := distinct_of_pairs? hreader Entries.distinct_nil hpairs
    exact hes.toValues

end

/-- However deep tables are nested, each has its keys once. -/
theorem readsDistinct_value? (depth : Nat) : ReadsDistinct (value? depth) := by
  induction depth with
  | zero =>
    intro cs v r h
    unfold value? at h
    split at h
    · cases h
    · cases h
    · split at h
      · obtain ⟨rfl, -⟩ := Prod.mk.inj (Option.some.inj h)
        exact .string _
      · exact distinct_of_scalar? h
  | succ depth ih =>
    intro cs v r h
    unfold value? at h
    split at h
    · obtain ⟨items, hitems, hv⟩ := Option.map_eq_some_iff.mp h
      obtain ⟨rfl, -⟩ := Prod.mk.inj hv
      exact .array (distinct_of_items? ih hitems)
    · exact distinct_of_inlineTable? ih h
    · split at h
      · obtain ⟨rfl, -⟩ := Prod.mk.inj (Option.some.inj h)
        exact .string _
      · exact distinct_of_scalar? h

/-! Documents, statement by statement. -/

def Statement.Distinct : Statement → Prop
  | assign _ v => v.Distinct
  | table _ | item _ => True

/-- Only inline tables bring keys of their own, and those are checked when they are read. -/
theorem distinct_of_statement? {cs r : List Char} {s : Option Statement}
    (h : statement? cs = some (s, r)) : ∀ t ∈ s, t.Distinct := by
  unfold statement? at h
  split at h
  · obtain ⟨rfl, -⟩ := Prod.mk.inj (Option.some.inj h)
    exact fun _ ht => nomatch ht
  · obtain ⟨rfl, -⟩ := Prod.mk.inj (Option.some.inj h)
    exact fun _ ht => nomatch ht
  · obtain ⟨rfl, -⟩ := Prod.mk.inj (Option.some.inj h)
    exact fun _ ht => nomatch ht
  · obtain ⟨rfl, -⟩ := Prod.mk.inj (Option.some.inj h)
    exact fun _ ht => nomatch ht
  · split at h
    · obtain ⟨rfl, -⟩ := Prod.mk.inj (Option.some.inj h)
      exact fun t ht => Option.mem_some.mp ht ▸ trivial
    · cases h
  · split at h
    · obtain ⟨rfl, -⟩ := Prod.mk.inj (Option.some.inj h)
      exact fun t ht => Option.mem_some.mp ht ▸ trivial
    · cases h
  · obtain ⟨⟨⟨key, v⟩, rest⟩, hpair, hs⟩ := Option.map_eq_some_iff.mp h
    obtain ⟨rfl, -⟩ := Prod.mk.inj hs
    have hv : v.Distinct := distinct_of_pair? (readsDistinct_value? depthLimit) hpair
    exact fun t ht => Option.mem_some.mp ht ▸ hv

theorem distinct_of_statements? {limit : Nat} {cs : List Char} {ss : List Statement}
    (h : statements? limit cs = some ss) : ∀ s ∈ ss, s.Distinct := by
  induction limit generalizing cs ss with
  | zero => cases h
  | succ limit ih =>
    unfold statements? at h
    split at h
    · obtain rfl := Option.some.inj h
      exact fun _ hs => nomatch hs
    · split at h
      · cases h
      · next s _ hstatement =>
        split at h
        · cases h
        · obtain ⟨rest, hrest, rfl⟩ := Option.map_eq_some_iff.mp h
          intro t ht
          rcases List.mem_append.mp ht with ht | ht
          · exact distinct_of_statement? hstatement t (Option.mem_toList.mp ht)
          · exact ih hrest t ht

/-- No statement makes a table that has a key twice. -/
theorem Build.distinct_add {b b' : Build} {s : Statement} (hs : s.Distinct)
    (h : b.entries.Distinct) (hadd : b.add s = some b') : b'.entries.Distinct := by
  cases s with
  | table path =>
    obtain ⟨es, hes, rfl⟩ := Option.map_eq_some_iff.mp hadd
    exact Entries.distinct_openTable h hes
  | item path =>
    obtain ⟨es, hes, rfl⟩ := Option.map_eq_some_iff.mp hadd
    exact Entries.distinct_openItem h hes
  | assign key v =>
    obtain ⟨es, hes, rfl⟩ := Option.map_eq_some_iff.mp hadd
    exact Entries.distinct_assignIn hs h hes

theorem Build.distinct_foldlM {b b' : Build} {ss : List Statement} (hss : ∀ s ∈ ss, s.Distinct)
    (h : b.entries.Distinct) (hfold : ss.foldlM Build.add b = some b') : b'.entries.Distinct := by
  induction ss generalizing b with
  | nil =>
    obtain rfl := Option.some.inj hfold
    exact h
  | cons s ss ih =>
    rw [List.foldlM_cons] at hfold
    obtain ⟨next, hnext, hrest⟩ := Option.bind_eq_some_iff.mp hfold
    have hs := Build.distinct_add (hss s List.mem_cons_self) h hnext
    exact ih (fun t ht => hss t (List.mem_cons_of_mem s ht)) hs hrest

/-- A document, and every table in it, has each key once. -/
theorem distinct_of_entries? {cs : List Char} {doc : List (String × Value)}
    (h : entries? cs = some doc) : (Value.table doc).Distinct := by
  unfold entries? at h
  dsimp only at h
  obtain ⟨ss, hss, hbuilt⟩ := Option.bind_eq_some_iff.mp h
  obtain ⟨b, hb, rfl⟩ := Option.map_eq_some_iff.mp hbuilt
  have hes := Build.distinct_foldlM (distinct_of_statements? hss) Entries.distinct_nil hb
  exact hes.toValues

end TilePanel.Toml
