import TilePanel.Proofs.Panel.Bindings
import TilePanel.Proofs.Panel.Congruence

/-!
Operations on different tiles commute. What an operation makes of a tile depends on the slot of this
tile and on the surroundings alone, it answers as the bindings of its own tiles decide, and of two
operations that concern different tiles one at most moves the watch. So neither notices whether the
other one ran before it.
-/

namespace TilePanel

namespace Panel

/-- Two panels with the same slot for one tile, in surroundings from which the same is read. -/
structure AgreeAt (kind : TileKind) (p q : Panel) : Prop where
  slot : q.slots.get kind = p.slots.get kind
  store : q.hub.store = p.hub.store
  user : q.user = p.user
  catalog : q.catalog = p.catalog

private theorem slots_update (p : Panel) (kind other : TileKind)
    (change : TileRecord → TileRecord) : (p.update kind change).state.slots.get other =
      if other = kind then { p.slots.get kind with record := change (p.record kind) }
      else p.slots.get other := by
  rw [state_update, setRecord, PerTile.get_set]

private theorem slots_bind (p : Panel) (kind other : TileKind) (binding : Binding) :
    (p.bind kind binding).state.slots.get other =
      if other = kind then { p.slots.get kind with binding := some binding }
      else p.slots.get other := by
  rw [bind, PerTile.get_set]

/-- What becomes of a slot depends on this slot and the surroundings. -/
theorem AgreeAt.congruence (kind : TileKind) : Congruence (AgreeAt kind) where
  catalog h := h.catalog
  brightnessMode h := by simp only [Panel.brightnessMode, h.store, h.user]
  update := by
    intro p q h changed change
    refine ⟨?_, ?_, ?_, ?_⟩
    · rw [slots_update, slots_update]
      split
      · next hsame => rw [Panel.record, Panel.record, ← hsame, h.slot]
      · exact h.slot
    · rw [state_update, state_update]
      exact h.store
    · rw [state_update, state_update]
      exact h.user
    · rw [state_update, state_update]
      exact h.catalog
  bind := by
    intro p q h bound binding
    refine ⟨?_, h.store, h.user, h.catalog⟩
    rw [slots_bind, slots_bind]
    split
    · next hsame => rw [← hsame, h.slot]
    · exact h.slot
  moveWatch := by
    intro p q h
    refine ⟨h.slot, ?_, h.user, h.catalog⟩
    rw [store_moveWatch, store_moveWatch, h.store]

end Panel

namespace Operation

variable {a b : Operation}

/-- An operation that does not concern a tile leaves it as it was for those that do. -/
theorem agreeAt_run (op : Operation) (p : Panel) {kind : TileKind} (hkind : kind ∉ op.concerned) :
    p.AgreeAt kind (op.run p).state :=
  have hsame := op.surroundings_run p
  ⟨(op.repaints_run p).kept kind hkind, hsame.store, hsame.user, hsame.catalog⟩

/-- Binding answers no error, whatever is painted after it. -/
private theorem answer_add (p : Panel) (kind : TileKind) (binding : Binding) :
    (p.add kind binding).answer = .ok () := by
  have hbound : (p.bind kind binding).state.verdict [kind] = .ok () := by
    refine Panel.verdict_of_isBound fun other hother => ?_
    obtain rfl := List.mem_singleton.mp hother
    rw [Panel.isBound, Panel.binding?_bind_self]
    rfl
  rw [← hbound]
  cases kind with
  | user | time | battery => exact Panel.answer_push _ _
  | brightness | settings | certificate => exact Panel.answer_update _ _ _

/-- What an operation answers depends on the bindings of the tiles that it concerns. -/
private theorem answer_congr (op : Operation) {p q : Panel}
    (h : ∀ kind ∈ op.concerned, q.binding? kind = p.binding? kind) :
    (op.run q).answer = (op.run p).answer := by
  cases hop : op.isBinding with
  | true =>
    cases op with
    | add kind binding => exact (answer_add q kind binding).trans (answer_add p kind binding).symm
    | _ => cases hop
  | false =>
    rw [op.answer_run hop, op.answer_run hop]
    exact Panel.verdict_congr fun kind hkind => congrArg Option.isSome (h kind hkind)

private theorem mem_concerned_of_movesWatch {op : Operation} (h : op.movesWatch = true) :
    .brightness ∈ op.concerned := by
  cases op with
  | userSwitched | handle => exact List.mem_singleton_self _
  | _ => cases h

/-- Apart from the slots, the order of two operations makes no difference if one of them does not
move the watch. -/
theorem retiles_run_run (p : Panel) (h : ¬(a.movesWatch = true ∧ b.movesWatch = true)) :
    Panel.Retiles (b.run (a.run p).state).state (a.run (b.run p).state).state := by
  obtain ⟨_, ha⟩ := a.retiles_run p
  obtain ⟨_, hb⟩ := b.retiles_run p
  obtain ⟨_, hab⟩ := b.retiles_run (a.run p).state
  obtain ⟨_, hba⟩ := a.retiles_run (b.run p).state
  rw [ha] at hab
  rw [hb] at hba
  rw [ha, hb, hab, hba]
  cases hamoves : a.movesWatch with
  | false => cases b.movesWatch <;> exact ⟨_, rfl⟩
  | true =>
    cases hbmoves : b.movesWatch with
    | false => exact ⟨_, rfl⟩
    | true => exact absurd ⟨hamoves, hbmoves⟩ h

/-- What one operation makes of a tile that another one does not concern, in either order. -/
theorem slot_run_run {kind : TileKind} (hkind : kind ∉ b.concerned) (p : Panel) :
    (b.run (a.run p).state).state.slots.get kind = (a.run p).state.slots.get kind ∧
      (a.run (b.run p).state).state.slots.get kind = (a.run p).state.slots.get kind :=
  ⟨(b.repaints_run (a.run p).state).kept kind hkind,
    ((Panel.AgreeAt.congruence kind).run (b.agreeAt_run p hkind) a).slot⟩

/-- What an operation pushes of a tile does not change if another one ran before it that does not
concern this tile. -/
theorem pushes_run_run {kind : TileKind} (hkind : kind ∉ b.concerned) (p : Panel) :
    (pushes (a.run (b.run p).state).journal).filter (fun u => u.kind = kind) =
      (pushes (a.run p).journal).filter fun u => u.kind = kind := by
  rw [(a.repaints_run p).pushes_of_kind, (a.repaints_run (b.run p).state).pushes_of_kind,
    (slot_run_run hkind p).2]

theorem pushes_run_of_not_mem {kind : TileKind} (op : Operation) (hkind : kind ∉ op.concerned)
    (p : Panel) : (pushes (op.run p).journal).filter (fun u => u.kind = kind) = [] := by
  refine List.filter_eq_nil_iff.mpr fun u hu hsame => ?_
  rw [decide_eq_true_eq] at hsame
  exact hkind (hsame ▸ ((op.repaints_run p).of_mem_pushes hu).1)

/-- Two operations that concern different tiles can change places, whatever they are told and whatever
is bound. Either way both answer the same, errors included, the panels in the end are the same, with
the same records, the same bindings and the same observed user, and the binding of each tile is
handed the same records in the same order. -/
theorem commute_of_disjoint (hdisjoint : ∀ kind ∈ a.concerned, kind ∉ b.concerned) (p : Panel) :
    let afterA := a.run p
    let afterB := b.run p
    let ab := b.run afterA.state
    let ba := a.run afterB.state
    ba.answer = afterA.answer ∧ ab.answer = afterB.answer ∧
      (∀ kind, ab.state.record kind = ba.state.record kind ∧
        ab.state.binding? kind = ba.state.binding? kind) ∧
      ab.state.observedUser = ba.state.observedUser ∧
      ab.state = ba.state ∧
      ∀ kind, (pushes (afterA.journal ++ ab.journal)).filter (fun u => u.kind = kind) =
        (pushes (afterB.journal ++ ba.journal)).filter fun u => u.kind = kind := by
  intro afterA afterB ab ba
  have hdisjoint' : ∀ kind ∈ b.concerned, kind ∉ a.concerned :=
    fun kind hb ha => hdisjoint kind ha hb
  have hslots : ∀ kind, ab.state.slots.get kind = ba.state.slots.get kind := by
    intro kind
    by_cases hkind : kind ∈ b.concerned
    · obtain ⟨hba, hab⟩ := slot_run_run (a := b) (hdisjoint' kind hkind) p
      exact hab.trans hba.symm
    · obtain ⟨hab, hba⟩ := slot_run_run (a := a) hkind p
      exact hab.trans hba.symm
  have hstate : ab.state = ba.state := by
    -- Both would concern the brightness tile.
    have hone : ¬(a.movesWatch = true ∧ b.movesWatch = true) := fun ⟨ha, hb⟩ =>
      hdisjoint _ (mem_concerned_of_movesWatch ha) (mem_concerned_of_movesWatch hb)
    obtain ⟨slots, hretiles⟩ := retiles_run_run p hone
    have hsame : slots = ab.state.slots := by
      refine PerTile.ext_get fun kind => ?_
      rw [hslots kind]
      exact congrArg (fun q : Panel => q.slots.get kind) hretiles.symm
    rw [hsame] at hretiles
    exact hretiles.symm
  refine ⟨?_, ?_, ?_, congrArg Panel.observedUser hstate, hstate, ?_⟩
  · refine a.answer_congr fun kind hkind => ?_
    exact congrArg Slot.binding ((b.repaints_run p).kept kind (hdisjoint kind hkind))
  · refine b.answer_congr fun kind hkind => ?_
    exact congrArg Slot.binding ((a.repaints_run p).kept kind (hdisjoint' kind hkind))
  · intro kind
    rw [hstate]
    exact ⟨rfl, rfl⟩
  · intro kind
    rw [pushes_append, pushes_append, List.filter_append, List.filter_append]
    by_cases hkind : kind ∈ b.concerned
    · have ha := hdisjoint' kind hkind
      rw [a.pushes_run_of_not_mem ha, a.pushes_run_of_not_mem ha, pushes_run_run (a := b) ha,
        List.nil_append, List.append_nil]
    · rw [b.pushes_run_of_not_mem hkind, b.pushes_run_of_not_mem hkind, pushes_run_run hkind,
        List.nil_append, List.append_nil]

/-- A panel whose user was switched while its watch is still on the owner. Only the certificate tile
is bound. -/
def switchedPanel : Panel :=
  let bound := (Panel.new {} .owner {}).state.add .certificate ⟨.recorder, "c"⟩
  (bound.state.switchUser ⟨10⟩).state

/-- The operation that moves the watch fails in either order, and keeps nothing from the other. -/
theorem commute_of_disjoint_of_switched :
    let moving := Operation.userSwitched ⟨10⟩
    let warning := Operation.certificate true false
    let first := moving.run (warning.run switchedPanel).state
    let last := warning.run (moving.run switchedPanel).state
    first.answer = .error (.tileNotBound .brightness) ∧ last.answer = .ok () ∧
      last.state = first.state ∧ first.state.observedUser = some ⟨10⟩ := by
  intro moving warning first last
  obtain ⟨hmoving, hwarning, -, hobserved, hstate, -⟩ :=
    commute_of_disjoint (a := moving) (b := warning) (by decide) switchedPanel
  exact ⟨hmoving, hwarning, hstate, hobserved.symm⟩

end Operation

end TilePanel
