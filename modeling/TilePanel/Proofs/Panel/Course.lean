import TilePanel.Proofs.Panel.Tracking

/-!
What may happen to a panel between two moments: its hub goes on, another user comes to the
foreground, the texts change, an operation runs, or the queue is drained. All of it leaves the panel
tracked, and the brightness tile settled.
-/

namespace TilePanel

namespace Panel

/-- How a step of the world moves the panel on, and which tiles it concerns. -/
inductive Course (p : Panel) : List TileKind → Panel → Prop
  | rehub (hub : Hub) (hkeeps : ∀ id, p.watch.id? = some id → p.hub.Keeps id hub) :
    Course p [] { p with hub }
  | switch (user : UserId) : Course p [] (p.switchUser user).state
  | texts (catalog : Catalog) : Course p [] { p with catalog }
  | operate (op : Operation) : Course p op.concerned (op.run p).state
  | drain : Course p (List.replicate p.hub.queue.pending.length .brightness) p.drain.state

namespace Course

variable {p q : Panel} {kinds : List TileKind}

theorem refl (p : Panel) : Course p [] p :=
  rehub p.hub fun id _ => .refl id p.hub

end Course

/-- While the queue is open, bringing another user to the foreground leaves an event about it. -/
theorem state_switchUser {p : Panel} (hopen : p.hub.queue.isOpen = true) (user : UserId) :
    (p.switchUser user).state = p ∨
      (p.switchUser user).state =
        { p with hub := { p.hub with queue := p.hub.queue.post (.userSwitched user) }, user } := by
  by_cases hsame : p.user = user
  · left
    simp [switchUser, hsame]
  · right
    simp [switchUser, hsame, Hub.post, hopen]

theorem mem_pending_post {q : EventQueue} (hopen : q.isOpen = true) (e : Event) :
    e ∈ (q.post e).pending := by
  simp [EventQueue.post, hopen]

/-- A new user waits for the watch, and the event that will move it is posted. -/
theorem Tracks.switchUser {p : Panel} (h : p.Tracks) (user : UserId) :
    (p.switchUser user).state.Tracks := by
  rcases state_switchUser h.isOpen user with hstate | hstate
  · rw [hstate]
    exact h
  · rw [hstate]
    obtain ⟨observed, id, hwatch, hserves, _⟩ := h.watching
    have hkeeps := (Hub.evolves_send p.hub (.userSwitched user)).keeps id
    refine ⟨hkeeps.isOpen.trans h.isOpen, hkeeps.numbered h.numbered, ?_, h.brightness⟩
    exact ⟨observed, id, hwatch, hkeeps.serves hserves, .inr ⟨user, mem_pending_post h.isOpen _⟩⟩

theorem Settled.switchUser {p : Panel} (hsettled : p.Settled) (h : p.Tracks) (user : UserId) :
    (p.switchUser user).state.Settled := by
  rcases state_switchUser h.isOpen user with hstate | hstate
  · rw [hstate]
    exact hsettled
  · rw [hstate]
    exact .inr (List.ne_nil_of_mem (mem_pending_post h.isOpen (.userSwitched user)))

theorem renews_switchUser {p : Panel} (hopen : p.hub.queue.isOpen = true) (user : UserId) :
    Renews p (p.switchUser user).state := by
  rcases state_switchUser hopen user with hstate | hstate
  · rw [hstate]
    exact .refl p
  · rw [hstate]
    exact ⟨Nat.le_refl _, .inl rfl⟩

namespace Course

variable {p q : Panel} {kinds : List TileKind}

theorem tracks (h : Course p kinds q) (ht : p.Tracks) : q.Tracks := by
  cases h with
  | rehub hub hkeeps => exact ht.rehub hkeeps
  | switch user => exact ht.switchUser user
  | texts catalog => exact ⟨ht.isOpen, ht.numbered, ht.watching, ht.brightness⟩
  | operate op => exact op.tracks_run ht
  | drain => exact ht.drain

/-- A tile that is settled stays so, and a step that concerns it settles it. -/
theorem settled (h : Course p kinds q) (ht : p.Tracks)
    (hsettled : p.Settled ∨ .brightness ∈ kinds) : q.Settled := by
  cases h with
  | rehub hub hkeeps => exact (hsettled.resolve_right (by simp)).rehub ht hkeeps
  | switch user => exact (hsettled.resolve_right (by simp)).switchUser ht user
  | texts catalog => exact hsettled.resolve_right (by simp)
  | operate op => exact op.settled_run ht hsettled
  | drain =>
    rcases hsettled with hsettled | hwaiting
    · exact hsettled.drain ht
    · have hne : p.hub.queue.pending ≠ [] := by
        intro hnil
        simp [hnil] at hwaiting
      exact Settled.drain (.inr hne) ht

/-- However a panel moves on, its watch is the one from before or has a new number. -/
theorem renews (h : Course p kinds q) (ht : p.Tracks) : Renews p q := by
  cases h with
  | rehub hub hkeeps =>
    obtain ⟨_, _, _, _, _, hkeep⟩ := ht.kept hkeeps
    exact ⟨hkeep.nextId, .inl rfl⟩
  | switch user => exact renews_switchUser ht.isOpen user
  | texts catalog => exact ⟨Nat.le_refl _, .inl rfl⟩
  | operate op => exact op.renews_run p
  | drain => exact p.renews_drain

end Course

end Panel

end TilePanel
