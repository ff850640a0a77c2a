import TilePanel.Proofs.Disk.Rereading

/-!
Disks to which something is added. What is there stays where it is and is found by the same paths.
-/

namespace TilePanel

namespace Disk

variable {d d' d'' : Disk} {l : Location} {e : Entry}

/-- Whether everything on a disk is at the same place of another one. -/
structure Extends (d d' : Disk) : Prop where
  home : d'.home = d.home
  here : d'.here = d.here
  kept : ∀ l e, d.entry? l = some e → d'.entry? l = some e

namespace Extends

theorem refl (d : Disk) : d.Extends d where
  home := rfl
  here := rfl
  kept := fun _ _ h => h

theorem trans (h : d.Extends d') (h' : d'.Extends d'') : d.Extends d'' where
  home := h'.home.trans h.home
  here := h'.here.trans h.here
  kept := fun l e hentry => h'.kept l e (h.kept l e hentry)

theorem pass (h : d.Extends d') (hpass : d.pass l = .ok ()) : d'.pass l = .ok () :=
  pass_iff.mpr (h.kept l .directory (pass_iff.mp hpass))

/-- A path that leads to something leads to the same on the larger disk. -/
theorem find (h : d.Extends d') {path : String} {found : Location × Entry}
    (hfind : d.find path = .ok found) : d'.find path = .ok found := by
  obtain ⟨hlocate, hentry, hslash⟩ := find_iff.mp hfind
  have hsame : d'.locate path = .ok found.1 := locate_mono h.here (fun _ => h.pass) hlocate
  exact find_iff.mpr ⟨hsame, h.kept _ _ hentry, hslash⟩

theorem hasPath (h : d.Extends d') {path : String} (hpath : d.hasPath path = true) :
    d'.hasPath path = true := by
  obtain ⟨found, hfind⟩ := hasPath_iff.mp hpath
  exact hasPath_iff.mpr ⟨found, h.find hfind⟩

theorem absent (h : d.Extends d') {path : String} (habsent : d'.hasPath path = false) :
    d.hasPath path = false := by
  cases hpath : d.hasPath path with
  | false => rfl
  | true =>
    rw [h.hasPath hpath] at habsent
    cases habsent

end Extends

theorem extends_put (h : d.entry? l = none) (e : Entry) : d.Extends (d.put l e) where
  home := rfl
  here := rfl
  kept := by
    intro other content hentry
    have hne : other ≠ l := by
      rintro rfl
      rw [h] at hentry
      cases hentry
    rw [entry?_put_of_ne hne]
    exact hentry

/-- Whether a disk is another one with directories at some of the free places. -/
structure AddsDirectories (d d' : Disk) : Prop where
  home : d'.home = d.home
  here : d'.here = d.here
  places : ∀ l, d'.entry? l = d.entry? l ∨ d.entry? l = none ∧ d'.entry? l = some .directory

namespace AddsDirectories

theorem refl (d : Disk) : d.AddsDirectories d where
  home := rfl
  here := rfl
  places := fun _ => .inl rfl

theorem trans (h : d.AddsDirectories d') (h' : d'.AddsDirectories d'') :
    d.AddsDirectories d'' where
  home := h'.home.trans h.home
  here := h'.here.trans h.here
  places := by
    intro l
    rcases h.places l with hsame | ⟨hfree, hmade⟩
    · rw [← hsame]
      exact h'.places l
    · rcases h'.places l with hsame' | ⟨hfree', _⟩
      · exact .inr ⟨hfree, hsame'.trans hmade⟩
      · rw [hmade] at hfree'
        cases hfree'

/-- New directories stand where nothing stood, so that everything else is kept. -/
theorem toExtends (h : d.AddsDirectories d') : d.Extends d' where
  home := h.home
  here := h.here
  kept := by
    intro l e hentry
    rcases h.places l with hsame | ⟨hfree, _⟩
    · exact hsame.trans hentry
    · rw [hentry] at hfree
      cases hfree

end AddsDirectories

theorem addsDirectories_put (h : d.entry? l = none) : d.AddsDirectories (d.put l .directory) where
  home := rfl
  here := rfl
  places := by
    intro other
    by_cases hother : other = l
    · subst hother
      exact .inr ⟨h, entry?_put_self (by simp [h])⟩
    · exact .inl (entry?_put_of_ne hother)

/-- Making directories begins with the first one, unless it is there. -/
private theorem makeDirectories_cons {part : String} {rest : List String}
    (h : d.makeDirectories l (part :: rest) = .ok d') :
    ∃ made, d.AddsDirectories made ∧ made.entry? (l ++ [part]) = some .directory ∧
      made.makeDirectories (l ++ [part]) rest = .ok d' := by
  rw [makeDirectories] at h
  split at h
  · next hentry => exact ⟨d, .refl d, hentry, h⟩
  · cases h
  · next hfree =>
    have hmade : entry? (d.put (l ++ [part]) .directory) (l ++ [part]) = some .directory :=
      entry?_put_self (by simp [hfree])
    exact ⟨_, addsDirectories_put hfree, hmade, h⟩

/-- Making the directories on the way to a file adds them where they were missing and does nothing
else. -/
theorem addsDirectories_makeDirectories {parts : List String}
    (h : d.makeDirectories l parts = .ok d') : d.AddsDirectories d' := by
  induction parts generalizing d l with
  | nil =>
    cases h
    exact .refl _
  | cons part rest ih =>
    obtain ⟨made, hmade, _, hrest⟩ := makeDirectories_cons h
    exact hmade.trans (ih hrest)

/-- Directories that were made are found later, and nothing is made again. -/
theorem makeDirectories_again {parts : List String} (h : d.makeDirectories l parts = .ok d')
    (hlater : d'.Extends d'') : d''.makeDirectories l parts = .ok d'' := by
  induction parts generalizing d l with
  | nil => rfl
  | cons part rest ih =>
    obtain ⟨made, _, hentry, hrest⟩ := makeDirectories_cons h
    have hadds : made.AddsDirectories d' := addsDirectories_makeDirectories hrest
    have hkept : d''.entry? (l ++ [part]) = some .directory :=
      hlater.kept _ _ (hadds.toExtends.kept _ _ hentry)
    rw [makeDirectories, hkept]
    exact ih hrest

/-- Where the path of a file leads to nothing, its place is free. -/
private theorem entry?_eq_none {path : String} (hplace : d.locateFile path = .ok l)
    (habsent : d.hasPath path = false) : d.entry? l = none := by
  obtain ⟨hlocate, hslash⟩ := locate_of_locateFile hplace
  cases hentry : d.entry? l with
  | none => rfl
  | some e =>
    have hfind : d.find path = .ok (l, e) := find_iff.mpr ⟨hlocate, hentry, .inr hslash⟩
    rw [hasPath_iff.mpr ⟨_, hfind⟩] at habsent
    cases habsent

/-- A text that is written where nothing was. -/
theorem writeText_of_absent {path : String} (habsent : d.hasPath path = false)
    (content : String) :
    (∃ fault, d.locateFile path = .error fault ∧ d.writeText path content = .error fault) ∨
      ∃ l, d.locateFile path = .ok l ∧ d.entry? l = none ∧
        d.writeText path content = .ok (d.put l (.text content)) := by
  unfold writeText
  cases hplace : d.locateFile path with
  | error fault => exact .inl ⟨fault, rfl, rfl⟩
  | ok l =>
    have hfree : d.entry? l = none := entry?_eq_none hplace habsent
    dsimp only
    rw [hfree]
    exact .inr ⟨l, rfl, hfree, rfl⟩

end Disk

end TilePanel
