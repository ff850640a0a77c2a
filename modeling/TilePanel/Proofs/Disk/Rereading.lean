import TilePanel.Disk.Basic

/-!
A text file that was written is read back: the way to its place leads through directories only, and
writing a file changes none of them.
-/

namespace TilePanel

namespace Disk

variable {d : Disk} {l : Location} {e : Entry}

theorem entry?_put_self (h : d.entry? l ≠ some .directory) : entry? (d.put l e) l = some e := by
  unfold entry? at h ⊢
  split at h
  · exact absurd rfl h
  · next hoff =>
    change (if (List.isPrefixOf l d.home || List.isPrefixOf l d.here) = true then _ else _) = _
    rw [if_neg hoff]
    simp [put]

theorem entry?_put_of_ne {other : Location} (h : other ≠ l) :
    entry? (d.put l e) other = d.entry? other := by
  have hfind : (d.entries.filter fun f => f.1 != l).find? (fun f => f.1 == other) =
      d.entries.find? fun f => f.1 == other := by
    rw [List.find?_filter]
    apply congrArg (fun p => List.find? p d.entries)
    funext f
    by_cases hf : f.1 = other
    · simp [hf, h]
    · simp [hf]
  unfold entry? put
  simp [Ne.symm h, hfind]

/-- A way goes on at directories only. -/
theorem pass_iff : d.pass l = .ok () ↔ d.entry? l = some .directory := by
  unfold pass
  split
  · next hentry => simp [hentry]
  · next e hother hentry => simpa [hentry] using hother
  · next hentry => simp [hentry]

private theorem pass_put (h : d.entry? l ≠ some .directory) {other : Location}
    (hpass : d.pass other = .ok ()) : (d.put l e).pass other = .ok () := by
  have hdirectory : d.entry? other = some .directory := pass_iff.mp hpass
  have hne : other ≠ l := by
    rintro rfl
    exact h hdirectory
  rw [pass_iff, entry?_put_of_ne hne]
  exact hdirectory

/-- Where a name on a way leads from a directory, if it is not too long. -/
def enter? (start : Location) (name : String) : Option Location :=
  if name = "." then some start
  else if name = ".." then some start.dropLast
  else if isTooLong name then none
  else some (start ++ [name])

/-- A way leads somewhere if its first name does, from a directory, and the rest goes on there. -/
private theorem follow_cons {start last : Location} {name : String} {rest : List String} :
    d.follow start (name :: rest) = .ok last ↔
      d.pass start = .ok () ∧ ∃ next, enter? start name = some next ∧
        d.follow next rest = .ok last := by
  rw [follow]
  unfold enter?
  cases d.pass start with
  | error fault => simp
  | ok _ =>
    dsimp only
    split
    · simp
    split
    · simp
    split
    · simp
    · simp

/-- A way leads to the same place on a disk with the same directories and more. -/
theorem follow_mono {d' : Disk} (h : ∀ place, d.pass place = .ok () → d'.pass place = .ok ())
    {start last : Location} {names : List String} (hfollow : d.follow start names = .ok last) :
    d'.follow start names = .ok last := by
  induction names generalizing start with
  | nil => exact hfollow
  | cons name rest ih =>
    obtain ⟨hpass, next, hnext, hrest⟩ := follow_cons.mp hfollow
    exact follow_cons.mpr ⟨h start hpass, next, hnext, ih hrest⟩

/-- A path leads to the same place on a disk on which every place can still be passed through. -/
theorem locate_mono {d' : Disk} (hhere : d'.here = d.here)
    (h : ∀ place, d.pass place = .ok () → d'.pass place = .ok ()) {path : String}
    (hlocate : d.locate path = .ok l) : d'.locate path = .ok l := by
  have horigin : d'.origin path = d.origin path := by
    unfold origin
    rw [hhere]
  unfold locate at hlocate ⊢
  split at hlocate
  · cases hlocate
  · next hfault =>
    rw [horigin]
    exact follow_mono h hlocate

/-- The last name of a way. -/
private theorem follow_concat {start last : Location} {names : List String} {name : String}
    (hfollow : d.follow start names = .ok last) (hpass : d.pass last = .ok ())
    (hself : name ≠ ".") (hup : name ≠ "..") (hlong : isTooLong name = false) :
    d.follow start (names ++ [name]) = .ok (last ++ [name]) := by
  induction names generalizing start with
  | nil =>
    obtain rfl : start = last := by
      rw [follow] at hfollow
      exact Except.ok.inj hfollow
    simp [follow, hpass, hself, hup, hlong]
  | cons first rest ih =>
    obtain ⟨hfirst, next, hnext, hrest⟩ := follow_cons.mp hfollow
    exact follow_cons.mpr ⟨hfirst, next, hnext, ih hrest⟩

/-- What it takes for a path to name a place for a file. -/
private theorem locateFile_cases {path : String} (h : d.locateFile path = .ok l) :
    ∃ parent name, pathFault? path = none ∧ pathNames path = (pathNames path).dropLast ++ [name] ∧
      d.follow (d.origin path) (pathNames path).dropLast = .ok parent ∧
      d.pass parent = .ok () ∧ name ≠ "." ∧ name ≠ ".." ∧ isTooLong name = false ∧
      endsInSlash path = false ∧ l = parent ++ [name] := by
  unfold locateFile at h
  split at h
  · cases h
  · next hfault =>
    split at h
    · cases h
    · next name hname =>
      cases hparent : d.follow (d.origin path) (pathNames path).dropLast with
      | error fault =>
        rw [hparent] at h
        cases h
      | ok parent =>
        cases hpass : d.pass parent with
        | error fault =>
          rw [hparent] at h
          change (do d.pass parent; _ : Except FileFault Location) = _ at h
          rw [hpass] at h
          cases h
        | ok _ =>
          rw [hparent] at h
          change (do d.pass parent; _ : Except FileFault Location) = _ at h
          rw [hpass] at h
          change (if _ then _ else _ : Except FileFault Location) = _ at h
          split at h
          · cases h
          · next hplain =>
            split at h
            · cases h
            · next hlong =>
              obtain ⟨hself, hrest⟩ := not_or.mp hplain
              obtain ⟨hup, hslash⟩ := not_or.mp hrest
              have hnames : pathNames path = (pathNames path).dropLast ++ [name] := by
                obtain ⟨names, hsplit⟩ := List.getLast?_eq_some_iff.mp hname
                rw [hsplit, List.dropLast_concat]
              exact ⟨parent, name, hfault, hnames, rfl, hpass, hself, hup,
                Bool.eq_false_iff.mpr hlong, Bool.eq_false_iff.mpr hslash,
                (Except.ok.inj h).symm⟩

/-- The place for a file is where its path leads. -/
theorem locate_of_locateFile {path : String} (hplace : d.locateFile path = .ok l) :
    d.locate path = .ok l ∧ endsInSlash path = false := by
  obtain ⟨parent, name, hfault, hnames, hparent, hpass, hself, hup, hlong, hslash, rfl⟩ :=
    locateFile_cases hplace
  refine ⟨?_, hslash⟩
  unfold locate
  rw [hfault, hnames]
  exact follow_concat hparent hpass hself hup hlong

/-- What a path is found to lead to; a slash at its end is for directories only. -/
theorem find_iff {path : String} : d.find path = .ok (l, e) ↔
    d.locate path = .ok l ∧ d.entry? l = some e ∧ (e = .directory ∨ endsInSlash path = false) := by
  unfold find
  constructor
  · intro h
    split at h
    · cases h
    · next place hlocate =>
      split at h
      · cases h
      · next hentry =>
        cases h
        exact ⟨hlocate, hentry, .inl rfl⟩
      · next found hfile hentry =>
        split at h
        · cases h
        · next hslash =>
          cases h
          exact ⟨hlocate, hentry, .inr (Bool.eq_false_iff.mpr hslash)⟩
  · rintro ⟨hlocate, hentry, hslash⟩
    rw [hlocate]
    dsimp only
    rw [hentry]
    rcases hslash with rfl | hslash
    · rfl
    · cases e <;> simp [hslash]

theorem hasPath_iff {path : String} :
    d.hasPath path = true ↔ ∃ found, d.find path = .ok found := by
  unfold hasPath
  cases d.find path <;> simp

/-- A text that was written to the place of a file is found there by its path. -/
theorem find_put {path content : String} (hplace : d.locateFile path = .ok l)
    (hfile : d.entry? l ≠ some .directory) :
    (d.put l (.text content)).find path = .ok (l, .text content) := by
  obtain ⟨hlocate, hslash⟩ := locate_of_locateFile hplace
  have hhere : (d.put l (.text content)).here = d.here := rfl
  have hput : (d.put l (.text content)).locate path = .ok l :=
    locate_mono hhere (fun _ => pass_put hfile) hlocate
  exact find_iff.mpr ⟨hput, entry?_put_self hfile, .inr hslash⟩

/-- Writing a text to a file that keeps what it is given, and reading it back. -/
theorem readText_writeText {path : String} (hplace : d.locateFile path = .ok l)
    (hfile : d.entry? l ≠ some .directory) (hkeeps : d.entry? l ≠ some .sink) (content : String) :
    ∃ d', d.writeText path content = .ok d' ∧ d'.hasPath path = true ∧
      d'.readText path = .ok content := by
  have hfind : (d.put l (.text content)).find path = .ok (l, .text content) :=
    find_put hplace hfile
  refine ⟨d.put l (.text content), ?_, ?_, ?_⟩
  · unfold writeText
    rw [hplace]
    dsimp only
    split
    · next h => exact absurd h hfile
    · next h => exact absurd h hkeeps
    · rfl
  · unfold hasPath
    rw [hfind]
  · unfold readText
    rw [hfind]

end Disk

end TilePanel
