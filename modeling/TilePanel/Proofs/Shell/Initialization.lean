import TilePanel.Proofs.Config.RoundTrip
import TilePanel.Proofs.Disk.Additions
import TilePanel.Shell.Command

/-!
Writing the configuration in effect to a file that does not exist. What a run finds on the disk it
leaves there, so that of all runs for one path the first that succeeds is the only one.
-/

namespace TilePanel.Shell

/-- A command that writes the configuration in effect to a file. -/
structure Initialization where
  config : Config
  /-- The path of the file, if one is given. -/
  file : Option String := none
  json : Bool := false
  quiet : Bool := false

namespace Initialization

def run (i : Initialization) (d : Disk) : ConfigRun :=
  runConfig i.config d i.file i.json i.quiet .init

/-- The path of the file; the usual one is in the home directory. -/
def path (i : Initialization) (home : Location) : String :=
  i.file.getD (Disk.pathOf (home ++ Disk.configDirectory ++ ["config.toml"]))

def diskAfter (d : Disk) : List Initialization → Disk
  | [] => d
  | i :: rest => diskAfter (i.run d).disk rest

def answers (d : Disk) : List Initialization → List (Initialization × Except Failure String)
  | [] => []
  | i :: rest => (i, (i.run d).answer) :: answers (i.run d).disk rest

variable {i : Initialization} {d d' made : Disk} {path : String}

/-- The usual path is named once its directory is made. -/
theorem resolvePath_none_iff : resolvePath d none = .ok (path, made) ↔
    d.makeDirectories d.home Disk.configDirectory = .ok made ∧
      path = Disk.pathOf (made.home ++ Disk.configDirectory ++ ["config.toml"]) := by
  unfold resolvePath Disk.configPath
  cases d.makeDirectories d.home Disk.configDirectory with
  | error fault => simp [Except.map, Except.mapError]
  | ok after =>
    simp only [Except.map, Except.mapError, Except.ok.injEq, Prod.mk.injEq]
    constructor
    · rintro ⟨rfl, rfl⟩
      exact ⟨rfl, rfl⟩
    · rintro ⟨rfl, rfl⟩
      exact ⟨rfl, rfl⟩

/-- Directories at most are made to name the path of the file. -/
theorem resolvePath_ok (h : resolvePath d i.file = .ok (path, made)) :
    path = i.path d.home ∧ d.AddsDirectories made := by
  cases hfile : i.file with
  | some given =>
    rw [hfile] at h
    cases h
    exact ⟨by simp [Initialization.path, hfile], .refl _⟩
  | none =>
    rw [hfile] at h
    obtain ⟨hmake, rfl⟩ := resolvePath_none_iff.mp h
    have hadds : d.AddsDirectories made := Disk.addsDirectories_makeDirectories hmake
    exact ⟨by simp [Initialization.path, hfile, hadds.home], hadds⟩

/-- A path that was named is named again later, and nothing is made for it. -/
private theorem resolvePath_again {file : Option String} (h : resolvePath d file = .ok (path, made))
    (hlater : made.Extends d') : resolvePath d' file = .ok (path, d') := by
  cases file with
  | some given =>
    cases h
    rfl
  | none =>
    obtain ⟨hmake, rfl⟩ := resolvePath_none_iff.mp h
    have hadds : d.AddsDirectories made := Disk.addsDirectories_makeDirectories hmake
    refine resolvePath_none_iff.mpr ⟨?_, by rw [hlater.home]⟩
    rw [hlater.home, hadds.home]
    exact Disk.makeDirectories_again hmake hlater

private theorem resolvePath_error {file : Option String} {failure : Failure}
    (h : resolvePath d file = .error failure) : ∃ fault, failure = .library (.io fault) := by
  unfold resolvePath at h
  split at h
  · cases h
  · cases hconfig : d.configPath with
    | error fault =>
      rw [hconfig] at h
      cases h
      exact ⟨fault, rfl⟩
    | ok found =>
      rw [hconfig] at h
      cases h

inductive Ending (i : Initialization) (d : Disk) : ConfigRun → Prop
  | pathless {fault : FileFault} (h : resolvePath d i.file = .error (.library (.io fault))) :
    Ending i d ⟨d, .error (.library (.io fault)), []⟩
  | present {made : Disk} (hpath : resolvePath d i.file = .ok (i.path d.home, made))
    (hthere : made.hasPath (i.path d.home) = true) :
    Ending i d ⟨made, .error (.configExists (i.path d.home)), []⟩
  | unwritable {made : Disk} (hpath : resolvePath d i.file = .ok (i.path d.home, made))
    (hfree : made.hasPath (i.path d.home) = false) (htext : i.config.isWritable = false) :
    Ending i d ⟨made, .error (.library .configUnwritable), []⟩
  | placeless {made : Disk} {fault : FileFault}
    (hpath : resolvePath d i.file = .ok (i.path d.home, made))
    (hfree : made.hasPath (i.path d.home) = false) (htext : i.config.isWritable = true)
    (hplace : made.locateFile (i.path d.home) = .error fault) :
    Ending i d ⟨made, .error (.library (.io fault)), []⟩
  | written {made : Disk} {l : Location}
    (hpath : resolvePath d i.file = .ok (i.path d.home, made))
    (hfree : made.hasPath (i.path d.home) = false) (htext : i.config.isWritable = true)
    (hplace : made.locateFile (i.path d.home) = .ok l) (hnew : made.entry? l = none) :
    Ending i d ⟨made.put l (.text i.config.text),
      .ok (unlessQuiet i.quiet ("Wrote " ++ i.path d.home)), [.configSaved (i.path d.home)]⟩

/-- Every run ends in one of these ways. The cases follow the checks in the order in which they are
made. -/
theorem ending (i : Initialization) (d : Disk) : i.Ending d (i.run d) := by
  unfold run runConfig
  dsimp only
  cases hpath : resolvePath d i.file with
  | error failure =>
    obtain ⟨fault, rfl⟩ := resolvePath_error hpath
    exact .pathless hpath
  | ok resolved =>
    obtain ⟨path, made⟩ := resolved
    obtain ⟨rfl, -⟩ := resolvePath_ok hpath
    dsimp only
    split
    · next hthere => exact .present hpath hthere
    · next habsent =>
      have hfree : made.hasPath (i.path d.home) = false := Bool.eq_false_iff.mpr habsent
      rw [Config.saveTo, Config.saveBy, Config.textBy_countingWriter]
      cases htext : i.config.isWritable with
      | false => exact .unwritable hpath hfree htext
      | true =>
        rw [if_pos rfl]
        dsimp only
        rcases Disk.writeText_of_absent hfree i.config.text with
          ⟨fault, hplace, hwrite⟩ | ⟨l, hplace, hnew, hwrite⟩
        · rw [hwrite]
          exact .placeless hpath hfree htext hplace
        · rw [hwrite]
          exact .written hpath hfree htext hplace hnew

/-- A run that succeeds has written the file, at a place that was free. -/
theorem written_of_ok {said : String} (h : (i.run d).answer = .ok said) :
    ∃ made l, resolvePath d i.file = .ok (i.path d.home, made) ∧
      made.hasPath (i.path d.home) = false ∧ made.locateFile (i.path d.home) = .ok l ∧
      made.entry? l = none ∧ (i.run d).disk = made.put l (.text i.config.text) := by
  have hending := i.ending d
  generalize i.run d = ran at h hending ⊢
  cases hending with
  | pathless => cases h
  | present => cases h
  | unwritable => cases h
  | placeless => cases h
  | written hpath hfree _ hplace hnew => exact ⟨_, _, hpath, hfree, hplace, hnew, rfl⟩

/-- What a success leaves: the file with the configuration, and otherwise directories at most. -/
theorem of_ok {said : String} (h : (i.run d).answer = .ok said) :
    d.hasPath (i.path d.home) = false ∧ ∃ l, d.entry? l = none ∧
      (i.run d).disk.find (i.path d.home) = .ok (l, .text i.config.text) ∧
      ∀ other, other ≠ l → (i.run d).disk.entry? other = d.entry? other ∨
        d.entry? other = none ∧ (i.run d).disk.entry? other = some .directory := by
  obtain ⟨made, l, hpath, hfree, hplace, hnew, hdisk⟩ := written_of_ok h
  have hadds : d.AddsDirectories made := (resolvePath_ok hpath).2
  rw [hdisk]
  refine ⟨hadds.toExtends.absent hfree, l, ?_, Disk.find_put hplace (by simp [hnew]), ?_⟩
  · rcases hadds.places l with hsame | ⟨hunmade, _⟩
    · exact hsame.symm.trans hnew
    · exact hunmade
  · intro other hother
    rw [Disk.entry?_put_of_ne hother]
    exact hadds.places other

/-- After a success the path is there, and is named again without a change. -/
theorem present_of_ok {said : String} (h : (i.run d).answer = .ok said) :
    resolvePath (i.run d).disk i.file = .ok (i.path d.home, (i.run d).disk) ∧
      (i.run d).disk.hasPath (i.path d.home) = true := by
  obtain ⟨made, l, hpath, _, _, hnew, hdisk⟩ := written_of_ok h
  obtain ⟨_, place, _, hfind, _⟩ := of_ok h
  refine ⟨?_, Disk.hasPath_iff.mpr ⟨_, hfind⟩⟩
  rw [hdisk]
  exact resolvePath_again hpath (Disk.extends_put hnew _)

/-- A run that fails makes directories at most. -/
theorem of_error {failure : Failure} (h : (i.run d).answer = .error failure) :
    d.AddsDirectories (i.run d).disk := by
  have hending := i.ending d
  generalize i.run d = ran at h hending ⊢
  cases hending with
  | pathless => exact .refl d
  | present hpath => exact (resolvePath_ok hpath).2
  | unwritable hpath => exact (resolvePath_ok hpath).2
  | placeless hpath => exact (resolvePath_ok hpath).2
  | written => cases h

/-- When a run ends the program without a word. -/
theorem fatal_iff (i : Initialization) (d : Disk) :
    (∃ failure, (i.run d).answer = .error failure ∧ failure.isFatal = true) ↔
      (∃ made, resolvePath d i.file = .ok (i.path d.home, made) ∧
        made.hasPath (i.path d.home) = false) ∧
      ∃ s ∈ i.config.texts, ∃ q ∈ ['\x27', '"'], List.replicate 256 q <:+: s.toList := by
  have hruns : (∃ s ∈ i.config.texts, ∃ q ∈ ['\x27', '"'], List.replicate 256 q <:+: s.toList) ↔
      i.config.isWritable = false := by
    rw [← Bool.not_eq_true, Config.isWritable_iff]
    push Not
    rfl
  rw [hruns]
  have hending := i.ending d
  generalize i.run d = ran at hending ⊢
  cases hending with
  | pathless h => simp [h, Failure.isFatal]
  | present hpath hthere => simp [hpath, hthere, Failure.isFatal]
  | unwritable hpath hfree htext => simp [hpath, hfree, htext, Failure.isFatal]
  | placeless hpath hfree htext => simp [htext, Failure.isFatal]
  | written hpath hfree htext => simp [htext]

theorem extends_run (i : Initialization) (d : Disk) : d.Extends (i.run d).disk := by
  cases hanswer : (i.run d).answer with
  | error failure => exact (of_error hanswer).toExtends
  | ok said =>
    obtain ⟨made, l, hpath, _, _, hnew, hdisk⟩ := written_of_ok hanswer
    rw [hdisk]
    exact (resolvePath_ok hpath).2.toExtends.trans (Disk.extends_put hnew _)

/-- Where the path leads to something a run fails, and says so if it gets as far as to look. -/
private theorem refused_of_hasPath (h : d.hasPath (i.path d.home) = true) :
    ∃ failure, (i.run d).answer = .error failure ∧ failure.isFatal = false ∧
      ∀ p made, resolvePath d i.file = .ok (p, made) → failure = .configExists (i.path d.home) := by
  have hending := i.ending d
  generalize i.run d = ran at hending ⊢
  have hthere {made : Disk} (hpath : resolvePath d i.file = .ok (i.path d.home, made)) :
      made.hasPath (i.path d.home) = true := (resolvePath_ok hpath).2.toExtends.hasPath h
  cases hending with
  | pathless hpath => exact ⟨_, rfl, rfl, by simp [hpath]⟩
  | present => exact ⟨_, rfl, rfl, fun _ _ _ => rfl⟩
  | unwritable hpath hfree => simp [hthere hpath] at hfree
  | placeless hpath hfree => simp [hthere hpath] at hfree
  | written hpath hfree => simp [hthere hpath] at hfree

theorem extends_diskAfter (d : Disk) (commands : List Initialization) :
    d.Extends (diskAfter d commands) := by
  induction commands generalizing d with
  | nil => exact .refl d
  | cons i rest ih => exact (i.extends_run d).trans (ih _)

private theorem diskAfter_append (d : Disk) (before after : List Initialization) :
    diskAfter d (before ++ after) = diskAfter (diskAfter d before) after := by
  induction before generalizing d with
  | nil => rfl
  | cons i rest ih => exact ih _

variable {home : Location} {commands : List Initialization}

/-- Once a path leads to something, every run for it fails. -/
theorem answers_of_hasPath {file : Option String} (hhome : d.home = home)
    (hpath : resolvePath d file = .ok (path, d)) (hthere : d.hasPath path = true) :
    ∀ a ∈ answers d commands, a.1.path home = path → ∃ failure, a.2 = .error failure ∧
      failure.isFatal = false ∧ (a.1.file = file → failure = .configExists path) := by
  induction commands generalizing d with
  | nil => simp [answers]
  | cons i rest ih =>
    intro a ha hsame
    rcases List.mem_cons.mp ha with rfl | ha
    · have hown : i.path d.home = path := by rw [hhome, hsame]
      rw [← hown] at hthere hpath ⊢
      obtain ⟨failure, hanswer, hgraceful, hwhy⟩ := refused_of_hasPath hthere
      refine ⟨failure, hanswer, hgraceful, ?_⟩
      rintro rfl
      exact hwhy _ _ hpath
    · have hlater : d.Extends (i.run d).disk := i.extends_run d
      exact ih (hlater.home.trans hhome) (resolvePath_again hpath hlater)
        (hlater.hasPath hthere) a ha hsame

/-- As long as a path leads to nothing, no run for it succeeded. -/
theorem answers_of_absent (hhome : d.home = home)
    (habsent : (diskAfter d commands).hasPath path = false) :
    ∀ a ∈ answers d commands, a.1.path home = path → ∃ failure, a.2 = .error failure := by
  induction commands generalizing d with
  | nil => simp [answers]
  | cons i rest ih =>
    have hlater : d.Extends (i.run d).disk := i.extends_run d
    intro a ha hsame
    rcases List.mem_cons.mp ha with rfl | ha
    · cases hanswer : (i.run d).answer with
      | error failure => exact ⟨failure, rfl⟩
      | ok said =>
        have hthere := (present_of_ok hanswer).2
        rw [hhome, hsame, (extends_diskAfter (i.run d).disk rest).absent habsent] at hthere
        cases hthere
    · exact ih (hlater.home.trans hhome) habsent a ha hsame

/-- A run that succeeds found nothing where its path leads, makes the file at a place that was free
and touches no other file; what is loaded from there is the configuration that was in effect. A run
that fails makes directories at most. It ends the program without a word exactly if its path leads to
nothing and a text of the configuration holds a quote of one kind 256 times in a row. Of several runs
for one path, given or the usual one, whatever runs between them, the first success is the only one:
those before and after it fail, and its configuration is loaded from then on. -/
theorem only_first_writes (d : Disk) :
    (∀ i : Initialization, ∀ said, (i.run d).answer = .ok said →
      d.hasPath (i.path d.home) = false ∧
      Config.loadFrom (i.run d).disk (i.path d.home) =
        .ok (i.config, [.configLoaded (i.path d.home)]) ∧
      ∃ l, d.entry? l = none ∧
        (i.run d).disk.find (i.path d.home) = .ok (l, .text i.config.text) ∧
        ∀ other, other ≠ l → (i.run d).disk.entry? other = d.entry? other ∨
          d.entry? other = none ∧ (i.run d).disk.entry? other = some .directory) ∧
    (∀ i : Initialization, ∀ failure, (i.run d).answer = .error failure →
      (∀ l e, d.find (i.path d.home) = .ok (l, e) →
        (i.run d).disk.find (i.path d.home) = .ok (l, e)) ∧
      ∀ l, (i.run d).disk.entry? l = d.entry? l ∨
        d.entry? l = none ∧ (i.run d).disk.entry? l = some .directory) ∧
    (∀ i : Initialization,
      (∃ failure, (i.run d).answer = .error failure ∧ failure.isFatal = true) ↔
        (∃ made, resolvePath d i.file = .ok (i.path d.home, made) ∧
          made.hasPath (i.path d.home) = false) ∧
        ∃ s ∈ i.config.texts, ∃ q ∈ ['\x27', '"'], List.replicate 256 q <:+: s.toList) ∧
    ∀ (before : List Initialization) (i : Initialization) (after : List Initialization),
      (∃ said, (i.run (diskAfter d before)).answer = .ok said) →
        (∀ a ∈ answers d before, a.1.path d.home = i.path d.home →
          ∃ failure, a.2 = .error failure) ∧
        (∀ a ∈ answers (diskAfter d (before ++ [i])) after, a.1.path d.home = i.path d.home →
          ∃ failure, a.2 = .error failure ∧ failure.isFatal = false ∧
            (a.1.file = i.file → failure = .configExists (i.path d.home))) ∧
        Config.loadFrom (diskAfter d (before ++ i :: after)) (i.path d.home) =
          .ok (i.config, [.configLoaded (i.path d.home)]) := by
  refine ⟨?_, ?_, fun i => fatal_iff i d, ?_⟩
  · intro i said hok
    obtain ⟨habsent, l, hfree, hfind, hothers⟩ := of_ok hok
    exact ⟨habsent, Config.loadFrom_of_find hfind, l, hfree, hfind, hothers⟩
  · intro i failure herror
    have hadds : d.AddsDirectories (i.run d).disk := of_error herror
    exact ⟨fun l e hfind => hadds.toExtends.find hfind, hadds.places⟩
  · rintro before i after ⟨said, hok⟩
    have hhome : (diskAfter d before).home = d.home := (extends_diskAfter d before).home
    have hran : diskAfter d (before ++ [i]) = (i.run (diskAfter d before)).disk :=
      diskAfter_append d before [i]
    obtain ⟨habsent, l, _, hfind, _⟩ := of_ok hok
    obtain ⟨hagain, hthere⟩ := present_of_ok hok
    rw [hhome] at habsent hfind hagain hthere
    have hlater : (diskAfter d (before ++ [i])).home = d.home :=
      (extends_diskAfter d (before ++ [i])).home
    rw [← hran] at hfind hagain hthere
    refine ⟨answers_of_absent rfl habsent, answers_of_hasPath hlater hagain hthere, ?_⟩
    have hlast := (extends_diskAfter (diskAfter d (before ++ [i])) after).find hfind
    rw [← diskAfter_append, List.append_assoc] at hlast
    exact Config.loadFrom_of_find hlast

/-- In an empty home directory a configuration that can not be written ends the program, the default
one is written, and after that the next run is refused. -/
theorem only_first_writes_at_home :
    let d : Disk := { home := ["home"], here := ["home"] }
    let unwritable : Initialization := { config := .manyQuotes, file := some "new.toml" }
    let first : Initialization := { config := {}, file := some "new.toml" }
    (∃ failure, (unwritable.run d).answer = .error failure ∧ failure.isFatal = true) ∧
      (first.run d).answer = .ok "Wrote new.toml\n" ∧
      Config.loadFrom (first.run d).disk "new.toml" = .ok ({}, [.configLoaded "new.toml"]) ∧
      (unwritable.run (first.run d).disk).answer = .error (.configExists "new.toml") ∧
      Config.loadFrom (diskAfter d [first, unwritable]) "new.toml" =
        .ok ({}, [.configLoaded "new.toml"]) := by
  intro d unwritable first
  obtain ⟨hok, _, hfatal, hruns⟩ := only_first_writes d
  have hfirst : (first.run d).answer = .ok "Wrote new.toml\n" := by
    have hsaved : Config.saveTo {} d "new.toml" = .ok
        (d.put ["home", "new.toml"] (.text ({} : Config).text), [.configSaved "new.toml"]) := by
      rw [Config.saveTo, Config.saveBy, Config.textBy_countingWriter]
      rfl
    have habsent : ¬d.hasPath "new.toml" = true := by decide
    simp [run, runConfig, resolvePath, first, hsaved, habsent, unlessQuiet]
  have hquotes : String.ofList (List.replicate 256 '"') ∈ unwritable.config.texts :=
    List.mem_singleton_self _
  obtain ⟨_, hrefused, hkept⟩ := hruns [] first [unwritable] ⟨_, hfirst⟩
  obtain ⟨failure, hanswer, _, hwhy⟩ := hrefused _ (List.mem_singleton_self _) rfl
  refine ⟨(hfatal unwritable).mpr ⟨⟨d, rfl, by decide⟩, _, hquotes, '"', by simp, ?_⟩, hfirst,
    (hok first _ hfirst).2.1, hanswer.trans (congrArg _ (hwhy rfl)), hkept⟩
  rw [String.toList_ofList]

end Initialization

end TilePanel.Shell
