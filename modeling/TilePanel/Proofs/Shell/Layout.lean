import Mathlib.Data.List.DropRight
import TilePanel.Proofs.Shell.Appearance
import TilePanel.Proofs.Text.Numerals
import TilePanel.Shell.Command

/-!
The printed panel has one line for the current user and one for each tile, in order. No line break
gets onto a view, whatever it is told to show, and there is something on the line of the last tile that
is not blank, so cutting the blanks at the end of the text takes nothing from the lines before it.
-/

namespace TilePanel

namespace Text

variable {cs ds : List Char}

/-- Cutting the blanks at the end stops at the last character that is not blank. -/
private theorem trimEnd_append_of_not_blank (h : ∃ c ∈ ds, isBlank c = false) :
    trimEnd (cs ++ ds) = cs ++ trimEnd ds := by
  obtain ⟨c, hc, hblank⟩ := h
  have hkept : (ds.reverse.dropWhile isBlank).isEmpty = false := by
    rw [List.isEmpty_eq_false_iff, Ne, List.dropWhile_eq_nil_iff]
    intro hall
    rw [hall c (List.mem_reverse.mpr hc)] at hblank
    cases hblank
  simp [trimEnd, List.dropWhile_append, hkept]

private theorem mem_of_mem_trimEnd {c : Char} (h : c ∈ trimEnd cs) : c ∈ cs :=
  List.mem_reverse.mp ((List.dropWhile_sublist _).subset (List.mem_reverse.mp h))

private theorem flatMap_append_eq_intercalate (init : List (List Char)) (last : List Char) :
    init.flatMap (· ++ ['\n']) ++ last = ['\n'].intercalate (init ++ [last]) := by
  induction init with
  | nil => simp
  | cons line rest ih =>
    cases rest with
    | nil => simp [List.intercalate_cons_cons]
    | cons next rest =>
      rw [List.flatMap_cons, List.append_assoc, ih]
      simp [List.intercalate_cons_cons]

/-- A text of lines that are all ended, cut at its end and split at its line breaks. -/
private theorem splitOn_trimEnd {init : List (List Char)} {last : List Char}
    (hinit : ∀ line ∈ init, '\n' ∉ line) (hlast : '\n' ∉ last)
    (hshown : ∃ c ∈ last, isBlank c = false) :
    (trimEnd ((init ++ [last]).flatMap (· ++ ['\n']))).splitOn '\n' = init ++ [trimEnd last] := by
  have hbreak : ∀ c ∈ ['\n'], isBlank c = true := List.forall_mem_singleton.mpr (by decide)
  have hjoined : (init ++ [last]).flatMap (· ++ ['\n']) =
      init.flatMap (· ++ ['\n']) ++ last ++ ['\n'] := by simp
  rw [hjoined, trimEnd_append_blank hbreak, trimEnd_append_of_not_blank hshown,
    flatMap_append_eq_intercalate]
  refine List.splitOn_intercalate '\n' ?_ (by simp)
  intro line hline
  rcases List.mem_append.mp hline with hline | hline
  · exact hinit line hline
  · rw [List.mem_singleton.mp hline]
    exact fun hmem => hlast (mem_of_mem_trimEnd hmem)

private theorem not_mem_ofInt {c : Char} (hdigit : c.isDigit = false) (hminus : c ≠ '-') (n : Int) :
    c ∉ Decimal.ofInt n := by
  have hdigits : ∀ m, c ∉ Decimal.digits m := by
    intro m hmem
    rw [Decimal.isDigit_of_mem_digits m c hmem] at hdigit
    cases hdigit
  cases n with
  | ofNat n => exact hdigits n
  | negSucc n =>
    intro hmem
    rcases List.mem_cons.mp hmem with hc | hc
    · exact hminus hc
    · exact hdigits _ hc

end Text

open Text

namespace TextView

private theorem break_not_mem_oneLine (text : String) : '\n' ∉ (oneLine text).toList := by
  rw [oneLine, String.toList_ofList, List.mem_map]
  rintro ⟨c, _, hc⟩
  split at hc
  · exact absurd hc (by decide)
  · next hne => exact hne hc

/-- Calls bring no line break onto a view. -/
private theorem break_not_mem_applyAll {v : TextView} (h : '\n' ∉ v.text.toList)
    (name clock : String)
    (calls : List ViewCall) : '\n' ∉ (v.applyAll name clock calls).text.toList := by
  induction calls generalizing v with
  | nil => exact h
  | cons call rest ih =>
    refine ih ?_
    cases call with
    | icon view icon => rw [TextView.apply]; split <;> exact h
    | text view text =>
      rw [TextView.apply]
      split
      · exact break_not_mem_oneLine text
      · exact h
    | visible view shown => rw [TextView.apply]; split <;> exact h
    | clock view =>
      rw [TextView.apply]
      split
      · exact break_not_mem_oneLine clock
      · exact h
    | record view record => exact h

end TextView

namespace Shell

private theorem mem_toList_padded {c : Char} {width : Nat} {text : String}
    (h : c ∈ (padded width text).toList) : c ∈ text.toList ∨ c = ' ' := by
  rw [padded, String.toList_append, String.toList_ofList, List.mem_append] at h
  exact h.imp_right fun hspace => (List.mem_replicate.mp hspace).2

namespace Session

/-- Whether every view holds its text on one line. -/
def Unbroken (s : Session) : Prop :=
  ∀ kind, '\n' ∉ (s.views.get kind).text.toList

theorem Unbroken.onPanel {α : Type} {s : Session} (h : s.Unbroken) (clock : String)
    (f : Panel → Outcome Panel α) : (s.onPanel clock f).state.Unbroken := by
  intro kind
  change '\n' ∉ ((paint clock _ s.views).get kind).text.toList
  rw [paint, PerTile.get_ofFn]
  exact TextView.break_not_mem_applyAll (h kind) _ clock _

theorem unbroken_new (c : Config) (store : SettingsStore) (clock : String) :
    (Session.new c store clock).state.Unbroken := by
  have hblank : ∀ p : Panel, Unbroken ⟨p, .ofFn fun _ => {}⟩ := by
    intro p kind
    cases kind <;> exact List.not_mem_nil
  exact (hblank _).onPanel clock _

theorem conduct_unbroken : Conduct fun s t => Unbroken s → Unbroken t where
  refl _ h := h
  trans hfirst hnext h := hnext (hfirst h)
  operate _ clock op _ h := h.onPanel clock op.run
  pump _ clock h := h.onPanel clock Panel.drain
  quietly _ clock f _ _ h := h.onPanel clock f
  withText _ _ _ h := h

private theorem break_not_mem_heading (s : Session) :
    '\n' ∉ ("Panel for user " ++ s.panel.user.text).toList := by
  have huser : '\n' ∉ s.panel.user.text.toList := by
    rw [UserId.text, showInt, String.toList_ofList]
    exact not_mem_ofInt (by decide) (by decide) _
  rw [String.toList_append, List.mem_append, not_or]
  exact ⟨by decide, huser⟩

private theorem break_not_mem_line (s : Session) {kind : TileKind}
    (h : '\n' ∉ (s.views.get kind).text.toList) : '\n' ∉ (s.tileSnapshot kind).line.toList := by
  have hname : '\n' ∉ (padded 20 kind.name).toList := by
    intro hmem
    rcases mem_toList_padded hmem with hmem | hspace
    · cases kind <;> exact absurd hmem (by decide)
    · exact absurd hspace (by decide)
  have hicon : '\n' ∉ (padded 28 ((s.tileSnapshot kind).icon.getD "-")).toList := by
    intro hmem
    rcases mem_toList_padded hmem with hmem | hspace
    · change _ ∈ (((s.views.get kind).icon.map Icon.resourceName).getD "-").toList at hmem
      cases hdrawn : (s.views.get kind).icon with
      | none => rw [hdrawn] at hmem; exact absurd hmem (by decide)
      | some icon => rw [hdrawn] at hmem; cases icon <;> exact absurd hmem (by decide)
    · exact absurd hspace (by decide)
  have htext : '\n' ∉ (s.tileSnapshot kind).text.toList := h
  have htile : (s.tileSnapshot kind).tile = kind := rfl
  unfold TileSnapshot.line
  split <;> simp [String.toList_append, htile, hname, hicon, htext]

/-- The line of a tile holds its name, which is not blank. -/
private theorem exists_not_blank_line (t : TileSnapshot) :
    ∃ c ∈ t.line.toList, isBlank c = false := by
  have hname : t.tile.name.toList.any (fun c => !isBlank c) = true := by
    cases t.tile <;> decide
  obtain ⟨c, hc, hblank⟩ := List.any_eq_true.mp hname
  refine ⟨c, ?_, by simpa using hblank⟩
  unfold TileSnapshot.line padded
  split <;> simp [String.toList_append, hc]

/-- The lines of what a session displays. -/
theorem splitOn_displayText {s : Session} (h : s.Unbroken) :
    s.displayText.toList.splitOn '\n' =
      ("Panel for user " ++ s.panel.user.text).toList ::
        ([.user, .time, .battery, .brightness, .settings].map fun kind =>
          (s.tileSnapshot kind).line.toList) ++
        [trimEnd (s.tileSnapshot .certificate).line.toList] := by
  let line (kind : TileKind) : List Char := (s.tileSnapshot kind).line.toList
  let before : List (List Char) := ("Panel for user " ++ s.panel.user.text).toList ::
    [TileKind.user, .time, .battery, .brightness, .settings].map line
  have hlines : s.snapshot.text.toList = (before ++ [line .certificate]).flatMap (· ++ ['\n']) := by
    simp [String.toList_append, PanelSnapshot.text, PanelSnapshot.lines, snapshot, TileKind.all,
      before, line]
  have hbefore : ∀ l ∈ before, '\n' ∉ l := by
    intro l hl
    rcases List.mem_cons.mp hl with rfl | hl
    · exact s.break_not_mem_heading
    · obtain ⟨kind, _, rfl⟩ := List.mem_map.mp hl
      exact s.break_not_mem_line (h kind)
  have hsplit := splitOn_trimEnd hbefore (s.break_not_mem_line (h .certificate))
    (exists_not_blank_line _)
  rw [displayText, String.toList_ofList, hlines]
  exact hsplit

/-- A command that succeeds on the panel prints the session that it leaves. -/
theorem shown_runRequest (s : Session) (e : Surroundings) (d : Disk) {r : Request}
    {action : PanelAction} (hcommand : r.command = .panel action) (htext : r.json = false)
    (hanswer : (s.runRequest e d r).answer = .ok true) :
    (s.runRequest e d r).shown = .text ((s.runRequest e d r).session.displayText ++ "\n") := by
  unfold runRequest at hanswer ⊢
  simp only [hcommand, htext, runPanel, turn, Outcome.answer_mapAnswer,
    Outcome.state_mapAnswer] at hanswer ⊢
  cases happlied : (s.apply e.clock action).answer with
  | error failure =>
    rw [happlied] at hanswer
    cases hanswer
  | ok _ => rfl

/-- After every run of commands the panel is printed on one line for its current user and one for each
tile, in the order of the panel, each with the name of the tile and what is on its view. Only the
blanks at the end of the last line are cut. A command that prints the panel as text prints this. -/
theorem one_line_per_tile (c : Config) (store : SettingsStore) (clock : String)
    (orders : List Order) :
    let s := (Session.new c store clock).state.obeyAll orders
    let spaces (n : Nat) : String := String.ofList (List.replicate n ' ')
    let drawable : Icon → String := fun
      | .brightnessAutoOn => "ic_qs_brightness_auto_on"
      | .brightnessAutoOff => "ic_qs_brightness_auto_off"
      | .certificateInfo => "ic_qs_certificate_info"
      | .notifyError => "stat_notify_error"
    let line (kind : TileKind) (name : String) : List Char :=
      let v := s.views.get kind
      let icon := (v.icon.map drawable).getD "-"
      ("  " ++ (name ++ spaces (20 - name.length)) ++
        if v.visible then " " ++ (icon ++ spaces (28 - icon.length)) ++ " " ++ v.text
        else " (hidden)").toList
    s.displayText.toList.splitOn '\n' =
        [("Panel for user " ++ toString s.panel.user.id.toInt).toList, line .user "user",
          line .time "time", line .battery "battery", line .brightness "brightness",
          line .settings "settings",
          (line .certificate "ssl-ca-cert-warning").rdropWhile isBlank] ∧
      (s.displayText.toList.splitOn '\n').length = 1 + TileKind.all.length ∧
      ∀ (e : Surroundings) (d : Disk) (r : Request) (action : PanelAction),
        r.command = .panel action → r.json = false → (s.runRequest e d r).answer = .ok true →
          (s.runRequest e d r).shown =
            .text ((s.runRequest e d r).session.displayText ++ "\n") := by
  intro s spaces drawable line
  have hs : s.Unbroken := conduct_unbroken.obeyAll _ orders (unbroken_new c store clock)
  have hline : ∀ kind, (s.tileSnapshot kind).line.toList = line kind kind.name := by
    intro kind
    have hdrawable : Icon.resourceName = drawable := funext fun i => by cases i <;> rfl
    simp only [TileSnapshot.line, tileSnapshot, hdrawable, line]
    split <;> simp only [padded, spaces, String.append_assoc]
  have hlines := splitOn_displayText hs
  simp only [hline, List.map_cons, List.map_nil, UserId.text, showInt_eq] at hlines
  refine ⟨hlines, ?_, fun e d r action => shown_runRequest s e d⟩
  rw [hlines]
  rfl

end Session

end Shell

end TilePanel
