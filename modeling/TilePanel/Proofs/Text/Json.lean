import Mathlib.Data.List.Basic
import TilePanel.Proofs.Text.Decimal
import TilePanel.Text.Json

/-!
The compact form of a JSON value determines it. Each part of it tells where it ends: a literal by its
closing quote, a list by its closing bracket, and a numeral by what cannot belong to it. So a text
that begins with the form of a value begins with the form of no other, and what follows is the same.
-/

namespace TilePanel.Text

/-- Whether a numeral ends in front of a text: the text does not go on with a digit. -/
def Ends (rest : List Char) : Prop :=
  ∀ c ∈ rest.head?, c.isDigit = false

private theorem ends_nil : Ends [] := by
  simp [Ends]

private theorem ends_cons {c : Char} (h : c.isDigit = false) (rest : List Char) :
    Ends (c :: rest) := by
  simpa [Ends] using h

namespace Decimal

variable {rest rest' : List Char}

private theorem takeWhile_digits (n : Nat) (h : Ends rest) :
    (digits n ++ rest).takeWhile Char.isDigit = digits n := by
  have hnone : rest.takeWhile Char.isDigit = [] := by
    cases rest with
    | nil => rfl
    | cons c cs => rw [List.takeWhile_cons, h c rfl]; rfl
  rw [List.takeWhile_append_of_pos (isDigit_of_mem_digits n), hnone, List.append_nil]

/-- Digits that are written out are those of one number. -/
private theorem digits_append_inj {n m : Nat} (h : Ends rest) (h' : Ends rest')
    (heq : digits n ++ rest = digits m ++ rest') : n = m ∧ rest = rest' := by
  have hdigits : digits n = digits m := by
    rw [← takeWhile_digits n h, heq, takeWhile_digits m h']
  have hvalue : n = m := by
    rw [← value_digits n, hdigits, value_digits]
  rw [hdigits] at heq
  exact ⟨hvalue, List.append_cancel_left heq⟩

private theorem head_digits_isDigit (n : Nat) : ∃ c cs, digits n = c :: cs ∧ c.isDigit = true := by
  obtain ⟨c, cs, hdigits⟩ := List.exists_cons_of_ne_nil (digits_ne_nil n)
  exact ⟨c, cs, hdigits, isDigit_of_mem_digits n c (hdigits ▸ List.mem_cons_self)⟩

private theorem ofInt_append_inj {n m : Int} (h : Ends rest) (h' : Ends rest')
    (heq : ofInt n ++ rest = ofInt m ++ rest') : n = m ∧ rest = rest' := by
  -- The minus sign is no digit, so the signs agree.
  have hsign : ∀ (a : Nat) (cs cs' : List Char), '-' :: cs ≠ digits a ++ cs' := by
    intro a cs cs' hminus
    obtain ⟨c, ds, hdigits, hc⟩ := head_digits_isDigit a
    rw [hdigits, List.cons_append] at hminus
    rw [← (List.cons.inj hminus).1] at hc
    exact absurd hc (by decide)
  cases n with
  | ofNat n =>
    cases m with
    | ofNat m =>
      obtain ⟨rfl, hrest⟩ := digits_append_inj h h' heq
      exact ⟨rfl, hrest⟩
    | negSucc m => exact absurd heq.symm (hsign n _ _)
  | negSucc n =>
    cases m with
    | ofNat m => exact absurd heq (hsign m _ _)
    | negSucc m =>
      obtain ⟨hsucc, hrest⟩ := digits_append_inj h h' (List.cons.inj heq).2
      exact ⟨congrArg Int.negSucc (Nat.succ.inj hsucc), hrest⟩

end Decimal

namespace Json

variable {rest rest' : List Char}

/-! Literals. -/

def standsFor (c : Char) : Char :=
  if c = 'n' then '\n'
  else if c = 'r' then '\r'
  else if c = 't' then '\t'
  else if c = 'b' then Char.ofNat 8
  else if c = 'f' then Char.ofNat 12
  else c

def afterBackslash? : List Char → Option (Char × List Char)
  | 'u' :: '0' :: '0' :: high :: low :: cs => do
    let h ← hexValue? high
    let l ← hexValue? low
    return (Char.ofNat (16 * h + l), cs)
  | c :: cs => some (standsFor c, cs)
  | [] => none

/-- The first character of a literal and what follows it; none at the closing quote. -/
def firstChar? : List Char → Option (Char × List Char)
  | [] => none
  | c :: cs =>
    if c = '"' then none else if c = '\\' then afterBackslash? cs else some (c, cs)

private theorem firstChar?_escapeChar (c : Char) (rest : List Char) :
    firstChar? (escapeChar c ++ rest) = some (c, rest) := by
  unfold escapeChar
  split
  · next h => subst h; rfl
  split
  · next h => subst h; rfl
  split
  · next h => subst h; rfl
  split
  · next h => subst h; rfl
  split
  · next h => subst h; rfl
  split
  · next h =>
    have hchar : c = Char.ofNat 8 := by rw [← h, Char.ofNat_toNat]
    subst hchar
    rfl
  split
  · next h =>
    have hchar : c = Char.ofNat 12 := by rw [← h, Char.ofNat_toNat]
    subst hchar
    rfl
  split
  · next h =>
    have hhigh := hexValue?_hexDigit (d := c.toNat / 16) (by omega)
    have hlow := hexValue?_hexDigit (d := c.toNat % 16) (by omega)
    have hchar : Char.ofNat (16 * (c.toNat / 16) + c.toNat % 16) = c := by
      rw [Nat.div_add_mod, Char.ofNat_toNat]
    simp [firstChar?, afterBackslash?, hhigh, hlow, hchar]
  · next hquote hslash _ _ _ _ _ _ => simp [firstChar?, hquote, hslash]

private theorem escaped_append_inj {cs ds : List Char}
    (heq : cs.flatMap escapeChar ++ '"' :: rest = ds.flatMap escapeChar ++ '"' :: rest') :
    cs = ds ∧ rest = rest' := by
  induction cs generalizing ds with
  | nil =>
    cases ds with
    | nil => exact ⟨rfl, (List.cons.inj heq).2⟩
    | cons d ds =>
      rw [List.flatMap_cons, List.append_assoc] at heq
      have hfirst := congrArg firstChar? heq
      rw [firstChar?_escapeChar] at hfirst
      cases hfirst
  | cons c cs ih =>
    rw [List.flatMap_cons, List.append_assoc] at heq
    have hfirst := congrArg firstChar? heq
    rw [firstChar?_escapeChar] at hfirst
    cases ds with
    | nil => cases hfirst
    | cons d ds =>
      rw [List.flatMap_cons, List.append_assoc, firstChar?_escapeChar] at hfirst
      obtain ⟨rfl, htail⟩ := Prod.mk.inj (Option.some.inj hfirst)
      obtain ⟨rfl, hrest⟩ := ih htail
      exact ⟨rfl, hrest⟩

private theorem literal_append_inj {s t : String} (heq : literal s ++ rest = literal t ++ rest') :
    s = t ∧ rest = rest' := by
  simp only [literal, List.cons_append, List.append_assoc, List.nil_append, List.cons.injEq,
    true_and] at heq
  obtain ⟨hchars, hrest⟩ := escaped_append_inj heq
  exact ⟨String.toList_inj.mp hchars, hrest⟩

/-! Lists between brackets. -/

/-- Whether a text that begins with the form of an item begins with the form of no other one. -/
def Determined {α : Type} (form : α → List Char) (a : α) : Prop :=
  ∀ (b : α) (rest rest' : List Char), Ends rest → Ends rest' →
    form a ++ rest = form b ++ rest' → a = b ∧ rest = rest'

/-- What follows an item of a list: the bracket, or a comma and the other items. -/
def following {α : Type} (form : α → List Char) (close : Char) (rest : List Char) :
    List α → List Char
  | [] => close :: rest
  | a :: as => ',' :: ([','].intercalate ((a :: as).map form) ++ close :: rest)

private theorem intercalate_cons {α : Type} (form : α → List Char) (close : Char) (rest : List Char)
    (a : α) (as : List α) :
    [','].intercalate ((a :: as).map form) ++ close :: rest =
      form a ++ following form close rest as := by
  cases as with
  | nil => simp [following]
  | cons b bs => simp [following, List.intercalate_cons_cons]

private theorem ends_following {α : Type} (form : α → List Char) {close : Char}
    (hclose : close.isDigit = false) (rest : List Char) (as : List α) :
    Ends (following form close rest as) := by
  cases as with
  | nil => exact ends_cons hclose rest
  | cons a as => exact ends_cons (by decide) _

/-- A list between brackets is determined if its items are, and none of them begins like the closing
bracket. -/
private theorem intercalate_append_inj {α : Type} {form : α → List Char} {close : Char}
    (hclose : close.isDigit = false) (hcomma : close ≠ ',')
    (hopens : ∀ (a : α) (cs cs' : List Char), close :: cs ≠ form a ++ cs')
    {as bs : List α} (has : ∀ a ∈ as, Determined form a)
    (heq : [','].intercalate (as.map form) ++ close :: rest =
      [','].intercalate (bs.map form) ++ close :: rest') : as = bs ∧ rest = rest' := by
  induction as generalizing bs with
  | nil =>
    cases bs with
    | nil => exact ⟨rfl, (List.cons.inj heq).2⟩
    | cons b bs =>
      rw [intercalate_cons] at heq
      exact absurd heq (hopens b _ _)
  | cons a as ih =>
    rw [intercalate_cons] at heq
    cases bs with
    | nil => exact absurd heq.symm (hopens a _ _)
    | cons b bs =>
      rw [intercalate_cons] at heq
      obtain ⟨rfl, hfollowing⟩ := has a List.mem_cons_self b _ _
        (ends_following form hclose rest as) (ends_following form hclose rest' bs) heq
      have hrest : as = bs ∧ rest = rest' := by
        cases as with
        | nil =>
          cases bs with
          | nil => exact ⟨rfl, (List.cons.inj hfollowing).2⟩
          | cons => exact absurd (List.cons.inj hfollowing).1 hcomma
        | cons =>
          cases bs with
          | nil => exact absurd (List.cons.inj hfollowing).1.symm hcomma
          | cons => exact ih (fun c hc => has c (.tail _ hc)) (List.cons.inj hfollowing).2
      exact ⟨congrArg (a :: ·) hrest.1, hrest.2⟩

/-! Values. -/

def memberForm (m : String × Json) : List Char :=
  literal m.1 ++ ':' :: compact m.2

private theorem compactItems_eq (vs : List Json) :
    compactItems vs = [','].intercalate (vs.map compact) := by
  induction vs with
  | nil => rfl
  | cons v vs ih =>
    cases vs with
    | nil => simp [compactItems]
    | cons w ws => simp [compactItems, ih, List.intercalate_cons_cons]

private theorem compactMembers_eq (ms : List (String × Json)) :
    compactMembers ms = [','].intercalate (ms.map memberForm) := by
  induction ms with
  | nil => rfl
  | cons m ms ih =>
    cases ms with
    | nil => simp [compactMembers, memberForm]
    | cons n ns => simp [compactMembers, memberForm, ih, List.intercalate_cons_cons]

inductive Kind
  | null
  | bool
  | number
  | string
  | array
  | object
deriving DecidableEq

def kind : Json → Kind
  | null => .null
  | bool _ => .bool
  | number _ => .number
  | string _ => .string
  | array _ => .array
  | object _ => .object

def kindOf? (c : Char) : Option Kind :=
  if c = 'n' then some .null
  else if c = 't' ∨ c = 'f' then some .bool
  else if c = '"' then some .string
  else if c = '[' then some .array
  else if c = '\x7b' then some .object
  else if c = '-' ∨ c.isDigit then some .number
  else none

private theorem kindOf?_of_isDigit {c : Char} (h : c.isDigit = true) :
    kindOf? c = some .number := by
  have hne : ∀ d : Char, d.isDigit = false → c ≠ d := by
    rintro d hd rfl
    rw [h] at hd
    cases hd
  simp [kindOf?, h, hne 'n' (by decide), hne 't' (by decide), hne 'f' (by decide),
    hne '"' (by decide), hne '[' (by decide), hne '\x7b' (by decide)]

private theorem head_compact (v : Json) :
    ∃ c cs, v.compact = c :: cs ∧ kindOf? c = some v.kind := by
  cases v with
  | null => exact ⟨'n', _, rfl, rfl⟩
  | bool b => cases b <;> exact ⟨_, _, rfl, rfl⟩
  | number n =>
    cases n with
    | ofNat n =>
      obtain ⟨c, cs, hdigits, hc⟩ := Decimal.head_digits_isDigit n
      exact ⟨c, cs, hdigits, kindOf?_of_isDigit hc⟩
    | negSucc n => exact ⟨'-', _, rfl, rfl⟩
  | string s => exact ⟨'"', _, rfl, rfl⟩
  | array items => exact ⟨'[', _, rfl, rfl⟩
  | object members => exact ⟨'\x7b', _, rfl, rfl⟩

private theorem kind_eq_of_compact {v w : Json} (heq : v.compact ++ rest = w.compact ++ rest') :
    v.kind = w.kind := by
  obtain ⟨c, cs, hv, hc⟩ := head_compact v
  obtain ⟨d, ds, hw, hd⟩ := head_compact w
  rw [hv, hw, List.cons_append, List.cons_append] at heq
  rw [(List.cons.inj heq).1, hd] at hc
  exact (Option.some.inj hc).symm

/-- The induction over a value, through the items and members that it holds. -/
theorem induction {motive : Json → Prop} (null : motive null) (bool : ∀ b, motive (bool b))
    (number : ∀ n, motive (number n)) (string : ∀ s, motive (string s))
    (array : ∀ items, (∀ v ∈ items, motive v) → motive (array items))
    (object : ∀ members, (∀ m ∈ members, motive m.2) → motive (object members)) (v : Json) :
    motive v :=
  match v with
  | .null => null
  | .bool b => bool b
  | .number n => number n
  | .string s => string s
  | .array items =>
    array items fun v _ => induction null bool number string array object v
  | .object members =>
    object members fun m _ => induction null bool number string array object m.2
termination_by sizeOf v
decreasing_by
  · next hmem =>
    have := List.sizeOf_lt_of_mem hmem
    simp only [Json.array.sizeOf_spec]
    omega
  · next hmem =>
    have := List.sizeOf_lt_of_mem hmem
    obtain ⟨k, v⟩ := m
    simp only [Json.object.sizeOf_spec, Prod.mk.sizeOf_spec] at *
    omega

/-- A text that begins with the compact form of a value, where no digit follows, begins with that of
no other value. -/
theorem compact_append_inj (v : Json) : Determined compact v := by
  induction v using Json.induction with
  | null =>
    intro w rest rest' _ _ heq
    have hkind := kind_eq_of_compact heq
    cases w with
    | null => exact ⟨rfl, List.append_cancel_left heq⟩
    | _ => cases hkind
  | bool b =>
    intro w rest rest' _ _ heq
    have hkind := kind_eq_of_compact heq
    cases w with
    | bool b' => cases b <;> cases b' <;> simp_all [compact, truth]
    | _ => cases hkind
  | number n =>
    intro w rest rest' h h' heq
    have hkind := kind_eq_of_compact heq
    cases w with
    | number m =>
      obtain ⟨rfl, hrest⟩ := Decimal.ofInt_append_inj h h' heq
      exact ⟨rfl, hrest⟩
    | _ => cases hkind
  | string s =>
    intro w rest rest' _ _ heq
    have hkind := kind_eq_of_compact heq
    cases w with
    | string t =>
      obtain ⟨rfl, hrest⟩ := literal_append_inj heq
      exact ⟨rfl, hrest⟩
    | _ => cases hkind
  | array items ih =>
    intro w rest rest' _ _ heq
    have hkind := kind_eq_of_compact heq
    cases w with
    | array items' =>
      have hopens : ∀ (v : Json) (cs cs' : List Char), ']' :: cs ≠ compact v ++ cs' := by
        intro v cs cs' hclose
        obtain ⟨c, ds, hv, hc⟩ := head_compact v
        rw [hv, List.cons_append] at hclose
        rw [← (List.cons.inj hclose).1] at hc
        cases hc
      simp only [compact, compactItems_eq, List.cons_append, List.append_assoc, List.nil_append,
        List.cons.injEq, true_and] at heq
      obtain ⟨rfl, hrest⟩ := intercalate_append_inj (by decide) (by decide) hopens ih heq
      exact ⟨rfl, hrest⟩
    | _ => cases hkind
  | object members ih =>
    intro w rest rest' _ _ heq
    have hkind := kind_eq_of_compact heq
    cases w with
    | object members' =>
      have hopens : ∀ (m : String × Json) (cs cs' : List Char),
          '\x7d' :: cs ≠ memberForm m ++ cs' := by
        intro m cs cs' hclose
        exact absurd (List.cons.inj hclose).1 (by decide)
      have hmembers : ∀ m ∈ members, Determined memberForm m := by
        intro m hm n rest rest' h h' heq
        rw [memberForm, memberForm, List.append_assoc, List.append_assoc] at heq
        obtain ⟨hkey, hvalue⟩ := literal_append_inj heq
        obtain ⟨hvalue, hrest⟩ := ih m hm n.2 rest rest' h h' (List.cons.inj hvalue).2
        exact ⟨Prod.ext hkey hvalue, hrest⟩
      simp only [compact, compactMembers_eq, List.cons_append, List.append_assoc, List.nil_append,
        List.cons.injEq, true_and] at heq
      obtain ⟨rfl, hrest⟩ := intercalate_append_inj (by decide) (by decide) hopens hmembers heq
      exact ⟨rfl, hrest⟩
    | _ => cases hkind

/-- Two values with the same compact text are the same. -/
theorem render_inj {v w : Json} (h : v.render = w.render) : v = w := by
  have hchars : v.compact = w.compact := String.ofList_injective h
  refine (compact_append_inj v w [] [] ends_nil ends_nil ?_).1
  rw [hchars]

end Json

end TilePanel.Text
