import TilePanel.Text.ByteOrder
import TilePanel.Text.Cluster

/-!
Lines that hold backspaces: each takes back the character before it, as people see characters. The
size of a character is kept in one byte, so that of a longer one only a part is taken back, and
there is no line left if that part begins inside a code point. Main statement: a line without
backspaces stays as it is.
-/

namespace TilePanel.Shell

open TilePanel.Text

/-- What is left of a line so far. -/
structure Typed where
  /-- The code points, last first. -/
  reversed : List Char := []
  /-- The sizes of the clusters in bytes, last first. -/
  sizes : List UInt8 := []

namespace Typed

def push (t : Typed) (cluster : List Char) : Typed :=
  ⟨cluster.reverse ++ t.reversed, UInt8.ofNat (byteSize cluster) :: t.sizes⟩

/-- The line without its last cluster, if that can be taken back. -/
def erase? (t : Typed) : Option Typed :=
  match t.sizes with
  | [] => some t
  | size :: sizes => (dropBytes? t.reversed size.toNat).map fun reversed => ⟨reversed, sizes⟩

/-- The line after one more cluster, which may be a backspace. -/
def type? (t : Typed) (cluster : List Char) : Option Typed :=
  if cluster = ['\x08'] then t.erase? else some (t.push cluster)

private theorem reversed_foldlM_type? {clusters : List (List Char)} (h : ['\x08'] ∉ clusters)
    (t : Typed) :
    (clusters.foldlM type? t).map reversed = some (clusters.flatten.reverse ++ t.reversed) := by
  induction clusters generalizing t with
  | nil => simp
  | cons w ws ih =>
    rw [List.mem_cons, not_or] at h
    have hw : t.type? w = some (t.push w) := if_neg fun e => h.1 e.symm
    simp [List.foldlM_cons, hw, ih h.2, push]

end Typed

/-- What is left of a line once its backspaces have taken back what they can. -/
def eraseBack? (line : List Char) : Option (List Char) :=
  ((clusters line).foldlM Typed.type? {}).map fun t => t.reversed.reverse

theorem eraseBack?_of_not_mem {line : List Char} (h : '\x08' ∉ line) :
    eraseBack? line = some line := by
  have hw : ['\x08'] ∉ clusters line := fun hm =>
    h (flatten_clusters line ▸ List.mem_flatten.mpr ⟨_, hm, List.mem_singleton_self _⟩)
  have hr := Typed.reversed_foldlM_type? hw {}
  rw [flatten_clusters] at hr
  unfold eraseBack?
  cases ht : (clusters line).foldlM Typed.type? {} with
  | none => simp [ht] at hr
  | some t => simpa [ht, List.reverse_eq_iff] using hr

end TilePanel.Shell
