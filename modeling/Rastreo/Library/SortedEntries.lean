import Mathlib.Data.List.Sort
import Mathlib.Data.Prod.Lex

/-!
# Lists sorted by a key

Without equal keys sorting is determined by the members, so it commutes with choosing members and
with changes that keep the keys.
-/

namespace Rastreo

open List

variable {κ α β : Type} [LinearOrder κ]

def sortBy (key : α → κ) (l : List α) : List α := l.insertionSort fun x y => key x ≤ key y

/-- Entries with a pair as key are ordered by its first component, then by its second. -/
def keyOrder {ι κ ν : Type} (e : (ι × κ) × ν) : ι ×ₗ κ := toLex e.1

section SortBy

variable {key : α → κ} {l m : List α}

lemma perm_sortBy (key : α → κ) (l : List α) : (sortBy key l).Perm l :=
  perm_insertionSort _ l

lemma pairwise_sortBy (h : (l.map key).Nodup) :
    (sortBy key l).Pairwise fun x y => key x < key y := by
  have hsorted : (sortBy key l).Pairwise fun x y => key x ≤ key y :=
    pairwise_insertionSort _ l
  have hkeys : (sortBy key l).Pairwise fun x y => key x ≠ key y :=
    pairwise_map.mp (((perm_sortBy key l).map key).nodup_iff.mpr h)
  exact (hsorted.and hkeys).imp fun hxy => lt_of_le_of_ne hxy.1 hxy.2

lemma eq_of_perm_of_pairwise (hl : l.Pairwise fun x y => key x < key y)
    (hm : m.Pairwise fun x y => key x < key y) (h : l.Perm m) : l = m :=
  h.eq_of_pairwise (fun _ _ _ _ hab hba => absurd hba hab.asymm) hl hm

lemma sortBy_eq_of_perm (key : α → κ) (h : l.Perm m) (hkeys : (l.map key).Nodup) :
    sortBy key l = sortBy key m := by
  have hkeys' : (m.map key).Nodup := (h.map key).nodup_iff.mp hkeys
  exact eq_of_perm_of_pairwise (pairwise_sortBy hkeys) (pairwise_sortBy hkeys')
    ((perm_sortBy key l).trans (h.trans (perm_sortBy key m).symm))

lemma sortBy_filter (p : α → Bool) (hkeys : (l.map key).Nodup) :
    sortBy key (l.filter p) = (sortBy key l).filter p := by
  have hkeys' : ((l.filter p).map key).Nodup := hkeys.sublist (filter_sublist.map key)
  exact eq_of_perm_of_pairwise (pairwise_sortBy hkeys') ((pairwise_sortBy hkeys).filter p)
    ((perm_sortBy key _).trans ((perm_sortBy key l).symm.filter p))

lemma sortBy_map (key : α → κ) (key' : β → κ) (g : α → β) (h : ∀ x, key' (g x) = key x)
    (l : List α) : sortBy key' (l.map g) = (sortBy key l).map g :=
  (map_insertionSort _ _ g l fun x _ y _ => by rw [h, h]).symm

end SortBy

end Rastreo
