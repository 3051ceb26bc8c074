import Rastreo.Library.FirstOccurrence
import Mathlib.Data.List.Range
import Mathlib.Data.Nat.Find
import Mathlib.Order.Defs.Unbundled

/-!
# Equivalence classes of an initial segment

The classes of an equivalence on `0, …, n - 1`, by smallest elements and each ascending.  Grouping
by any key that separates the classes computes this list (`groupByKey_range`).
-/

namespace Rastreo

open List

open Classical in
/-- The numbers below `n` related to `i`, ascending. -/
noncomputable def classOf (n : ℕ) (R : ℕ → ℕ → Prop) (i : ℕ) : List ℕ :=
  (List.range n).filter fun j => R i j

open Classical in
/-- No smaller number is related; ascending. -/
noncomputable def classHeads (n : ℕ) (R : ℕ → ℕ → Prop) : List ℕ :=
  (List.range n).filter fun i => ∀ j < i, ¬ R j i

/-- By smallest element. -/
noncomputable def classesBelow (n : ℕ) (R : ℕ → ℕ → Prop) : List (List ℕ) :=
  (classHeads n R).map (classOf n R)

/-! ## Grouping loops compute the classes -/

section GroupByKey

variable {κ : Type*} [DecidableEq κ]

open Classical in
lemma eraseDups_map_range (key : ℕ → κ) (n : ℕ) : ((List.range n).map key).eraseDups =
      ((List.range n).filter fun i => ∀ j < i, key j ≠ key i).map key := by
  induction n with
  | zero => rfl
  | succ n ih =>
    rw [range_succ, map_append, map_singleton, eraseDups_concat, ih, pushNew,
      filter_append, map_append]
    by_cases hnew : ∀ j < n, key j ≠ key n
    · rw [if_neg, filter_singleton, decide_eq_true hnew]
      · rfl
      · intro hmem
        grind
    · rw [if_pos, filter_singleton, decide_eq_false hnew]
      · simp
      · rw [← ih, mem_eraseDups, mem_map]
        grind

/-- Grouping by a key that separates the classes of `R` lists them. -/
theorem groupByKey_range (key : ℕ → κ) {n : ℕ} {R : ℕ → ℕ → Prop}
    (h : ∀ i < n, ∀ j < n, key i = key j ↔ R i j) :
    groupByKey ((List.range n).map fun i => (key i, i)) = classesBelow n R := by
  have hfst : ((List.range n).map fun i => (key i, i)).map Prod.fst = (List.range n).map key := by
    rw [map_map]; rfl
  rw [groupByKey_eq, hfst, eraseDups_map_range, map_map, classesBelow, classHeads]
  rw [filter_congr (fun i hi => ?_)]
  · refine map_congr_left fun i hi => ?_
    have hi' := mem_range.mp (mem_filter.mp hi).1
    simp only [Function.comp_apply, valuesOf, filter_map, map_map, classOf]
    rw [show (Prod.snd ∘ fun i => (key i, i)) = id from rfl, map_id]
    grind [filter_congr]
  · have hi' := mem_range.mp hi
    grind

end GroupByKey

/-! ## The classes partition the segment -/

section Classes

variable {n : ℕ} {R : ℕ → ℕ → Prop}

@[simp] lemma mem_classOf {i j : ℕ} : j ∈ classOf n R i ↔ j < n ∧ R i j := by
  simp [classOf]

variable {i : ℕ}

lemma mem_classHeads : i ∈ classHeads n R ↔ i < n ∧ ∀ j < i, ¬ R j i := by
  simp [classHeads]

lemma mem_classesBelow {g : List ℕ} :
    g ∈ classesBelow n R ↔ ∃ i ∈ classHeads n R, classOf n R i = g := by
  rw [classesBelow, mem_map]

lemma classOf_sorted (i : ℕ) : (classOf n R i).Pairwise (· < ·) :=
  pairwise_lt_range.filter _

lemma classHeads_sorted : (classHeads n R).Pairwise (· < ·) :=
  pairwise_lt_range.filter _

variable (hR : Equivalence R)

include hR

lemma exists_head (hi : i < n) : ∃ h ∈ classHeads n R, h ≤ i ∧ R h i := by
  classical
  have hex : ∃ j, R j i := ⟨i, hR.refl i⟩
  have hle : Nat.find hex ≤ i := Nat.find_min' hex (hR.refl i)
  refine ⟨Nat.find hex, mem_classHeads.mpr ⟨by omega, fun j hj hji => ?_⟩, hle, Nat.find_spec hex⟩
  exact Nat.find_min hex hj (hR.trans hji (Nat.find_spec hex))

lemma head_unique {h h' : ℕ} (hh : h ∈ classHeads n R) (hh' : h' ∈ classHeads n R)
    (hrel : R h h') : h = h' := by
  obtain ⟨-, hmin⟩ := mem_classHeads.mp hh
  obtain ⟨-, hmin'⟩ := mem_classHeads.mp hh'
  rcases lt_trichotomy h h' with hlt | heq | hlt
  · grind
  · exact heq
  · exact absurd (hR.symm hrel) (hmin h' hlt)

lemma head?_classOf {h : ℕ} (hh : h ∈ classHeads n R) : (classOf n R h).head? = some h := by
  obtain ⟨hlt, hmin⟩ := mem_classHeads.mp hh
  have hmem : h ∈ classOf n R h := mem_classOf.mpr ⟨hlt, hR.refl h⟩
  cases hc : classOf n R h with
  | nil => rw [hc] at hmem; exact absurd hmem not_mem_nil
  | cons a rest =>
    have ha : a ∈ classOf n R h := hc ▸ mem_cons_self
    have hsorted := hc ▸ classOf_sorted (n := n) (R := R) h
    rw [hc, mem_cons] at hmem
    rcases hmem with rfl | hmem
    · rfl
    · have hlt' := (pairwise_cons.mp hsorted).1 h hmem
      exact absurd (hR.symm (mem_classOf.mp ha).2) (hmin a hlt')

lemma exists_class (hi : i < n) : ∃ g ∈ classesBelow n R, i ∈ g := by
  obtain ⟨h, hh, -, hrel⟩ := exists_head hR hi
  exact ⟨classOf n R h, mem_classesBelow.mpr ⟨h, hh, rfl⟩, mem_classOf.mpr ⟨hi, hrel⟩⟩

lemma classesBelow_disjoint : (classesBelow n R).Pairwise List.Disjoint := by
  rw [classesBelow, pairwise_map]
  refine (classHeads_sorted.imp_of_mem ?_)
  intro h h' hh hh' hlt k hk hk'
  have hrel : R h h' := hR.trans (mem_classOf.mp hk).2 (hR.symm (mem_classOf.mp hk').2)
  exact absurd (head_unique hR hh hh' hrel) hlt.ne

/-- A coarser relation with as many classes is the same. -/
lemma rel_of_length_eq {S : ℕ → ℕ → Prop} (hS : Equivalence S) (hle : ∀ i j, S i j → R i j)
    (hlen : (classesBelow n R).length = (classesBelow n S).length) {j : ℕ} (hi : i < n)
    (hj : j < n) (hij : R i j) : S i j := by
  classical
  have hsub : classHeads n R <+ classHeads n S := by
    refine monotone_filter_right _ fun k hk => ?_
    simp only [decide_eq_true_eq] at hk ⊢
    exact fun l hl hlk => hk l hl (hle l k hlk)
  have hheads : classHeads n R = classHeads n S :=
    hsub.eq_of_length (by simpa only [classesBelow, length_map] using hlen)
  obtain ⟨h, hh, -, hhi⟩ := exists_head hS hi
  obtain ⟨h', hh', -, hhj⟩ := exists_head hS hj
  have hrel : R h h' := hR.trans (hle h i hhi) (hR.trans hij (hR.symm (hle h' j hhj)))
  obtain rfl := head_unique hR (hheads ▸ hh) (hheads ▸ hh') hrel
  exact hS.trans (hS.symm hhi) hhj

lemma rel_of_mem_class {g : List ℕ} (hg : g ∈ classesBelow n R) {j : ℕ} (hi : i ∈ g) (hj : j ∈ g) :
    R i j := by
  obtain ⟨h, -, rfl⟩ := mem_classesBelow.mp hg
  exact hR.trans (hR.symm (mem_classOf.mp hi).2) (mem_classOf.mp hj).2

end Classes

end Rastreo
