import Mathlib.Data.List.Sort
import Mathlib.Tactic.Common

/-!
# Sweeping intervals

A search for the first point of a segment that no interval contains: a cursor moves over intervals
sorted by their starts, and all before it is covered.  `firstGap_find?`: looking at the points one
by one finds the same.
-/

namespace Rastreo

open List

lemma pairwise_mergeSort_key {α β : Type} [LinearOrder β] (key : α → β) (l : List α) :
    (l.mergeSort fun a b => decide (key a ≤ key b)).Pairwise fun a b => key a ≤ key b := by
  refine (pairwise_mergeSort ?_ ?_ l).imp fun h => of_decide_eq_true h
  · intro a b c hab hbc
    grind
  · intro a b
    grind

def Covered (ivals : List (ℕ × ℕ)) (x : ℕ) : Prop := ∃ i ∈ ivals, i.1 ≤ x ∧ x ≤ i.2

instance (ivals : List (ℕ × ℕ)) : DecidablePred (Covered ivals) := fun x =>
  inferInstanceAs (Decidable (∃ i ∈ ivals, i.1 ≤ x ∧ x ≤ i.2))

lemma covered_append (ivals ivals' : List (ℕ × ℕ)) (x : ℕ) :
    Covered (ivals ++ ivals') x ↔ Covered ivals x ∨ Covered ivals' x := by
  simp only [Covered, mem_append, or_and_right, exists_or]

/-- What a search for the first uncovered point may return. -/
def FirstGap (ivals : List (ℕ × ℕ)) (lo hi : ℕ) : Option ℕ → Prop
  | none => ∀ x, lo ≤ x → x ≤ hi → Covered ivals x
  | some p => lo ≤ p ∧ p ≤ hi ∧ ¬Covered ivals p ∧ ∀ x, lo ≤ x → x < p → Covered ivals x

/-- Move past the intervals that reach the cursor, up to the first gap. -/
def sweep (hi : ℕ) : ℕ → List (ℕ × ℕ) → Option ℕ
  | cursor, [] => (some cursor).filter (· ≤ hi)
  | cursor, (start, stop) :: rest =>
    if cursor < start then some cursor
    else if cursor ≤ stop then
      if hi ≤ stop then none else sweep hi (stop + 1) rest
    else sweep hi cursor rest

variable {ivals : List (ℕ × ℕ)} {lo hi : ℕ}

lemma FirstGap.cons {i : ℕ × ℕ} {cursor : ℕ} {r : Option ℕ} (hlo : lo ≤ cursor)
    (h : FirstGap ivals cursor hi r) (hbefore : ∀ x, lo ≤ x → x < cursor → i.1 ≤ x ∧ x ≤ i.2)
    (hafter : ∀ x, cursor ≤ x → ¬(i.1 ≤ x ∧ x ≤ i.2)) : FirstGap (i :: ivals) lo hi r := by
  have hcov : ∀ x, lo ≤ x → (cursor ≤ x → Covered ivals x) → Covered (i :: ivals) x := by
    intro x hx hrest
    by_cases hcursor : x < cursor
    · exact ⟨i, mem_cons_self, hbefore x hx hcursor⟩
    · obtain ⟨j, hj, hjx⟩ := hrest (Nat.le_of_not_lt hcursor)
      exact ⟨j, mem_cons_of_mem i hj, hjx⟩
  cases r with
  | none => exact fun x hx hxhi => hcov x hx fun hc => h x hc hxhi
  | some p =>
    obtain ⟨hp, hphi, hgap, hall⟩ := h
    refine ⟨Nat.le_trans hlo hp, hphi, ?_, fun x hx hxp => hcov x hx fun hc => hall x hc hxp⟩
    rintro ⟨j, hj, hjp⟩
    rcases mem_cons.mp hj with rfl | hj
    · exact hafter p hp hjp
    · exact hgap ⟨j, hj, hjp⟩

/-- The sweep over sorted intervals finds the first gap. -/
theorem sweep_spec (hsorted : ivals.Pairwise fun i j => i.1 ≤ j.1) (hlo : lo ≤ hi) :
    FirstGap ivals lo hi (sweep hi lo ivals) := by
  induction ivals generalizing lo with
  | nil =>
    have hsome : sweep hi lo [] = some lo := by simp [sweep, hlo]
    rw [hsome]
    refine ⟨Nat.le_refl lo, hlo, ?_, fun x hx hxlo => by omega⟩
    rintro ⟨_, hmem, -⟩
    grind
  | cons i rest ih =>
    obtain ⟨start, stop⟩ := i
    obtain ⟨hst, hrest⟩ := pairwise_cons.mp hsorted
    rw [sweep]
    split
    next hgap =>
      -- every later interval starts after the cursor, too
      refine ⟨Nat.le_refl lo, hlo, ?_, fun x hx hxlo => by omega⟩
      rintro ⟨j, hj, hjlo, -⟩
      rcases mem_cons.mp hj with rfl | hj
      · omega
      · grind
    next hgap =>
      split
      next hreach =>
        split
        next hend =>
          exact fun x hx hxhi => ⟨(start, stop), mem_cons_self, by dsimp only; omega⟩
        next hend =>
          have hnext : FirstGap rest (stop + 1) hi (sweep hi (stop + 1) rest) :=
            ih hrest (by omega)
          refine hnext.cons (by omega) ?_ ?_
          · omega
          · omega
      next hreach =>
        refine (ih hrest hlo).cons (Nat.le_refl lo) ?_ ?_
        · omega
        · omega

lemma FirstGap.unique {ivals' : List (ℕ × ℕ)} (hsame : ∀ i, i ∈ ivals ↔ i ∈ ivals')
    {r r' : Option ℕ} (h : FirstGap ivals lo hi r) (h' : FirstGap ivals' lo hi r') :
    r = r' := by
  have hcov : ∀ x, Covered ivals x ↔ Covered ivals' x := by
    intro x
    simp only [Covered, hsame]
  cases r with
  | none =>
    cases r' with
    | none => rfl
    | some p => exact absurd ((hcov p).mp (h p h'.1 h'.2.1)) h'.2.2.1
  | some p =>
    cases r' with
    | none => exact absurd ((hcov p).mpr (h' p h.1 h.2.1)) h.2.2.1
    | some q =>
      rcases Nat.lt_trichotomy p q with hlt | heq | hgt
      · exact absurd ((hcov p).mpr (h'.2.2.2 p h.1 hlt)) h.2.2.1
      · rw [heq]
      · exact absurd ((hcov q).mp (h.2.2.2 q h'.1 hgt)) h'.2.2.1

/-- Looking at the points one by one finds the first gap. -/
theorem firstGap_find? (ivals : List (ℕ × ℕ)) (lo hi : ℕ) : FirstGap ivals lo hi
      ((List.range' lo (hi + 1 - lo)).find? fun x => decide ¬Covered ivals x) := by
  rcases hfind : (List.range' lo (hi + 1 - lo)).find? fun x => decide ¬Covered ivals x with _ | p
  · intro x hx hxhi
    grind
  · obtain ⟨hgap, hmem, hbefore⟩ := find?_range'_eq_some.mp hfind
    have hp := mem_range'_1.mp hmem
    refine ⟨hp.1, by omega, by simpa using hgap, fun x hx hxp => ?_⟩
    grind

end Rastreo
