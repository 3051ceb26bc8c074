import Mathlib.Data.Fintype.Card
import Mathlib.Data.Nat.Find
import Mathlib.Logic.Function.Iterate
import Mathlib.Logic.Relation

/-!
# Parent-pointer forests

A node points at its parent and a root at itself.  The relation "following the pointers from `x`
ends in the root `r`" under redirecting a node to its root and pointing one root at another, and the
pigeonhole bound on the walk.
-/

namespace Rastreo

open List Function

/-! ## Walking to the root of a pointer function -/

/-- Following `p` from `x` ends in the fixed point `r`. -/
def RootsTo {α : Type*} (p : α → α) (x r : α) : Prop :=
  p r = r ∧ ∃ k, p^[k] x = r

section RootsTo

variable {α : Type*} {p : α → α} {x y r s : α}

lemma rootsTo_self (h : p r = r) : RootsTo p r r := ⟨h, 0, rfl⟩

lemma rootsTo_of_parent (h : RootsTo p (p x) r) : RootsTo p x r := by
  obtain ⟨hr, k, hk⟩ := h
  exact ⟨hr, k + 1, by rw [iterate_succ_apply]; exact hk⟩

lemma RootsTo.parent (h : RootsTo p x r) : RootsTo p (p x) r := by
  obtain ⟨hr, k, hk⟩ := h
  refine ⟨hr, k, ?_⟩
  rw [← iterate_succ_apply, iterate_succ_apply', hk, hr]

lemma RootsTo.eq_of_fixed (h : RootsTo p x r) (hx : p x = x) : x = r := by
  obtain ⟨_, k, hk⟩ := h
  rwa [iterate_fixed hx] at hk

lemma RootsTo.unique (hr : RootsTo p x r) (hs : RootsTo p x s) : r = s := by
  obtain ⟨k, hk⟩ := hr.2
  induction k generalizing x with
  | zero =>
    have hx : x = r := hk
    subst hx
    exact hs.eq_of_fixed hr.1
  | succ k ih =>
    exact ih hr.parent hs.parent hk

variable [DecidableEq α]

lemma RootsTo.redirect {c t : α} (hc : RootsTo p c t) (hx : RootsTo p x s) :
    RootsTo (Function.update p c t) x s := by
  have hfix : Function.update p c t s = s := by
    by_cases hsc : s = c
    · subst hsc
      rw [update_self]
      exact (hc.eq_of_fixed hx.1).symm
    · rw [update_of_ne hsc]
      exact hx.1
  obtain ⟨k, hk⟩ := hx.2
  induction k generalizing x with
  | zero =>
    have hxs : x = s := hk
    subst hxs
    exact rootsTo_self hfix
  | succ k ih =>
    by_cases hxc : x = c
    · subst hxc
      have hts : t = s := hc.unique hx
      refine rootsTo_of_parent ?_
      grind [update_self, rootsTo_self]
    · refine rootsTo_of_parent ?_
      rw [update_of_ne hxc]
      exact ih hx.parent hk

/-- Exactly the nodes rooted at `a` move. -/
lemma RootsTo.link {a b : α} (ha : p a = a) (hb : p b = b) (hab : a ≠ b) (hx : RootsTo p x s) :
    RootsTo (Function.update p a b) x (if s = a then b else s) := by
  have hbfix : Function.update p a b b = b := by rw [update_of_ne hab.symm]; exact hb
  obtain ⟨k, hk⟩ := hx.2
  induction k generalizing x with
  | zero =>
    have hxs : x = s := hk
    subst hxs
    by_cases hxa : x = a
    · subst hxa
      rw [if_pos rfl]
      exact rootsTo_of_parent (by rw [update_self]; exact rootsTo_self hbfix)
    · rw [if_neg hxa]
      exact rootsTo_self (by rw [update_of_ne hxa]; exact hx.1)
  | succ k ih =>
    by_cases hxa : x = a
    · subst hxa
      have hsx : s = x := (hx.eq_of_fixed ha).symm
      rw [if_pos hsx]
      exact rootsTo_of_parent (by rw [update_self]; exact rootsTo_self hbfix)
    · refine rootsTo_of_parent ?_
      rw [update_of_ne hxa]
      exact ih hx.parent hk

end RootsTo

/-- Among `n` closed nodes the root is fewer than `n` steps away. -/
lemma RootsTo.exists_lt {p : ℕ → ℕ} {n x r : ℕ} (hclosed : ∀ y < n, p y < n) (hx : x < n)
    (h : RootsTo p x r) : ∃ k < n, p^[k] x = r := by
  classical
  have hmem : ∀ k, p^[k] x < n := by
    intro k
    induction k with
    | zero => exact hx
    | succ k ih => rw [iterate_succ_apply']; exact hclosed _ ih
  have hex : ∃ k, p^[k] x = r := h.2
  refine ⟨Nat.find hex, ?_, Nat.find_spec hex⟩
  by_contra hge
  -- The first `n + 1` nodes of the walk would be distinct: a repetition makes it periodic
  -- before it reaches the root.
  have hinj : Injective fun k : Fin (n + 1) => (⟨p^[k] x, hmem k⟩ : Fin n) := by
    intro i j hij
    have hij' : p^[(i : ℕ)] x = p^[(j : ℕ)] x := by simpa using hij
    by_contra hne
    wlog hlt : (i : ℕ) < j generalizing i j
    · grind
    have hjle : (j : ℕ) ≤ Nat.find hex := by omega
    have hshift : p^[Nat.find hex - j + i] x = r := by
      rw [iterate_add_apply, hij', ← iterate_add_apply, Nat.sub_add_cancel hjle]
      exact Nat.find_spec hex
    have := Nat.find_min' hex hshift
    omega
  have hcard := Fintype.card_le_of_injective _ hinj
  simp only [Fintype.card_fin] at hcard
  omega

/-! ## The forest -/

/-- Pointers stay in range, and every walk ends in a root. -/
structure ParentForest where
  parent : List ℕ
  inRange : ∀ x < parent.length, parent.getD x x < parent.length
  rooted : ∀ x, ∃ r, RootsTo (fun y => parent.getD y y) x r

namespace ParentForest

/-- Nodes outside the forest are their own roots. -/
def parentOf (f : ParentForest) (x : ℕ) : ℕ := f.parent.getD x x

/-- The forest of `n` isolated roots. -/
def discrete (n : ℕ) : ParentForest where
  parent := List.range n
  inRange := by
    intro x hx
    have hx' : x < n := by simpa using hx
    simp [getD_eq_getElem?_getD, hx']
  rooted := by
    intro x
    refine ⟨x, rootsTo_self ?_⟩
    by_cases hx : x < n
    · simp [getD_eq_getElem?_getD, getElem?_range hx]
    · simp [getD_eq_getElem?_getD, hx]

/-- Walking up the pointers for at most `fuel` steps. -/
def climb (parent : List ℕ) : ℕ → ℕ → ℕ
  | 0, cur => cur
  | fuel + 1, cur =>
    if parent.getD cur cur = cur then cur else climb parent fuel (parent.getD cur cur)

/-- At most as many steps as there are nodes. -/
def root (f : ParentForest) (x : ℕ) : ℕ := climb f.parent f.parent.length x

variable {f : ParentForest}

lemma parentOf_of_le {x : ℕ} (hx : f.parent.length ≤ x) : f.parentOf x = x := by
  rw [parentOf, getD_eq_getElem?_getD, getElem?_eq_none hx, Option.getD_none]

lemma climb_eq_of_iterate {parent : List ℕ} {r : ℕ} (hr : parent.getD r r = r) :
    ∀ {fuel k x : ℕ}, k ≤ fuel → (fun y => parent.getD y y)^[k] x = r →
      climb parent fuel x = r := by
  intro fuel
  induction fuel with
  | zero =>
    intro k x hk hkr
    obtain rfl := Nat.le_zero.mp hk
    exact hkr
  | succ fuel ih =>
    intro k x hk hkr
    rw [climb]
    by_cases hx : parent.getD x x = x
    · rw [if_pos hx]
      grind [iterate_fixed]
    · rw [if_neg hx]
      cases k with
      | zero => exact absurd (by rw [show x = r from hkr]; exact hr) hx
      | succ k =>
        exact ih (Nat.succ_le_succ_iff.mp hk) hkr

lemma rootsTo_root (f : ParentForest) (x : ℕ) : RootsTo f.parentOf x (f.root x) := by
  obtain ⟨r, hr⟩ := f.rooted x
  have hroot : f.root x = r := by
    by_cases hx : x < f.parent.length
    · obtain ⟨k, hk, hkr⟩ := hr.exists_lt f.inRange hx
      exact climb_eq_of_iterate hr.1 hk.le hkr
    · have hxx : f.parentOf x = x := parentOf_of_le (not_lt.mp hx)
      have hxr : x = r := hr.eq_of_fixed hxx
      exact climb_eq_of_iterate hr.1 (Nat.zero_le _) hxr
  rw [hroot]
  exact hr

lemma root_eq_iff {x r : ℕ} : f.root x = r ↔ RootsTo f.parentOf x r :=
  ⟨fun h => h ▸ f.rootsTo_root x, fun h => (f.rootsTo_root x).unique h⟩

lemma parentOf_root (f : ParentForest) (x : ℕ) : f.parentOf (f.root x) = f.root x :=
  (f.rootsTo_root x).1

lemma root_of_fixed {x : ℕ} (h : f.parentOf x = x) : f.root x = x :=
  root_eq_iff.mpr (rootsTo_self h)

lemma root_parentOf (f : ParentForest) (x : ℕ) : f.root (f.parentOf x) = f.root x :=
  root_eq_iff.mpr (f.rootsTo_root x).parent

@[simp] lemma root_discrete (n x : ℕ) : (discrete n).root x = x := by
  refine root_of_fixed ?_
  by_cases hx : x < n
  · simp [parentOf, discrete, getD_eq_getElem?_getD, getElem?_range hx]
  · exact parentOf_of_le (by simpa [discrete] using hx)

lemma root_lt {x : ℕ} (hx : x < f.parent.length) : f.root x < f.parent.length := by
  by_contra h
  obtain ⟨k, hk⟩ := (f.rootsTo_root x).2
  have hmem : ∀ k, f.parentOf^[k] x < f.parent.length := by
    intro k
    induction k with
    | zero => exact hx
    | succ k ih => rw [iterate_succ_apply']; exact f.inRange _ ih
  exact h (hk ▸ hmem k)

/-! ## Changing a forest -/

lemma getD_set {parent : List ℕ} {c : ℕ} (hc : c < parent.length) (v : ℕ) :
    (fun y => (parent.set c v).getD y y) = Function.update (fun y => parent.getD y y) c v := by
  funext y
  by_cases hy : y = c
  · subst hy
    grind
  · rw [update_of_ne hy]
    grind

lemma inRange_set {c v : ℕ} (hc : c < f.parent.length) (hv : v < f.parent.length) :
    ∀ x < (f.parent.set c v).length, (f.parent.set c v).getD x x < (f.parent.set c v).length := by
  intro x hx
  rw [length_set] at hx ⊢
  have hset := congrFun (getD_set hc v) x
  rw [hset]
  by_cases hxc : x = c
  · subst hxc
    rwa [update_self]
  · rw [update_of_ne hxc]
    exact f.inRange x hx

variable (f : ParentForest)

def redirect (c : ℕ) (hc : c < f.parent.length) : ParentForest where
  parent := f.parent.set c (f.root c)
  inRange := inRange_set hc (root_lt hc)
  rooted := by
    intro x
    refine ⟨f.root x, ?_⟩
    rw [getD_set hc]
    exact (f.rootsTo_root c).redirect (f.rootsTo_root x)

@[simp] lemma root_redirect {c : ℕ} (hc : c < f.parent.length) (x : ℕ) :
    (f.redirect c hc).root x = f.root x := by
  refine root_eq_iff.mpr ?_
  have hp : (f.redirect c hc).parentOf = Function.update f.parentOf c (f.root c) :=
    getD_set hc (f.root c)
  rw [hp]
  exact (f.rootsTo_root c).redirect (f.rootsTo_root x)

/-- Point the root `a` at the different root `b`. -/
def link (a b : ℕ) (ha : f.parentOf a = a) (hb : f.parentOf b = b)
    (hab : a ≠ b) (halt : a < f.parent.length) (hblt : b < f.parent.length) : ParentForest where
  parent := f.parent.set a b
  inRange := inRange_set halt hblt
  rooted := by
    intro x
    refine ⟨if f.root x = a then b else f.root x, ?_⟩
    rw [getD_set halt]
    exact (f.rootsTo_root x).link ha hb hab

lemma root_link {a b : ℕ} (ha : f.parentOf a = a) (hb : f.parentOf b = b)
    (hab : a ≠ b) (halt : a < f.parent.length) (hblt : b < f.parent.length) (x : ℕ) :
    (f.link a b ha hb hab halt hblt).root x = if f.root x = a then b else f.root x := by
  refine root_eq_iff.mpr ?_
  have hp : (f.link a b ha hb hab halt hblt).parentOf = Function.update f.parentOf a b :=
    getD_set halt b
  rw [hp]
  exact (f.rootsTo_root x).link ha hb hab

lemma root_link_eq_iff {a b : ℕ} (ha : f.parentOf a = a) (hb : f.parentOf b = b)
    (hab : a ≠ b) (halt : a < f.parent.length) (hblt : b < f.parent.length) (x y : ℕ) :
    (f.link a b ha hb hab halt hblt).root x = (f.link a b ha hb hab halt hblt).root y ↔
      f.root x = f.root y ∨ (f.root x = a ∧ f.root y = b) ∨ (f.root x = b ∧ f.root y = a) := by
  rw [root_link, root_link]
  by_cases hx : f.root x = a <;> by_cases hy : f.root y = a
  · simp [hx, hy]
  · grind
  · simp [hx, hy]
  · simp [hx, hy]

end ParentForest

end Rastreo
