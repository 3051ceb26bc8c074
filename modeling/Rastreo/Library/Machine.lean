import Mathlib.Algebra.GroupWithZero.Nat
import Mathlib.Algebra.Group.Pi.Basic
import Mathlib.Data.List.Induction

/-!
# Machines driven by actions

A machine is a partial step function of actions, and `runActions` performs a sequence of them.  A
whole run inherits from one step: an invariant, a bound by a decreasing measure, a monotone
quantity.
-/

namespace Rastreo

open List Option

variable {A S : Type} {step : A → S → Option S}

def runActions (step : A → S → Option S) : List A → S → Option S
  | [], s => some s
  | a :: as, s => (step a s).bind (runActions step as)

variable {a : A} {as : List A} {s s' : S}

lemma runActions_cons_eq_some : runActions step (a :: as) s = some s' ↔
      ∃ t, step a s = some t ∧ runActions step as t = some s' := by
  rw [runActions, bind_eq_some_iff]

variable {P : S → Prop}

/-- What every step keeps, every run keeps. -/
theorem runActions_invariant (hstep : ∀ a s s', P s → step a s = some s' → P s') (hs : P s)
    (hrun : runActions step as s = some s') : P s' := by
  induction as generalizing s with
  | nil => exact Option.some.inj hrun ▸ hs
  | cons a as ih =>
    obtain ⟨t, ht, hrest⟩ := runActions_cons_eq_some.mp hrun
    grind

/-- What admitted actions keep, every run of them keeps. -/
theorem runActions_invariant_on {Q : A → Prop}
    (hstep : ∀ a s s', Q a → P s → step a s = some s' → P s') (hQ : ∀ a ∈ as, Q a) (hs : P s)
    (hrun : runActions step as s = some s') : P s' := by
  induction as generalizing s with
  | nil => exact Option.some.inj hrun ▸ hs
  | cons a as ih =>
    obtain ⟨t, ht, hrest⟩ := runActions_cons_eq_some.mp hrun
    grind

/-- A measure that every step decreases bounds a run's length. -/
theorem runActions_length_le {μ : S → ℕ} (hstep : ∀ a s s', P s → step a s = some s' → P s')
    (hdec : ∀ a s s', P s → step a s = some s' → μ s' < μ s) (hs : P s)
    (hrun : runActions step as s = some s') :
    as.length + μ s' ≤ μ s := by
  induction as generalizing s with
  | nil =>
    obtain rfl := Option.some.inj hrun
    simp
  | cons a as ih =>
    obtain ⟨t, ht, hrest⟩ := runActions_cons_eq_some.mp hrun
    have hlt := hdec a s t hs ht
    grind

lemma runActions_append (as bs : List A) (s : S) :
    runActions step (as ++ bs) s = (runActions step as s).bind (runActions step bs) := by
  induction as generalizing s with
  | nil => rfl
  | cons a as ih => grind [runActions, Option.bind_congr]

/-- After `before`, the run of `as` takes `a` from `s` to `s'`. -/
structure Takes (step : A → S → Option S) (as : List A) (s₀ : S) (before : List A) (a : A)
    (s s' : S) : Prop where
  position : ∃ after, as = before ++ a :: after
  reached : runActions step before s₀ = some s
  taken : step a s = some s'

variable {s₀ : S}

lemma Takes.getElem? {before : List A} (h : Takes step as s₀ before a s s') :
    as[before.length]? = some a ∧ runActions step (as.take before.length) s₀ = some s := by
  obtain ⟨after, rfl⟩ := h.position
  exact ⟨by simp, by simpa using h.reached⟩

lemma exists_takes {n : ℕ} (ha : as[n]? = some a)
    (hrun : (runActions step (as.take (n + 1)) s₀).isSome = true) :
    ∃ s s', Takes step as s₀ (as.take n) a s s' := by
  obtain ⟨s', hs'⟩ := isSome_iff_exists.mp hrun
  rw [take_add_one, ha, runActions_append, bind_eq_some_iff] at hs'
  obtain ⟨s, hs, hlast⟩ := hs'
  obtain ⟨t, ht, -⟩ := runActions_cons_eq_some.mp hlast
  refine ⟨s, t, ⟨as.drop (n + 1), ?_⟩, hs, ht⟩
  obtain ⟨hn, rfl⟩ := List.getElem?_eq_some_iff.mp ha
  simp

/-- What the actions taken keep holds whenever one is taken. -/
theorem Takes.invariant (h₀ : P s₀)
    (hstep : ∀ {before a s s'}, Takes step as s₀ before a s s' → P s → P s') {before : List A}
    (h : Takes step as s₀ before a s s') : P s := by
  induction before using List.reverseRecOn generalizing a s s' with
  | nil => exact Option.some.inj h.reached ▸ h₀
  | append_singleton before b ih =>
    obtain ⟨after, hafter⟩ := h.position
    have hrea := h.reached
    rw [runActions_append, bind_eq_some_iff] at hrea
    obtain ⟨t, ht, hlast⟩ := hrea
    obtain ⟨s₁, hb, hs₁⟩ := runActions_cons_eq_some.mp hlast
    obtain rfl := Option.some.inj hs₁
    have hb : Takes step as s₀ before b t s₁ := ⟨⟨a :: after, by simp [hafter]⟩, ht, hb⟩
    exact hstep hb (ih hb)

/-- What only `b` brings about was brought about by it. -/
theorem mem_of_runActions {b : A} (hstep : ∀ a s s', step a s = some s' → P s' → a = b ∨ P s)
    (h₀ : ¬ P s₀) (hrun : runActions step as s₀ = some s) (hs : P s) : b ∈ as := by
  induction as using List.reverseRecOn generalizing s with
  | nil => exact absurd (Option.some.inj hrun ▸ hs) h₀
  | append_singleton as a ih =>
    rw [runActions_append, bind_eq_some_iff] at hrun
    obtain ⟨t, ht, hlast⟩ := hrun
    obtain ⟨s₁, ha, hs₁⟩ := runActions_cons_eq_some.mp hlast
    obtain rfl := Option.some.inj hs₁
    grind

/-- Every step of a run satisfies `P`. -/
def AllSteps (step : A → S → Option S) (P : A → S → Prop) : List A → S → Prop
  | [], _ => True
  | a :: as, s => P a s ∧ ∀ t, step a s = some t → AllSteps step P as t

/-- Quantities that grow by the shares of steps are sums of shares, and grow exactly when some step
has one. -/
theorem runActions_sum {ι : Type} {P : A → S → Prop} {I : (ι → ℕ) → S → Prop}
    {share : A → S → ι → ℕ}
    (hstep : ∀ a n s s', P a s → I n s → step a s = some s' → I (n + share a s) s') {n : ι → ℕ}
    (hs : I n s) (hP : AllSteps step P as s) (hrun : runActions step as s = some s') :
    ∃ m, I m s' ∧ (∀ i, n i ≤ m i) ∧ (m = n ↔ AllSteps step (fun a s => share a s = 0) as s) := by
  induction as generalizing n s with
  | nil =>
    obtain rfl := Option.some.inj hrun
    exact ⟨n, hs, fun i => Nat.le_refl (n i), iff_of_true rfl trivial⟩
  | cons a as ih =>
    obtain ⟨t, ht, hrest⟩ := runActions_cons_eq_some.mp hrun
    obtain ⟨m, hm, hle, hiff⟩ := ih (hstep a n s t hP.1 hs ht) (hP.2 t ht) hrest
    simp only [Pi.add_apply] at hle
    refine ⟨m, hm, fun i => Nat.le_trans (Nat.le_add_right _ _) (hle i), ?_⟩
    constructor
    · rintro rfl
      have hzero : share a s = 0 := by
        funext i
        have := hle i
        simp only [Pi.zero_apply]
        omega
      refine ⟨hzero, fun t' ht' => ?_⟩
      simp_all
    · rintro ⟨hzero, hsteps⟩
      rw [hiff.mpr (hsteps t ht), hzero, add_zero]

end Rastreo
