import Rastreo.Scheduler.Model

/-!
# The feed

Every pass of a target is handed out before the next target is pulled.  `Feed.next_cases` says once
what a call does, in terms of the pairs handed out.
-/

namespace Rastreo

variable {T : Type}

structure FeedOk (targets : List T) (numProbers : ℕ) (f : Feed T) : Prop where
  numProbers_eq : f.numProbers = numProbers
  /-- Before the first pull. -/
  start : f.current = none → f.nextTargetIndex = 0 ∧ f.targets = targets
  /-- After some passes of a pulled target. -/
  within : ∀ t p, f.current = some (t, p) → t < targets.length ∧ 0 < p ∧ p ≤ numProbers ∧
    f.nextTargetIndex = t + 1 ∧ f.targets = targets.drop (t + 1)

/-- The pass `p` of target `t` has been handed out. -/
def Feed.Handed (f : Feed T) (p t : ℕ) : Prop :=
  p < f.numProbers ∧ ∃ c, f.current = some c ∧ (t < c.1 ∨ t = c.1 ∧ p < c.2)

def Feed.handedCount (f : Feed T) : ℕ :=
  match f.current with
  | none => 0
  | some (t, p) => t * f.numProbers + p

inductive NextCase (targets : List T) (numProbers : ℕ) (f : Feed T) (targetMap : TargetMap T) :
    Option (ℕ × ℕ) × Feed T × TargetMap T → Prop where
  /-- Everything has been handed out; nothing changes. -/
  | exhausted (hall : ∀ t < targets.length, ∀ p < numProbers, f.Handed p t) :
      NextCase targets numProbers f targetMap (none, f, targetMap)
  /-- A target enters the map with its first pass. -/
  | next (p t : ℕ) (target : T) (f' : Feed T) (htarget : targets[t]? = some target)
      (hp : p < numProbers) (hok : FeedOk targets numProbers f')
      (hcurrent : f'.current = some (t, p + 1)) (hnew : ¬ f.Handed p t)
      (hhanded : ∀ p' t', f'.Handed p' t' ↔ f.Handed p' t' ∨ p' = p ∧ t' = t)
      (hcount : f'.handedCount = f.handedCount + 1) :
      NextCase targets numProbers f targetMap
        (some (p, t), f', if p = 0 then targetMap.insert t target else targetMap)

variable {rest : List T} {n i p t : ℕ}

lemma handed_iff {ct cp : ℕ} :
    (⟨rest, n, i, some (ct, cp)⟩ : Feed T).Handed p t ↔ p < n ∧ (t < ct ∨ t = ct ∧ p < cp) := by
  simp [Feed.Handed]

lemma not_handed_start : ¬ (⟨rest, n, i, none⟩ : Feed T).Handed p t := by
  simp [Feed.Handed]

lemma feedLoop_within (h : p < n) (targetMap : TargetMap T) :
    feedLoop n rest i (some (t, p)) targetMap =
      (some (p, t), ⟨rest, n, i, some (t, p + 1)⟩, targetMap) := by
  unfold feedLoop
  simp [Option.filter, h]

variable {current : Option (ℕ × ℕ)}

lemma feedLoop_pull {target : T} (h : ∀ c, current = some c → n ≤ c.2) (hpos : 0 < n)
    (targetMap : TargetMap T) : feedLoop n (target :: rest) i current targetMap =
      (some (0, i), ⟨rest, n, i + 1, some (i, 1)⟩, targetMap.insert i target) := by
  have hnone : current.filter (fun c => c.2 < n) = none := by simp_all
  unfold feedLoop
  rw [hnone]
  exact feedLoop_within hpos _

lemma feedLoop_exhausted (h : ∀ c, current = some c → n ≤ c.2) (targetMap : TargetMap T) :
    feedLoop n [] i current targetMap = (none, ⟨[], n, i, current⟩, targetMap) := by
  have hnone : current.filter (fun c => c.2 < n) = none := by simp_all
  unfold feedLoop
  rw [hnone]

/-- A feed in order keeps to its order. -/
theorem Feed.next_cases {targets : List T} {numProbers : ℕ} {f : Feed T}
    (hok : FeedOk targets numProbers f) (hpos : 0 < numProbers) (targetMap : TargetMap T) :
    NextCase targets numProbers f targetMap (f.next targetMap) := by
  obtain ⟨rest, n, i, current⟩ := f
  obtain ⟨rfl, hst, hwithin⟩ := hok
  dsimp only at hst hwithin hpos
  unfold Feed.next
  dsimp only
  cases current with
  | none =>
    obtain ⟨rfl, rfl⟩ := hst rfl
    cases rest with
    | nil =>
      exact .exhausted (by simp)
    | cons target rest =>
      rw [feedLoop_pull (by simp) hpos]
      refine .next 0 0 target _ rfl hpos ⟨rfl, by simp, ?_⟩ rfl not_handed_start ?_ ?_
      · rintro t p ⟨⟩
        exact ⟨by simp, by omega, hpos, rfl, rfl⟩
      · simp only [handed_iff, not_handed_start, false_or]
        omega
      · simp [Feed.handedCount]
  | some c =>
    obtain ⟨t, p⟩ := c
    obtain ⟨ht, hp0, hpn, rfl, rfl⟩ := hwithin t p rfl
    by_cases hp : p < n
    · rw [feedLoop_within hp]
      obtain ⟨target, htarget⟩ : ∃ target, targets[t]? = some target :=
        ⟨_, List.getElem?_eq_getElem ht⟩
      have hsame : targetMap = if p = 0 then targetMap.insert t target else targetMap := by
        rw [if_neg hp0.ne']
      nth_rewrite 2 [hsame]
      refine .next p t target _ htarget hp ⟨rfl, by simp, ?_⟩ rfl ?_ ?_ ?_
      · grind
      · simp [handed_iff]
      · simp only [handed_iff]
        omega
      · simp only [Feed.handedCount]
        omega
    · obtain rfl := le_antisymm hpn (not_lt.mp hp)
      cases hrest : targets.drop (t + 1) with
      | nil =>
        rw [feedLoop_exhausted (by simp)]
        refine .exhausted fun t' ht' p' hp' => ?_
        have hlen : targets.length ≤ t + 1 := List.drop_eq_nil_iff.mp hrest
        simp only [handed_iff]
        omega
      | cons target rest =>
        rw [feedLoop_pull (by simp) hpos]
        have htarget : targets[t + 1]? = some target := by
          rw [← List.head?_drop, hrest]
          rfl
        have hdrop : rest = targets.drop (t + 1 + 1) := by
          rw [← List.tail_drop, hrest]
          rfl
        refine .next 0 (t + 1) target _ htarget hpos ⟨rfl, by simp, ?_⟩ rfl ?_ ?_ ?_
        · rintro t' p' ⟨⟩
          grind
        · simp [handed_iff]
        · simp only [handed_iff]
          omega
        · simp only [Feed.handedCount]
          rw [Nat.add_one_mul]

end Rastreo
