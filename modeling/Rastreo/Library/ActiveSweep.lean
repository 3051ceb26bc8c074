import Mathlib.Data.List.Destutter
import Mathlib.Data.List.Sort
import Mathlib.Data.Prod.Lex

/-!
# Sweeping for overlaps

Closed intervals on several lines, each with an owner.  The sweep goes over them by their starts and
keeps those still open, which are the ones a new interval meets.  It stops at the first pair beyond
a given number; `activeSweep_collects` says what it has then.
-/

namespace Rastreo

open List

/-! ## Collections that stop when full -/

/-- Elements with a property, in no order, complete unless it was full and there was one more. -/
structure Collects {α : Type} (cap : ℕ) (P : α → Prop) (found : List α) (more : Bool) : Prop where
  nodup : found.Nodup
  sound : ∀ p ∈ found, P p
  bounded : found.length ≤ cap
  complete : more = false → ∀ p, P p → p ∈ found
  full : more = true → found.length = cap ∧ ∃ p, P p ∧ p ∉ found

namespace Collects

variable {α : Type} {cap : ℕ} {P Q : α → Prop} {found : List α} {more : Bool}

lemma congr (h : Collects cap P found more) (hPQ : ∀ p, P p ↔ Q p) : Collects cap Q found more := by
  obtain rfl := funext fun p => propext (hPQ p)
  exact h

lemma perm_of_le (h : Collects cap P found more) {all : List α} (hall : ∀ p, p ∈ all ↔ P p)
    (hnd : all.Nodup) (hle : all.length ≤ cap) : more = false ∧ found.Perm all := by
  cases more with
  | false =>
    refine ⟨rfl, (perm_ext_iff_of_nodup h.nodup hnd).mpr fun p => ?_⟩
    exact ⟨fun hp => (hall p).mpr (h.sound p hp), fun hp => h.complete rfl p ((hall p).mp hp)⟩
  | true =>
    -- The element that was left out would be one too many.
    obtain ⟨hlen, p, hp, hnot⟩ := h.full rfl
    have hsub : p :: found ⊆ all := by
      intro q hq
      rcases mem_cons.mp hq with rfl | hq
      · exact (hall q).mpr hp
      · exact (hall q).mpr (h.sound q hq)
    have hcount := (subperm_of_subset (h.nodup.cons hnot) hsub).length_le
    rw [length_cons] at hcount
    omega

lemma full_of_lt (h : Collects cap P found more) {all : List α} (hall : ∀ p, p ∈ all ↔ P p)
    (hnd : all.Nodup) (hlt : cap < all.length) : more = true ∧ found.length = cap := by
  cases more with
  | false =>
    have hsub : all ⊆ found := fun p hp => h.complete rfl p ((hall p).mp hp)
    have hcount := (subperm_of_subset hnd hsub).length_le
    have hbou := h.bounded
    omega
  | true => exact ⟨rfl, (h.full rfl).1⟩

end Collects

/-! ## The sweep -/

/-- How intervals lie: their lines, their ends, their owners. -/
structure Layout (ι κ τ ω : Type) where
  line : ι → κ
  lo : ι → τ
  hi : ι → τ
  owner : ι → ω

namespace Layout

variable {ι κ τ ω : Type} [LinearOrder κ] [LinearOrder τ] [LinearOrder ω] (g : Layout ι κ τ ω)

def Meet (a b : ι) : Prop := g.line a = g.line b ∧ g.lo a ≤ g.hi b ∧ g.lo b ≤ g.hi a

/-- The owners of two intervals, the smaller first. -/
def owners (a b : ι) : ω × ω := (min (g.owner a) (g.owner b), max (g.owner a) (g.owner b))

def Overlap (l : List ι) (p : ω × ω) : Prop :=
  ∃ a ∈ l, ∃ b ∈ l, g.owner a ≠ g.owner b ∧ g.Meet a b ∧ p = g.owners a b

/-- On an earlier line, or no later on the same. -/
def Before (a b : ι) : Prop := g.line a < g.line b ∨ g.line a = g.line b ∧ g.lo a ≤ g.lo b

/-- The pairs with the open intervals, up to the first beyond the cap. -/
def record (cap : ℕ) (x : ι) : List ι → List (ω × ω) → List (ω × ω) × Bool
  | [], found => (found, false)
  | a :: rest, found =>
    if g.owner a = g.owner x then record cap x rest found
    else if g.owners a x ∈ found then record cap x rest found
    else if cap ≤ found.length then (found, true)
    else record cap x rest (found ++ [g.owners a x])

def stillOpen (x : ι) (active : List ι) : List ι :=
  active.filter fun a => decide (g.line a = g.line x) && decide (g.lo x ≤ g.hi a)

/-- Over the intervals left, with those open and the pairs found. -/
def activeSweep (cap : ℕ) : List ι → List ι → List (ω × ω) → List (ω × ω) × Bool
  | [], _, found => (found, false)
  | x :: rest, active, found =>
    let active := g.stillOpen x active
    let (found, more) := g.record cap x active found
    if more then (found, true) else activeSweep cap rest (active ++ [x]) found

/-! ## What it finds -/

variable {g}

omit [LinearOrder κ] [LinearOrder ω] in
lemma Meet.symm {a b : ι} (h : g.Meet a b) : g.Meet b a := ⟨h.1.symm, h.2.2, h.2.1⟩

omit [LinearOrder κ] [LinearOrder τ] in
lemma owners_comm (a b : ι) : g.owners a b = g.owners b a := by
  rw [owners, owners, min_comm, max_comm]

omit [LinearOrder κ] [LinearOrder τ] in
lemma record_collects {cap : ℕ} {x : ι} {P : ω × ω → Prop} (active : List ι)
    {found : List (ω × ω)} (h : Collects cap P found false) :
    Collects cap (fun p => P p ∨ ∃ a ∈ active, g.owner a ≠ g.owner x ∧ p = g.owners a x)
      (g.record cap x active found).1 (g.record cap x active found).2 := by
  -- The induction is on the open intervals, with the property of what is already recorded.
  induction active generalizing P found with
  | nil => exact h.congr fun p => by simp
  | cons a rest ih =>
    rw [record]
    split
    next hsame =>
      refine (ih h).congr fun p => or_congr_right ?_
      simp [hsame]
    next hother =>
      split
      next hknown =>
        refine (ih h).congr fun p => ?_
        have hP := h.sound _ hknown
        simp only [mem_cons, exists_eq_or_imp]
        constructor
        · grind
        · rintro (hp | ⟨-, rfl⟩ | hp)
          · exact .inl hp
          · exact .inl hP
          · exact .inr hp
      next hnew =>
        split
        next hfull =>
          refine ⟨h.nodup, fun p hp => .inl (h.sound p hp), h.bounded, nofun,
            fun _ => ⟨Nat.le_antisymm h.bounded hfull, _, .inr ⟨a, mem_cons_self, hother, rfl⟩,
              hnew⟩⟩
        next hroom =>
          have hpushed : Collects cap (fun p => P p ∨ p = g.owners a x)
              (found ++ [g.owners a x]) false := by
            refine ⟨?_, ?_, ?_, ?_, nofun⟩
            · exact h.nodup.append (nodup_singleton _) (by simpa using hnew)
            · intro p hp
              rcases mem_append.mp hp with hp | hp
              · exact .inl (h.sound p hp)
              · grind
            · grind
            · rintro - p (hp | rfl)
              · exact mem_append_left _ (h.complete rfl p hp)
              · simp
          refine (ih hpushed).congr fun p => ?_
          simp only [mem_cons, exists_eq_or_imp, or_assoc, ne_eq, hother, not_false_eq_true,
            true_and]

omit [LinearOrder ω] in
lemma mem_stillOpen {done active : List ι} {x a : ι} (hx : g.lo x ≤ g.hi x)
    (hbefore : ∀ b ∈ done, g.Before b x) (hsub : ∀ b ∈ active, b ∈ done)
    (hopen : ∀ b ∈ done, g.Meet b x → b ∈ active) :
    a ∈ g.stillOpen x active ↔ a ∈ done ∧ g.Meet a x := by
  simp only [stillOpen, mem_filter, Bool.and_eq_true, decide_eq_true_eq]
  constructor
  · rintro ⟨ha, hline, hreach⟩
    have hst : g.lo a ≤ g.lo x := by
      rcases hbefore a (hsub a ha) with hlt | ⟨-, hle⟩
      · exact absurd hline hlt.ne
      · exact hle
    exact ⟨hsub a ha, hline, hst.trans hx, hreach⟩
  · rintro ⟨ha, hmeet⟩
    exact ⟨hopen a ha hmeet, hmeet.1, hmeet.2.2⟩

omit [LinearOrder ω] in
lemma Meet.of_before {a x b : ι} (hx : g.lo x ≤ g.hi x) (hax : g.Before a x) (hxb : g.Before x b)
    (h : g.Meet a b) : g.Meet a x := by
  have hline : g.line a = g.line x := by
    rcases hax with hlt | ⟨heq, -⟩
    · rcases hxb with hlt' | ⟨heq', -⟩
      · exact absurd h.1 (hlt.trans hlt').ne
      · exact absurd (h.1.trans heq'.symm) hlt.ne
    · exact heq
  have hst : g.lo a ≤ g.lo x := by
    rcases hax with hlt | ⟨-, hle⟩
    · exact absurd hline hlt.ne
    · exact hle
  have hnext : g.lo x ≤ g.lo b := by
    rcases hxb with hlt | ⟨-, hle⟩
    · exact absurd (hline.symm.trans h.1) hlt.ne
    · exact hle
  exact ⟨hline, hst.trans hx, hnext.trans h.2.2⟩

omit [LinearOrder κ] in
lemma overlap_concat {done : List ι} {x : ι} (p : ω × ω) : g.Overlap (done ++ [x]) p ↔
      g.Overlap done p ∨ ∃ a, (a ∈ done ∧ g.Meet a x) ∧ g.owner a ≠ g.owner x ∧
        p = g.owners a x := by
  constructor
  · rintro ⟨a, ha, b, hb, hne, hmeet, rfl⟩
    rcases mem_append.mp ha with ha | ha
    · rcases mem_append.mp hb with hb | hb
      · exact .inl ⟨a, ha, b, hb, hne, hmeet, rfl⟩
      · grind
    · obtain rfl := mem_singleton.mp ha
      rcases mem_append.mp hb with hb | hb
      · exact .inr ⟨b, ⟨hb, hmeet.symm⟩, hne.symm, owners_comm a b⟩
      · grind
  · rintro (⟨a, ha, b, hb, h⟩ | ⟨a, ⟨ha, hmeet⟩, hne, rfl⟩)
    · exact ⟨a, mem_append_left _ ha, b, mem_append_left _ hb, h⟩
    · exact ⟨a, mem_append_left _ ha, x, mem_append_right _ (mem_singleton_self x), hne, hmeet, rfl⟩

omit [LinearOrder κ] in
lemma Overlap.mono {l l' : List ι} (hsub : ∀ a ∈ l, a ∈ l') {p : ω × ω} (h : g.Overlap l p) :
    g.Overlap l' p := by
  obtain ⟨a, ha, b, hb, h⟩ := h
  exact ⟨a, hsub a ha, b, hsub b hb, h⟩

/-- From the middle: all before is recorded, and what meets something left is open. -/
lemma activeSweep_collects_from {cap : ℕ} (done : List ι) {rest active : List ι}
    {found : List (ω × ω)}
    (hsorted : (done ++ rest).Pairwise g.Before) (hproper : ∀ x ∈ rest, g.lo x ≤ g.hi x)
    (hsub : ∀ a ∈ active, a ∈ done)
    (hopen : ∀ a ∈ done, ∀ b ∈ rest, g.Meet a b → a ∈ active)
    (hfound : Collects cap (g.Overlap done) found false) :
    Collects cap (g.Overlap (done ++ rest)) (g.activeSweep cap rest active found).1
      (g.activeSweep cap rest active found).2 := by
  induction rest generalizing done active found with
  | nil =>
    rw [append_nil]
    exact hfound
  | cons x rest ih =>
    obtain ⟨-, hrest, hcross⟩ := pairwise_append.mp hsorted
    have hx := hproper x mem_cons_self
    have hbefore : ∀ a ∈ done, g.Before a x := fun a ha => hcross a ha x mem_cons_self
    have hactive : ∀ a, a ∈ g.stillOpen x active ↔ a ∈ done ∧ g.Meet a x := fun a =>
      mem_stillOpen hx hbefore hsub fun b hb => hopen b hb x mem_cons_self
    have hrec : Collects cap (g.Overlap (done ++ [x]))
        (g.record cap x (g.stillOpen x active) found).1
        (g.record cap x (g.stillOpen x active) found).2 := by
      refine (record_collects (g.stillOpen x active) hfound).congr fun p => ?_
      rw [overlap_concat]
      simp only [hactive]
    rw [activeSweep]
    generalize g.record cap x (g.stillOpen x active) found = r at hrec ⊢
    obtain ⟨found', more⟩ := r
    dsimp only at hrec ⊢
    have hsplit : done ++ x :: rest = (done ++ [x]) ++ rest := by simp
    cases more with
    | true =>
      -- What was found stays sound, and the pair left out stays left out.
      obtain ⟨hlen, p, hp, hnot⟩ := hrec.full rfl
      have hmono : ∀ q, g.Overlap (done ++ [x]) q → g.Overlap (done ++ x :: rest) q := by
        intro q hq
        refine hq.mono fun a ha => ?_
        grind
      exact ⟨hrec.nodup, fun q hq => hmono q (hrec.sound q hq), hrec.bounded,
        nofun, fun _ => ⟨hlen, p, hmono p hp, hnot⟩⟩
    | false =>
      rw [hsplit] at hsorted ⊢
      refine ih _ hsorted (fun y hy => hproper y (mem_cons_of_mem x hy)) ?_ ?_ hrec
      · intro a ha
        grind
      · intro a ha b hb hmeet
        have hxb : g.Before x b := (pairwise_cons.mp hrest).1 b hb
        rcases mem_append.mp ha with ha | ha
        · refine mem_append_left _ ((hactive a).mpr ⟨ha, ?_⟩)
          exact hmeet.of_before hx (hbefore a ha) hxb
        · exact mem_append_right _ ha

/-- Sorted intervals give the pairs of owners that overlap. -/
theorem activeSweep_collects {cap : ℕ} {l : List ι} (hsorted : l.Pairwise g.Before)
    (hproper : ∀ x ∈ l, g.lo x ≤ g.hi x) :
    Collects cap (g.Overlap l) (g.activeSweep cap l [] []).1 (g.activeSweep cap l [] []).2 := by
  refine activeSweep_collects_from [] hsorted hproper (fun a ha => ha)
    (forall_mem_nil _) ?_
  refine ⟨nodup_nil, forall_mem_nil _, Nat.zero_le _, ?_, nofun⟩
  rintro - p ⟨a, ha, -⟩
  exact absurd ha not_mem_nil

end Layout

/-! ## Adjacent repeats -/

lemma mem_destutter_ne {α : Type} [DecidableEq α] {l : List α} {a : α} :
    a ∈ l.destutter (· ≠ ·) ↔ a ∈ l := by
  have hcons : ∀ (l : List α) (b : α), a ∈ l.destutter' (· ≠ ·) b ↔ a ∈ b :: l := by
    intro l
    induction l with
    | nil =>
      intro b
      rw [destutter'_nil]
    | cons c l ih =>
      intro b
      by_cases hbc : b = c
      · subst hbc
        rw [destutter'_cons_neg _ (by simp), ih]
        simp
      · rw [destutter'_cons_pos _ hbc, mem_cons, ih, mem_cons (b := b)]
  cases l with
  | nil => rfl
  | cons b l => exact hcons l b

end Rastreo
