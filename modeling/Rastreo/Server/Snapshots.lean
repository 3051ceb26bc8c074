import Rastreo.Server.Requests
import Mathlib.Data.Fintype.Card
import Mathlib.Data.List.FinRange
import Mathlib.Data.List.Nodup

/-!
# Snapshots of a histogram

Calls of `observe` add to the cells of a shard, and a snapshot loads them, one at a time, in any
interleaving.  What is loaded is at least what the calls ended before it have added, and at most
what those begun before its end add.  The running sum is left out.
-/

namespace Rastreo

open List Option Function

inductive Cell where
  | bucket (i : Fin 11)
  | plusInf
  | count
  deriving DecidableEq

def bucketBound (i : Fin 11) : ℚ := HistogramShard.bucketBounds.getD i 0

/-- The cells that `observe` adds to, in its order. -/
def observedCells (seconds : ℚ) : List Cell :=
  ((List.finRange 11).filter fun i => seconds ≤ bucketBound i).map .bucket ++ [.plusInf, .count]

/-- The cells that `snapshot` loads, in its order. -/
def snapshotCells : List Cell := (List.finRange 11).map .bucket ++ [.plusInf, .count]

/-- What each call has yet to add to, and the snapshot with the number of loads made. -/
structure Shard (n : ℕ) where
  cells : Cell → UInt64
  remaining : Fin n → List Cell
  values : Cell → UInt64
  loads : ℕ

/-- `fetch_add` of a call, or a load of the snapshot. -/
inductive ShardStep (n : ℕ) where
  | add (call : Fin n)
  | load
  deriving DecidableEq

namespace Shard

variable {n : ℕ}

def start (seconds : Fin n → ℚ) : Shard n :=
  ⟨fun _ => 0, fun call => observedCells (seconds call), fun _ => 0, 0⟩

def step : ShardStep n → Shard n → Option (Shard n)
  | .add call, s =>
    match s.remaining call with
    | [] => none
    | cell :: rest => some { s with
        cells := Function.update s.cells cell (s.cells cell + 1)
        remaining := Function.update s.remaining call rest }
  | .load, s => snapshotCells[s.loads]?.map fun cell => { s with
      values := Function.update s.values cell (s.cells cell)
      loads := s.loads + 1 }

structure Valid (values : Cell → UInt64) : Prop where
  mono : ∀ i j, i ≤ j → values (.bucket i) ≤ values (.bucket j)
  le_plusInf : ∀ i, values (.bucket i) ≤ values .plusInf
  plusInf_eq : values .plusInf = values .count

variable (seconds : Fin n → ℚ) (s : Shard n) (cell : Cell)

/-- The calls that have ended, of those that add to a cell. -/
def ended : Finset (Fin n) :=
  Finset.univ.filter fun call => cell ∈ observedCells (seconds call) ∧ s.remaining call = []

/-- The calls that have begun, of those that add to a cell. -/
def begun : Finset (Fin n) :=
  Finset.univ.filter fun call =>
    cell ∈ observedCells (seconds call) ∧ s.remaining call ≠ observedCells (seconds call)

def added : Finset (Fin n) :=
  Finset.univ.filter fun call => cell ∈ observedCells (seconds call) ∧ cell ∉ s.remaining call

structure Counts : Prop where
  suffix : ∀ call, s.remaining call <:+ observedCells (seconds call)
  cells_eq : ∀ cell, (s.cells cell).toNat = (added seconds s cell).card

variable {seconds s cell} {s₀ s' : Shard n}

lemma nodup_observedCells (t : ℚ) : (observedCells t).Nodup := by
  refine List.Nodup.append (((nodup_finRange 11).filter _).map ?_) (by decide) ?_
  · exact fun i j h => Cell.bucket.inj h
  · simp [disjoint_left]

variable {a : ShardStep n}

lemma step_cases (h : step a s = some s') :
    (∃ call cell rest, a = .add call ∧ s.remaining call = cell :: rest ∧ s' = { s with
        cells := Function.update s.cells cell (s.cells cell + 1)
        remaining := Function.update s.remaining call rest }) ∨
    ∃ cell, a = .load ∧ snapshotCells[s.loads]? = some cell ∧ s' = { s with
        values := Function.update s.values cell (s.cells cell)
        loads := s.loads + 1 } := by
  cases a with
  | load =>
    obtain ⟨cell, hcell, rfl⟩ := map_eq_some_iff.mp h
    grind
  | add call =>
    simp only [step] at h
    split at h
    · cases h
    grind

lemma remaining_suffix (h : step a s = some s') (call : Fin n) :
    s'.remaining call <:+ s.remaining call := by
  obtain ⟨other, cell, rest, -, hrem, rfl⟩ | ⟨cell, -, -, rfl⟩ := step_cases h
  · by_cases hcall : call = other
    · subst hcall
      simp [hrem]
    · simp [hcall]
  · exact suffix_rfl

lemma Counts.step (hn : n < 2 ^ 64) (h : Counts seconds s) (hstep : step a s = some s') :
    Counts seconds s' := by
  refine ⟨fun call => (remaining_suffix hstep call).trans (h.suffix call), ?_⟩
  obtain ⟨call, cell, rest, -, hrem, rfl⟩ | ⟨cell, -, -, rfl⟩ := step_cases hstep
  · have hnd : (cell :: rest).Nodup :=
      (nodup_observedCells _).sublist (hrem ▸ h.suffix call).sublist
    have hmem : cell ∈ observedCells (seconds call) :=
      (h.suffix call).subset (hrem ▸ mem_cons_self)
    intro other
    by_cases hcell : other = cell
    · subst hcell
      set s' : Shard n := { s with
        cells := Function.update s.cells other (s.cells other + 1)
        remaining := Function.update s.remaining call rest }
      have hadd : added seconds s' other = insert call (added seconds s other) := by
        ext c
        by_cases hc : c = call
        · subst hc
          grind [added]
        · simp [added, s', hc]
      have hle := Finset.card_le_univ (added seconds s' other)
      rw [Fintype.card_fin, hadd, Finset.card_insert_of_notMem (by simp [added, hrem]),
        ← h.cells_eq] at hle
      rw [hadd, Finset.card_insert_of_notMem (by simp [added, hrem]), ← h.cells_eq]
      simp only [s', update_self, UInt64.toNat_add]
      grind
    · have hadd : added seconds { s with
          cells := Function.update s.cells cell (s.cells cell + 1)
          remaining := Function.update s.remaining call rest } other = added seconds s other := by
        ext c
        by_cases hc : c = call
        · subst hc
          simp [added, hrem, hcell]
        · simp [added, hc]
      rw [hadd, ← h.cells_eq]
      simp [hcell]
  · exact h.cells_eq

lemma counts_start : Counts seconds (start seconds) := by
  refine ⟨fun call => suffix_rfl, fun cell => ?_⟩
  have hempty : added seconds (start seconds) cell = ∅ := by
    simp [added, start]
  rw [hempty]
  rfl

/-- The loads so far are within their bounds, and calls that had ended have. -/
structure Bounded (seconds : Fin n → ℚ) (s₀ s : Shard n) : Prop where
  counts : Counts seconds s
  suffix : ∀ call, s.remaining call <:+ s₀.remaining call
  bounds : ∀ cell ∈ snapshotCells.take s.loads,
    (ended seconds s₀ cell).card ≤ (s.values cell).toNat ∧
      (s.values cell).toNat ≤ (begun seconds s cell).card

lemma begun_subset (h : Counts seconds s) (hstep : Shard.step a s = some s') (cell : Cell) :
    begun seconds s cell ⊆ begun seconds s' cell := by
  intro call hcall
  simp only [begun, Finset.mem_filter, Finset.mem_univ, true_and] at hcall ⊢
  refine ⟨hcall.1, fun heq => hcall.2 ?_⟩
  exact (h.suffix call).eq_of_length_le (heq ▸ (remaining_suffix hstep call).length_le)

lemma Bounded.step (hn : n < 2 ^ 64) (h : Bounded seconds s₀ s) (hstep : step a s = some s') :
    Bounded seconds s₀ s' := by
  have hcounts := h.counts.step hn hstep
  have hbegun := fun cell => Finset.card_le_card (begun_subset h.counts hstep cell)
  have hsuffix := fun call => (remaining_suffix hstep call).trans (h.suffix call)
  refine ⟨hcounts, hsuffix, ?_⟩
  obtain ⟨call, cell, rest, -, hrem, rfl⟩ | ⟨cell, -, hload, rfl⟩ := step_cases hstep
  · intro other hother
    exact ⟨(h.bounds other hother).1, (h.bounds other hother).2.trans (hbegun other)⟩
  · intro other hother
    dsimp only at hother ⊢
    by_cases hcell : other = cell
    · subst hcell
      rw [update_self, h.counts.cells_eq]
      refine ⟨Finset.card_le_card fun call hcall => ?_, Finset.card_le_card fun call hcall => ?_⟩
      · simp only [ended, added, Finset.mem_filter, Finset.mem_univ, true_and] at hcall ⊢
        have hnil := h.suffix call
        grind
      · simp only [added, begun, Finset.mem_filter, Finset.mem_univ, true_and] at hcall ⊢
        grind
    · have hold : other ∈ snapshotCells.take s.loads := by grind [take_add_one]
      rw [update_of_ne hcell]
      exact h.bounds other hold

lemma bucketBound_mono : ∀ i j : Fin 11, i ≤ j → bucketBound i ≤ bucketBound j := by decide +kernel

lemma valid_of_card {values : Cell → UInt64}
    (h : ∀ cell, (values cell).toNat = (ended seconds s₀ cell).card) : Valid values := by
  have hsub : ∀ cell cell' : Cell, (∀ t, cell ∈ observedCells t → cell' ∈ observedCells t) →
      values cell ≤ values cell' := by
    intro cell cell' himp
    rw [UInt64.le_iff_toNat_le, h, h]
    refine Finset.card_le_card fun call hcall => ?_
    simp only [ended, Finset.mem_filter, Finset.mem_univ, true_and] at hcall ⊢
    grind
  refine ⟨fun i j hij => hsub _ _ fun t ht => ?_, fun i => hsub _ _ fun t _ => ?_,
    UInt64.le_antisymm (hsub _ _ fun t _ => ?_) (hsub _ _ fun t _ => ?_)⟩
  · simp only [observedCells, mem_append, List.mem_map, mem_filter, mem_finRange,
      true_and, decide_eq_true_eq, Cell.bucket.injEq, exists_eq_right] at ht ⊢
    simp at ht
    exact .inl (ht.trans (bucketBound_mono i j hij))
  · simp [observedCells]
  · simp [observedCells]
  · simp [observedCells]

end Shard

open Shard

/-- By the calls that have ended before it and those that have begun before its end. -/
theorem histogram_snapshot_bounds {n : ℕ} (hn : n < 2 ^ 64) (seconds : Fin n → ℚ)
    {before during : List (ShardStep n)} {s₀ s : Shard n} (hload : .load ∉ before)
    (hbefore : runActions Shard.step before (Shard.start seconds) = some s₀)
    (hduring : runActions Shard.step during s₀ = some s) (hloads : s.loads = snapshotCells.length) :
    (∀ cell, (ended seconds s₀ cell).card ≤ (s.values cell).toNat ∧
      (s.values cell).toNat ≤ (begun seconds s cell).card) ∧
    ((∀ call, s.remaining call = observedCells (seconds call) ∨ s₀.remaining call = []) →
      Shard.Valid s.values) := by
  have hcounts : Counts seconds s₀ :=
    runActions_invariant (fun _ _ _ h hstep => h.step hn hstep) counts_start hbefore
  have hzero : s₀.loads = 0 := by
    refine @runActions_invariant_on _ _ _ _ _ _ (fun s => s.loads = 0) (fun a => a ≠ .load) ?_
      (by rintro a ha rfl; exact hload ha) rfl hbefore
    intro a s s' ha hs hstep
    obtain ⟨call, cell, rest, -, -, rfl⟩ | ⟨cell, rfl, -, -⟩ := step_cases hstep
    · exact hs
    · exact absurd rfl ha
  have hst : Bounded seconds s₀ s₀ := ⟨hcounts, fun _ => suffix_rfl, by simp [hzero]⟩
  have hbou : Bounded seconds s₀ s :=
    runActions_invariant (fun _ _ _ h hstep => h.step hn hstep) hst hduring
  have hall : ∀ cell, (ended seconds s₀ cell).card ≤ (s.values cell).toNat ∧
      (s.values cell).toNat ≤ (begun seconds s cell).card := by
    intro cell
    refine hbou.bounds cell ?_
    rw [hloads, take_length]
    cases cell <;> simp [snapshotCells]
  refine ⟨hall, fun hquiet => valid_of_card fun cell =>
    le_antisymm ((hall cell).2.trans ?_) (hall cell).1⟩
  refine Finset.card_le_card fun call hcall => ?_
  simp only [begun, ended, Finset.mem_filter, Finset.mem_univ, true_and] at hcall ⊢
  exact ⟨hcall.1, (hquiet call).resolve_left hcall.2⟩

/-- One call has ended and another, which has added to one cell, goes on between two loads: the
counts are out of order, but each is of the calls that may be counted. -/
theorem histogram_snapshot_bounds_interleaved : ∃ s₀ s,
    runActions Shard.step (List.replicate 13 (.add 0) ++ [.add 1])
      (Shard.start fun _ : Fin 2 => 4 / 1000) = some s₀ ∧
    runActions Shard.step (.load :: .load :: .add 1 :: List.replicate 11 .load) s₀ = some s ∧
    s.remaining 1 ≠ [] ∧ s.values (.bucket 0) = 2 ∧ s.values (.bucket 1) = 1 ∧
    ∀ cell, (ended (fun _ => 4 / 1000) s₀ cell).card ≤ (s.values cell).toNat ∧
      (s.values cell).toNat ≤ (begun (fun _ => 4 / 1000) s cell).card := by
  have hrun : ((runActions Shard.step (List.replicate 13 (.add 0) ++ [.add 1])
      (Shard.start fun _ : Fin 2 => 4 / 1000)).bind fun s₀ =>
        (runActions Shard.step (.load :: .load :: .add 1 :: List.replicate 11 .load) s₀).map
          fun s => (s.loads, (s.remaining 1).length, s.values (.bucket 0), s.values (.bucket 1))) =
      some (13, 11, 2, 1) := by decide +kernel
  obtain ⟨s₀, hbefore, hrest⟩ := bind_eq_some_iff.mp hrun
  obtain ⟨s, hduring, hs⟩ := map_eq_some_iff.mp hrest
  simp only [Prod.mk.injEq] at hs
  obtain ⟨hloads, hgoes, hfirst, hsecond⟩ := hs
  refine ⟨s₀, s, hbefore, hduring, ?_, hfirst, hsecond,
    (histogram_snapshot_bounds (by decide) _ (by decide) hbefore hduring hloads).1⟩
  rw [← length_pos_iff, hgoes]
  decide

/-- The count falls as the bound rises. -/
theorem snapshot_inside_observe : ∃ s, runActions Shard.step (.add 0 :: List.replicate 13 .load)
        (Shard.start fun _ : Fin 1 => 4 / 1000) = some s ∧ s.loads = snapshotCells.length ∧
      ¬ Shard.Valid s.values := by
  have hrun : (runActions Shard.step (.add 0 :: List.replicate 13 .load)
      (Shard.start fun _ : Fin 1 => 4 / 1000)).map (fun s =>
        (s.loads, s.values (.bucket 0), s.values (.bucket 1))) = some (13, 1, 0) :=
          by decide +kernel
  obtain ⟨s, hs, hval⟩ := map_eq_some_iff.mp hrun
  simp only [Prod.mk.injEq] at hval
  obtain ⟨hloads, hfst, hsnd⟩ := hval
  refine ⟨s, hs, hloads, fun hvalid => ?_⟩
  have hle := hvalid.mono 0 1 (by decide)
  rw [hfst, hsnd] at hle
  exact absurd hle (by decide)

end Rastreo
