import Rastreo.Pipeline.Model

/-!
# The reorder buffer keeps the order of the targets

In whatever order scans are received, the stream works on the targets in ascending order:
`receiveLoop` is, as a program, the loop `inOrder` over the sorted scans (`receiveLoop_eq`),
whatever the stages, the sink and the disk do.
-/

namespace Rastreo

open Async List

/-! ## The buffer -/

section Buffer

/-- Whatever is done with the targets taken out. -/
def Reorder.drain : ℕ → Reorder → Reorder
  | 0, reorder => reorder
  | fuel + 1, reorder =>
    match reorder.buffer.lookup reorder.nextExpected with
    | none => reorder
    | some _ =>
      Reorder.drain fuel ⟨reorder.buffer.erase reorder.nextExpected, reorder.nextExpected + 1⟩

/-- What is left, and the index reached, if the scans are those of `f`. -/
structure DrainedTo (f : ℕ → TargetScan) (buffer buffer' : ScanBuffer) (k j : ℕ) : Prop where
  le : k ≤ j
  stuck : j ∉ buffer'
  mem_iff : ∀ i, i ∈ buffer' ↔ i ∈ buffer ∧ ¬ (k ≤ i ∧ i < j)
  taken : ∀ i, k ≤ i → i < j → i ∈ buffer
  lookup_eq : ∀ i s, buffer'.lookup i = some s → s = f i

variable {f : ℕ → TargetScan} {n k j : ℕ} {buffer buffer' : ScanBuffer} {x : TargetScan}
  {scans : List TargetScan}

lemma DrainedTo.refl (hf : ∀ i s, buffer.lookup i = some s → s = f i) (hk : k ∉ buffer) :
    DrainedTo f buffer buffer k k where
  le := le_rfl
  stuck := hk
  mem_iff i := by simp
  taken i := by omega
  lookup_eq := hf

lemma DrainedTo.cons (hk : k ∈ buffer) (h : DrainedTo f (buffer.erase k) buffer' (k + 1) j) :
    DrainedTo f buffer buffer' k j where
  le := by have := h.le; omega
  stuck := h.stuck
  mem_iff i := by
    have := h.le
    rw [h.mem_iff, AList.mem_erase]
    constructor
    · grind
    · rintro ⟨hi, hout⟩
      exact ⟨⟨by omega, hi⟩, by omega⟩
  taken i hki hij := by
    rcases Nat.eq_or_lt_of_le hki with rfl | hlt
    · exact hk
    · exact (AList.mem_erase.mp (h.taken i hlt hij)).2
  lookup_eq := h.lookup_eq

lemma lookup_erase_of_eq (k : ℕ) (hf : ∀ i s, buffer.lookup i = some s → s = f i) :
    ∀ i s, (buffer.erase k).lookup i = some s → s = f i := by
  intro i s hs
  by_cases hi : i = k
  · rw [hi, AList.lookup_erase] at hs
    cases hs
  · rw [AList.lookup_erase_ne hi] at hs
    exact hf i s hs

lemma length_keys_erase_le {fuel : ℕ} (hlookup : buffer.lookup k = some x)
    (hfuel : buffer.keys.length ≤ fuel + 1) : (buffer.erase k).keys.length ≤ fuel := by
  have hk : k ∈ buffer := by rw [← AList.lookup_isSome, hlookup]; rfl
  rw [AList.keys_erase, length_erase_of_mem (AList.mem_keys.mp hk)]
  omega

/-- Targets that follow each other from the next one on are taken out. -/
lemma drainedTo_drain (f : ℕ → TargetScan) (fuel : ℕ) (buffer : ScanBuffer) (k : ℕ)
    (hfuel : buffer.keys.length ≤ fuel)
    (hf : ∀ i s, buffer.lookup i = some s → s = f i) :
    DrainedTo f buffer (Reorder.drain fuel ⟨buffer, k⟩).buffer k
      (Reorder.drain fuel ⟨buffer, k⟩).nextExpected := by
  induction fuel generalizing buffer k with
  | zero =>
    have hempty : k ∉ buffer := by
      rw [AList.mem_keys, eq_nil_of_length_eq_zero (Nat.le_zero.mp hfuel)]
      exact not_mem_nil
    exact .refl hf hempty
  | succ fuel ih =>
    cases hlookup : buffer.lookup k with
    | none =>
      have hsame : Reorder.drain (fuel + 1) ⟨buffer, k⟩ = ⟨buffer, k⟩ := by
        simp only [Reorder.drain, hlookup]
      rw [hsame]
      exact .refl hf (AList.lookup_eq_none.mp hlookup)
    | some ready =>
      have hstep : Reorder.drain (fuel + 1) ⟨buffer, k⟩ =
          Reorder.drain fuel ⟨buffer.erase k, k + 1⟩ := by
        simp only [Reorder.drain, hlookup]
      have hk : k ∈ buffer := by rw [← AList.lookup_isSome, hlookup]; rfl
      rw [hstep]
      exact .cons hk (ih (buffer.erase k) (k + 1) (length_keys_erase_le hlookup hfuel)
        (lookup_erase_of_eq k hf))

/-- With those in the buffer, the scans to come are the targets from the next index on, each once.
-/
structure Awaits (f : ℕ → TargetScan) (n : ℕ) (buffer : ScanBuffer) (k : ℕ)
    (scans : List TargetScan) : Prop where
  stuck : k ∉ buffer
  lookup_eq : ∀ i s, buffer.lookup i = some s → s = f i
  scans_eq : ∀ x ∈ scans, x = f x.targetIndex
  nodup : (scans.map (·.targetIndex)).Nodup
  disjoint : ∀ i ∈ buffer, i ∉ scans.map (·.targetIndex)
  mem_iff : ∀ i, i ∈ buffer ∨ i ∈ scans.map (·.targetIndex) ↔ k ≤ i ∧ i < n
  le : k ≤ n

lemma Awaits.eq_end (h : Awaits f n buffer k []) : k = n ∧ buffer = ∅ := by
  have hend : k = n := by
    by_contra hne
    rcases (h.mem_iff k).mpr ⟨le_rfl, by have := h.le; omega⟩ with hk | hk
    · exact h.stuck hk
    · exact not_mem_nil hk
  refine ⟨hend, AList.ext (eq_nil_iff_forall_not_mem.mpr fun e he => ?_)⟩
  have := (h.mem_iff e.1).mp (.inl (mem_keys_of_mem he))
  omega

lemma Awaits.lookup_insert (h : Awaits f n buffer k (x :: scans)) :
    ∀ i s, (buffer.insert x.targetIndex x).lookup i = some s → s = f i := by
  intro i s hs
  by_cases hi : i = x.targetIndex
  · rw [hi, AList.lookup_insert, Option.some.injEq] at hs
    rw [hi, ← hs]
    exact h.scans_eq x mem_cons_self
  · rw [AList.lookup_insert_ne hi] at hs
    exact h.lookup_eq i s hs

lemma Awaits.receive (h : Awaits f n buffer k (x :: scans))
    (hdrained : DrainedTo f (buffer.insert x.targetIndex x) buffer' k j) :
    Awaits f n buffer' j scans := by
  have hle := hdrained.le
  have hnd := nodup_cons.mp h.nodup
  have hmem : ∀ i, i ∈ buffer.insert x.targetIndex x ∨ i ∈ scans.map (·.targetIndex) ↔
      k ≤ i ∧ i < n := by
    intro i
    rw [AList.mem_insert, ← h.mem_iff i, map_cons, mem_cons]
    tauto
  have hdis : ∀ i ∈ buffer.insert x.targetIndex x, i ∉ scans.map (·.targetIndex) := by
    intro i hi
    rcases AList.mem_insert _ |>.mp hi with rfl | hi
    · exact hnd.1
    · exact fun hin => h.disjoint i hi (mem_cons_of_mem _ hin)
  refine ⟨hdrained.stuck, hdrained.lookup_eq, fun y hy => h.scans_eq y (mem_cons_of_mem x hy),
    hnd.2, fun i hi => hdis i ((hdrained.mem_iff i).mp hi).1, fun i => ?_, ?_⟩
  · rw [hdrained.mem_iff]
    constructor
    · rintro (⟨hi, hout⟩ | hi)
      · grind
      · have hin := (hmem i).mp (.inr hi)
        by_contra hlt
        exact hdis i (hdrained.taken i hin.1 (by omega)) hi
    · rintro ⟨hji, hin⟩
      rcases (hmem i).mpr ⟨by omega, hin⟩ with hi | hi
      · exact .inl ⟨hi, by omega⟩
      · exact .inr hi
  · by_contra hlt
    have := (hmem n).mp (.inl (hdrained.taken n h.le (by omega)))
    omega

/-- The scans of the targets below `n`, in any order. -/
structure AnyOrder (f : ℕ → TargetScan) (n : ℕ) (scans : List TargetScan) : Prop where
  scan_eq : ∀ x ∈ scans, x = f x.targetIndex
  perm : (scans.map (·.targetIndex)).Perm (List.range n)

lemma AnyOrder.awaits (h : AnyOrder f n scans) : Awaits f n ∅ 0 scans where
  stuck := AList.notMem_empty 0
  lookup_eq i s hs := by rw [AList.lookup_empty] at hs; cases hs
  scans_eq := h.scan_eq
  nodup := h.perm.nodup_iff.mpr nodup_range
  disjoint i hi := absurd hi (AList.notMem_empty i)
  mem_iff i := by rw [h.perm.mem_iff, mem_range]; simp [AList.notMem_empty]
  le := Nat.zero_le n

end Buffer

/-! ## The loop -/

/-- A checkpoint leaves the counts and the fuser alone. -/
lemma meets_checkpointTarget_frame (p : Pipeline) (nextExpected : ℕ) (st : StreamState) :
    Meets (fun _ => True) (checkpointTarget p nextExpected st)
      (fun st' _ => st'.tally = st.tally ∧ st'.fuser = st.fuser) (fun _ _ => True) := by
  unfold checkpointTarget
  split
  · refine meets_bind (meets_any _) fun result => ?_
    cases result with
    | error e => exact meets_pure fun _ _ => ⟨rfl, rfl⟩
    | ok writer => exact meets_pure fun _ _ => ⟨rfl, rfl⟩
  · exact meets_pure fun _ _ => ⟨rfl, rfl⟩

variable [CaseMapping] (p : Pipeline)

/-- One after another, the first of which has this index. -/
def inOrder : ℕ → List TargetScan → StreamState → Run (Result StreamState)
  | _, [], st => pure (.ok st)
  | i, ready :: rest, st => andThen (advance p i ready st) (inOrder (i + 1) rest)

lemma inOrder_append (i : ℕ) (l m : List TargetScan) (st : StreamState) :
    inOrder p i (l ++ m) st = andThen (inOrder p i l st) (inOrder p (i + l.length) m) := by
  induction l generalizing i st with
  | nil => rfl
  | cons ready l ih =>
    rw [cons_append, inOrder, inOrder, andThen_assoc]
    congr 1
    funext st
    grind

lemma drainReady_eq (f : ℕ → TargetScan) (fuel : ℕ) (buffer : ScanBuffer) (k : ℕ)
    (hfuel : buffer.keys.length ≤ fuel)
    (hf : ∀ i s, buffer.lookup i = some s → s = f i) (st : StreamState) :
    drainReady p fuel ⟨buffer, k⟩ st = andThen (inOrder p k
          ((List.range' k ((Reorder.drain fuel ⟨buffer, k⟩).nextExpected - k)).map f) st)
        fun st => pure (.ok (Reorder.drain fuel ⟨buffer, k⟩, st)) := by
  induction fuel generalizing buffer k st with
  | zero =>
    rw [Reorder.drain, Nat.sub_self]
    rfl
  | succ fuel ih =>
    cases hlookup : buffer.lookup k with
    | none =>
      simp only [drainReady, Reorder.drain, hlookup, Nat.sub_self]
      rfl
    | some ready =>
      have hlen := length_keys_erase_le hlookup hfuel
      have hf' := lookup_erase_of_eq k hf
      have hle := (drainedTo_drain f fuel (buffer.erase k) (k + 1) hlen hf').le
      simp only [drainReady, Reorder.drain, hlookup]
      rw [funext (ih (buffer.erase k) (k + 1) hlen hf'), hf k ready hlookup,
        show (Reorder.drain fuel ⟨buffer.erase k, k + 1⟩).nextExpected - k =
          (Reorder.drain fuel ⟨buffer.erase k, k + 1⟩).nextExpected - (k + 1) + 1 by omega,
        range'_succ, map_cons, inOrder, andThen_assoc]

/-- Targets are worked on in ascending order. -/
theorem receiveLoop_eq_of_mem (f : ℕ → TargetScan) (n : ℕ) (scans : List TargetScan)
    (buffer : ScanBuffer) (k : ℕ) (h : Awaits f n buffer k scans)
    (st : StreamState) :
    receiveLoop p scans ⟨buffer, k⟩ st = andThen (inOrder p k ((List.range' k (n - k)).map f) st)
        fun st => pure (.ok (⟨∅, n⟩, st)) := by
  induction scans generalizing buffer k st with
  | nil =>
    obtain ⟨rfl, rfl⟩ := h.eq_end
    rw [Nat.sub_self]
    rfl
  | cons x scans ih =>
    set buffer₁ := buffer.insert x.targetIndex x
    have hdra := drainedTo_drain f buffer₁.keys.length buffer₁ k le_rfl h.lookup_insert
    have hrun := drainReady_eq p f buffer₁.keys.length buffer₁ k le_rfl h.lookup_insert
    generalize Reorder.drain buffer₁.keys.length ⟨buffer₁, k⟩ = drained at hdra hrun
    obtain ⟨buffer₂, j⟩ := drained
    change DrainedTo f buffer₁ buffer₂ k j at hdra
    have hawaits := h.receive hdra
    have hkj := hdra.le
    have hjn := hawaits.le
    have hstep : receiveLoop p (x :: scans) ⟨buffer, k⟩ st =
        andThen (drainReady p buffer₁.keys.length ⟨buffer₁, k⟩ st)
          fun r => receiveLoop p scans r.1 r.2 := rfl
    rw [hstep, hrun, andThen_assoc]
    simp only [pure_ok_andThen, ih buffer₂ j hawaits]
    rw [← andThen_assoc]
    -- The targets drained now come before those still to come.
    have hsplit : (List.range' k (n - k)).map f =
        (List.range' k (j - k)).map f ++ (List.range' j (n - j)).map f := by
      rw [← map_append, show n - k = (j - k) + (n - j) by omega, ← range'_append_1,
        show k + (j - k) = j by omega]
    rw [hsplit, inOrder_append, length_map, length_range', show k + (j - k) = j by omega]

variable {f : ℕ → TargetScan} {n : ℕ} {scans : List TargetScan}

/-- In ascending order, whatever the order of reception. -/
theorem receiveLoop_eq (h : AnyOrder f n scans) (st : StreamState) :
    receiveLoop p scans ⟨∅, 0⟩ st =
      andThen (inOrder p 0 ((List.range n).map f) st) fun st => pure (.ok (⟨∅, n⟩, st)) := by
  have hrun := receiveLoop_eq_of_mem p f n scans ∅ 0 h.awaits st
  rwa [Nat.sub_zero, ← range_eq_range'] at hrun

/-- In whatever order the scans come. -/
theorem streamBlock_eq (h : AnyOrder f n scans) (st : StreamState) : streamBlock p scans st =
    andThen (inOrder p 0 ((List.range n).map f) st) (finishStream p n) := by
  rw [streamBlock, receiveLoop_eq p h, andThen_assoc]
  simp only [pure_ok_andThen]
  rfl

end Rastreo
