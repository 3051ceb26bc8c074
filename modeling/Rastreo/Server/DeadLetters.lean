import Rastreo.Server.Metrics
import Mathlib.Data.List.AList

/-!
# Where the dead-letter metric is exact

A dead letter is counted by the metric, credited to the tee of a running scan, or lost with a scan
that ended without a summary (`Server.Balanced`).  Once all scans have ended, the metric is exact if
and only if none was lost (`dead_letter_metric_exact_iff`).
-/

namespace Rastreo

open List Option

/-! ## Crediting a tee -/

/-- The dead letters of a type and class among these. -/
def credited (entries : List (SinkType × SinkErrorClass × ℕ)) (t : SinkType)
    (c : SinkErrorClass) : ℕ :=
  (entries.map fun entry => if entry.1 = t ∧ entry.2.1 = c then entry.2.2 else 0).sum

def TeeSink.credited (self : TeeSink) : SinkType → SinkErrorClass → ℕ :=
  Rastreo.credited self.attribution.counts

@[simp] lemma credited_nil (t : SinkType) (c : SinkErrorClass) : credited [] t c = 0 := rfl

@[simp] lemma credited_cons (entry : SinkType × SinkErrorClass × ℕ)
    (entries : List (SinkType × SinkErrorClass × ℕ)) (t : SinkType) (c : SinkErrorClass) :
    credited (entry :: entries) t c =
      (if entry.1 = t ∧ entry.2.1 = c then entry.2.2 else 0) + credited entries t c := by
  simp [credited]

@[simp] lemma counts_cons (entry : SinkType × SinkErrorClass × UInt64) (entries : Attribution) :
    Attribution.counts (entry :: entries) =
      (entry.1, entry.2.1, entry.2.2.toNat) :: Attribution.counts entries := rfl

lemma toNat_saturatingAdd {a b : UInt64} (h : a.toNat + b.toNat < 2 ^ 64) :
    (saturatingAdd a b).toNat = a.toNat + b.toNat := by
  rw [saturatingAdd, Nat.min_eq_left (by omega), UInt64.toNat_ofNat_of_lt' h]

lemma toNat_saturatingSub {a b : UInt64} (h : b ≤ a) :
    (saturatingSub a b).toNat = a.toNat - b.toNat := by
  rw [saturatingSub, if_pos h, UInt64.toNat_sub_of_le _ _ h]

variable {kind : SinkType} {bucket : Attribution}

/-- Crediting one class adds to that class of that type only. -/
lemma credited_creditEntry {k : SinkErrorClass} {delta : UInt64}
    (h : credited bucket.counts kind k + delta.toNat < 2 ^ 64) (t : SinkType) (c : SinkErrorClass) :
    credited (creditEntry kind k delta bucket).counts t c =
      credited bucket.counts t c + if kind = t ∧ k = c then delta.toNat else 0 := by
  induction bucket with
  | nil => simp [creditEntry, Attribution.counts]
  | cons entry rest ih =>
    obtain ⟨kind', k', n⟩ := entry
    rw [counts_cons, credited_cons] at h
    by_cases heq : kind' = kind ∧ k' = k
    · obtain ⟨rfl, rfl⟩ := heq
      rw [if_pos ⟨rfl, rfl⟩] at h
      dsimp only at h
      have hadd : (saturatingAdd n delta).toNat = n.toNat + delta.toNat :=
        toNat_saturatingAdd (by omega)
      rw [creditEntry, if_pos ⟨rfl, rfl⟩]
      simp only [counts_cons, credited_cons, hadd]
      split <;> omega
    · rw [if_neg heq, Nat.zero_add] at h
      rw [creditEntry, if_neg heq]
      simp only [counts_cons, credited_cons, ih h]
      omega

variable {deltas : SinkErrorClass → UInt64}

/-- The loop of `credit_attribution` over some classes. -/
lemma credited_foldl {classes : List SinkErrorClass} (hnd : classes.Nodup)
    (h : ∀ c ∈ classes, credited bucket.counts kind c + (deltas c).toNat < 2 ^ 64) (t : SinkType)
    (c : SinkErrorClass) : credited (classes.foldl (fun bucket c =>
        if deltas c = 0 then bucket else creditEntry kind c (deltas c) bucket) bucket).counts t c =
      credited bucket.counts t c + if kind = t ∧ c ∈ classes then (deltas c).toNat else 0 := by
  induction classes generalizing bucket with
  | nil => simp
  | cons k classes ih =>
    obtain ⟨hk, hnd⟩ := nodup_cons.mp hnd
    have hstep : ∀ t c, credited (if deltas k = 0 then bucket
          else creditEntry kind k (deltas k) bucket).counts t c =
        credited bucket.counts t c + if kind = t ∧ k = c then (deltas k).toNat else 0 := by
      intro t c
      split
      next hzero => simp [hzero]
      next => exact credited_creditEntry (h k mem_cons_self) t c
    rw [foldl_cons, ih hnd, hstep]
    · by_cases hkc : k = c
      · subst hkc
        simp [hk]
      · simp [hkc, Ne.symm hkc]
    · intro c hc
      have hne : k ≠ c := fun heq => hk (heq ▸ hc)
      grind

lemma credited_creditAttribution
    (h : ∀ c, credited bucket.counts kind c + (deltas c).toNat < 2 ^ 64) (t : SinkType)
    (c : SinkErrorClass) : credited (creditAttribution kind deltas bucket).counts t c =
      credited bucket.counts t c + if kind = t then (deltas c).toNat else 0 := by
  have hall : c ∈ SinkErrorClass.all := by cases c <;> decide
  rw [creditAttribution, credited_foldl (by decide) (fun c _ => h c)]
  simp [hall]

lemma credited_dlqRecordsByTypeAndClass (tee : TeeSink) (t : SinkType) (c : SinkErrorClass) :
    credited tee.dlqRecordsByTypeAndClass.counts t c = tee.credited t c := by
  rw [TeeSink.dlqRecordsByTypeAndClass, TeeSink.credited]
  induction tee.attribution with
  | nil => rfl
  | cons entry rest ih =>
    rw [filter_cons]
    split
    next => simp only [counts_cons, credited_cons, ih]
    next hzero =>
      have hnum : entry.2.2.toNat = 0 := by
        simp_all
      simp [ih, hnum]

/-! ## Calls of a tee -/

section Sink

variable {S : Type} [Sink S]

def Sink.deadLetters (s : S) (t : SinkType) (c : SinkErrorClass) : UInt64 :=
  if Sink.kind s = t then dlqRecordsByClass s c else 0

def Sink.NoWrap (c : SinkCall) (s : S) : Prop :=
  ∀ k, dlqRecordsByClass s k ≤ dlqRecordsByClass (call c s).2 k

/-- What a call adds to the counters. -/
def Sink.added (c : SinkCall) (s : S) : SinkErrorClass → UInt64 :=
  classDeltas (dlqRecordsByClass s) (dlqRecordsByClass (call c s).2)

lemma Sink.NoWrap.le {c : SinkCall} {s : S} (h : NoWrap c s) (t : SinkType)
    (k : SinkErrorClass) : (deadLetters s t k).toNat ≤ (deadLetters (call c s).2 t k).toNat := by
  rw [deadLetters, deadLetters, kind_call]
  split
  · exact UInt64.le_iff_toNat_le.mp (h k)
  · exact le_rfl

lemma creditAttribution_zero (kind : SinkType) (bucket : Attribution) :
    creditAttribution kind (fun _ => 0) bucket = bucket := by
  simp [creditAttribution, SinkErrorClass.all]

section FanOut

open Async

variable (c : SinkCall) (w : TeeWorld S)

/-- No call, and the credit is as before. -/
def Untouched (w' : TeeWorld S) : Prop :=
  w'.shared = w.shared ∧ w'.tee.children = w.tee.children ∧ w'.tee.attribution = w.tee.attribution

/-- The tee is credited with what the call added to the counters. -/
def Called (w' : TeeWorld S) : Prop :=
  w'.shared = (Sink.call c w.shared).2 ∧ w'.tee.children = w.tee.children ∧
    w'.tee.attribution = creditAttribution (Sink.kind w.shared)
      (Sink.added c w.shared)
      w.tee.attribution

def DroppedIn (_ : Unit) (w' : TeeWorld S) : Prop :=
  w'.shared = (Sink.call c w.shared).2

/-- A property that does not speak of the memory sink. -/
def MemoryFree (P : TeeWorld S → Prop) : Prop :=
  ∀ w memory, P w → P { w with tee := { w.tee with memory } }

variable {D : Unit → TeeWorld S → Prop} {P : TeeWorld S → Prop}

lemma meets_fanOutLoop_memory (hP : MemoryFree P) {rest : List TeeChild}
    {R : Bool × Option RastreoError → TeeWorld S → Prop} (hrest : ∀ allDelivered firstError,
      Meets P (TeeSink.fanOutLoop c rest allDelivered firstError) R D) (allDelivered : Bool)
    (firstError : Option RastreoError) :
    Meets P (TeeSink.fanOutLoop c (.memory :: rest) allDelivered firstError) R D := by
  refine meets_bind (Q := fun r w' => r.1.deltas = (fun _ => 0) ∧ r.2 = none ∧ P w')
    (fun w' hw' => ⟨rfl, rfl, hP w' _ hw'⟩) fun r => ?_
  refine meets_bind (Q := fun _ w' => r.2 = none ∧ P w') (meets_update fun w' => ?_) fun _ => ?_
  · rintro ⟨hdeltas, hnone, hw'⟩
    rw [hdeltas, creditAttribution_zero]
    exact ⟨hnone, hw'⟩
  · refine meets_of_forall fun w₁ hw₁ => ?_
    obtain ⟨hnone, hw₁⟩ := hw₁
    simp only [hnone, isSome_none, Bool.false_and, Bool.false_eq_true, if_false]
    exact (hrest _ _).conseq (fun w' hw' => hw' ▸ hw₁) (fun _ _ h => h) fun _ _ h => h

variable {children : List TeeChild}

lemma meets_fanOutLoop_memories (hP : MemoryFree P) (h : children.count .shared = 0)
    (allDelivered : Bool) (firstError : Option RastreoError) :
    Meets P (TeeSink.fanOutLoop c children allDelivered firstError) (fun _ => P) D := by
  induction children generalizing allDelivered firstError with
  | nil => exact meets_pure fun _ hw' => hw'
  | cons child rest ih =>
    cases child with
    | shared => simp at h
    | memory => exact meets_fanOutLoop_memory c hP (ih h) allDelivered firstError

lemma meets_fanoutChild_shared : Meets (Untouched w) (TeeSink.fanoutChild c .shared)
      (fun r w' => (r.1.kind = Sink.kind w.shared ∧ r.1.deltas = Sink.added c w.shared ∧
        w'.shared = (Sink.call c w.shared).2 ∧ w'.tee.children = w.tee.children ∧
        w'.tee.attribution = w.tee.attribution) ∧ ∃ result, (Sink.call c w.shared).1 = .done result)
      (DroppedIn c w) := by
  rintro w' ⟨hshared, htee⟩
  have hkind := Sink.kind_call c w.shared
  rcases hcall : Sink.call c w.shared with ⟨result | site, shared⟩
  · grind [TeeSink.fanoutChild, Sink.added]
  · simp [TeeSink.fanoutChild, hshared, hcall, DroppedIn]

/-- The shared sink is one of the children. -/
lemma meets_fanOutLoop (h : children.count .shared = 1) (allDelivered : Bool)
    (firstError : Option RastreoError) :
    Meets (Untouched w) (TeeSink.fanOutLoop c children allDelivered firstError)
      (fun _ w' => Called c w w' ∧ ∃ result, (Sink.call c w.shared).1 = .done result)
      (DroppedIn c w) := by
  induction children generalizing allDelivered firstError with
  | nil => simp at h
  | cons child rest ih =>
    cases child with
    | memory => exact meets_fanOutLoop_memory c (fun _ _ hw' => hw') (ih h) allDelivered firstError
    | shared =>
      have hrest : rest.count .shared = 0 := by simpa using h
      refine meets_bind (meets_fanoutChild_shared c w) fun r => ?_
      refine meets_bind (Q := fun _ w' => Called c w w' ∧
        ∃ result, (Sink.call c w.shared).1 = .done result) (meets_update fun w' => ?_) fun _ => ?_
      · rintro ⟨⟨hkind, hdeltas, hshared, hchi, hatt⟩, hdone⟩
        exact ⟨⟨hshared, hchi, by simp [hkind, hdeltas, hatt]⟩, hdone⟩
      · -- the loop may end with the error of the shared sink; what comes after are memory sinks
        dsimp only
        split
        · exact meets_pure fun _ hw' => hw'
        · exact meets_fanOutLoop_memories c (fun _ _ hw' => hw') hrest _ _

lemma meets_fanOut (hchildren : w.tee.children.count .shared = 1) :
    Meets (fun w' => w' = w) (TeeSink.fanOut c)
      (fun _ w' => Called c w w' ∧ ∃ result, (Sink.call c w.shared).1 = .done result)
      (DroppedIn c w) := by
  refine meets_bind (Q := fun _ => Untouched w) (meets_update fun w' hw' => ?_) fun _ => ?_
  · subst hw'
    exact ⟨rfl, rfl, rfl⟩
  refine meets_read_bind_eq w.tee.children (fun w' hw' => hw'.2.1) ?_
  refine meets_bind (meets_fanOutLoop c w hchildren true none) fun r => ?_
  dsimp only
  split
  · exact meets_pure fun _ h => h
  · exact meets_bind (Q := fun _ w' => Called c w w' ∧
      ∃ result, (Sink.call c w.shared).1 = .done result) (meets_update fun _ h => h) fun _ =>
      meets_pure fun _ h => h

variable {c w} in
/-- The credit is the difference of the counters, if the tee has no more than the sink has counted.
-/
lemma Called.credited {w' : TeeWorld S} (h : Called c w w') (hwrap : Sink.NoWrap c w.shared)
    (hcounted : ∀ k, w.tee.credited (Sink.kind w.shared) k ≤
      (Sink.dlqRecordsByClass w.shared k).toNat)
    (t : SinkType) (k : SinkErrorClass) :
    w'.tee.credited t k + (Sink.deadLetters w.shared t k).toNat =
      w.tee.credited t k + (Sink.deadLetters w'.shared t k).toNat := by
  obtain ⟨hshared, -, hatt⟩ := h
  have hdelta : ∀ k, (Sink.added c w.shared k).toNat =
      (Sink.dlqRecordsByClass (Sink.call c w.shared).2 k).toNat -
        (Sink.dlqRecordsByClass w.shared k).toNat :=
    fun k => toNat_saturatingSub (hwrap k)
  have hle : ∀ k, (Sink.dlqRecordsByClass w.shared k).toNat ≤
      (Sink.dlqRecordsByClass (Sink.call c w.shared).2 k).toNat :=
    fun k => UInt64.le_iff_toNat_le.mp (hwrap k)
  -- the credit stays below the sink's 64-bit counter, so it does not saturate
  have hroom : ∀ k, Rastreo.credited w.tee.attribution.counts (Sink.kind w.shared) k +
      (Sink.added c w.shared k).toNat < 2 ^ 64 := by
    intro k
    have hcredit := hcounted k
    rw [TeeSink.credited] at hcredit
    have hlt := (Sink.dlqRecordsByClass (Sink.call c w.shared).2 k).toNat_lt
    rw [hdelta]
    have := hle k
    omega
  rw [TeeSink.credited, hatt, credited_creditAttribution hroom, hdelta, hshared,
    Sink.deadLetters, Sink.deadLetters, Sink.kind_call, TeeSink.credited]
  have := hle k
  split
  · omega
  · rfl

end FanOut

end Sink

/-! ## The metric -/

def SinkType.HasDlq (t : SinkType) : Prop := t = .kafka ∨ t = .nats

lemma SharedSink.hasDlq_kind (s : SharedSink Bytes) : (Sink.kind s).HasDlq := by
  cases s
  · exact .inl rfl
  · exact .inr rfl

variable {m : Metrics}

lemma toNat_recordDlq {t t' : SinkType} {c c' : SinkErrorClass} {n : ℕ}
    (ht : t.HasDlq ∨ n = 0 ∨ ¬(t' = t ∧ c' = c))
    (h : (m.dlq t c).toNat + (if t' = t ∧ c' = c then n else 0) < 2 ^ 64) :
    ((m.recordDlq t' c' (UInt64.ofNat n)).dlq t c).toNat =
      (m.dlq t c).toNat + if t' = t ∧ c' = c then n else 0 := by
  by_cases heq : t' = t ∧ c' = c
  · obtain ⟨rfl, rfl⟩ := heq
    rw [if_pos ⟨rfl, rfl⟩] at h ⊢
    have hadd : (m.dlq t' c' + UInt64.ofNat n).toNat = (m.dlq t' c').toNat + n := by
      rw [UInt64.toNat_add, UInt64.toNat_ofNat_of_lt' (Nat.lt_of_add_left_lt h), Nat.mod_eq_of_lt h]
    rcases ht with (rfl | rfl) | rfl | hne
    · simpa [Metrics.recordDlq] using hadd
    · simpa [Metrics.recordDlq] using hadd
    · cases t' <;> simp [Metrics.recordDlq]
    · grind
  · rw [if_neg heq, Nat.add_zero]
    by_cases htt : t' = t
    · subst htt
      have hcc : c ≠ c' := fun hcc => heq ⟨rfl, hcc.symm⟩
      cases t' <;> simp [Metrics.recordDlq, hcc]
    · cases t' <;> simp [Metrics.recordDlq, Function.update_of_ne (Ne.symm htt)]

lemma toNat_recordDeadLetters {t : SinkType} {c : SinkErrorClass}
    {entries : List (SinkType × SinkErrorClass × ℕ)} (ht : t.HasDlq ∨ credited entries t c = 0)
    (h : (m.dlq t c).toNat + credited entries t c < 2 ^ 64) :
    ((m.recordDeadLetters entries).dlq t c).toNat = (m.dlq t c).toNat + credited entries t c := by
  induction entries generalizing m with
  | nil => rfl
  | cons entry entries ih =>
    obtain ⟨t', c', n⟩ := entry
    rw [credited_cons] at h ht ⊢
    dsimp only at h ht ⊢
    have hstep : ((m.recordDlq t' c' (UInt64.ofNat n)).dlq t c).toNat =
        (m.dlq t c).toNat + if t' = t ∧ c' = c then n else 0 :=
      toNat_recordDlq (by grind) (by omega)
    rw [Metrics.recordDeadLetters, foldl_cons, ← Metrics.recordDeadLetters, ih, hstep]
    · omega
    · grind
    · rw [hstep]
      omega

lemma dlq_recordDeadLetters_congr {m' : Metrics} (h : m.dlq = m'.dlq)
    (entries : List (SinkType × SinkErrorClass × ℕ)) :
    (m.recordDeadLetters entries).dlq = (m'.recordDeadLetters entries).dlq := by
  induction entries generalizing m m' with
  | nil => exact h
  | cons entry entries ih =>
    have hstep : (m.recordDlq entry.1 entry.2.1 (UInt64.ofNat entry.2.2)).dlq =
        (m'.recordDlq entry.1 entry.2.1 (UInt64.ofNat entry.2.2)).dlq := by
      cases entry.1 <;> simp [Metrics.recordDlq, h]
    exact ih hstep

lemma dlq_recordScanCompletion (m : Metrics) (summary : DiscoverySummary) :
    (m.recordScanCompletion summary).dlq =
      (m.recordDeadLetters summary.dlqRecordsByTypeAndClass).dlq := by
  have hprobes : ∀ (kinds : List ProbeKindSummary) (m : Metrics),
      (kinds.foldl Metrics.recordProbes m).dlq = m.dlq := by
    intro kinds
    induction kinds with
    | nil => exact fun _ => rfl
    | cons pk kinds ih => exact fun m => (ih _).trans rfl
  refine dlq_recordDeadLetters_congr ?_ _
  rw [hprobes]
  cases summary.cancelled <;> rfl

/-! ## The balance -/

namespace Server

def pending (s : Server) (t : SinkType) (c : SinkErrorClass) : ℕ :=
  (s.scans.entries.map fun scan => scan.2.credited t c).sum

def creditedTo (s : Server) (id : ℕ) (t : SinkType) (c : SinkErrorClass) : ℕ :=
  (s.scans.lookup id).elim 0 fun tee => tee.credited t c

/-- Those of a scan without a summary, with those delivered inside a dropped call. -/
def lost (a : ServerAction) (s : Server) (p : SinkType × SinkErrorClass) : ℕ :=
  match a with
  | .start _ | .complete _ _ => 0
  | .fail id _ | .drop id => s.creditedTo id p.1 p.2
  | .call id c =>
    (s.scans.lookup id).elim 0 fun tee =>
      match TeeSink.fanOut c ⟨tee, s.shared⟩ with
      | (.done _, _) => 0
      | (.dropped _, w) =>
        tee.credited p.1 p.2 +
          ((Sink.deadLetters w.shared p.1 p.2).toNat - (Sink.deadLetters s.shared p.1 p.2).toNat)

/-- No call makes a counter of the shared sink wrap around. -/
def NoWrap (a : ServerAction) (s : Server) : Prop :=
  match a with
  | .call _ c => Sink.NoWrap c s.shared
  | _ => True

/-- Every dead letter is counted, credited to a running scan, or lost. -/
structure Balanced (n : SinkType × SinkErrorClass → ℕ) (s : Server) : Prop where
  children : ∀ id tee, s.scans.lookup id = some tee → tee.children = [.memory, .shared]
  balance : ∀ t c, (s.metrics.dlq t c).toNat + s.pending t c + n (t, c) =
    (Sink.deadLetters s.shared t c).toNat

lemma entries_erase (scans : AList fun _ : ℕ => TeeSink) (id : ℕ) :
    (scans.erase id).entries = scans.entries.kerase id := rfl

variable {id : ℕ} {tee : TeeSink}

lemma sum_erase {scans : AList fun _ : ℕ => TeeSink} (f : TeeSink → ℕ)
    (h : scans.lookup id = some tee) :
    (scans.entries.map fun scan => f scan.2).sum =
      f tee + ((scans.erase id).entries.map fun scan => f scan.2).sum := by
  have hmem : id ∈ scans.entries.keys :=
    AList.mem_keys.mp (AList.lookup_isSome.mp (by rw [h]; rfl))
  obtain ⟨tee', l₁, l₂, hnot, hl, herase⟩ := exists_of_kerase hmem
  have hlookup : List.dlookup id scans.entries = some tee' := by
    rw [hl, dlookup_append, dlookup_eq_none.mpr hnot]
    simp
  obtain rfl : tee' = tee := Option.mem_unique hlookup h
  rw [entries_erase, herase, hl]
  grind

variable {s : Server}

lemma pending_erase (h : s.scans.lookup id = some tee) (t : SinkType) (c : SinkErrorClass) :
    s.pending t c = tee.credited t c +
      ((s.scans.erase id).entries.map fun scan => scan.2.credited t c).sum :=
  sum_erase (fun tee => tee.credited t c) h

variable {n : SinkType × SinkErrorClass → ℕ}

lemma Balanced.children_erase (h : s.Balanced n) (id : ℕ) :
    ∀ id' tee, (s.scans.erase id).lookup id' = some tee → tee.children = [.memory, .shared] := by
  intro id' tee hlookup
  by_cases hid : id' = id
  · rw [hid, AList.lookup_erase] at hlookup
    cases hlookup
  · rw [AList.lookup_erase_ne hid] at hlookup
    exact h.children id' tee hlookup

lemma Balanced.children_insert (h : s.Balanced n) (id : ℕ)
    (htee : tee.children = [.memory, .shared]) :
    ∀ id' tee', (s.scans.insert id tee).lookup id' = some tee' →
      tee'.children = [.memory, .shared] := by
  intro id' tee' hlookup
  by_cases hid : id' = id
  · rw [hid, AList.lookup_insert] at hlookup
    grind
  · rw [AList.lookup_insert_ne hid] at hlookup
    exact h.children id' tee' hlookup

lemma Balanced.start (h : s.Balanced n) (hid : id ∉ s.scans) :
    Balanced n { s with scans := s.scans.insert id (newTee s.maxResultBytes) } where
  children := h.children_insert id rfl
  balance t c := by
    have hnone : (newTee s.maxResultBytes).credited t c = 0 := rfl
    have := h.balance t c
    rw [pending] at this ⊢
    rw [AList.entries_insert_of_notMem hid, map_cons, sum_cons, hnone, Nat.zero_add]
    exact this

lemma Balanced.counted (h : s.Balanced n) (hlookup : s.scans.lookup id = some tee)
    (k : SinkErrorClass) :
    tee.credited (Sink.kind s.shared) k ≤ (Sink.dlqRecordsByClass s.shared k).toNat := by
  have hbal := h.balance (Sink.kind s.shared) k
  rw [pending_erase hlookup, Sink.deadLetters, if_pos rfl] at hbal
  omega

lemma Balanced.called (h : s.Balanced n) {c : SinkCall} {w : TeeWorld (SharedSink Bytes)}
    (hwrap : Sink.NoWrap c s.shared) (hlookup : s.scans.lookup id = some tee)
    (hcalled : Called c ⟨tee, s.shared⟩ w) :
    Balanced n { s with shared := w.shared, scans := s.scans.insert id w.tee } where
  children := h.children_insert id (hcalled.2.1.trans (h.children id tee hlookup))
  balance t k := by
    have hcredit := hcalled.credited hwrap (h.counted hlookup) t k
    dsimp only at hcredit
    have hbal := h.balance t k
    rw [pending_erase hlookup] at hbal
    rw [entries_erase] at hbal
    rw [pending]
    rw [AList.entries_insert, map_cons, sum_cons]
    dsimp only
    omega

lemma Balanced.ended (h : s.Balanced n) {m : Metrics} (hlookup : s.scans.lookup id = some tee)
    (hm : m.dlq = s.metrics.dlq) :
    Balanced (n + fun p => tee.credited p.1 p.2)
      { s with scans := s.scans.erase id, metrics := m } where
  children := h.children_erase id
  balance t c := by
    have hbal := h.balance t c
    rw [pending_erase hlookup] at hbal
    rw [hm, pending, Pi.add_apply]
    dsimp only
    omega

lemma Balanced.dropped (h : s.Balanced n) {c : SinkCall} (hwrap : Sink.NoWrap c s.shared)
    (hlookup : s.scans.lookup id = some tee) :
    Balanced (n + fun p => tee.credited p.1 p.2 +
        ((Sink.deadLetters (Sink.call c s.shared).2 p.1 p.2).toNat -
          (Sink.deadLetters s.shared p.1 p.2).toNat))
      { s with
        shared := (Sink.call c s.shared).2
        scans := s.scans.erase id
        metrics := s.metrics.recordScanCancelled } where
  children := h.children_erase id
  balance t k := by
    have hbal := h.balance t k
    have hle := hwrap.le t k
    rw [pending_erase hlookup] at hbal
    rw [pending, Pi.add_apply]
    dsimp only [Metrics.recordScanCancelled]
    omega

lemma Balanced.completed (h : s.Balanced n) {summary : DiscoverySummary}
    (hlookup : s.scans.lookup id = some tee)
    (hsum : summary.dlqRecordsByTypeAndClass = tee.dlqRecordsByTypeAndClass.counts) :
    Balanced n
      { s with
        scans := s.scans.erase id
        metrics := s.metrics.recordScanCompletion summary } where
  children := h.children_erase id
  balance t c := by
    have hbal := h.balance t c
    rw [pending_erase hlookup] at hbal
    have hcredit : credited summary.dlqRecordsByTypeAndClass t c = tee.credited t c := by
      rw [hsum, credited_dlqRecordsByTypeAndClass]
    have hlt := (Sink.deadLetters s.shared t c).toNat_lt
    -- a type that is not the sink's has no dead letters
    have ht : t.HasDlq ∨ credited summary.dlqRecordsByTypeAndClass t c = 0 := by
      by_cases hkind : Sink.kind s.shared = t
      · exact .inl (hkind ▸ s.shared.hasDlq_kind)
      · rw [Sink.deadLetters, if_neg hkind] at hbal
        grind
    rw [pending]
    dsimp only
    rw [dlq_recordScanCompletion, toNat_recordDeadLetters ht (by omega), hcredit]
    omega

/-- A step keeps the balance, with what it loses. -/
theorem step_balanced {a : ServerAction} {s' : Server} (hwrap : NoWrap a s) (h : s.Balanced n)
    (hstep : step a s = some s') :
    s'.Balanced (n + lost a s) := by
  cases a with
  | start id =>
    rw [step] at hstep
    split at hstep
    next => cases hstep
    next hid =>
      obtain rfl := Option.some.inj hstep
      exact h.start hid
  | call id c =>
    obtain ⟨tee, hlookup, rfl⟩ := map_eq_some_iff.mp hstep
    have hchi : tee.children.count .shared = 1 := by rw [h.children id tee hlookup]; rfl
    have hmeets := meets_fanOut c ⟨tee, s.shared⟩ hchi
    rcases hcall : TeeSink.fanOut c ⟨tee, s.shared⟩ with ⟨r | site, w⟩
    · have hlost : lost (.call id c) s = 0 := by
        funext p
        simp [lost, hlookup, hcall]
      rw [hlost, add_zero]
      exact h.called hwrap hlookup (hmeets.of_done rfl hcall).1
    · have hshared : w.shared = (Sink.call c s.shared).2 := hmeets.of_dropped rfl hcall
      have hlost : lost (.call id c) s = fun p => tee.credited p.1 p.2 +
          ((Sink.deadLetters (Sink.call c s.shared).2 p.1 p.2).toNat -
            (Sink.deadLetters s.shared p.1 p.2).toNat) := by grind [lost]
      rw [hlost]
      dsimp only
      rw [hshared]
      exact h.dropped hwrap hlookup
  | complete id summary =>
    obtain ⟨tee, hlookup, hstep⟩ := bind_eq_some_iff.mp hstep
    split at hstep
    next hsum =>
      obtain rfl := Option.some.inj hstep
      exact h.completed hlookup hsum
    next => cases hstep
  | fail id err =>
    obtain ⟨tee, hlookup, rfl⟩ := map_eq_some_iff.mp hstep
    have hlost : lost (.fail id err) s = fun p => tee.credited p.1 p.2 := by
      funext p
      simp [lost, creditedTo, hlookup]
    rw [hlost]
    refine h.ended hlookup ?_
    cases err.sinkErrorClass <;> rfl
  | drop id =>
    obtain ⟨tee, hlookup, rfl⟩ := map_eq_some_iff.mp hstep
    have hlost : lost (.drop id) s = fun p => tee.credited p.1 p.2 := by
      funext p
      simp [lost, creditedTo, hlookup]
    rw [hlost]
    exact h.ended hlookup rfl

structure Fresh (s : Server) : Prop where
  scans : s.scans = ∅
  sink : ∀ c, Sink.dlqRecordsByClass s.shared c = 0
  metric : ∀ t c, s.metrics.dlq t c = 0

def MetricExact (s : Server) : Prop :=
  ∀ t c, s.metrics.dlq t c = Sink.deadLetters s.shared t c

lemma Fresh.balanced (h : s.Fresh) : s.Balanced 0 where
  children id tee hlookup := by
    rw [h.scans, AList.lookup_empty] at hlookup
    cases hlookup
  balance t c := by
    rw [h.metric, Sink.deadLetters, h.sink, pending, h.scans]
    simp

lemma Balanced.exact_iff (h : s.Balanced n) (hend : s.scans = ∅) : s.MetricExact ↔ n = 0 := by
  have hbal : ∀ t c, (s.metrics.dlq t c).toNat + n (t, c) =
      (Sink.deadLetters s.shared t c).toNat := by
    intro t c
    have := h.balance t c
    rwa [pending, hend] at this
  constructor
  · intro hexact
    funext ⟨t, c⟩
    have := hbal t c
    rw [hexact t c] at this
    simpa using this
  · rintro rfl t c
    exact UInt64.toNat_inj.mp (hbal t c)

end Server

/-- When all scans of an interleaving have ended the metric is exact if and only if no dead letter
was lost: scans that failed or were dropped had none to their credit, and no dropped call delivered
one. -/
theorem dead_letter_metric_exact_iff {actions : List ServerAction} {start final : Server}
    (hfresh : start.Fresh) (hrun : runActions Server.step actions start = some final)
    (hwrap : AllSteps Server.step Server.NoWrap actions start) (hended : final.scans = ∅) :
    final.MetricExact ↔ AllSteps Server.step (fun a s => Server.lost a s = 0) actions start := by
  obtain ⟨m, hm, -, hiff⟩ := runActions_sum
    (fun a n s s' hw hs hstep => Server.step_balanced hw hs hstep) hfresh.balanced hwrap hrun
  rw [hm.exact_iff hended]
  exact hiff

/-- One try and a dead-letter topic. -/
def quarantineServer (broker : ℕ → Reply) : Server where
  shared := .kafka (.start
    { topic := fun _ => "records"
      brokersForErr := "localhost:9092"
      flushMode := .perRecord
      dlqTopic := some "dead-letters"
      retry := { maxAttempts := 1 } } broker fun _ => .ok)
  scans := ∅
  metrics := {}
  maxResultBytes := 1024

/-- Only the dead letter of the first record is taken. -/
def firstDeadLetterOnly (n : ℕ) : Reply := if n = 1 then .ok else .err "leader not available"

def failingScan : List ServerAction :=
  [.start 0, .call 0 (.writeKind .device [1]), .call 0 (.writeKind .device [2]), .call 0 .close,
    .fail 0 (KafkaSink.buildProduceError "records" "localhost:9092" "leader not available")]

/-- The first record is in the dead-letter topic and counted by the sink; the scan failed on its
second, and the metric never hears of it. -/
theorem dead_letter_lost_with_failed_scan :
    ∃ final, runActions Server.step failingScan (quarantineServer firstDeadLetterOnly) =
        some final ∧ final.scans = ∅ ∧
      Sink.deadLetters final.shared .kafka .produceFailure = 1 ∧
      final.metrics.dlq .kafka .produceFailure = 0 := by
  have hrun : (runActions Server.step failingScan (quarantineServer firstDeadLetterOnly)).map
      (fun s => (s.scans.keys, Sink.deadLetters s.shared .kafka .produceFailure,
        s.metrics.dlq .kafka .produceFailure)) = some ([], 1, 0) := by decide +kernel
  obtain ⟨final, hfinal, hval⟩ := map_eq_some_iff.mp hrun
  obtain ⟨hkeys, hsink, hmetric⟩ := Prod.mk.inj hval |>.imp_right Prod.mk.inj
  exact ⟨final, hfinal, AList.ext (map_eq_nil_iff.mp hkeys), hsink, hmetric⟩

/-- The dead letter of a scan that succeeds is counted. -/
theorem dead_letter_metric_exact_completed : ∃ (summary : DiscoverySummary) (final : Server),
      let actions := [.start 0, .call 0 (.writeKind .device [1]), .call 0 .close,
        .complete 0 summary]
      runActions Server.step actions (quarantineServer firstDeadLetterOnly) = some final ∧
      final.metrics.dlq .kafka .produceFailure = 1 ∧
      (final.MetricExact ↔ AllSteps Server.step (fun a s => Server.lost a s = 0) actions
        (quarantineServer firstDeadLetterOnly)) := by
  refine ⟨⟨1, 1, 1, 0, 0, [], fun _ => 0, [], 1, [(.kafka, .produceFailure, 1)], some .tee, false,
    none⟩, _, rfl, by decide +kernel, dead_letter_metric_exact_iff ?_ rfl ?_ rfl⟩
  · exact ⟨rfl, fun c => by cases c <;> rfl, fun _ _ => rfl⟩
  · refine ⟨trivial, ?_⟩
    rintro _ ⟨⟩
    refine ⟨fun k => by cases k <;> decide +kernel, ?_⟩
    rintro _ ⟨⟩
    refine ⟨fun k => by cases k <;> decide +kernel, ?_⟩
    rintro _ ⟨⟩
    exact ⟨trivial, fun _ _ => trivial⟩

end Rastreo
