import Rastreo.Library.Searches
import Rastreo.Pipeline.Model
import Mathlib.Data.Prod.Lex

/-!
# Fault accounting

The metrics of a scan are accumulated as targets become ready.  `Accounts` says what they are
without mention of the order: each counter counts, and the fault kept is that of the smallest key.
So scans in any order give the same tally (`fault_accounting_order_independent`).
-/

namespace Rastreo

open List

/-! ## Outcomes and their faults -/

/-- The index of the target, the pass of the prober and the result. -/
structure Outcome where
  target : ℕ
  pass : ℕ
  result : Result ProbeOutcome

/-- That of the data, or the text of the error. -/
def Outcome.fault (o : Outcome) : Option ProbeFault :=
  match o.result with
  | .ok outcome => outcome.fault
  | .error err => some ⟨.other, err.display⟩

/-- The key of an outcome: by prober, then by target. -/
def Outcome.key (o : Outcome) : ℕ × ℕ := (o.pass, o.target)

def Outcome.HasText (o : Outcome) : Prop := ∀ err, o.result = .error err → err.display ≠ ""

def TargetScan.entries (scan : TargetScan) : List Outcome :=
  scan.outcomes.map fun o => ⟨scan.targetIndex, o.1, o.2⟩

/-- The outcomes of scans, in the order of the scans. -/
def entriesOf (scans : List TargetScan) : List Outcome := scans.flatMap TargetScan.entries

def countWhere {κ : Type} [DecidableEq κ] (f : Outcome → Option κ) (entries : List Outcome)
    (k : κ) : ℕ :=
  entries.countP fun o => decide (f o = some k)

def faultAt (key : ℕ × ℕ) (entries : List Outcome) : Option ProbeFault :=
  entries.findSome? fun o => if o.key = key then o.fault else none

/-! ## What is accumulated -/

/-- None was kept and there is none, or the first of the smallest key was. -/
def FirstFault (entries : List Outcome) (kept : Option ProbeFault) : Option (ℕ × ℕ) → Prop
  | none => kept = none ∧ ∀ o ∈ entries, o.fault = none
  | some key => (∃ fault, kept = some fault ∧ faultAt key entries = some fault) ∧
      ∀ o ∈ entries, o.fault ≠ none → toLex key ≤ toLex o.key

def Outcome.kindIn (kinds : List ProbeKind) (o : Outcome) : Option ProbeKind := kinds[o.pass]?

def Outcome.faultyKindIn (kinds : List ProbeKind) (o : Outcome) : Option ProbeKind :=
  if o.fault.isSome then o.kindIn kinds else none

def Outcome.faultKind (o : Outcome) : Option ProbeErrorKind := o.fault.map ProbeFault.kind

structure Accounts (kinds : List ProbeKind) (entries : List Outcome) (st : Tally) : Prop where
  attempts : st.1.probeAttempts = entries.length
  byKind : st.1.attemptsByKind = countWhere (Outcome.kindIn kinds) entries
  errorsByKind : st.1.errorsByKind = countWhere (Outcome.faultyKindIn kinds) entries
  errorCounts : st.1.errorCounts = countWhere Outcome.faultKind entries
  cancelled : st.1.cancelled = false
  first : FirstFault entries st.1.firstProbeError st.2

variable {entries : List Outcome} {o : Outcome}

lemma countWhere_concat {κ : Type} [DecidableEq κ] {f : Outcome → Option κ} :
    countWhere f (entries ++ [o]) =
      (f o).elim (countWhere f entries) (bump (countWhere f entries)) := by
  funext k
  simp only [countWhere, countP_append, countP_singleton]
  cases hf : f o with
  | none => simp [countWhere]
  | some k' =>
    by_cases hk : k' = k
    · subst hk
      simp [bump, countWhere]
    · simp [bump, countWhere, hk, Function.update_of_ne (Ne.symm hk)]

lemma faultKeyLt_iff (a b : ℕ × ℕ) : faultKeyLt a b = true ↔ toLex a < toLex b := by
  simp [faultKeyLt, Prod.Lex.toLex_lt_toLex]

variable {kept : Option ProbeFault} {best : Option (ℕ × ℕ)}

lemma FirstFault.concat_none (h : FirstFault entries kept best) (ho : o.fault = none) :
    FirstFault (entries ++ [o]) kept best := by
  cases best with
  | none =>
    refine ⟨h.1, fun o' ho' => ?_⟩
    rcases mem_append.mp ho' with ho' | ho'
    · exact h.2 o' ho'
    · grind
  | some key =>
    obtain ⟨⟨fault, hkept, hat⟩, hmin⟩ := h
    refine ⟨⟨fault, hkept, ?_⟩, fun o' ho' hfault => ?_⟩
    · grind [faultAt]
    · rcases mem_append.mp ho' with ho' | ho'
      · exact hmin o' ho' hfault
      · grind

variable {st : Tally} {fault : ProbeFault}

/-- A fault is kept if its key is smaller than the one kept. -/
lemma FirstFault.latchFault (h : FirstFault entries st.1.firstProbeError st.2)
    (ho : o.fault = some fault) :
    FirstFault (entries ++ [o]) (latchFault o.key fault st).1.firstProbeError
      (latchFault o.key fault st).2 := by
  -- The new outcome is the first of its key if no key so far is as small.
  have hnew : (∀ o' ∈ entries, o'.fault ≠ none → toLex o.key < toLex o'.key) →
      faultAt o.key (entries ++ [o]) = some fault := by
    intro hlt
    have hnone : faultAt o.key entries = none := by
      refine findSome?_eq_none_iff.mpr fun o' ho' => ?_
      split
      next hkey =>
        by_contra hfault
        have hself := hlt o' ho' hfault
        rw [hkey] at hself
        exact absurd hself (lt_irrefl _)
      next => rfl
    rw [faultAt, findSome?_append]
    grind
  obtain ⟨acc, best⟩ := st
  dsimp only at h
  cases best with
  | none =>
    obtain ⟨-, hclean⟩ := h
    refine ⟨⟨fault, rfl, hnew fun o' ho' hfault => absurd (hclean o' ho') hfault⟩,
      fun o' ho' hfault => ?_⟩
    grind
  | some key =>
    obtain ⟨⟨fault', hkept, hat⟩, hmin⟩ := h
    by_cases hlt : toLex o.key < toLex key
    · have hlat : Rastreo.latchFault o.key fault (acc, some key) =
          ({ acc with firstProbeError := some fault }, some o.key) :=
        if_pos ((faultKeyLt_iff _ _).mpr hlt)
      rw [hlat]
      refine ⟨⟨fault, rfl, hnew fun o' ho' hfault => hlt.trans_le (hmin o' ho' hfault)⟩,
        fun o' ho' hfault => ?_⟩
      grind
    · have hkeptOn : Rastreo.latchFault o.key fault (acc, some key) = (acc, some key) :=
        if_neg fun h => hlt ((faultKeyLt_iff _ _).mp h)
      rw [hkeptOn]
      refine ⟨⟨fault', hkept, ?_⟩, fun o' ho' hfault => ?_⟩
      · grind [faultAt]
      · rcases mem_append.mp ho' with ho' | ho'
        · exact hmin o' ho' hfault
        · grind

/-! ## Steps and runs -/

variable {kinds : List ProbeKind}

def countAttempt (kind : ProbeKind) (st : Tally) : Tally :=
  ({ st.1 with
    probeAttempts := st.1.probeAttempts + 1
    attemptsByKind := bump st.1.attemptsByKind kind }, st.2)

lemma latchFault_fst (key : ℕ × ℕ) (fault : ProbeFault) (st : Tally) :
    ∃ kept, (latchFault key fault st).1 = { st.1 with firstProbeError := kept } := by
  unfold latchFault
  split
  · exact ⟨_, rfl⟩
  · exact ⟨_, rfl⟩

lemma accumulateOutcome_eq {kind : ProbeKind} (hkind : o.kindIn kinds = some kind)
    (htext : o.HasText) (st : Tally) :
    accumulateOutcome kinds o.target st (o.pass, o.result) =
      .ok (o.fault.elim (countAttempt kind st) fun fault =>
        latchFault o.key fault (countFault kind fault.kind (countAttempt kind st))) := by
  have hindex : index kinds o.pass = .ok kind := by
    rw [Outcome.kindIn] at hkind
    rw [index, hkind]
  rw [accumulateOutcome, hindex, ok_bind, Outcome.fault]
  cases hr : o.result with
  | ok outcome =>
    dsimp only
    cases outcome.fault <;> rfl
  | error err => exact if_neg (htext err hr)

lemma accumulateOutcome_accounts (h : Accounts kinds entries st) (hpass : o.pass < kinds.length)
    (htext : o.HasText) :
    ∃ st', accumulateOutcome kinds o.target st (o.pass, o.result) = .ok st' ∧
      Accounts kinds (entries ++ [o]) st' := by
  have hkind : o.kindIn kinds = some (kinds.get ⟨o.pass, hpass⟩) := getElem?_eq_getElem hpass
  refine ⟨_, accumulateOutcome_eq hkind htext st, ?_⟩
  cases hfault : o.fault with
  | none =>
    refine ⟨?_, ?_, ?_, ?_, h.cancelled, h.first.concat_none hfault⟩
    · simp [countAttempt, h.attempts]
    · rw [countWhere_concat, hkind, ← h.byKind]
      rfl
    · rw [countWhere_concat, Outcome.faultyKindIn, hfault, ← h.errorsByKind]
      rfl
    · rw [countWhere_concat, Outcome.faultKind, hfault, ← h.errorCounts]
      rfl
  | some fault =>
    rw [Option.elim_some]
    have hfst : FirstFault entries (countFault (kinds.get ⟨o.pass, hpass⟩) fault.kind
          (countAttempt (kinds.get ⟨o.pass, hpass⟩) st)).1.firstProbeError
        (countFault (kinds.get ⟨o.pass, hpass⟩) fault.kind
          (countAttempt (kinds.get ⟨o.pass, hpass⟩) st)).2 := h.first
    obtain ⟨kept, hkept⟩ := latchFault_fst o.key fault
      (countFault (kinds.get ⟨o.pass, hpass⟩) fault.kind
        (countAttempt (kinds.get ⟨o.pass, hpass⟩) st))
    refine ⟨?_, ?_, ?_, ?_, ?_, hfst.latchFault hfault⟩
    · rw [hkept]
      simp [countFault, countAttempt, h.attempts]
    · rw [hkept, countWhere_concat, hkind, ← h.byKind]
      rfl
    · rw [hkept, countWhere_concat, Outcome.faultyKindIn, hfault, Option.isSome_some, if_pos rfl,
        hkind, ← h.errorsByKind]
      rfl
    · rw [hkept, countWhere_concat, Outcome.faultKind, hfault, ← h.errorCounts]
      rfl
    · rw [hkept]
      exact h.cancelled

lemma accumulateTarget_accounts {scan : TargetScan} (h : Accounts kinds entries st)
    (hpass : ∀ o ∈ scan.entries, o.pass < kinds.length) (htext : ∀ o ∈ scan.entries, o.HasText) :
    ∃ st', accumulateTarget kinds scan st = .ok st' ∧
      Accounts kinds (entries ++ scan.entries) st' := by
  obtain ⟨target, outcomes⟩ := scan
  unfold accumulateTarget
  simp only [TargetScan.entries] at hpass htext ⊢
  induction outcomes generalizing entries st with
  | nil => exact ⟨st, rfl, by simpa using h⟩
  | cons o rest ih =>
    obtain ⟨ho, hrest⟩ := forall_mem_cons.mp hpass
    obtain ⟨hotext, hres⟩ := forall_mem_cons.mp htext
    obtain ⟨st₁, hst₁, hacc⟩ := accumulateOutcome_accounts h ho hotext
    obtain ⟨st', hst', hacc'⟩ := ih hacc hrest hres
    grind [ok_bind]

def accumulateAll (kinds : List ProbeKind) (scans : List TargetScan) : Except Panic Tally :=
  scans.foldlM (fun st scan => accumulateTarget kinds scan st) ({}, none)

variable {scans : List TargetScan}

lemma accumulateAll_accounts (hpass : ∀ o ∈ entriesOf scans, o.pass < kinds.length)
    (htext : ∀ o ∈ entriesOf scans, o.HasText) :
    ∃ st, accumulateAll kinds scans = .ok st ∧ Accounts kinds (entriesOf scans) st := by
  have hrun : ∀ (entries : List Outcome) (st : Tally), Accounts kinds entries st →
      ∃ st', scans.foldlM (fun st scan => accumulateTarget kinds scan st) st = .ok st' ∧
        Accounts kinds (entries ++ entriesOf scans) st' := by
    induction scans with
    | nil => exact fun entries st h => ⟨st, rfl, by simpa [entriesOf] using h⟩
    | cons scan rest ih =>
      intro entries st h
      obtain ⟨hscan, hrest⟩ := forall_mem_append.mp hpass
      obtain ⟨hsca, hres⟩ := forall_mem_append.mp htext
      obtain ⟨st₁, hst₁, hacc⟩ := accumulateTarget_accounts h hscan hsca
      obtain ⟨st', hst', hacc'⟩ := ih hrest hres _ _ hacc
      grind [entriesOf, ok_bind]
  refine hrun [] ({}, none) ⟨rfl, ?_, ?_, ?_, rfl, rfl, forall_mem_nil _⟩
  · rfl
  · rfl
  · rfl

/-! ## Orders -/

variable {order : List TargetScan}

lemma entriesOf_perm (h : order.Perm scans) :
    (entriesOf order).Perm (entriesOf scans) := h.flatMap_right _

lemma faultAt_entriesOf (hdistinct : (scans.map (·.targetIndex)).Nodup) {scan : TargetScan}
    (hscan : scan ∈ scans) (pass : ℕ) :
    faultAt (pass, scan.targetIndex) (entriesOf scans) =
      faultAt (pass, scan.targetIndex) scan.entries := by
  rw [faultAt, entriesOf, findSome?_flatMap]
  refine findSome?_of_only hscan fun other hother hne => ?_
  have htarget : other.targetIndex ≠ scan.targetIndex := fun h =>
    hne (inj_on_of_nodup_map hdistinct hother hscan h)
  refine findSome?_eq_none_iff.mpr fun o ho => if_neg fun hkey => ?_
  obtain ⟨entry, -, rfl⟩ := mem_map.mp ho
  exact htarget (Prod.mk.inj hkey).2

lemma exists_of_faultAt {key : ℕ × ℕ} (h : faultAt key entries = some fault) :
    ∃ o ∈ entries, o.key = key ∧ o.fault = some fault := by
  obtain ⟨o, ho, hfault⟩ := exists_of_findSome?_eq_some h
  grind

lemma FirstFault.none_iff (h : FirstFault entries kept best) :
    kept = none ↔ ∀ o ∈ entries, o.fault = none := by
  cases best with
  | none => exact ⟨fun _ => h.2, fun _ => h.1⟩
  | some key =>
    obtain ⟨⟨fault, rfl, hat⟩, -⟩ := h
    obtain ⟨o, ho, -, hfault⟩ := exists_of_faultAt hat
    grind

lemma FirstFault.smallest (h : FirstFault entries (some fault) best) :
    ∃ o ∈ entries, o.fault = some fault ∧
      ∀ o' ∈ entries, o'.fault ≠ none → toLex o.key ≤ toLex o'.key := by
  cases best with
  | none => cases h.1
  | some key =>
    obtain ⟨⟨_, ⟨⟩, hat⟩, hmin⟩ := h
    obtain ⟨o, ho, rfl, hfault⟩ := exists_of_faultAt hat
    grind

lemma FirstFault.unique (hdistinct : (scans.map (·.targetIndex)).Nodup) (hperm : order.Perm scans)
    {kept' : Option ProbeFault} {best' : Option (ℕ × ℕ)}
    (h : FirstFault (entriesOf scans) kept best) (h' : FirstFault (entriesOf order) kept' best') :
    kept' = kept ∧ best' = best := by
  have hmem : ∀ o, o ∈ entriesOf order ↔ o ∈ entriesOf scans := fun o =>
    (entriesOf_perm hperm).mem_iff
  -- A key that is kept is no greater than that of any fault.
  have hle : ∀ {entries entries' : List Outcome} {key : ℕ × ℕ} {fault : ProbeFault},
      (∀ o ∈ entries, o.fault ≠ none → toLex key ≤ toLex o.key) →
      (∀ o, o ∈ entries' → o ∈ entries) → ∀ {key' : ℕ × ℕ}, faultAt key' entries' = some fault →
      toLex key ≤ toLex key' := by
    intro entries entries' key fault hmin hsub key' hat
    obtain ⟨o, ho, rfl, hfault⟩ := exists_of_faultAt hat
    grind
  cases best with
  | none =>
    cases best' with
    | none => exact ⟨h'.1.trans h.1.symm, rfl⟩
    | some key' =>
      obtain ⟨⟨fault, -, hat⟩, -⟩ := h'
      obtain ⟨o, ho, -, hfault⟩ := exists_of_faultAt hat
      have hnone := h.2 o ((hmem o).mp ho)
      grind
  | some key =>
    obtain ⟨⟨fault, hkept, hat⟩, hmin⟩ := h
    cases best' with
    | none =>
      obtain ⟨o, ho, -, hfault⟩ := exists_of_faultAt hat
      have hnone := h'.2 o ((hmem o).mpr ho)
      grind
    | some key' =>
      obtain ⟨⟨fault', hkept', hat'⟩, hmin'⟩ := h'
      have hkey : key' = key := toLex_inj.mp ((hle hmin' (fun o ho => (hmem o).mpr ho) hat).antisymm
          (hle hmin (fun o ho => (hmem o).mp ho) hat'))
      subst hkey
      obtain ⟨o, ho, hokey, -⟩ := exists_of_faultAt hat
      obtain ⟨scan, hscan, hent⟩ := mem_flatMap.mp ho
      obtain ⟨entry, -, rfl⟩ := mem_map.mp hent
      rw [← hokey] at hat hat'
      have hdis' : (order.map (·.targetIndex)).Nodup :=
        (hperm.map _).nodup_iff.mpr hdistinct
      rw [Outcome.key, faultAt_entriesOf hdistinct hscan] at hat
      rw [Outcome.key, faultAt_entriesOf hdis' (hperm.mem_iff.mpr hscan), hat] at hat'
      grind

lemma Accounts.unique (hdistinct : (scans.map (·.targetIndex)).Nodup) (hperm : order.Perm scans)
    {st' : Tally} (h : Accounts kinds (entriesOf scans) st)
    (h' : Accounts kinds (entriesOf order) st') :
    st' = st := by
  have hent := entriesOf_perm hperm
  have hcount : ∀ {κ : Type} [DecidableEq κ] (f : Outcome → Option κ),
      countWhere f (entriesOf order) = countWhere f (entriesOf scans) :=
    fun f => funext fun k => hent.countP_eq _
  obtain ⟨hkept, hbest⟩ := h.first.unique hdistinct hperm h'.first
  obtain ⟨⟨attempts, counts, first, byKind, errors, cancelled⟩, best⟩ := st
  obtain ⟨⟨attempts', counts', first', byKind', errors', cancelled'⟩, best'⟩ := st'
  obtain rfl := h'.attempts.trans (hent.length_eq.trans h.attempts.symm)
  obtain rfl := h'.byKind.trans ((hcount _).trans h.byKind.symm)
  obtain rfl := h'.errorsByKind.trans ((hcount _).trans h.errorsByKind.symm)
  obtain rfl := h'.errorCounts.trans ((hcount _).trans h.errorCounts.symm)
  obtain rfl := h'.cancelled.trans h.cancelled.symm
  grind

/-! ## Totals -/

def ProbeErrorKind.all : List ProbeErrorKind :=
  [.authFailed, .permissionDenied, .dnsFailed, .decodeFailed, .other]

lemma ProbeKind.count_all (k : ProbeKind) : ProbeKind.all.count k = 1 := by cases k <;> rfl

lemma ProbeErrorKind.count_all (k : ProbeErrorKind) : ProbeErrorKind.all.count k = 1 := by
  cases k <;> rfl

lemma sum_map_ite_eq {κ : Type} [DecidableEq κ] (k : κ) (l : List κ) :
    (l.map fun k' => if k = k' then 1 else 0).sum = l.count k := by
  induction l with
  | nil => rfl
  | cons k' l ih =>
    rw [map_cons, sum_cons, ih, count_cons, Nat.add_comm]
    grind

lemma sum_countWhere {κ : Type} [DecidableEq κ] {all : List κ} (hall : ∀ k, all.count k = 1)
    (f : Outcome → Option κ) (entries : List Outcome) :
    (all.map (countWhere f entries)).sum = entries.countP fun o => (f o).isSome := by
  induction entries with
  | nil =>
    have hnil : countWhere f [] = fun _ => 0 := rfl
    simp [hnil]
  | cons o rest ih =>
    have hcons : countWhere f (o :: rest) =
        fun k => countWhere f rest k + if f o = some k then 1 else 0 := by
      funext k
      simp [countWhere, countP_cons]
    have hone : (all.map fun k => if f o = some k then 1 else 0).sum = (f o).isSome.toNat := by
      cases f o with
      | none => simp
      | some k =>
        simp only [Option.some.injEq, Option.isSome_some, Bool.toNat_true]
        exact (sum_map_ite_eq k all).trans (hall k)
    rw [hcons, sum_map_add, ih, hone, countP_cons]
    cases (f o).isSome <;> rfl

lemma sum_buildProbesByKind (attempts errors : ProbeKind → ℕ) :
    ((buildProbesByKind attempts errors).map ProbeKindSummary.attempted).sum =
        (ProbeKind.all.map attempts).sum ∧
      ((buildProbesByKind attempts errors).map ProbeKindSummary.errored).sum =
        (ProbeKind.all.map errors).sum := by
  have hsum : ∀ (l : List ProbeKind) (f : ProbeKind → ℕ) (p : ProbeKind → Bool),
      (∀ k, p k = false → f k = 0) → ((l.filter p).map f).sum = (l.map f).sum := by
    intro l f p hzero
    induction l with
    | nil => rfl
    | cons k l ih => grind
  simp only [buildProbesByKind, map_map, Function.comp_def]
  constructor
  · grind
  · grind

def faulty (entries : List Outcome) : ℕ := entries.countP fun o => o.fault.isSome

/-- Scans with distinct indices give the same tally in every order. It counts every outcome; the
attempts by kind add up to the outcomes, the errors of either sort to the faulty ones. The fault
kept is that of the smallest key, and none only if no outcome is faulty. -/
theorem fault_accounting_order_independent {kinds : List ProbeKind} {scans : List TargetScan}
    (hdistinct : (scans.map (·.targetIndex)).Nodup)
    (hpass : ∀ o ∈ entriesOf scans, o.pass < kinds.length)
    (htext : ∀ o ∈ entriesOf scans, o.HasText) :
    ∃ tally : Tally,
      (∀ order : List TargetScan, order.Perm scans → accumulateAll kinds order = .ok tally) ∧
      tally.1.probeAttempts = (entriesOf scans).length ∧
      ((buildProbesByKind tally.1.attemptsByKind tally.1.errorsByKind).map
        ProbeKindSummary.attempted).sum = tally.1.probeAttempts ∧
      ((buildProbesByKind tally.1.attemptsByKind tally.1.errorsByKind).map
        ProbeKindSummary.errored).sum = (ProbeErrorKind.all.map tally.1.errorCounts).sum ∧
      (ProbeErrorKind.all.map tally.1.errorCounts).sum = faulty (entriesOf scans) ∧
      (tally.1.firstProbeError = none ↔ ∀ o ∈ entriesOf scans, o.fault = none) ∧
      ∀ fault, tally.1.firstProbeError = some fault → ∃ o ∈ entriesOf scans, o.fault = some fault ∧
          ∀ o' ∈ entriesOf scans, o'.fault ≠ none → toLex o.key ≤ toLex o'.key := by
  obtain ⟨tally, htally, hacc⟩ := accumulateAll_accounts hpass htext
  obtain ⟨hatt, herr⟩ :=
    sum_buildProbesByKind tally.1.attemptsByKind tally.1.errorsByKind
  have hkinds : ∀ o ∈ entriesOf scans, (o.kindIn kinds).isSome = true := fun o ho => by
    rw [Outcome.kindIn, getElem?_eq_getElem (hpass o ho)]
    rfl
  have hcounts : (ProbeErrorKind.all.map tally.1.errorCounts).sum = faulty (entriesOf scans) := by
    rw [hacc.errorCounts, sum_countWhere ProbeErrorKind.count_all, faulty]
    simp only [Outcome.faultKind, Option.isSome_map]
  refine ⟨tally, fun order hperm => ?_, hacc.attempts, ?_, ?_, hcounts, ?_, ?_⟩
  · have hmem : ∀ o, o ∈ entriesOf order ↔ o ∈ entriesOf scans := fun o =>
      (entriesOf_perm hperm).mem_iff
    obtain ⟨tally', htal', hacc'⟩ :=
      accumulateAll_accounts (fun o ho => hpass o ((hmem o).mp ho))
        (fun o ho => htext o ((hmem o).mp ho))
    rw [htal', hacc.unique hdistinct hperm hacc']
  · rw [hatt, hacc.byKind, sum_countWhere ProbeKind.count_all, hacc.attempts]
    exact countP_eq_length.mpr hkinds
  · rw [hcounts, herr, hacc.errorsByKind, sum_countWhere ProbeKind.count_all, faulty]
    refine countP_congr fun o ho => ?_
    rw [Outcome.faultyKindIn]
    cases o.fault with
    | none => simp
    | some fault => simp [hkinds o ho]
  · exact hacc.first.none_iff
  · intro fault hfault
    have hfst := hacc.first
    rw [hfault] at hfst
    exact hfst.smallest

/-- An error each, the one of the later target by the earlier prober. -/
def crossedScans : List TargetScan :=
  [⟨0, [(1, .error (.invalid "second"))]⟩, ⟨1, [(0, .error (.invalid "first"))]⟩]

/-- The error of the earlier prober is kept, although received later. -/
theorem fault_accounting_order_independent_crossed :
    ∃ tally : Tally, (∀ order : List TargetScan, order.Perm crossedScans →
        accumulateAll [.icmp, .snmp] order = .ok tally) ∧
      tally.1.probeAttempts = 2 ∧
      tally.1.firstProbeError = some ⟨.other, (RastreoError.invalid "first").display⟩ := by
  have htext : ∀ o ∈ entriesOf crossedScans, o.HasText := by
    intro o ho
    simp only [entriesOf, crossedScans, TargetScan.entries, flatMap_cons, flatMap_nil,
      map_cons, map_nil, append_nil, singleton_append, mem_cons,
      not_mem_nil, or_false] at ho
    rcases ho with rfl | rfl
    · rintro err ⟨⟩
      decide
    · rintro err ⟨⟩
      decide
  have hpass : ∀ o ∈ entriesOf crossedScans, o.pass < [ProbeKind.icmp, .snmp].length := by decide
  obtain ⟨tally, horder, hatt, -⟩ :=
    fault_accounting_order_independent (by decide) hpass htext
  refine ⟨tally, horder, hatt, ?_⟩
  have hkept : (accumulateAll [.icmp, .snmp] crossedScans).map
      (fun tally => tally.1.firstProbeError) =
        .ok (some ⟨.other, (RastreoError.invalid "first").display⟩) := rfl
  rw [horder crossedScans (List.Perm.refl _)] at hkept
  exact Except.ok.inj hkept

end Rastreo
