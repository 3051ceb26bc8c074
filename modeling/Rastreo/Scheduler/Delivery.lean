import Rastreo.Scheduler.Invariant
import Mathlib.Data.Fintype.EquivFin

/-!
# What a scan delivers

The core of the state with the number of tasks each phase allows is an invariant of `run_scan`, and
a measure decreases with every step.  So tasks and maps are bounded, nothing panics, and what has
been sent on return is known (`run_scan_delivers`).
-/

namespace Rastreo

open List Option

variable {P T : Type}

def ScanPhase.ready : ScanPhase → Option ℕ
  | .refilling ready => ready
  | .sending ready => ready
  | _ => none

section Invariant

variable (scan : Scan P T)

/-- Never more tasks than the cap, and, unless cancelled, the cap as long as the feed has pairs. -/
def Scan.Accounted (s : ScanState P T) : ScanPhase → Prop
  | .priming left => s.set.length + left = scan.scheduler.maxConcurrent
  | .joining => s.set.length ≤ scan.scheduler.maxConcurrent ∧
      (s.cancelSeen = false → s.set.length = scan.scheduler.maxConcurrent ∨ scan.Exhausted s)
  | .refilling _ => s.set.length + 1 ≤ scan.scheduler.maxConcurrent ∧
      (s.cancelSeen = false → s.set.length + 1 = scan.scheduler.maxConcurrent ∨ scan.Exhausted s)
  | .sending _ => s.set.length ≤ scan.scheduler.maxConcurrent ∧
      (s.set.length + 1 ≤ scan.scheduler.maxConcurrent ∨ s.CurrentRunning) ∧
      (s.cancelSeen = false → s.set.length = scan.scheduler.maxConcurrent ∨ scan.Exhausted s)
  | .returned => s.set = [] ∧ (s.cancelSeen = false → scan.Exhausted s)
  | .panicked _ => False

/-- The invariant in a phase. -/
structure ScanInv (phase : ScanPhase) (s : ScanState P T) : Prop where
  phase_eq : s.phase = phase
  core : ScanCore scan phase.ready s
  accounted : scan.Accounted s phase

/-- The invariant, or the receiver is gone and the scan has returned. -/
def Scan.Good (s : ScanState P T) : Prop :=
  s.receiverGone = true ∧ s.phase = .returned ∨
    s.receiverGone = false ∧ ∃ phase, ScanInv scan phase s

def ScanPhase.weight : ScanPhase → ℕ
  | .priming left => left + 2
  | .joining => 1
  | .refilling _ => 3
  | .sending _ => 2
  | .returned => 0
  | .panicked _ => 0

/-- Pairs to hand out, tasks to join and steps of the round. -/
def Scan.measure (s : ScanState P T) : ℕ :=
  4 * (scan.targets.length * scan.probers.length - s.feed.handedCount) + 3 * s.set.length +
    s.phase.weight

end Invariant

variable {scan : Scan P T} {s s' : ScanState P T}

lemma FeedOk.handedCount_le {targets : List T} {n : ℕ} {f : Feed T} (h : FeedOk targets n f) :
    f.handedCount ≤ targets.length * n := by
  unfold Feed.handedCount
  cases hc : f.current with
  | none => exact Nat.zero_le _
  | some c =>
    obtain ⟨t, p⟩ := c
    obtain ⟨ht, -, hp, -, -⟩ := h.within t p hc
    rw [h.numProbers_eq]
    calc t * n + p ≤ t * n + n := by omega
      _ = (t + 1) * n := by rw [Nat.add_one_mul]
      _ ≤ targets.length * n := Nat.mul_le_mul_right n ht

lemma Scan.init_good (hpos : 0 < scan.probers.length) : scan.Good scan.init := by
  have hph : scan.init.phase = .priming scan.scheduler.maxConcurrent := by
    rw [Scan.init, if_neg hpos.ne']
  have hhanded : ∀ p t, ¬ scan.init.feed.Handed p t := fun p t => not_handed_start
  have hdone : ∀ p t, ¬ scan.init.Done p t := fun p t hd => hhanded p t hd.1
  have hall : ∀ t, ¬ scan.AllDone scan.init t := fun t hd => hdone 0 t (hd 0 hpos)
  refine .inr ⟨rfl, _, hph, ?_, Nat.zero_add _⟩
  · constructor
    case feed_ok => exact ⟨rfl, fun _ => ⟨rfl, rfl⟩, fun t p hc => (by cases hc)⟩
    case ids_nodup => exact nodup_nil
    case pairs_nodup => exact nodup_nil
    case task_ok => exact forall_mem_nil _
    case coord =>
      intro id c
      simp [Scan.init]
    case map_iff =>
      intro t x
      simp [Scan.init, Feed.new, Feed.Handed]
    case live_iff =>
      intro t
      simp [hdone]
      simp [Scan.init]
    case live_ok =>
      intro t e he
      simp [Scan.init] at he
    case sent_ok => exact forall_mem_nil _
    case sent_nodup => exact nodup_nil
    case ready_ok => exact fun t ht => (by cases ht)
    grind

/-! ## One step -/

variable {a : ScanAction}

/-- The cancel flag read, and a probe started if it is not set. -/
lemma ScanCore.refill {ready : Option ℕ} {exhausted after : ScanPhase} {cancel : Bool} {id : ℕ}
    (h : ScanCore scan ready s) (hpos : 0 < scan.probers.length) (halive : s.receiverGone = false)
    (hstep : (if cancel then some { s with cancelSeen := true, phase := exhausted }
      else if id ∈ s.set.map (·.id) then none
      else some (startNext scan id exhausted after s)) = some s')
    (hready : exhausted.ready = ready ∧ after.ready = ready)
    (hweight : exhausted.weight < s.phase.weight ∧ after.weight < s.phase.weight)
    (hexhausted : ∀ t : ScanState P T, t.set = s.set → (t.cancelSeen = false → scan.Exhausted t) →
      scan.Accounted t exhausted)
    (hafter : ∀ t : ScanState P T, t.set.length = s.set.length + 1 → t.CurrentRunning →
      t.cancelSeen = s.cancelSeen → (scan.Exhausted s → scan.Exhausted t) →
      scan.Accounted t after) :
    scan.Good s' ∧ scan.measure s' < scan.measure s := by
  obtain ⟨hexh, hafr⟩ := hready
  have hframe : ScanCore scan ready { s with phase := exhausted } :=
    h.frame rfl rfl rfl rfl rfl rfl
  split_ifs at hstep with hcancel hid
  · obtain rfl := Option.some.inj hstep
    refine ⟨.inr ⟨halive, _, rfl, hexh ▸ hframe.frame rfl rfl rfl rfl rfl rfl, ?_⟩, ?_⟩
    · exact hexhausted _ rfl nofun
    · exact Nat.add_lt_add_left hweight.1 _
  · obtain rfl := Option.some.inj hstep
    rcases h.startNext_cases hpos hid exhausted after with
      ⟨hrun, hall⟩ | ⟨t, rfl, ht, hphase, hset, hseen, hgone, hcurrent, hmono, hcount⟩
    · rw [hrun]
      refine ⟨.inr ⟨halive, _, rfl, hexh ▸ hframe, hexhausted _ rfl fun _ => hall⟩, ?_⟩
      exact Nat.add_lt_add_left hweight.1 _
    · refine ⟨.inr ⟨hgone.trans halive, _, hphase, hafr ▸ ht, ?_⟩, ?_⟩
      · exact hafter _ hset hcurrent hseen fun hall t ht p hp => hmono p t (hall t ht p hp)
      · have hle := ht.feed_ok.handedCount_le
        rw [Scan.measure, Scan.measure, hphase, hset, hcount]
        omega

lemma ScanInv.step_priming {left : ℕ} (h : ScanInv scan (.priming left) s)
    (hpos : 0 < scan.probers.length) (halive : s.receiverGone = false)
    (hstep : scan.step a s = some s') : scan.Good s' ∧ scan.measure s' < scan.measure s := by
  obtain ⟨hphase, hcore, hacc⟩ := h
  have hacc : s.set.length + left = scan.scheduler.maxConcurrent := hacc
  unfold Scan.step at hstep
  rw [hphase] at hstep
  cases left with
  | zero =>
    cases a with
    | proceed =>
      obtain rfl := Option.some.inj hstep
      refine ⟨.inr ⟨halive, _, rfl, hcore.frame rfl rfl rfl rfl rfl rfl, ?_⟩, ?_⟩
      · exact ⟨hacc.le, fun _ => .inl hacc⟩
      · simp [Scan.measure, hphase, ScanPhase.weight]
    | _ => cases hstep
  | succ left =>
    cases a with
    | readCancel cancel id =>
      refine hcore.refill hpos halive hstep ⟨rfl, rfl⟩ (by simp [hphase, ScanPhase.weight]) ?_ ?_
      · exact fun t hset hall => ⟨by rw [hset]; omega, fun hseen => .inr (hall hseen)⟩
      · intro t hset _ _ _
        change t.set.length + left = _
        omega
    | _ => cases hstep

lemma ScanInv.step_joining (h : ScanInv scan .joining s) (halive : s.receiverGone = false)
    (hstep : scan.step a s = some s') : scan.Good s' ∧ scan.measure s' < scan.measure s := by
  obtain ⟨hphase, hcore, hle, hfull⟩ := h
  unfold Scan.step at hstep
  rw [hphase] at hstep
  cases a with
  | proceed =>
    split_ifs at hstep with hempty
    obtain rfl := Option.some.inj hstep
    have hset : s.set = [] := isEmpty_iff.mp hempty
    refine ⟨.inr ⟨halive, _, rfl, hcore.frame rfl rfl rfl rfl rfl rfl, hset, fun hseen => ?_⟩, ?_⟩
    · refine (hfull hseen).resolve_left fun hcap => ?_
      rw [hset, length_nil] at hcap
      exact absurd scan.scheduler.pos (by omega)
    · simp [Scan.measure, hphase, ScanPhase.weight]
  | join id =>
    obtain ⟨k, hk, rfl⟩ := map_eq_some_iff.mp hstep
    obtain ⟨r, t, hrun, ht, htphase, htset, htfeed, htseen, htgone⟩ :=
      hcore.recordOutcome_cases (mem_of_find?_eq_some hk)
    rw [hrun]
    refine ⟨.inr ⟨htgone.trans halive, _, htphase, ht, by omega, fun hseen => ?_⟩, ?_⟩
    · refine (hfull (htseen ▸ hseen)).imp (fun hcap => by omega) fun hall => ?_
      exact fun t' ht' p hp => htfeed ▸ hall t' ht' p hp
    · grind [Scan.measure, ScanPhase.weight]
  | _ => cases hstep

variable {ready : Option ℕ}

lemma ScanInv.step_refilling (h : ScanInv scan (.refilling ready) s)
    (hpos : 0 < scan.probers.length) (halive : s.receiverGone = false)
    (hstep : scan.step a s = some s') : scan.Good s' ∧ scan.measure s' < scan.measure s := by
  obtain ⟨hphase, hcore, hle, hfull⟩ := h
  unfold Scan.step at hstep
  rw [hphase] at hstep
  cases a with
  | readCancel cancel id =>
    refine hcore.refill hpos halive hstep ⟨rfl, rfl⟩ (by simp [hphase, ScanPhase.weight]) ?_ ?_
    · intro t hset hall
      refine ⟨?_, .inl (hset ▸ hle), fun hseen => .inr (hall hseen)⟩
      rw [hset]
      omega
    · intro t hset hcurrent hseen hall
      exact ⟨by omega, .inr hcurrent, fun ht =>
        (hfull (hseen ▸ ht)).imp (fun hcap => by omega) hall⟩
  | _ => cases hstep

lemma ScanInv.step_sending (h : ScanInv scan (.sending ready) s) (hpos : 0 < scan.probers.length)
    (halive : s.receiverGone = false) (hstep : scan.step a s = some s') :
    scan.Good s' ∧ scan.measure s' < scan.measure s := by
  obtain ⟨hphase, hcore, hle, -, hfull⟩ := h
  unfold Scan.step at hstep
  rw [hphase] at hstep
  cases ready with
  | none =>
    cases a with
    | proceed =>
      obtain rfl := Option.some.inj hstep
      refine ⟨.inr ⟨halive, _, rfl, hcore.frame rfl rfl rfl rfl rfl rfl, hle, hfull⟩, ?_⟩
      simp [Scan.measure, hphase, ScanPhase.weight]
    | _ => cases hstep
  | some t =>
    cases a with
    | send received =>
      obtain rfl := Option.some.inj hstep
      obtain ⟨⟨u, hrun, hu, huphase, huset, hufeed, huseen, hugone⟩, hfalse⟩ :=
        hcore.sendReady_cases hpos
      cases received with
      | true =>
        rw [hrun]
        refine ⟨.inr ⟨hugone.trans halive, _, huphase, hu, huset ▸ hle, fun hseen => ?_⟩, ?_⟩
        · rw [huset]
          refine (hfull (huseen ▸ hseen)).imp_right fun hall => ?_
          exact fun t' ht' p hp => hufeed ▸ hall t' ht' p hp
        · simp [Scan.measure, hphase, huphase, huset, hufeed, ScanPhase.weight]
      | false =>
        obtain ⟨hgphase, hgone, hgset, hgfeed⟩ := hfalse
        refine ⟨.inl ⟨hgone, hgphase⟩, ?_⟩
        simp [Scan.measure, hphase, hgphase, hgset, hgfeed, ScanPhase.weight]
    | _ => cases hstep

lemma Scan.Good.step (h : scan.Good s) (hpos : 0 < scan.probers.length)
    (hstep : scan.step a s = some s') : scan.Good s' ∧ scan.measure s' < scan.measure s := by
  have hreturned : s.phase ≠ .returned := by
    intro hphase
    unfold Scan.step at hstep
    rw [hphase] at hstep
    cases hstep
  rcases h with ⟨-, hphase⟩ | ⟨halive, phase, hinv⟩
  · exact absurd hphase hreturned
  · cases phase with
    | priming left => exact hinv.step_priming hpos halive hstep
    | joining => exact hinv.step_joining halive hstep
    | refilling ready => exact hinv.step_refilling hpos halive hstep
    | sending ready => exact hinv.step_sending hpos halive hstep
    | returned => exact absurd hinv.phase_eq hreturned
    | panicked msg => exact hinv.accounted.elim

/-! ## Progress -/

/-- Whatever the flag, the tasks and the receiver do, it goes on until it returns. -/
def Scan.GoesOn (scan : Scan P T) (s : ScanState P T) : Prop :=
  match s.phase with
  | .priming 0 => (scan.step .proceed s).isSome
  | .priming (_ + 1) => ∀ cancel, ∃ id, (scan.step (.readCancel cancel id) s).isSome
  | .joining => (s.set = [] → (scan.step .proceed s).isSome) ∧
      ∀ k ∈ s.set, (scan.step (.join k.id) s).isSome
  | .refilling _ => ∀ cancel, ∃ id, (scan.step (.readCancel cancel id) s).isSome
  | .sending none => (scan.step .proceed s).isSome
  | .sending (some _) => ∀ received, (scan.step (.send received) s).isSome
  | .returned => True
  | .panicked _ => False

lemma exists_fresh_id (l : List ℕ) : ∃ id, id ∉ l := by
  obtain ⟨id, hid⟩ := Infinite.exists_notMem_finset l.toFinset
  exact ⟨id, fun h => hid (mem_toFinset.mpr h)⟩

lemma ScanInv.goesOn {phase : ScanPhase} (h : ScanInv scan phase s) : scan.GoesOn s := by
  obtain ⟨id, hid⟩ := exists_fresh_id (s.set.map (·.id))
  have hph := h.phase_eq
  unfold Scan.GoesOn
  rw [hph]
  cases phase with
  | priming left =>
    cases left with
    | zero => simp [Scan.step, hph]
    | succ left =>
      intro cancel
      refine ⟨id, ?_⟩
      cases cancel <;> simp [Scan.step, hph, hid]
  | joining =>
    refine ⟨fun hset => by simp [Scan.step, hph, hset], fun k hk => ?_⟩
    have hfind : (s.set.find? (·.id = k.id)).isSome :=
      find?_isSome.mpr ⟨k, hk, by simp⟩
    simp only [Scan.step, hph, isSome_map]
    exact hfind
  | refilling ready =>
    intro cancel
    refine ⟨id, ?_⟩
    cases cancel <;> simp [Scan.step, hph, hid]
  | sending ready =>
    cases ready with
    | none => simp [Scan.step, hph]
    | some t => exact fun received => by simp [Scan.step, hph]
  | returned => trivial
  | panicked msg => exact h.accounted

/-! ## Bounds -/

lemma ScanCore.running_or_current (h : ScanCore scan ready s) {t : ℕ}
    (hhanded : ∃ p, s.feed.Handed p t) (hnot : ¬ scan.AllDone s t) :
    t ∈ s.set.map (·.targetIndex) ∨ ∃ p, s.feed.current = some (t, p) := by
  obtain ⟨-, -, ⟨ct, cp⟩, hc, hlt | ⟨rfl, -⟩⟩ := hhanded
  · left
    simp only [Scan.AllDone, not_forall] at hnot
    obtain ⟨p, hp, hnd⟩ := hnot
    have hph : s.feed.Handed p t := ⟨h.feed_ok.numProbers_eq ▸ hp, (ct, cp), hc, .inl hlt⟩
    obtain ⟨k, hk, -, hkt⟩ := not_not.mp fun hrun => hnd ⟨hph, hrun⟩
    grind
  · grind

def ScanState.currentTarget (s : ScanState P T) : List ℕ := (s.feed.current.map Prod.fst).toList

lemma length_currentTarget_le (s : ScanState P T) : s.currentTarget.length ≤ 1 := by
  unfold ScanState.currentTarget
  cases s.feed.current <;> simp

lemma ScanCore.length_targetMap_le (h : ScanCore scan ready s) :
    s.targetMap.keys.length ≤ 1 + s.set.length := by
  have hsub : s.targetMap.keys ⊆ s.currentTarget ++ s.set.map (·.targetIndex) := by
    intro t ht
    obtain ⟨x, hx⟩ := isSome_iff_exists.mp (AList.lookup_isSome.mpr ht)
    obtain ⟨-, hhanded, hnot⟩ := (h.map_iff t x).mp hx
    rw [mem_append]
    rcases h.running_or_current hhanded hnot with hrun | ⟨p, hp⟩
    · exact .inr hrun
    · exact .inl (by simp [ScanState.currentTarget, hp])
  have hle := (subperm_of_subset s.targetMap.keys_nodup hsub).length_le
  have hcur := length_currentTarget_le s
  grind

lemma ScanCore.live_cases (h : ScanCore scan ready s) {t : ℕ} (ht : t ∈ s.live.keys) :
    ready = some t ∨ t ∈ s.set.map (·.targetIndex) ∨ ∃ p, s.feed.current = some (t, p) := by
  obtain ⟨⟨p, hp⟩, hunsent⟩ := (h.live_iff t).mp (AList.lookup_isSome.mpr ht)
  by_cases hall : scan.AllDone s t
  · exact .inl ((h.complete t hall).resolve_left hunsent)
  · exact .inr (h.running_or_current ⟨p, hp.1⟩ hall)

lemma ScanCore.length_live_le (h : ScanCore scan ready s) :
    s.live.keys.length ≤ ready.toList.length + 1 + s.set.length := by
  have hsub : s.live.keys ⊆ ready.toList ++ (s.currentTarget ++ s.set.map (·.targetIndex)) := by
    intro t ht
    simp only [mem_append]
    rcases h.live_cases ht with hr | hrun | ⟨p, hp⟩
    · exact .inl (by simp [hr])
    · exact .inr (.inr hrun)
    · exact .inr (.inl (by simp [ScanState.currentTarget, hp]))
  have hle := (subperm_of_subset s.live.keys_nodup hsub).length_le
  have hcur := length_currentTarget_le s
  grind

lemma ScanCore.length_live_le_of_running (h : ScanCore scan ready s) (hcurrent : s.CurrentRunning) :
    s.live.keys.length ≤ ready.toList.length + s.set.length := by
  obtain ⟨k, hk, p, hp⟩ := hcurrent
  have hsub : s.live.keys ⊆ ready.toList ++ s.set.map (·.targetIndex) := by
    intro t ht
    simp only [mem_append]
    rcases h.live_cases ht with hr | hrun | ⟨p', hp'⟩
    · exact .inl (by simp [hr])
    · exact .inr hrun
    · grind
  have hle := (subperm_of_subset s.live.keys_nodup hsub).length_le
  grind

lemma ScanInv.bounds {phase : ScanPhase} (h : ScanInv scan phase s) :
    s.set.length ≤ scan.scheduler.maxConcurrent ∧
      s.targetMap.keys.length ≤ scan.scheduler.maxConcurrent + 1 ∧
      s.live.keys.length ≤ scan.scheduler.maxConcurrent + 1 := by
  obtain ⟨-, hcore, hacc⟩ := h
  have hmap := hcore.length_targetMap_le
  have hlive := hcore.length_live_le
  have hready : phase.ready.toList.length ≤ 1 := by cases phase.ready <;> simp
  cases phase with
  | priming left => grind [Scan.Accounted, ScanPhase.ready, toList_none, length_nil]
  | joining => grind [Scan.Accounted, ScanPhase.ready, toList_none, length_nil]
  | refilling ready =>
    obtain ⟨hle, -⟩ := hacc
    omega
  | sending ready =>
    obtain ⟨hle, hroom | hcurrent, -⟩ := hacc
    · omega
    · have hlive' := hcore.length_live_le_of_running hcurrent
      omega
  | returned =>
    simp only [ScanPhase.ready, toList_none, length_nil] at hlive
    obtain ⟨hset, -⟩ := hacc
    grind
  | panicked msg => exact hacc.elim

/-! ## What has been sent -/

lemma FeedOk.exists_segment {targets : List T} {n : ℕ} {f : Feed T} (h : FeedOk targets n f)
    (hpos : 0 < n) : ∃ m ≤ targets.length, ∀ t, (∀ p < n, f.Handed p t) ↔ t < m := by
  obtain ⟨rest, n', i, current⟩ := f
  obtain ⟨rfl, -, hwithin⟩ := h
  dsimp only at hwithin hpos ⊢
  cases current with
  | none =>
    refine ⟨0, Nat.zero_le _, fun t => ?_⟩
    simp only [not_handed_start, imp_false, not_lt, Nat.not_lt_zero, iff_false, not_forall]
    exact ⟨0, by omega⟩
  | some c =>
    obtain ⟨ct, cp⟩ := c
    obtain ⟨hct, -, hcp, -, -⟩ := hwithin ct cp rfl
    -- The current target counts once its last pass has been handed out.
    refine ⟨if cp = n' then ct + 1 else ct, by split_ifs <;> omega, fun t => ?_⟩
    simp only [handed_iff]
    constructor
    · intro hall
      have hlast := hall (n' - 1) (by omega)
      split_ifs <;> omega
    · intro ht p hp
      split_ifs at ht <;> omega

lemma ScanCore.sentIndices_perm (h : ScanCore scan none s) (hpos : 0 < scan.probers.length)
    (hset : s.set = []) : ∃ m ≤ scan.targets.length, s.sentIndices.Perm (List.range m) ∧
      (scan.Exhausted s → m = scan.targets.length) := by
  obtain ⟨m, hm, hseg⟩ := h.feed_ok.exists_segment hpos
  have hdone : ∀ p t, s.Done p t ↔ s.feed.Handed p t := by
    simp [ScanState.Done, ScanState.Running, hset]
  have hall : ∀ t, scan.AllDone s t ↔ t < m := by
    intro t
    rw [← hseg]
    exact forall₂_congr fun p _ => hdone p t
  refine ⟨m, hm, ?_, fun hex => ?_⟩
  · rw [perm_ext_iff_of_nodup h.sent_nodup nodup_range]
    intro t
    rw [mem_range, ← hall]
    constructor
    · intro hmem
      obtain ⟨x, hx, rfl⟩ := mem_map.mp hmem
      exact (h.sent_ok x hx).1
    · exact fun ht => (h.complete t ht).resolve_right (by simp)
  · refine le_antisymm hm (not_lt.mp fun hlt => ?_)
    exact absurd ((hseg m).mp fun p hp => hex m hlt p hp) (lt_irrefl m)

def Scan.stepBound (scan : Scan P T) : ℕ :=
  4 * (scan.targets.length * scan.probers.length) + scan.scheduler.maxConcurrent + 2

lemma Scan.measure_init (hpos : 0 < scan.probers.length) :
    scan.measure scan.init = scan.stepBound := by
  simp only [Scan.measure, Scan.init, if_neg hpos.ne', ScanPhase.weight, Feed.handedCount, Feed.new,
    length_nil, Scan.stepBound]
  omega

variable {actions : List ScanAction}

lemma Scan.Reaches.inv (hprobers : scan.probers ≠ []) (hrun : scan.Reaches actions s)
    (halive : s.receiverGone = false) :
    actions.length ≤ scan.stepBound ∧ ∃ phase, ScanInv scan phase s := by
  have hpos : 0 < scan.probers.length := length_pos_iff.mpr hprobers
  have hgood : ∀ a (u u' : ScanState P T), scan.Good u → scan.step a u = some u' → scan.Good u' :=
    fun a u u' hu hstep => (hu.step hpos hstep).1
  have hdec : ∀ a (u u' : ScanState P T), scan.Good u → scan.step a u = some u' →
      scan.measure u' < scan.measure u := fun a u u' hu hstep => (hu.step hpos hstep).2
  have hinit := Scan.init_good hpos
  have hlen := runActions_length_le hgood hdec hinit hrun
  rw [Scan.measure_init hpos] at hlen
  obtain ⟨hgone, -⟩ | ⟨-, hinv⟩ := runActions_invariant hgood hinit hrun
  · grind
  · exact ⟨by omega, hinv⟩

/-- What the scheduler sends for the target at an index. -/
def Scan.scanAt (scan : Scan P T) (i : ℕ) : TargetScan :=
  match scan.targets[i]? with
  | some target => scan.scanOf i target
  | none => ⟨i, []⟩

lemma Scan.scanAt_targetIndex (scan : Scan P T) (i : ℕ) : (scan.scanAt i).targetIndex = i := by
  unfold scanAt
  split <;> rfl

/-- With a live receiver the first targets were sent, and all unless the flag was seen. -/
lemma Scan.Reaches.sent_of_returned (hprobers : scan.probers ≠ []) (hrun : scan.Reaches actions s)
    (halive : s.receiverGone = false) (hreturned : s.phase = .returned) :
    (∀ x ∈ s.sent, x = scan.scanAt x.targetIndex) ∧
    ∃ m ≤ scan.targets.length, s.sentIndices.Perm (List.range m) ∧
      (s.cancelSeen = false → m = scan.targets.length) := by
  obtain ⟨-, phase, hphase, hcore, hacc⟩ := hrun.inv hprobers halive
  obtain rfl : ScanPhase.returned = phase := hreturned.symm.trans hphase
  obtain ⟨hset, hfull⟩ := hacc
  obtain ⟨m, hm, hperm, hall⟩ := hcore.sentIndices_perm (length_pos_iff.mpr hprobers) hset
  refine ⟨fun x hx => ?_, m, hm, hperm, fun hseen => hall (hfull hseen)⟩
  obtain ⟨-, target, htarget, hx⟩ := hcore.sent_ok x hx
  rw [Scan.scanAt, htarget]
  exact hx

/-- Delivery. In every reachable state of a scan with probers and a live receiver: the run is
bounded and can go on until it returns; tasks in flight and maps are bounded; every target index is
sent at most once, with one outcome per prober in pass order; and on return the indices sent are an
initial segment of the stream, all of it if no cancel was seen. -/
theorem run_scan_delivers (scan : Scan P T) (hprobers : scan.probers ≠ [])
    {actions : List ScanAction} {s : ScanState P T} (hrun : scan.Reaches actions s)
    (halive : s.receiverGone = false) :
    (actions.length ≤ scan.stepBound ∧ scan.GoesOn s) ∧
    (s.set.length ≤ scan.scheduler.maxConcurrent ∧
      s.targetMap.keys.length ≤ scan.scheduler.maxConcurrent + 1 ∧
      s.live.keys.length ≤ scan.scheduler.maxConcurrent + 1) ∧
    (s.sentIndices.Nodup ∧ ∀ x ∈ s.sent, ∃ target,
      scan.targets[x.targetIndex]? = some target ∧ x = scan.scanOf x.targetIndex target) ∧
    (s.phase = .returned → ∃ m ≤ scan.targets.length, s.sentIndices.Perm (List.range m) ∧
      (s.cancelSeen = false → m = scan.targets.length)) := by
  obtain ⟨hlen, phase, hinv⟩ := hrun.inv hprobers halive
  exact ⟨⟨hlen, hinv.goesOn⟩, hinv.bounds, ⟨hinv.core.sent_nodup, fun x hx =>
    (hinv.core.sent_ok x hx).2⟩, fun hphase => (hrun.sent_of_returned hprobers halive hphase).2⟩

/-- Two targets, two probers, all tasks panic, one at a time. -/
def panickingScan : Scan Unit Unit where
  scheduler := .new 0
  probers := [(), ()]
  targets := [(), ()]
  ends _ _ _ _ := .panicked

/-- Cancelled in the middle of the second target. -/
def cancelledRun : List ScanAction :=
  [.readCancel false 7, .proceed, .join 7, .readCancel false 3, .proceed, .join 3,
    .readCancel false 7, .send true, .join 7, .readCancel true 0, .proceed, .proceed]

/-- The cancelled run has sent the first target only. -/
theorem run_scan_delivers_cancelled : ∃ s : ScanState Unit Unit,
    panickingScan.Reaches cancelledRun s ∧ s.phase = .returned ∧ s.sentIndices = [0] ∧
    cancelledRun.length ≤ panickingScan.stepBound ∧
    ∃ m ≤ panickingScan.targets.length, s.sentIndices.Perm (List.range m) := by
  obtain ⟨s, hrun, hph, halive, hsent⟩ : ∃ s : ScanState Unit Unit,
      panickingScan.Reaches cancelledRun s ∧ s.phase = .returned ∧ s.receiverGone = false ∧
        s.sentIndices = [0] := ⟨_, rfl, rfl, rfl, rfl⟩
  obtain ⟨⟨hlen, -⟩, -, -, hret⟩ :=
    run_scan_delivers panickingScan (by decide) hrun halive
  obtain ⟨m, hm, hperm, -⟩ := hret hph
  exact ⟨s, hrun, hph, hsent, hlen, m, hm, hperm⟩

end Rastreo
