import Rastreo.Scheduler.Delivery

/-!
# Cancelled scans

Probes in flight are joined and filed, but the flag stops the feed between two probes, not between
two targets: a target may have started some of its probes and not the others, and is then never sent
(`started_target_unreported`).
-/

namespace Rastreo

variable {P T : Type} {scan : Scan P T} {s s' : ScanState P T}

/-! ## The feed at rest -/

/-- An action that finds the flag set, if it reads it. -/
def ScanAction.SeesCancel (a : ScanAction) : Prop := ∀ cancel id, a = .readCancel cancel id → cancel

lemma recordOutcome_feed (task : Task P T) (s : ScanState P T) :
    (recordOutcome scan task s).feed = s.feed := by
  unfold recordOutcome
  dsimp only
  split
  · rfl
  · split_ifs <;> rfl

lemma sendReady_feed (received : Bool) (t : ℕ) (s : ScanState P T) :
    (sendReady received t s).feed = s.feed := by
  unfold sendReady
  split
  · rfl
  · split
    · rfl
    · split_ifs <;> rfl

lemma Scan.step_feed {a : ScanAction} (ha : a.SeesCancel) (hstep : scan.step a s = some s') :
    s'.feed = s.feed := by
  unfold Scan.step at hstep
  split at hstep
  · grind
  · rw [if_pos (ha _ _ rfl)] at hstep
    grind
  · grind
  · obtain ⟨task, -, rfl⟩ := Option.map_eq_some_iff.mp hstep
    exact recordOutcome_feed task s
  · rw [if_pos (ha _ _ rfl)] at hstep
    grind
  · grind
  · obtain rfl := Option.some.inj hstep
    exact sendReady_feed _ _ s
  · cases hstep

/-! ## Whole targets -/

lemma FeedOk.started_complete_iff {targets : List T} {n : ℕ} {f : Feed T} (h : FeedOk targets n f)
    (hpos : 0 < n) : (∀ t, (∃ p, f.Handed p t) → ∀ p < n, f.Handed p t) ↔ n ∣ f.handedCount := by
  obtain ⟨rest, n', i, current⟩ := f
  obtain ⟨rfl, -, hwithin⟩ := h
  dsimp only at hwithin hpos ⊢
  unfold Feed.handedCount
  cases current with
  | none => simp [not_handed_start]
  | some c =>
    obtain ⟨t, p⟩ := c
    obtain ⟨-, hp, hpn, -, -⟩ := hwithin t p rfl
    simp only [handed_iff]
    rw [Nat.dvd_add_right (Nat.dvd_mul_left n' t)]
    constructor
    · intro hall
      -- The last pass of the current target has been handed out.
      have hlast := hall t ⟨0, hpos, .inr ⟨rfl, hp⟩⟩ (n' - 1) (by omega)
      have hfull : p = n' := by omega
      rw [hfull]
    · grind [le_antisymm, Nat.le_of_dvd]

/-- A scan returned to a live receiver has sent the targets with all passes handed out. -/
lemma ScanInv.scanAt_mem_sent_iff (h : ScanInv scan .returned s) (t : ℕ) :
    scan.scanAt t ∈ s.sent ↔ ∀ p < scan.probers.length, s.feed.Handed p t := by
  obtain ⟨-, hcore, hset, -⟩ := h
  have hall : scan.AllDone s t ↔ ∀ p < scan.probers.length, s.feed.Handed p t := by
    refine forall₂_congr fun p _ => ?_
    simp [ScanState.Done, ScanState.Running, hset]
  rw [← hall]
  constructor
  · intro hmem
    have hdone := (hcore.sent_ok _ hmem).1
    rwa [Scan.scanAt_targetIndex] at hdone
  · intro hdone
    obtain ⟨x, hx, rfl⟩ := List.mem_map.mp
      ((hcore.complete t hdone).resolve_right (by simp [ScanPhase.ready]))
    obtain ⟨-, target, htarget, hscan⟩ := hcore.sent_ok x hx
    have hat : scan.scanAt x.targetIndex = scan.scanOf x.targetIndex target := by
      rw [Scan.scanAt, htarget]
    rw [hat, ← hscan]
    exact hx

/-- From a state on, every read of the cancel flag finds it set. The scan goes on until it returns,
and having returned to a live receiver it has sent every target with a probe started, with the
outcomes of all probers, exactly if the number of probes started is a multiple of that of probers.
-/
theorem started_targets_reported_iff (scan : Scan P T) (hprobers : scan.probers ≠ [])
    {before after : List ScanAction} {cut s : ScanState P T} (hcut : scan.Reaches before cut)
    (hrun : runActions scan.step after cut = some s) (hcancel : ∀ a ∈ after, a.SeesCancel)
    (halive : s.receiverGone = false) :
    ((before ++ after).length ≤ scan.stepBound ∧ scan.GoesOn s) ∧
    (s.phase = .returned → ((∀ t, (∃ p, cut.feed.Handed p t) → scan.scanAt t ∈ s.sent) ↔
        scan.probers.length ∣ cut.feed.handedCount)) := by
  have hpos : 0 < scan.probers.length := List.length_pos_iff.mpr hprobers
  have hrea : scan.Reaches (before ++ after) s := by
    rw [Scan.Reaches, runActions_append, hcut]
    exact hrun
  obtain ⟨hlen, phase, hinv⟩ := hrea.inv hprobers halive
  have hfeed : s.feed = cut.feed :=
    runActions_invariant_on (P := fun u => u.feed = cut.feed)
      (fun a u u' ha hu hstep => (Scan.step_feed ha hstep).trans hu) hcancel rfl hrun
  have hok : FeedOk scan.targets scan.probers.length cut.feed := hfeed ▸ hinv.core.feed_ok
  refine ⟨⟨hlen, hinv.goesOn⟩, fun hph => ?_⟩
  rw [← hok.started_complete_iff hpos, ← hfeed]
  obtain rfl : ScanPhase.returned = phase := hph.symm.trans hinv.phase_eq
  exact forall₂_congr fun t _ => hinv.scanAt_mem_sent_iff t

/-- The first target has started its first probe when the flag is set, and is never sent. -/
theorem started_target_unreported : ∃ cut s : ScanState Unit Unit,
    panickingScan.Reaches [.readCancel false 7, .proceed, .join 7] cut ∧
    (∃ p, cut.feed.Handed p 0) ∧
    runActions panickingScan.step [.readCancel true 0, .proceed, .proceed] cut = some s ∧
    s.receiverGone = false ∧ s.phase = .returned ∧ s.sent = [] :=
  ⟨_, _, rfl, ⟨0, by decide, (0, 1), rfl, by decide⟩, rfl, rfl, rfl, rfl⟩

/-- The first target has started both probes when the flag is set: it is sent. -/
theorem started_targets_reported_iff_whole : ∃ cut s : ScanState Unit Unit,
    panickingScan.Reaches [.readCancel false 7, .proceed, .join 7, .readCancel false 3] cut ∧
    runActions panickingScan.step [.proceed, .join 3, .readCancel true 0, .send true, .proceed]
      cut = some s ∧
    s.phase = .returned ∧ cut.feed.handedCount = 2 ∧
    ∀ t, (∃ p, cut.feed.Handed p t) → panickingScan.scanAt t ∈ s.sent := by
  obtain ⟨cut, s, hcut, hrun, halive, hph, hcount⟩ : ∃ cut s : ScanState Unit Unit,
      panickingScan.Reaches [.readCancel false 7, .proceed, .join 7, .readCancel false 3] cut ∧
      runActions panickingScan.step [.proceed, .join 3, .readCancel true 0, .send true, .proceed]
        cut = some s ∧ s.receiverGone = false ∧ s.phase = .returned ∧
      cut.feed.handedCount = 2 := ⟨_, _, rfl, rfl, rfl, rfl, rfl⟩
  have hcancel : ∀ a ∈ [ScanAction.proceed, .join 3, .readCancel true 0, .send true, .proceed],
      a.SeesCancel := by
    rintro a ha cancel id rfl
    simp only [List.mem_cons, reduceCtorEq, ScanAction.readCancel.injEq, List.not_mem_nil, or_false,
      false_or] at ha
    exact ha.1
  have hrep := started_targets_reported_iff panickingScan (by decide) hcut hrun hcancel halive
  refine ⟨cut, s, hcut, hrun, hph, hcount, (hrep.2 hph).mpr ?_⟩
  rw [hcount]
  decide

end Rastreo
