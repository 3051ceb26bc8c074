import Rastreo.Pipeline.InOrder
import Rastreo.Scheduler.Delivery

/-!
# How large the reorder buffer gets

The scheduler, the bounded channel and the receive loop as one machine.  The stream takes every scan
out of the channel and keeps it until its turn comes, so a slow target is overtaken by any number of
later ones and no multiple of `max_concurrent` bounds the buffer (`reorder_buffer_unbounded`).  The
peak is the largest `heldBack`, the number of targets received by then that are not before one
(`reorder_peak_le_iff`).
-/

namespace Rastreo

open Async List Option

/-! ## Receiving a scan -/

/-- `reorder.insert`. -/
def Reorder.insert (reorder : Reorder) (targetScan : TargetScan) : Reorder :=
  ⟨reorder.buffer.insert targetScan.targetIndex targetScan, reorder.nextExpected⟩

def Reorder.len (reorder : Reorder) : ℕ := reorder.buffer.keys.length

/-- Buffer a scan and take out what is ready. -/
def Reorder.receive (reorder : Reorder) (targetScan : TargetScan) : Reorder :=
  (reorder.insert targetScan).drain (reorder.insert targetScan).len

/-! ## The scheduler and the stream together -/

/-- The scheduler and the stream that receives from it. -/
structure StreamScan (P T : Type) where
  scan : ScanState P T
  channel : List TargetScan
  received : List TargetScan
  reorder : Reorder
  reorderPeak : ℕ

inductive StreamAction where
  | scan (action : ScanAction)
  | receive

section Machine

variable {P T : Type} (scan : Scan P T)

def Scan.streamInit : StreamScan P T := ⟨scan.init, [], [], ⟨∅, 0⟩, 0⟩

def Scan.capacity : ℕ := max scan.scheduler.maxConcurrent 1

/-- A send succeeds once the channel has room. -/
def Scan.channelAdmits (channel : List TargetScan) : ScanAction → Bool
  | .send received => received && decide (channel.length < scan.capacity)
  | _ => true

/-- One step of the scheduler or one round of the receive loop. -/
def Scan.streamStep : StreamAction → StreamScan P T → Option (StreamScan P T)
  | .scan action, s =>
    if scan.channelAdmits s.channel action then
      (scan.step action s.scan).map fun u =>
        { s with scan := u, channel := s.channel ++ u.sent.drop s.scan.sent.length }
    else none
  | .receive, s =>
    match s.channel with
    | [] => none
    | targetScan :: channel => some
      { s with
        channel
        received := s.received ++ [targetScan]
        reorder := s.reorder.receive targetScan
        reorderPeak := max s.reorderPeak (s.reorder.insert targetScan).len }

/-- The states the scheduler and the stream can reach. -/
def Scan.StreamReaches (actions : List StreamAction) (s : StreamScan P T) : Prop :=
  runActions scan.streamStep actions scan.streamInit = some s

end Machine

/-- The targets in the order in which the stream received them. -/
def StreamScan.order {P T : Type} (s : StreamScan P T) : List ℕ := s.received.map (·.targetIndex)

/-! ## What is sent -/

section Sent

variable {P T : Type} {scan : Scan P T} {s s' : ScanState P T}

lemma startNext_sent (id : ℕ) (exhausted after : ScanPhase) (s : ScanState P T) :
    (startNext scan id exhausted after s).sent = s.sent ∧
      (startNext scan id exhausted after s).receiverGone = s.receiverGone := by
  unfold startNext
  split
  · exact ⟨rfl, rfl⟩
  · unfold spawnProbe
    split <;> exact ⟨rfl, rfl⟩

lemma recordOutcome_sent (task : Task P T) (s : ScanState P T) :
    (recordOutcome scan task s).sent = s.sent ∧
      (recordOutcome scan task s).receiverGone = s.receiverGone := by
  unfold recordOutcome
  dsimp only
  split
  · exact ⟨rfl, rfl⟩
  · grind

lemma sendReady_sent (t : ℕ) (s : ScanState P T) :
    s.sent <+: (sendReady true t s).sent ∧ (sendReady true t s).receiverGone = s.receiverGone := by
  unfold sendReady
  split
  · simp
  · split
    · simp
    · simp

/-- Unless the receiver is gone, what was sent grows. -/
lemma Scan.step_sent {a : ScanAction} (ha : a ≠ .send false) (hstep : scan.step a s = some s') :
    s.sent <+: s'.sent ∧ s'.receiverGone = s.receiverGone := by
  have hsame : ∀ u : ScanState P T, u.sent = s.sent ∧ u.receiverGone = s.receiverGone →
      s.sent <+: u.sent ∧ u.receiverGone = s.receiverGone :=
    fun u hu => ⟨hu.1 ▸ prefix_rfl, hu.2⟩
  unfold Scan.step at hstep
  split at hstep
  · grind
  · split_ifs at hstep
    · grind
    · obtain rfl := Option.some.inj hstep
      exact hsame _ (startNext_sent _ _ _ s)
  · split_ifs at hstep
    grind
  · obtain ⟨task, -, rfl⟩ := map_eq_some_iff.mp hstep
    exact hsame _ (recordOutcome_sent task s)
  · split_ifs at hstep
    · grind
    · obtain rfl := Option.some.inj hstep
      exact hsame _ (startNext_sent _ _ _ s)
  · grind
  · rename_i received _
    cases received with
    | false => exact absurd rfl ha
    | true =>
      obtain rfl := Option.some.inj hstep
      exact sendReady_sent _ s
  · cases hstep

lemma Scan.Reaches.sentIndices_nodup {actions : List ScanAction} (hrun : scan.Reaches actions s)
    (halive : s.receiverGone = false) : s.sentIndices.Nodup := by
  by_cases hprobers : scan.probers = []
  · -- Without probers the scan has returned before its first step.
    have hreturned : scan.init.phase = .returned := if_pos (by rw [hprobers, length_nil])
    have hnil : s.sent = [] :=
      (runActions_invariant (P := fun u => u.phase = .returned ∧ u.sent = [])
        (fun a u u' hu hstep => by
          unfold Scan.step at hstep
          grind)
        ⟨hreturned, rfl⟩ hrun).2
    rw [ScanState.sentIndices, hnil]
    exact nodup_nil
  · obtain ⟨-, phase, hinv⟩ := hrun.inv hprobers halive
    exact hinv.core.sent_nodup

end Sent

/-! ## The buffer and the order of completion -/

/-- Targets received no later than `t` that are not before it. -/
def heldBack (order : List ℕ) (t : ℕ) : ℕ :=
  (order.take (order.idxOf t + 1)).countP (t ≤ ·)

variable {t : ℕ}

lemma heldBack_append_of_mem {order : List ℕ} (ht : t ∈ order) (x : ℕ) :
    heldBack (order ++ [x]) t = heldBack order t := by
  rw [heldBack, heldBack, idxOf_append_of_mem ht,
    take_append_of_le_length (Nat.succ_le_of_lt (idxOf_lt_length_of_mem ht))]

lemma heldBack_append_of_notMem {order : List ℕ} (ht : t ∉ order) (x : ℕ) :
    heldBack (order ++ [x]) t = (order ++ [x]).countP (t ≤ ·) := by
  rw [heldBack, idxOf_append_of_notMem ht, take_of_length_le]
  simp

lemma heldBack_of_notMem {order : List ℕ} (ht : t ∉ order) :
    heldBack order t = order.countP (t ≤ ·) := by
  rw [heldBack, idxOf_of_notMem ht, take_of_length_le (Nat.le_succ _)]

structure ReorderOk (order : List ℕ) (reorder : Reorder) : Prop where
  mem_iff : ∀ i, i ∈ reorder.buffer ↔ i ∈ order ∧ reorder.nextExpected ≤ i
  below : ∀ i < reorder.nextExpected, i ∈ order
  missing : reorder.nextExpected ∉ order

section Buffer

variable {order : List ℕ} {reorder : Reorder} {x : TargetScan}

lemma Reorder.len_eq_countP {k : ℕ} (hmem : ∀ i, i ∈ reorder.buffer ↔ i ∈ order ∧ k ≤ i)
    (hnd : order.Nodup) : reorder.len = order.countP (k ≤ ·) := by
  rw [Reorder.len, countP_eq_length_filter]
  apply List.Perm.length_eq
  rw [perm_ext_iff_of_nodup (AList.keys_nodup _) (hnd.filter _)]
  intro i
  rw [← AList.mem_keys, hmem, mem_filter, decide_eq_true_eq]

lemma countP_le_of_le (order : List ℕ) {k t : ℕ} (h : k ≤ t) :
    order.countP (t ≤ ·) ≤ order.countP (k ≤ ·) := by
  refine countP_mono_left fun u _ hu => ?_
  grind

lemma ReorderOk.le_of_notMem (h : ReorderOk order reorder) {t : ℕ} (ht : t ∉ order) :
    reorder.nextExpected ≤ t := by
  by_contra hlt
  exact ht (h.below t (by omega))

lemma ReorderOk.mem_insert (h : ReorderOk order reorder) (hx : x.targetIndex ∉ order) (i : ℕ) :
    i ∈ (reorder.insert x).buffer ↔ i ∈ order ++ [x.targetIndex] ∧ reorder.nextExpected ≤ i := by
  have hle := h.le_of_notMem hx
  rw [Reorder.insert, AList.mem_insert, h.mem_iff, mem_append, mem_singleton]
  constructor
  · grind
  · grind

lemma ReorderOk.receive (h : ReorderOk order reorder) (hx : x.targetIndex ∉ order) :
    ReorderOk (order ++ [x.targetIndex]) (reorder.receive x) := by
  have hdra := drainedTo_drain
    (fun i => ((reorder.insert x).buffer.lookup i).getD ⟨i, []⟩) (reorder.insert x).len
    (reorder.insert x).buffer reorder.nextExpected le_rfl (fun i s hs => by rw [hs]; rfl)
  change DrainedTo _ _ (reorder.receive x).buffer _ (reorder.receive x).nextExpected at hdra
  have hle := hdra.le
  have hmem : ∀ i, i ∈ (reorder.receive x).buffer ↔
      i ∈ order ++ [x.targetIndex] ∧ (reorder.receive x).nextExpected ≤ i := by
    intro i
    rw [hdra.mem_iff, h.mem_insert hx]
    constructor
    · grind
    · rintro ⟨hi, hnext⟩
      exact ⟨⟨hi, by omega⟩, by omega⟩
  refine ⟨hmem, fun i hi => ?_, fun hnext => hdra.stuck ((hmem _).mpr ⟨hnext, le_rfl⟩)⟩
  rcases Nat.lt_or_ge i reorder.nextExpected with hlt | hge
  · exact mem_append_left _ (h.below i hlt)
  · exact ((h.mem_insert hx i).mp (hdra.taken i hge hi)).1

lemma ReorderOk.len_receive_le (h : ReorderOk order reorder)
    (hnd : (order ++ [x.targetIndex]).Nodup) (hx : x.targetIndex ∉ order) :
    (reorder.receive x).len ≤ (reorder.insert x).len := by
  have hmis : (reorder.receive x).nextExpected ∉ order :=
    fun hmem => (h.receive hx).missing (mem_append_left _ hmem)
  rw [Reorder.len_eq_countP (h.receive hx).mem_iff hnd, Reorder.len_eq_countP (h.mem_insert hx) hnd]
  exact countP_le_of_le _ (h.le_of_notMem hmis)

lemma ReorderOk.heldBack_le_iff (h : ReorderOk order reorder)
    (hnd : (order ++ [x.targetIndex]).Nodup) (hx : x.targetIndex ∉ order) (w : ℕ) :
    ((∀ t, heldBack order t ≤ w) ∧ (reorder.insert x).len ≤ w) ↔
      ∀ t, heldBack (order ++ [x.targetIndex]) t ≤ w := by
  rw [Reorder.len_eq_countP (h.mem_insert hx) hnd]
  constructor
  · rintro ⟨hbefore, hlen⟩ t
    by_cases ht : t ∈ order
    · rw [heldBack_append_of_mem ht]
      exact hbefore t
    · rw [heldBack_append_of_notMem ht]
      exact (countP_le_of_le _ (h.le_of_notMem ht)).trans hlen
  · intro hall
    refine ⟨fun t => ?_, heldBack_append_of_notMem h.missing x.targetIndex ▸ hall _⟩
    by_cases ht : t ∈ order
    · exact heldBack_append_of_mem ht x.targetIndex ▸ hall t
    · refine le_trans ?_ (hall t)
      rw [heldBack_of_notMem ht, heldBack_append_of_notMem ht, countP_append]
      exact Nat.le_add_right _ _

end Buffer

section Peak

variable {P T : Type} {scan : Scan P T} {s s' : StreamScan P T}

structure StreamInv (scan : Scan P T) (s : StreamScan P T) : Prop where
  reaches : ∃ actions, scan.Reaches actions s.scan
  alive : s.scan.receiverGone = false
  sent_eq : s.scan.sent = s.received ++ s.channel
  reorder_ok : ReorderOk s.order s.reorder
  len_le : s.reorder.len ≤ s.reorderPeak
  peak_le_iff : ∀ w, s.reorderPeak ≤ w ↔ ∀ t, heldBack s.order t ≤ w

lemma StreamInv.init (scan : Scan P T) : StreamInv scan scan.streamInit where
  reaches := ⟨[], rfl⟩
  alive := rfl
  sent_eq := rfl
  reorder_ok :=
    { mem_iff := fun i => by simp [Scan.streamInit, StreamScan.order, AList.notMem_empty]
      below := fun i hi => absurd hi (Nat.not_lt_zero i)
      missing := not_mem_nil }
  len_le := le_rfl
  peak_le_iff w := iff_of_true (Nat.zero_le w) fun t => Nat.zero_le w

lemma StreamInv.scan_step (h : StreamInv scan s) {a : ScanAction}
    (hstep : scan.streamStep (.scan a) s = some s') : StreamInv scan s' := by
  simp only [Scan.streamStep, ite_none_right_eq_some, map_eq_some_iff] at hstep
  obtain ⟨hadmits, u, hu, rfl⟩ := hstep
  have ha : a ≠ .send false := by
    rintro rfl
    simp [Scan.channelAdmits] at hadmits
  obtain ⟨⟨new, hnew⟩, hgone⟩ := Scan.step_sent ha hu
  obtain ⟨actions, hact⟩ := h.reaches
  refine ⟨⟨actions ++ [a], ?_⟩, hgone.trans h.alive, ?_, h.reorder_ok, h.len_le, h.peak_le_iff⟩
  · rw [Scan.Reaches, runActions_append, hact, bind_some, runActions_cons_eq_some]
    exact ⟨u, hu, rfl⟩
  · rw [← hnew, drop_left, h.sent_eq, append_assoc]

lemma StreamInv.receive_step (h : StreamInv scan s)
    (hstep : scan.streamStep .receive s = some s') : StreamInv scan s' := by
  have hsent := h.sent_eq
  cases hch : s.channel with
  | nil => simp [Scan.streamStep, hch] at hstep
  | cons x channel =>
    simp only [Scan.streamStep, hch, Option.some.injEq] at hstep
    subst hstep
    rw [hch] at hsent
    obtain ⟨actions, hact⟩ := h.reaches
    -- The scan received now was sent after those received before, and no target is sent twice.
    have hnd : (s.order ++ [x.targetIndex]).Nodup := by
      have hall := hact.sentIndices_nodup h.alive
      rw [ScanState.sentIndices, hsent, ← singleton_append, ← append_assoc, map_append] at hall
      have := hall.of_append_left
      rwa [map_append] at this
    have hx : x.targetIndex ∉ s.order := by
      intro hmem
      exact (nodup_append.mp hnd).2.2 _ hmem _ (mem_singleton_self _) rfl
    have horder : (s.received ++ [x]).map (·.targetIndex) = s.order ++ [x.targetIndex] :=
      map_append
    refine ⟨⟨actions, hact⟩, h.alive, by simp [hsent], ?_,
      (h.reorder_ok.len_receive_le hnd hx).trans (le_max_right _ _), fun w => ?_⟩
    · rw [StreamScan.order, horder]
      exact h.reorder_ok.receive hx
    · rw [StreamScan.order, horder, max_le_iff, ← h.reorder_ok.heldBack_le_iff hnd hx w,
        h.peak_le_iff]

lemma Scan.StreamReaches.inv {actions : List StreamAction} (hrun : scan.StreamReaches actions s) :
    StreamInv scan s := by
  refine runActions_invariant (fun a u u' hu hstep => ?_) (StreamInv.init scan) hrun
  cases a with
  | scan a => exact hu.scan_step hstep
  | receive => exact hu.receive_step hstep

end Peak

/-! ## A target that takes long -/

/-- Two probes at a time, over this many targets and two more. -/
def slowFirstScan (n : ℕ) : Scan Unit Unit where
  scheduler := .new 2
  probers := [()]
  targets := List.replicate (n + 2) ()
  ends _ _ _ _ := .panicked

lemma slowFirst_startNext (n id i m : ℕ) (current : Option (ℕ × ℕ))
    (hcurrent : ∀ c, current = some c → 1 ≤ c.2) (exhausted after : ScanPhase)
    {u : ScanState Unit Unit} (hfeed : u.feed = ⟨List.replicate (m + 1) (), 1, i, current⟩) :
    startNext (slowFirstScan n) id exhausted after u =
      { u with
        feed := ⟨List.replicate m (), 1, i + 1, some (i, 1)⟩
        targetMap := u.targetMap.insert i ()
        set := u.set ++ [⟨id, (), (), 0, i⟩]
        coordById := u.coordById.insert id (0, i)
        phase := after } := by
  have hnext : u.feed.next u.targetMap =
      (some (0, i), ⟨List.replicate m (), 1, i + 1, some (i, 1)⟩, u.targetMap.insert i ()) := by
    rw [hfeed, Feed.next, replicate_succ]
    exact feedLoop_pull hcurrent Nat.one_pos _
  rw [startNext, hnext]
  simp [spawnProbe, slowFirstScan]

/-- The first target is being probed; of the others `k` were received. -/
structure SlowFirst (n k : ℕ) (s : StreamScan Unit Unit) : Prop where
  phase : s.scan.phase = .joining
  set : s.scan.set = [⟨0, (), (), 0, 0⟩, ⟨k + 1, (), (), 0, k + 1⟩]
  feed : s.scan.feed = ⟨List.replicate (n - k) (), 1, k + 2, some (k + 1, 1)⟩
  coord : s.scan.coordById.lookup (k + 1) = some (0, k + 1)
  live : ∀ t, k < t → s.scan.live.lookup t = none
  channel : s.channel = []
  order : s.order = List.range' 1 k

lemma Scan.streamStep_quiet {P T : Type} {scan : Scan P T} {s : StreamScan P T} {a : ScanAction}
    {u : ScanState P T} (ha : scan.channelAdmits s.channel a = true)
    (hu : scan.step a s.scan = some u) (hsent : u.sent = s.scan.sent) :
    scan.streamStep (.scan a) s = some { s with scan := u } := by
  simp only [Scan.streamStep, ha, if_true, hu, map_some, hsent, drop_length, append_nil]

lemma slowFirst_start (n : ℕ) : ∃ actions s, (slowFirstScan n).StreamReaches actions s ∧
    SlowFirst n 0 s := by
  set u₀ := (slowFirstScan n).init
  have h₁ := slowFirst_startNext n 0 0 (n + 1) none (fun c hc => by cases hc) .joining (.priming 1)
    (u := u₀) rfl
  set u₁ := startNext (slowFirstScan n) 0 .joining (.priming 1) u₀
  have h₂ := slowFirst_startNext n 1 1 n (some (0, 1)) (fun c hc => by cases hc; rfl) .joining
    (.priming 0) (u := u₁) (by rw [h₁])
  set u₂ := startNext (slowFirstScan n) 1 .joining (.priming 0) u₁
  have hstep₁ : (slowFirstScan n).step (.readCancel false 0) u₀ = some u₁ := rfl
  have hstep₂ : (slowFirstScan n).step (.readCancel false 1) u₁ = some u₂ := by
    rfl
  have hstep₃ : (slowFirstScan n).step .proceed u₂ = some { u₂ with phase := .joining } := by
    rw [h₂]
    rfl
  refine ⟨[.scan (.readCancel false 0), .scan (.readCancel false 1), .scan .proceed],
    { (slowFirstScan n).streamInit with scan := { u₂ with phase := .joining } }, ?_, ?_⟩
  · rw [Scan.StreamReaches, runActions_cons_eq_some]
    refine ⟨_, Scan.streamStep_quiet rfl hstep₁ (startNext_sent _ _ _ u₀).1, ?_⟩
    rw [runActions_cons_eq_some]
    refine ⟨_, Scan.streamStep_quiet rfl hstep₂ (startNext_sent _ _ _ u₁).1, ?_⟩
    rw [runActions_cons_eq_some]
    exact ⟨_, Scan.streamStep_quiet rfl hstep₃ rfl, rfl⟩
  · rw [h₂, h₁]
    exact ⟨rfl, rfl, rfl, rfl, fun t _ => rfl, rfl, rfl⟩

lemma SlowFirst.overtake {n k : ℕ} {s : StreamScan Unit Unit} (h : SlowFirst n k s) (hk : k < n) :
    ∃ actions s', runActions (slowFirstScan n).streamStep actions s = some s' ∧
      SlowFirst n (k + 1) s' := by
  have hcur : ∀ c, some (k + 1, 1) = some c → 1 ≤ c.2 := fun c hc => by cases hc; rfl
  set entry : PartialTarget := ⟨[some TaskEnd.panicked.outcome], 1⟩
  set u₁ : ScanState Unit Unit :=
    { s.scan with
      set := [⟨0, (), (), 0, 0⟩]
      coordById := s.scan.coordById.erase (k + 1)
      live := s.scan.live.insert (k + 1) entry
      targetMap := s.scan.targetMap.erase (k + 1)
      phase := .refilling (some (k + 1)) } with hu₁
  have hstep₁ : (slowFirstScan n).step (.join (k + 1)) s.scan = some u₁ := by
    simp [Scan.step, h.phase, h.set, recordOutcome, h.coord, h.live (k + 1) (Nat.lt_succ_self k),
      slowFirstScan, u₁, entry]
  have hfeed : u₁.feed = ⟨List.replicate (n - (k + 1) + 1) (), 1, k + 2, some (k + 1, 1)⟩ := by
    rw [show n - (k + 1) + 1 = n - k by omega]
    exact h.feed
  have h₂ := slowFirst_startNext n (k + 2) (k + 2) (n - (k + 1)) _ hcur
    (.sending (some (k + 1))) (.sending (some (k + 1))) hfeed
  set u₂ := startNext (slowFirstScan n) (k + 2) (.sending (some (k + 1)))
    (.sending (some (k + 1))) u₁
  have hstep₂ : (slowFirstScan n).step (.readCancel false (k + 2)) u₁ = some u₂ := by
    simp [Scan.step, hu₁, u₂]
  set x : TargetScan := ⟨k + 1, [(0, TaskEnd.panicked.outcome)]⟩
  set u₃ : ScanState Unit Unit :=
    { u₂ with live := u₂.live.erase (k + 1), sent := u₂.sent ++ [x], phase := .joining } with hu₃
  have hstep₃ : (slowFirstScan n).step (.send true) u₂ = some u₃ := by
    have hlive : u₂.live.lookup (k + 1) = some entry := by rw [h₂, hu₁, AList.lookup_insert]
    have hph : u₂.phase = .sending (some (k + 1)) := by rw [h₂]
    simp [Scan.step, hph, sendReady, hlive, entry, takeOutcomes, hu₃, x]
  have hsent : u₂.sent = s.scan.sent := (startNext_sent _ _ _ u₁).1
  have hsend : (slowFirstScan n).streamStep (.scan (.send true)) { s with scan := u₂ } =
      some { s with scan := u₃, channel := [x] } := by
    simp only [Scan.streamStep, hstep₃, map_some, h.channel, hu₃, drop_left, nil_append]
    rfl
  refine ⟨[.scan (.join (k + 1)), .scan (.readCancel false (k + 2)), .scan (.send true), .receive],
    { s with
      scan := u₃
      channel := []
      received := s.received ++ [x]
      reorder := s.reorder.receive x
      reorderPeak := max s.reorderPeak (s.reorder.insert x).len }, ?_, ?_⟩
  · rw [runActions_cons_eq_some]
    refine ⟨_, Scan.streamStep_quiet rfl hstep₁ rfl, ?_⟩
    rw [runActions_cons_eq_some]
    refine ⟨_, Scan.streamStep_quiet rfl hstep₂ hsent, ?_⟩
    rw [runActions_cons_eq_some]
    exact ⟨_, hsend, rfl⟩
  · have horder : (s.received ++ [x]).map (·.targetIndex) = List.range' 1 (k + 1) := by
      rw [map_append, range'_concat, ← h.order, Nat.one_mul, Nat.add_comm 1 k]
      rfl
    refine ⟨rfl, ?_, ?_, ?_, fun t ht => ?_, rfl, horder⟩
    · simp only [hu₃, h₂, hu₁]
      rfl
    · simp only [hu₃, h₂]
    · simp only [hu₃, h₂, AList.lookup_insert]
    · have hne : t ≠ k + 1 := by omega
      simp only [hu₃, h₂, hu₁, AList.lookup_erase_ne hne, AList.lookup_insert_ne hne]
      exact h.live t (by omega)

lemma exists_slowFirst (n k : ℕ) (hk : k ≤ n) : ∃ actions s,
    (slowFirstScan n).StreamReaches actions s ∧ SlowFirst n k s := by
  induction k with
  | zero => exact slowFirst_start n
  | succ k ih =>
    obtain ⟨before, s, hrea, hs⟩ := ih (by omega)
    obtain ⟨after, s', hrun, hs'⟩ := hs.overtake (by omega)
    refine ⟨before ++ after, s', ?_, hs'⟩
    rw [Scan.StreamReaches, runActions_append, hrea]
    exact hrun

lemma SlowFirst.len_eq {n k : ℕ} {s : StreamScan Unit Unit} (h : SlowFirst n k s)
    (hinv : StreamInv (slowFirstScan n) s) : s.reorder.len = k := by
  have hmis : 0 ∉ s.order := by simp [h.order]
  have hnext : s.reorder.nextExpected = 0 := Nat.le_zero.mp (hinv.reorder_ok.le_of_notMem hmis)
  have hnd : s.order.Nodup := h.order ▸ nodup_range'
  rw [Reorder.len_eq_countP hinv.reorder_ok.mem_iff hnd, hnext, h.order]
  simp

/-- No multiple of the cap bounds the buffer: with two probes at a time, a slow first target is
overtaken by as many as the stream has. -/
theorem reorder_buffer_unbounded : ¬ ∃ c : ℕ, ∀ (scan : Scan Unit Unit)
    (actions : List StreamAction) (s : StreamScan Unit Unit), scan.StreamReaches actions s →
      s.reorder.len ≤ c * scan.scheduler.maxConcurrent := by
  rintro ⟨c, hc⟩
  obtain ⟨actions, s, hrea, hs⟩ := exists_slowFirst (c * 2 + 1) (c * 2 + 1) le_rfl
  have hle : s.reorder.len ≤ c * 2 := hc _ actions s hrea
  have hlen := hs.len_eq hrea.inv
  omega

/-- The buffer never holds more than its peak, which stays within `c` times the cap exactly if for
every target those received no later that are not before it are at most that many. -/
theorem reorder_peak_le_iff {P T : Type} (scan : Scan P T) {actions : List StreamAction}
    {s : StreamScan P T} (hrun : scan.StreamReaches actions s) (c : ℕ) :
    s.reorder.len ≤ s.reorderPeak ∧
    (s.reorderPeak ≤ c * scan.scheduler.maxConcurrent ↔
      ∀ t, heldBack s.order t ≤ c * scan.scheduler.maxConcurrent) :=
  ⟨hrun.inv.len_le, hrun.inv.peak_le_iff _⟩

/-- A first target that ends after the second: both are in the buffer. -/
theorem reorder_peak_le_iff_two : ∃ s, (slowFirstScan 0).StreamReaches
    [.scan (.readCancel false 0), .scan (.readCancel false 1), .scan .proceed, .scan (.join 1),
      .scan (.readCancel false 2), .scan (.send true), .receive, .scan (.join 0),
      .scan (.readCancel false 3), .scan (.send true), .receive] s ∧
    s.order = [1, 0] ∧ s.reorderPeak = 2 ∧
    s.reorderPeak ≤ 1 * (slowFirstScan 0).scheduler.maxConcurrent := by
  obtain ⟨s, hrun, horder, hpeak⟩ : ∃ s, (slowFirstScan 0).StreamReaches
      [.scan (.readCancel false 0), .scan (.readCancel false 1), .scan .proceed, .scan (.join 1),
        .scan (.readCancel false 2), .scan (.send true), .receive, .scan (.join 0),
        .scan (.readCancel false 3), .scan (.send true), .receive] s ∧
      s.order = [1, 0] ∧ s.reorderPeak = 2 := ⟨_, rfl, rfl, rfl⟩
  refine ⟨s, hrun, horder, hpeak, (reorder_peak_le_iff _ hrun 1).2.mpr fun t => ?_⟩
  rw [horder]
  exact countP_le_length.trans (length_take_le' _ _)

end Rastreo
