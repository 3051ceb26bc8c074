import Rastreo.Encoder.Table
import Rastreo.Pipeline.Success
import Rastreo.Scheduler.Delivery

/-!
# The stream writes what the batch reference writes

For every completion order of a scan that was not cancelled, both write the same records in the same
order and return the same summary (`stream_eq_batch`).
-/

namespace Rastreo

open List

/-! ## Scans that run to their end -/

section Comparison

variable {P : Type} (scan : Scan P ResolvedTarget)

/-- Of every target that can be fused, in order. -/
def Scan.outcomeGroups : List (List ProbeOutcome) :=
  (List.range scan.targets.length).map fun i => (scan.scanAt i).probeOutcomes

/-- It returned and was not cancelled. -/
def Scan.RunsToEnd (actions : List ScanAction) (s : ScanState P ResolvedTarget) : Prop :=
  scan.Reaches actions s ∧ s.phase = .returned ∧ s.receiverGone = false ∧ s.cancelSeen = false

/-- Every probe reports about the address it was started for. -/
def Scan.ReportsOwnAddress : Prop :=
  ∀ passIndex targetIndex prober target outcome,
    scan.ends passIndex targetIndex prober target = .finished (.ok outcome) →
    outcome.targetIp = target.ip

variable {scan}

lemma Scan.RunsToEnd.sent (hprobers : scan.probers ≠ []) {actions : List ScanAction}
    {s : ScanState P ResolvedTarget} (h : scan.RunsToEnd actions s) :
    AnyOrder scan.scanAt scan.targets.length s.sent := by
  obtain ⟨hrun, hph, halive, hseen⟩ := h
  obtain ⟨hsent, m, -, hperm, hall⟩ := hrun.sent_of_returned hprobers halive hph
  exact ⟨hsent, hall hseen ▸ hperm⟩

lemma Scan.lt_of_mem_scanAt {i : ℕ} {e : ℕ × Result ProbeOutcome}
    (he : e ∈ (scan.scanAt i).outcomes) : e.1 < scan.probers.length := by
  unfold scanAt at he
  split at he
  · obtain ⟨⟨prober, pass⟩, hmem, rfl⟩ := mem_map.mp he
    grind
  · grind

lemma Scan.exists_tally {kinds : List ProbeKind} (hkinds : kinds.length = scan.probers.length)
    (l : List ℕ) :
    ∃ tally, (l.map scan.scanAt).foldlM (fun t scan => accumulateTarget kinds scan t)
      (({}, none) : Tally) = .ok tally := by
  refine foldlM_exists_ok (fun t x hx => foldlM_exists_ok (fun t e he => ?_) t) _
  obtain ⟨i, -, rfl⟩ := mem_map.mp hx
  obtain ⟨pass, result⟩ := e
  have hlt : pass < kinds.length := hkinds ▸ Scan.lt_of_mem_scanAt he
  have hindex : index kinds pass = .ok kinds[pass] := by
    rw [index, getElem?_eq_getElem hlt]
  unfold accumulateOutcome
  simp only [hindex, ok_bind]
  split
  · split <;> exact ⟨_, rfl⟩
  · split <;> exact ⟨_, rfl⟩

def Scan.ipOf (scan : Scan P ResolvedTarget) (x : TargetScan) : IpAddr :=
  (scan.targets[x.targetIndex]?.map (·.ip)).getD (.v4 0)

lemma Scan.ReportsOwnAddress.ipOf_eq (h : scan.ReportsOwnAddress) (i : ℕ) {o : ProbeOutcome}
    (ho : o ∈ (scan.scanAt i).probeOutcomes) : o.targetIp = scan.ipOf (scan.scanAt i) := by
  rw [Scan.ipOf, Scan.scanAt_targetIndex]
  unfold Scan.scanAt TargetScan.probeOutcomes probeOutcomes at ho
  obtain ⟨⟨pass, result⟩, hmem, hr⟩ := mem_filterMap.mp ho
  split at hmem
  · rename_i target htarget
    obtain ⟨⟨prober, pass'⟩, -, heq⟩ := mem_map.mp hmem
    obtain ⟨rfl, rfl⟩ := Prod.mk.inj heq
    cases hend : scan.ends pass' i prober target with
    | panicked => simp [TaskEnd.outcome, hend, Except.toOption] at hr
    | cancelled => simp [TaskEnd.outcome, hend, Except.toOption] at hr
    | finished r =>
      cases r with
      | error e => simp [TaskEnd.outcome, hend, Except.toOption] at hr
      | ok outcome =>
        simp only [TaskEnd.outcome, hend, Except.toOption, Option.some.injEq] at hr
        subst hr
        rw [htarget, h pass' i prober target outcome hend]
        rfl
  · grind

lemma Scan.map_ipOf (scan : Scan P ResolvedTarget) :
    ((List.range scan.targets.length).map scan.scanAt).map scan.ipOf = scan.targets.map (·.ip) := by
  apply ext_getElem
  · simp
  · intro i hi hi'
    grind [Scan.ipOf, Scan.scanAt_targetIndex]

/-- What does not depend on when the sink was flushed. -/
def DiscoverySummary.withoutDlq (summary : DiscoverySummary) : DiscoverySummary :=
  { summary with dlqRecords := 0, dlqRecordsByTypeAndClass := [] }

/-- Streaming equals batch. Take targets with distinct addresses and two runs of the scheduler that
were not cancelled. If no fuse, classify or encode call fails and the sink and the disk accept every
call, the stream over the first and the batch reference over the second, whatever the completion
orders and those of the hash maps, both return a summary; they write the same records in the same
order, and the summaries agree. Without checkpoints, which flush in between, they make the very same
calls and report the same dead letters. -/
theorem stream_eq_batch [CaseMapping] (kind : P → ProbeKind) (p : Pipeline) (fuser : Fuser)
    (checkpoint : Option CheckpointWriter) (hashOrder : HashOrder) (edgeOrder : EdgeOrder)
    (hprobers : scan.probers ≠ []) (hkinds : p.proberKinds = scan.probers.map kind)
    (hips : (scan.targets.map (·.ip)).Nodup) (hown : scan.ReportsOwnAddress)
    (haccept : Accepting p.env) {d : Discovered}
    (hd : discover p fuser scan.outcomeGroups = .ok d)
    {actions actions' : List ScanAction} {s s' : ScanState P ResolvedTarget}
    (hrun : scan.RunsToEnd actions s) (hrun' : scan.RunsToEnd actions' s') (w : RunState) :
    ∃ summary summary' w₁ w₂,
      streamDiscovery p fuser checkpoint s.sent false w = (.done (.ok summary), w₁) ∧
      batchDiscovery { p with hashOrder, edgeOrder } fuser s'.sent false w =
        (.done (.ok summary'), w₂) ∧
      writesOf w₁.log = writesOf w₂.log ∧ summary.withoutDlq = summary'.withoutDlq ∧
      (checkpoint = none → summary = summary' ∧ w₁ = w₂) := by
  have hlen : p.proberKinds.length = scan.probers.length := by rw [hkinds, length_map]
  obtain ⟨tally, htally⟩ := Scan.exists_tally hlen (List.range scan.targets.length)
  have hgroups : ((List.range scan.targets.length).map scan.scanAt).map TargetScan.probeOutcomes =
      scan.outcomeGroups := map_map
  rw [← hgroups] at hd
  obtain ⟨w₁, hstream, hwrites, hnone⟩ :=
    streamDiscovery_ok haccept (hrun.sent hprobers) htally hd checkpoint w
  have hbatch := batchDiscovery_ok (p := { p with hashOrder, edgeOrder }) haccept
    scan.scanAt_targetIndex (hrun'.sent hprobers)
    (fun x hx o ho => by obtain ⟨i, -, rfl⟩ := mem_map.mp hx; exact hown.ipOf_eq i ho)
    (by rw [Scan.map_ipOf]; exact hips) htally ((discover_congr p _ _ _ _).trans hd) w
  refine ⟨_, _, _, _, hstream, hbatch, ?_, rfl, fun hc => ?_⟩
  · rw [hwrites]
    simp only [RunState.loggedAll, writesOf_append]
    simp [writesOf]
  · rw [hnone hc]
    exact ⟨rfl, rfl⟩

end Comparison

attribute [local instance] CaseMapping.ascii

def twoTargets : Scan Unit ResolvedTarget where
  scheduler := .new 2
  probers := [()]
  targets := [⟨.v4 1, .ip (.v4 1), 0⟩, ⟨.v4 2, .ip (.v4 2), 0⟩]
  ends _ _ _ target := .finished (.ok
    { kind := .icmp, targetIp := target.ip, timestamp := 0, reachable := true
      signals := [.openPort 22] })

/-- Links and profiles have no row. -/
def TableEncoder.encode (self : TableEncoder) : AnyRecord → Result Bytes × TableEncoder
  | .device record =>
    let (self, buf) := self.encodeRecord record []
    (.ok buf, self)
  | .link _ => (.ok [], self)
  | .profile _ => (.ok [], self)

/-- Every call succeeds; records are the rows of a table. -/
def acceptingPipeline : Pipeline where
  env :=
    { sink := fun _ _ => .ok, disk := fun _ _ => .ok, sinkType := .memory
      dlqRecordsByTypeAndClass := fun _ => [] }
  scanMetadata := .default
  proberKinds := [.icmp]
  targetsResolved := 2
  classify := .ok
  encoder := .ofState (.new 0) TableEncoder.encode
  hashOrder := .insertion
  edgeOrder := .insertion

/-- Both are started before either ends. -/
def completionOrder (first second : ℕ) : List ScanAction :=
  [.readCancel false 0, .readCancel false 1, .proceed, .join first, .readCancel false 2,
    .send true, .join second, .readCancel false 2, .send true, .proceed]

/-- A stream that receives the second target first writes what a batch writes. -/
theorem stream_eq_batch_two : ∃ s s' : ScanState Unit ResolvedTarget,
    s.sent.map (·.targetIndex) = [1, 0] ∧ s'.sent.map (·.targetIndex) = [0, 1] ∧
    ∃ summary summary' w₁ w₂,
      streamDiscovery acceptingPipeline (.identity (.direct {}) {} []) none
        s.sent false ⟨[], none⟩ = (.done (.ok summary), w₁) ∧
      batchDiscovery { acceptingPipeline with hashOrder := .reversed }
        (.identity (.direct {}) {} []) s'.sent false ⟨[], none⟩ = (.done (.ok summary'), w₂) ∧
      writesOf w₁.log = writesOf w₂.log ∧ summary = summary' := by
  obtain ⟨s, hrun, hsent⟩ : ∃ s, twoTargets.RunsToEnd (completionOrder 1 0) s ∧
      s.sent.map (·.targetIndex) = [1, 0] := ⟨_, ⟨rfl, rfl, rfl, rfl⟩, rfl⟩
  obtain ⟨s', hrun', hsent'⟩ : ∃ s, twoTargets.RunsToEnd (completionOrder 0 1) s ∧
      s.sent.map (·.targetIndex) = [0, 1] := ⟨_, ⟨rfl, rfl, rfl, rfl⟩, rfl⟩
  have hown : twoTargets.ReportsOwnAddress := by
    intro _ _ _ _ _ h
    cases h
    rfl
  obtain ⟨d, hd⟩ : ∃ d, discover acceptingPipeline (.identity (.direct {}) {} [])
      twoTargets.outcomeGroups = .ok d := by
    have hok : (discover acceptingPipeline (.identity (.direct {}) {} [])
      twoTargets.outcomeGroups).toOption.isSome = true := by decide +kernel
    revert hok
    cases discover acceptingPipeline (.identity (.direct {}) {} []) twoTargets.outcomeGroups with
    | error e => exact nofun
    | ok d => exact fun _ => ⟨d, rfl⟩
  obtain ⟨summary, summary', w₁, w₂, hstream, hbatch, hwrites, -, hnone⟩ :=
    stream_eq_batch (fun _ => .icmp) acceptingPipeline (.identity (.direct {}) {} []) none .reversed
      .insertion (by decide) rfl (by decide) hown ⟨fun _ _ => rfl, fun _ _ => rfl⟩ hd hrun hrun'
      ⟨[], none⟩
  exact ⟨s, s', hsent, hsent', summary, summary', w₁, w₂, hstream, hbatch, hwrites, (hnone rfl).1⟩

end Rastreo
