import Rastreo.Server.Requests

/-!
# Every scan is counted once

An admitted scan is recorded where its handler settles, or else when its outcome guard is dropped
armed: along every path the guard is disarmed exactly if the outcome has been recorded (`Guarded`).
A request that fails validation is recorded when it is refused.  No other step touches the metrics,
so counters and histogram count requests by how they ended.
-/

namespace Rastreo

inductive ScanCounter where
  | success
  | error
  | cancelled
  deriving DecidableEq

def Metrics.total (self : Metrics) : ScanCounter → UInt64
  | .success => self.scansTotalSuccess
  | .error => self.scansTotalError
  | .cancelled => self.scansTotalCancelled

/-- A dropped scan counts as cancelled. -/
def ScanEnd.counter : ScanEnd → ScanCounter
  | .succeeded => .success
  | .cancelled => .cancelled
  | .failed => .error
  | .dropped => .cancelled

def RequestEnd.counter : RequestEnd → Option ScanCounter
  | .scanned outcome => some outcome.counter
  | .refused => some .error
  | _ => none

/-- The counter a request has been counted under. -/
def RequestPhase.recorded : RequestPhase → Option ScanCounter
  | .settled outcome _ => some outcome.counter
  | .leaving outcome guard => if guard.armed then none else some outcome.counter
  | .finished outcome => some outcome.counter
  | .over answer => answer.counter
  | _ => none

/-! ## One outcome -/

/-- One counter goes up by one, with one observation overall and one on the shard of the label. -/
structure ScanMetrics.Records (label : String) (c : ScanCounter) (m m' : ScanMetrics) : Prop where
  total : ∀ c', m'.counters.total c' = m.counters.total c' + if c' = c then 1 else 0
  resolve : m'.scanDuration.resolveLabel = m.scanDuration.resolveLabel
  all : m'.scanDuration.all.count = m.scanDuration.all.count + 1
  shard : ∀ shard, m'.scanDuration.shardCount shard = m.scanDuration.shardCount shard +
    if m.scanDuration.resolveLabel label = shard then 1 else 0

lemma ScanMetrics.records_observe {label : String} {c : ScanCounter} {counters : Metrics}
    (m : ScanMetrics) (elapsed : ℚ)
    (h : ∀ c', counters.total c' = m.counters.total c' + if c' = c then 1 else 0) :
    m.Records label c ⟨counters, m.scanDuration.observe elapsed label⟩ where
  total := h
  resolve := by
    funext name
    simp
  all := m.scanDuration.all_observe elapsed label
  shard := m.scanDuration.shardCount_observe elapsed label

variable (m : Metrics)

/-- Only the scan counters of a completion count scans. -/
lemma Metrics.total_recordScanCompletion (summary : DiscoverySummary) (c : ScanCounter) :
    (m.recordScanCompletion summary).total c =
      m.total c + if c = (if summary.cancelled then .cancelled else .success) then 1 else 0 := by
  have hdlq : ∀ (entries : List (SinkType × SinkErrorClass × ℕ)) (m : Metrics),
      (m.recordDeadLetters entries).total c = m.total c := by
    intro entries
    induction entries with
    | nil => exact fun m => rfl
    | cons entry rest ih =>
      intro m
      refine (ih _).trans ?_
      obtain ⟨sinkType, errorClass, count⟩ := entry
      cases sinkType <;> cases c <;> rfl
  have hprobes : ∀ (kinds : List ProbeKindSummary) (m : Metrics),
      (kinds.foldl Metrics.recordProbes m).total c = m.total c := by
    intro kinds
    induction kinds with
    | nil => exact fun m => rfl
    | cons kind rest ih =>
      intro m
      refine (ih _).trans ?_
      cases c <;> rfl
  unfold Metrics.recordScanCompletion
  rw [hdlq, hprobes]
  cases summary.cancelled <;> cases c <;> simp [Metrics.total]

lemma Metrics.total_recordScanError (sinkClass : Option SinkErrorClass) (c : ScanCounter) :
    (m.recordScanError sinkClass).total c = m.total c + if c = .error then 1 else 0 := by
  cases sinkClass <;> cases c <;> simp [Metrics.recordScanError, Metrics.total]

lemma Metrics.total_recordScanCancelled (c : ScanCounter) :
    m.recordScanCancelled.total c = m.total c + if c = .cancelled then 1 else 0 := by
  cases c <;> simp [Metrics.recordScanCancelled, Metrics.total]

/-! ## One step -/

section Step

variable {maxInflight : ℕ} {label : String} {a : HandlerStep} {phase phase' : RequestPhase}
  {shared shared' : Shared}

/-- The outcome guard of a scan is armed until the outcome is recorded. -/
def RequestPhase.Guarded (label : String) : RequestPhase → Prop
  | .running guard => guard = .new label
  | .settled outcome guard => guard = .new label ∧ outcome ≠ .dropped
  | .leaving .dropped guard => guard = .new label
  | .leaving _ guard => guard.armed = false
  | _ => True

lemma Handles.guarded (h : Handles maxInflight label shared a phase phase' shared')
    (hguard : phase.Guarded label) : phase'.Guarded label := by
  cases h with
  | start prior hprior => rfl
  | complete summary elapsed guard =>
    refine ⟨hguard, ?_⟩
    cases summary.cancelled <;> exact nofun
  | fail err elapsed guard => exact ⟨hguard, nofun⟩
  | disarm outcome guard =>
    cases outcome with
    | dropped => exact absurd rfl hguard.2
    | _ => rfl
  | drop guard => exact hguard
  | _ => trivial

/-- An outcome is recorded, or the metrics and the request's record stay. -/
lemma Handles.recorded (h : Handles maxInflight label shared a phase phase' shared')
    (hguard : phase.Guarded label) :
    (shared'.metrics = shared.metrics ∧ phase'.recorded = phase.recorded) ∨
      ∃ c, phase.recorded = none ∧ phase'.recorded = some c ∧
        shared.metrics.Records label c shared'.metrics := by
  cases h with
  | refuse err elapsed =>
    exact .inr ⟨.error, rfl, rfl,
      shared.metrics.records_observe elapsed (Metrics.total_recordScanError _ _)⟩
  | complete summary elapsed guard =>
    refine .inr ⟨_, rfl, rfl, shared.metrics.records_observe elapsed fun c => ?_⟩
    rw [Metrics.total_recordScanCompletion]
    cases summary.cancelled <;> rfl
  | fail err elapsed guard =>
    exact .inr ⟨.error, rfl, rfl,
      shared.metrics.records_observe elapsed (Metrics.total_recordScanError _ _)⟩
  | disarm outcome guard => exact .inl ⟨rfl, rfl⟩
  | drop guard =>
    obtain rfl : guard = .new label := hguard
    exact .inl ⟨rfl, rfl⟩
  | dropGuard elapsed outcome guard =>
    cases outcome with
    | dropped =>
      obtain rfl : guard = .new label := hguard
      exact .inr ⟨.cancelled, rfl, rfl,
        shared.metrics.records_observe elapsed (Metrics.total_recordScanCancelled _)⟩
    | _ =>
      have hdisarmed : guard.armed = false := hguard
      refine .inl ⟨?_, ?_⟩
      · simp [ScanOutcomeGuard.drop, hdisarmed]
      · simp [RequestPhase.recorded, hdisarmed]
  | rehearse => exact .inl ⟨rfl, rfl⟩
  | add => exact .inl ⟨rfl, rfl⟩
  | tooMany prior _ _ => exact .inl ⟨rfl, rfl⟩
  | start prior _ => exact .inl ⟨rfl, rfl⟩
  | rollBack => exact .inl ⟨rfl, rfl⟩
  | release outcome => exact .inl ⟨rfl, rfl⟩

end Step

/-! ## Runs -/

namespace ScanServer

def recordedAs (s : ScanServer) (c : ScanCounter) : ℕ :=
  s.requests.countP fun r => r.phase.recorded = some c

def recorded (s : ScanServer) : ℕ := s.requests.countP fun r => r.phase.recorded.isSome

def recordedOn (s : ScanServer) (resolve : String → Option String) (shard : Option String) : ℕ :=
  s.requests.countP fun r => r.phase.recorded.isSome && decide (resolve r.label = shard)

/-- The metrics count the recorded requests, in 64 bits. -/
structure Counts (resolve : String → Option String) (s : ScanServer) : Prop where
  guarded : ∀ r ∈ s.requests, r.phase.Guarded r.label
  resolve_eq : s.shared.metrics.scanDuration.resolveLabel = resolve
  total : ∀ c, s.shared.metrics.counters.total c = UInt64.ofNat (s.recordedAs c)
  all : s.shared.metrics.scanDuration.all.count = UInt64.ofNat s.recorded
  shard : ∀ shard, s.shared.metrics.scanDuration.shardCount shard =
    UInt64.ofNat (s.recordedOn resolve shard)

variable {maxInflight : ℕ} {s s' : ScanServer} {resolve : String → Option String}

lemma counts_start (allowlist : List String) (maxLength : ℕ) : (start allowlist maxLength).Counts
      (ScenarioHistograms.new allowlist maxLength).resolveLabel where
  guarded := nofun
  resolve_eq := rfl
  total c := by cases c <;> rfl
  all := rfl
  shard shard := by
    cases shard with
    | none => rfl
    | some name =>
      change (((ScenarioHistograms.new allowlist maxLength).perScenario name).getD {}).count = 0
      unfold ScenarioHistograms.new
      dsimp only
      split_ifs <;> rfl

lemma ofNat_countP_set {α : Type} {p : α → Bool} {l : List α} {i : ℕ} {x y : α} {n : UInt64}
    (hx : l[i]? = some x) (hp : p x = false) (hn : n = UInt64.ofNat (l.countP p)) :
    (n + if p y = true then 1 else 0) = UInt64.ofNat ((l.set i y).countP p) := by
  have hcount := countP_set_add (p := p) (a := y) hx
  rw [hp, Bool.toNat_false, Nat.add_zero] at hcount
  rw [hcount, hn, UInt64.ofNat_add]
  cases p y <;> rfl

lemma countP_set_of_eq {α : Type} {p : α → Bool} {l : List α} {i : ℕ} {x y : α}
    (hx : l[i]? = some x) (hp : p y = p x) : (l.set i y).countP p = l.countP p := by grind

lemma Counts.step {act : RequestAction} (h : s.Counts resolve)
    (hstep : ScanServer.step maxInflight act s = some s') : s'.Counts resolve := by
  obtain ⟨label, -, rfl⟩ | ⟨i, a, request, phase', shared', hreq, -, hhan, rfl⟩ :=
    step_cases hstep
  · -- A request that arrives is not recorded.
    obtain ⟨hgua, hres, htotal, hall, hshard⟩ := h
    refine ⟨?_, hres, fun c => ?_, ?_, fun shard => ?_⟩
    · exact List.forall_mem_append.mpr ⟨hgua, List.forall_mem_singleton.mpr trivial⟩
    · simpa [recordedAs, RequestPhase.recorded] using htotal c
    · simpa [recorded, RequestPhase.recorded] using hall
    · simpa [recordedOn, RequestPhase.recorded] using hshard shard
  · have hguard := h.guarded request (List.mem_of_getElem? hreq)
    have hguarded : ∀ r ∈ s.requests.set i ⟨request.label, phase'⟩, r.phase.Guarded r.label := by
      intro r hr
      obtain hr | rfl := List.mem_or_eq_of_mem_set hr
      · exact h.guarded r hr
      · exact hhan.guarded hguard
    obtain ⟨hmet, hsame⟩ | ⟨c, hnone, hsome, hrecs⟩ := hhan.recorded hguard
    · refine ⟨hguarded, hmet ▸ h.resolve_eq, fun c => ?_, ?_, fun shard => ?_⟩
      · rw [hmet, h.total c, recordedAs, recordedAs, countP_set_of_eq hreq]
        rw [hsame]
      · rw [hmet, h.all, recorded, recorded, countP_set_of_eq hreq]
        rw [hsame]
      · rw [hmet, h.shard shard, recordedOn, recordedOn, countP_set_of_eq hreq]
        rw [hsame]
    · refine ⟨hguarded, hrecs.resolve.trans h.resolve_eq, fun c' => ?_, ?_, fun shard => ?_⟩
      · refine (hrecs.total c').trans ?_
        refine Eq.trans ?_ (ofNat_countP_set hreq (by simp [hnone]) (h.total c'))
        simp [hsome, eq_comm]
      · refine hrecs.all.trans ?_
        refine Eq.trans ?_ (ofNat_countP_set hreq (by simp [hnone]) h.all)
        simp [hsome]
      · refine (hrecs.shard shard).trans ?_
        refine Eq.trans ?_ (ofNat_countP_set hreq (by simp [hnone]) (h.shard shard))
        simp [hsome, h.resolve_eq]

/-- Every scan is counted once. After any interleaving each counter is the number of requests
recorded under it, in 64 bits, the histogram has as many observations, and each shard those whose
labels resolve to it. Each step of a handler either adds one to one of the three counters and makes
one observation, overall and on the shard of its label, where nothing was recorded of the request
before; or it leaves the metrics and what is recorded of the request as they are. Of a request that
is over, the counter of its outcome is recorded if it was admitted, however it ended, the errors if
it failed validation, and nothing otherwise. -/
theorem scans_counted_once (allowlist : List String) (maxLength : ℕ) {as : List RequestAction}
    (hrun : runActions (ScanServer.step maxInflight) as (start allowlist maxLength) = some s) :
    s.Counts (ScenarioHistograms.new allowlist maxLength).resolveLabel ∧
    (∀ i a s' r r', ScanServer.step maxInflight (.handle i a) s = some s' →
      s.requests[i]? = some r → s'.requests[i]? = some r' →
      (∃ c, r.phase.recorded = none ∧ r'.phase.recorded = some c ∧
        s.shared.metrics.Records r.label c s'.shared.metrics) ∨
      (r'.phase.recorded = r.phase.recorded ∧ s'.shared.metrics = s.shared.metrics)) ∧
    ∀ r ∈ s.requests, ∀ answer, r.phase = .over answer → r.phase.recorded = answer.counter := by
  have hcounts : s.Counts (ScenarioHistograms.new allowlist maxLength).resolveLabel :=
    runActions_invariant (fun _ _ _ h hstep => h.step hstep) (counts_start allowlist maxLength) hrun
  refine ⟨hcounts, fun i a s' r r' hstep hr hr' => ?_, fun r _ answer h => by rw [h]; rfl⟩
  obtain ⟨label, hact, -⟩ | ⟨j, a', request, phase', shared', hreq, hact, hhan, rfl⟩ :=
    step_cases hstep
  · cases hact
  obtain ⟨rfl, rfl⟩ := RequestAction.handle.inj hact
  obtain rfl : r = request := Option.mem_unique hr hreq
  obtain rfl : r' = ⟨r.label, phase'⟩ := by
    rw [List.getElem?_set_self (List.getElem?_eq_some_iff.mp hreq).1] at hr'
    exact (Option.some.inj hr').symm
  obtain ⟨hmetrics, hsame⟩ | hrecords :=
    hhan.recorded (hcounts.guarded r (List.mem_of_getElem? hreq))
  · exact .inr ⟨hsame, hmetrics⟩
  · exact .inl hrecords

/-- A scan that fails and one that is dropped at its await, and a refused request. -/
theorem scans_counted_once_dropped :
    let s := runActions (ScanServer.step 2) [.arrive "lab", .arrive "office", .arrive "lab",
      .handle 0 .add, .handle 0 .test, .handle 1 (.refuse (.config .emptyProbeSelection) 0),
      .handle 2 .add, .handle 2 .test, .handle 0 .drop,
      .handle 2 (.fail (.config .emptyProbeSelection) 1),
      .handle 0 (.dropGuard 30), .handle 2 .disarm, .handle 2 (.dropGuard 1), .handle 2 .release]
      (start ["lab"] 64)
    s.map (fun s => (s.shared.metrics.counters.total .cancelled,
        s.shared.metrics.counters.total .error,
        s.shared.metrics.scanDuration.shardCount (some "lab"))) = some (1, 2, 2) ∧
      ∀ s', s = some s' → s'.shared.metrics.scanDuration.all.count = 3 := by
  intro s
  refine ⟨by decide +kernel, fun s' hs => ?_⟩
  rw [(scans_counted_once ["lab"] 64 hs).1.all]
  obtain rfl := Option.some.inj hs
  decide +kernel

end ScanServer

end Rastreo
