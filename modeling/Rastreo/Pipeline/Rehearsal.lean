import Rastreo.Pipeline.Run
import Rastreo.Pipeline.StreamBatch
import Rastreo.Resolver.Scenario

/-!
# Rehearsals

A dry run validates a scenario, resolves its targets and renders the stages; it starts no probe.
Its count comes from the specs of the plan, less what a checkpoint has behind it; that of a run from
the outcomes received.  The two agree, and a run refused before its first probe has the error of the
rehearsal (`rehearsal_equals_run`).
-/

namespace Rastreo

open Async List

/-! ## Plans that are shown -/

structure PlanKnobs where
  maxConcurrent : UInt32
  probeRate : Option UInt32
  retries : UInt32
  timeoutMs : UInt64
  deriving DecidableEq

/-- Without the texts on the stages; a prober is the kind of its probes. -/
structure ScenarioPlan where
  scenario : String
  probers : List ProbeKind
  knobs : PlanKnobs
  deriving DecidableEq

inductive TargetResolution where
  | resolved (addresses : ResolvedAddresses)
  | unresolvable
  | error (msg : String)
  deriving DecidableEq

structure PlannedTarget where
  target : String
  resolution : TargetResolution
  deriving DecidableEq

structure DiscoveryPlan where
  scenario : String
  targets : List PlannedTarget
  probers : List ProbeKind
  knobs : PlanKnobs
  totalProbes : ℕ
  refusal : Option String
  deriving DecidableEq

def ScenarioPlan.build (label : String) (config : DiscoverScenarioConfig) (knobs : PlanKnobs)
    (mib : MibSource) : Result ScenarioPlan := do
  config.validate mib
  return ⟨label, config.probers, knobs⟩

def PlannedTarget.ofEntry : Target × Result SpecContribution → PlannedTarget
  | (target, .ok (.addresses addresses)) => ⟨target.display, .resolved addresses⟩
  | (target, .ok .unresolvable) => ⟨target.display, .unresolvable⟩
  | (target, .error e) => ⟨target.display, .error e.display⟩

/-- `ScenarioPlan::resolve`: the product saturates. -/
def ScenarioPlan.resolve (self : ScenarioPlan) (resolution : ScenarioResolution) :
    DiscoveryPlan where
  scenario := self.scenario
  targets := resolution.entries.map PlannedTarget.ofEntry
  probers := self.probers
  knobs := self.knobs
  totalProbes := min (resolution.totalHosts * self.probers.length) usizeMax
  refusal := resolution.refusal.map RastreoError.display

/-- The targets a plan marks as unresolvable, in order. -/
def DiscoveryPlan.unresolvableTargets (self : DiscoveryPlan) : List String :=
  (self.targets.filter fun planned => planned.resolution = .unresolvable).map PlannedTarget.target

lemma ScenarioPlan.unresolvableTargets_resolve (self : ScenarioPlan)
    (resolution : ScenarioResolution) :
    (self.resolve resolution).unresolvableTargets =
      resolution.unresolvableTargets.map Target.display := by
  have hrow : ∀ entry : Target × Result SpecContribution,
      (PlannedTarget.ofEntry entry).target = entry.1.display ∧
        decide ((PlannedTarget.ofEntry entry).resolution = .unresolvable) =
          (entry.2.toOption == some .unresolvable) := by
    rintro ⟨target, e | _ | _⟩
    · exact ⟨rfl, rfl⟩
    · exact ⟨rfl, rfl⟩
    · exact ⟨rfl, rfl⟩
  simp only [resolve, DiscoveryPlan.unresolvableTargets, ScenarioResolution.unresolvableTargets,
    filter_map, map_map, Function.comp_def, hrow]

/-! ## The rehearsal and the run -/

section Rehearsal

variable {P : Type} (digest : Digest) (scenario : DiscoverScenarioConfig) (resolver : Resolver)
  (opts : RunOptions P) (now : SystemTime)

/-- `rehearsed_resolution`, once the checkpoint is admitted. -/
def rehearsedResolution (resumeFrom : Option Checkpoint) : Result ScenarioResolution :=
  match resumeFrom with
  | some checkpoint =>
    resolvePinnedScenario now scenario.targets checkpoint.dnsPins checkpoint.highestFlushedIndex
  | none => .ok (resolveScenario resolver now scenario.targets)

/-- Validation, the preflight of a checkpoint, the resolution, and the stages, which are validated
again. -/
def rehearse (label : String) (knobs : PlanKnobs) (file : Option Checkpoint) :
    Result DiscoveryPlan := do
  scenario.validate opts.mib
  let resumeFrom ← opts.resumeFrom digest scenario file
  let resolution ← rehearsedResolution scenario resolver now resumeFrom
  let stages ← ScenarioPlan.build label scenario knobs opts.mib
  return stages.resolve resolution

end Rehearsal

/-! ## Attempts -/

lemma latchFault_attempts (key : ℕ × ℕ) (fault : ProbeFault) (st : Tally) :
    (latchFault key fault st).1.probeAttempts = st.1.probeAttempts := by
  unfold latchFault
  split <;> rfl

lemma accumulateOutcome_attempts {kinds : List ProbeKind} {targetIndex : ℕ} {st st' : Tally}
    {entry : ℕ × Result ProbeOutcome}
    (h : accumulateOutcome kinds targetIndex st entry = .ok st') :
    st'.1.probeAttempts = st.1.probeAttempts + 1 := by
  obtain ⟨kind, -, h⟩ := bind_eq_ok.mp h
  dsimp only at h
  split at h
  · split at h
    · rw [← Except.ok.inj h]
    · rw [← Except.ok.inj h, latchFault_attempts]
      rfl
  · split at h
    · rw [← Except.ok.inj h]
      rfl
    · rw [← Except.ok.inj h, latchFault_attempts]
      rfl

lemma accumulateTarget_attempts {kinds : List ProbeKind} {scan : TargetScan} {st st' : Tally}
    (h : accumulateTarget kinds scan st = .ok st') :
    st'.1.probeAttempts = st.1.probeAttempts + scan.outcomes.length := by
  unfold accumulateTarget at h
  generalize scan.outcomes = outcomes at h ⊢
  induction outcomes generalizing st with
  | nil =>
    rw [← Except.ok.inj h]
    rfl
  | cons entry rest ih =>
    obtain ⟨st₁, hentry, h⟩ := bind_eq_ok.mp h
    rw [ih h, accumulateOutcome_attempts hentry, length_cons]
    omega

section Attempts

variable [CaseMapping] (p : Pipeline)

lemma meets_processTarget_attempts (ready : TargetScan) (st : StreamState) :
    Meets (fun _ => True) (processTarget p ready st) (fun r _ => ∀ st', r = .ok st' →
        st'.tally.1.probeAttempts = st.tally.1.probeAttempts + ready.outcomes.length)
      (fun _ _ => True) := by
  refine meets_bind (Q := fun tally _ =>
    tally.1.probeAttempts = st.tally.1.probeAttempts + ready.outcomes.length) ?_ fun tally => ?_
  · cases htally : accumulateTarget p.proberKinds ready st.tally with
    | error panic => exact fun _ _ => trivial
    | ok tally => exact meets_pure fun _ _ => accumulateTarget_attempts htally
  · dsimp only
    split
    · -- Emitting the records leaves the count alone.
      unfold emitTargetRecords
      refine meets_pure_andThen ?_ fun fused _ => ?_
      · rintro e - w - st' ⟨⟩
      refine meets_pure_andThen ?_ fun prepared _ => ?_
      · rintro e - w - st' ⟨⟩
      refine meets_of_forall fun w₀ hcount => ?_
      refine meets_bind (meets_any _) fun emitted => meets_pure ?_
      rintro w - st' hst'
      rw [← Except.ok.inj hst']
      exact hcount
    · rintro w hcount st' hst'
      rw [← Except.ok.inj hst']
      exact hcount

lemma meets_advance_attempts (i : ℕ) (ready : TargetScan) (st : StreamState) :
    Meets (fun _ => True) (advance p i ready st) (fun r _ => ∀ st', r = .ok st' →
        st'.tally.1.probeAttempts = st.tally.1.probeAttempts + ready.outcomes.length)
      (fun _ _ => True) := by
  refine meets_andThen (meets_processTarget_attempts p ready st) ?_ fun st₁ => ?_
  · rintro e w - st' ⟨⟩
  refine meets_of_forall fun w₀ hst₁ => ?_
  have hcount := hst₁ st₁ rfl
  refine meets_bind ((meets_checkpointTarget_frame p (i + 1) st₁).pre (fun _ _ => trivial))
    fun st₂ => meets_pure ?_
  rintro w ⟨htally, -⟩ st' hst'
  grind

/-- The work on targets in order counts their outcomes. -/
lemma meets_inOrder_attempts (i : ℕ) (scans : List TargetScan) (st : StreamState) :
    Meets (fun _ => True) (inOrder p i scans st)
      (fun r _ => ∀ st', r = .ok st' → st'.tally.1.probeAttempts =
        st.tally.1.probeAttempts + (scans.map fun x => x.outcomes.length).sum)
      (fun _ _ => True) := by
  induction scans generalizing i st with
  | nil =>
    rintro w - st' hst'
    rw [← Except.ok.inj hst']
    rfl
  | cons ready rest ih =>
    refine meets_andThen (meets_advance_attempts p i ready st) ?_ fun st₁ => ?_
    · rintro e w - st' ⟨⟩
    refine meets_of_forall fun w₀ hst₁ => ?_
    have hcount := hst₁ st₁ rfl
    refine (ih (i + 1) st₁).conseq (fun _ _ => trivial) ?_ (fun _ _ h => h)
    grind

lemma meets_finishStream_tally (n : ℕ) (st : StreamState) :
    Meets (fun _ => True) (finishStream p n st)
      (fun r _ => ∀ k st' emitted, r = .ok (k, st', emitted) → st'.tally = st.tally)
      (fun _ _ => True) := by
  refine meets_andThen (Q := fun _ _ => True) (meets_any _) ?_ fun tail => ?_
  · simp
  refine meets_pure_andThen ?_ fun prepared _ => ?_
  · simp
  refine meets_bind (meets_any _) fun emitted => meets_pure ?_
  simp

/-- A summary counts the outcomes received, and has the flag that was read. -/
lemma meets_streamDiscovery_attempts (fuser : Fuser) (writer : Option CheckpointWriter)
    {f : ℕ → TargetScan} {n : ℕ} {scans : List TargetScan} (hscans : AnyOrder f n scans)
    (cancelled : Bool) :
    Meets (fun _ => True) (streamDiscovery p fuser writer scans cancelled)
      (fun r _ => ∀ summary, r = .ok summary → summary.cancelled = cancelled ∧
        summary.probeAttempts = ((List.range n).map fun i => (f i).outcomes.length).sum)
      (fun _ _ => True) := by
  refine meets_bind (Q := fun block _ => ∀ k st emitted, block = .ok (k, st, emitted) →
    st.tally.1.probeAttempts = ((List.range n).map fun i => (f i).outcomes.length).sum)
    ?_ fun block => ?_
  · rw [streamBlock_eq p hscans]
    refine meets_andThen (meets_inOrder_attempts p 0 _ _) ?_ fun st => ?_
    · simp
    refine meets_of_forall fun w₀ hst => ?_
    refine (meets_finishStream_tally p n st).conseq (fun _ _ => trivial) ?_ (fun _ _ h => h)
    rintro r w hfinish k st' emitted hr
    rw [hfinish k st' emitted hr, hst st rfl, map_map, Nat.zero_add]
    rfl
  refine meets_of_forall fun w₀ hblock => meets_bind (meets_any _) fun closed => ?_
  split
  · rintro w - summary ⟨⟩
  rename_i k st emitted
  split
  · rintro w - summary ⟨⟩
  · rintro w - summary ⟨⟩
  refine meets_bind (meets_any _) fun finalized => ?_
  split
  · rintro w - summary ⟨⟩
  rintro w - summary hsum
  rw [← Except.ok.inj hsum]
  exact ⟨rfl, hblock k st emitted rfl⟩

end Attempts

/-! ## The comparison -/

lemma Scan.sum_outcomes {P : Type} (scan : Scan P ResolvedTarget) :
    ((List.range scan.targets.length).map fun i => (scan.scanAt i).outcomes.length).sum =
      scan.targets.length * scan.probers.length := by
  have hone : ∀ i ∈ List.range scan.targets.length,
      (scan.scanAt i).outcomes.length = scan.probers.length := by
    intro i hi
    rw [Scan.scanAt, getElem?_eq_getElem (mem_range.mp hi)]
    simp [Scan.scanOf]
  rw [map_congr_left hone, map_const', sum_replicate, length_range]
  rfl

section Comparison

variable [CaseMapping] {P : Type} {digest : Digest} {scenario : DiscoverScenarioConfig}
  {resolver : Resolver} {opts : RunOptions P} {now : SystemTime} {resumeFrom : Option Checkpoint}

lemma meets_runDiscoveryCore_attempts {plan : PlannedScan}
    (hsca : opts.Scans scenario (plan.targetsFrom resumeFrom)) (hprobers : scenario.probers ≠ [])
    :
    Meets (fun _ => True) (runDiscoveryCore digest scenario plan opts resumeFrom)
      (fun r _ => ∀ summary, r = .ok summary → summary.cancelled = false → summary.probeAttempts =
          (plan.targetsFrom resumeFrom).length * scenario.probers.length ∧
        summary.unresolvableTargets = plan.unresolvableTargets)
      (fun _ _ => True) := by
  obtain ⟨n, -, hscans, hfull⟩ := hsca.received hprobers
  have hlen := hsca.1
  refine meets_pure_andThen ?_ fun _ _ => ?_
  · simp
  refine meets_pure_andThen ?_ fun fuser _ => ?_
  · simp
  generalize opts.scan (plan.targetsFrom resumeFrom) = result at hscans hfull ⊢
  obtain ⟨received, cancelled⟩ := result
  refine meets_andThen (meets_streamDiscovery_attempts _ fuser _ hscans cancelled) ?_
    fun summary => meets_pure ?_
  · simp
  · rintro w hsum summary' hsum' hflag
    obtain ⟨hcan, hcount⟩ := hsum summary rfl
    obtain rfl := Except.ok.inj hsum'
    obtain rfl := hfull (hcan.symm.trans hflag)
    refine ⟨hcount.trans ?_, rfl⟩
    rw [← hlen]
    exact (opts.scanOver (plan.targetsFrom resumeFrom)).sum_outcomes

omit [CaseMapping] in
lemma planFor_stamped (later : SystemTime) (resumeFrom : Option Checkpoint) :
    planFor scenario resolver later resumeFrom =
      (planFor scenario resolver now resumeFrom).map (·.stamped later) := by
  cases resumeFrom with
  | none => exact resolver.plan_stamped now later scenario.targets
  | some checkpoint => exact ResolvedPlan.fromPinned_stamped now later _ _

omit [CaseMapping] in
lemma rehearsedResolution_of_planFor {plan : ResolvedPlan}
    (h : planFor scenario resolver now resumeFrom = .ok plan) :
    rehearsedResolution scenario resolver now resumeFrom =
      .ok ⟨attributed plan, .ok plan, resumeBase resumeFrom⟩ := by
  cases resumeFrom with
  | none =>
    have hplan : resolver.plan now scenario.targets = .ok plan := h
    rw [rehearsedResolution, resolveScenario, hplan]
    rfl
  | some checkpoint =>
    have hplan : ResolvedPlan.fromPinned now scenario.targets checkpoint.dnsPins = .ok plan := h
    rw [rehearsedResolution, resolvePinnedScenario, hplan]
    rfl

omit [CaseMapping] in
lemma rehearsedResolution_of_refused {e : RastreoError}
    (h : planFor scenario resolver now resumeFrom = .error e) :
    rehearsedResolution scenario resolver now resumeFrom = .error e ∨
      ∃ resolution, rehearsedResolution scenario resolver now resumeFrom = .ok resolution ∧
        resolution.plan = .error e := by
  cases resumeFrom with
  | none =>
    have hplan : resolver.plan now scenario.targets = .error e := h
    refine .inr ⟨_, rfl, ?_⟩
    rw [resolveScenario, hplan]
  | some checkpoint =>
    have hplan : ResolvedPlan.fromPinned now scenario.targets checkpoint.dnsPins = .error e := h
    refine .inl ?_
    rw [rehearsedResolution, resolvePinnedScenario, hplan]
    rfl

omit [CaseMapping] in
lemma rehearse_eq {label : String} {knobs : PlanKnobs} {file : Option Checkpoint}
    (hval : scenario.validate opts.mib = .ok ())
    (hresume : opts.resumeFrom digest scenario file = .ok resumeFrom) :
    rehearse digest scenario resolver opts now label knobs file =
      (rehearsedResolution scenario resolver now resumeFrom).map
        (ScenarioPlan.mk label scenario.probers knobs).resolve := by
  rw [rehearse, hval, ok_bind, hresume, ok_bind, ScenarioPlan.build, hval]
  cases rehearsedResolution scenario resolver now resumeFrom <;> rfl

lemma runScenario_eq {opened : Status} {w : RunState}
    (hval : scenario.validate opts.mib = .ok ())
    (hresume : opts.resumeFrom digest scenario w.file = .ok resumeFrom) :
    runScenario digest scenario resolver opts now opened w = andThen (pure opened) (fun _ =>
        andThen (pure (planFor scenario resolver now resumeFrom)) fun plan =>
          runDiscoveryCore digest scenario plan.planned opts resumeFrom) w := by
  rw [runScenario, hval, pure_ok_andThen]
  change andThen (pure (opts.resumeFrom digest scenario w.file)) _ w = _
  simp_all

/-- Rehearsal equals run, on the same answers and checkpoint. Where resolution succeeds with no more
addresses than a `usize` counts, a summary that was not cancelled has the attempts the rehearsal
says, up to `usize::MAX`, and the same unresolvable targets in order. Where validation fails both
end with its error. Where resolution fails a run that could open its sink ends with its error before
anything else; the rehearsal fails with it too, or has its text as the refusal and no probes. -/
theorem rehearsal_equals_run (digest : Digest) (scenario : DiscoverScenarioConfig)
    (resolver : Resolver) (opts : RunOptions P) (now later : SystemTime) (label : String)
    (knobs : PlanKnobs) (opened : Status) (w : RunState) :
    (∀ resumeFrom plan, scenario.validate opts.mib = .ok () →
      opts.resumeFrom digest scenario w.file = .ok resumeFrom →
      planFor scenario resolver now resumeFrom = .ok plan → plan.intoStream.length ≤ usizeMax →
      ∃ rehearsed, rehearse digest scenario resolver opts now label knobs w.file = .ok rehearsed ∧
        rehearsed.refusal = none ∧
        ∀ summary w', opts.Scans scenario ((plan.stamped later).planned.targetsFrom resumeFrom) →
          runScenario digest scenario resolver opts later opened w = (.done (.ok summary), w') →
          summary.cancelled = false →
          rehearsed.totalProbes = min summary.probeAttempts usizeMax ∧
            rehearsed.unresolvableTargets = summary.unresolvableTargets) ∧
    (∀ e, scenario.validate opts.mib = .error e →
      rehearse digest scenario resolver opts now label knobs w.file = .error e ∧
      runScenario digest scenario resolver opts later opened w = (.done (.error e), w)) ∧
    (∀ resumeFrom e, scenario.validate opts.mib = .ok () →
      opts.resumeFrom digest scenario w.file = .ok resumeFrom →
      planFor scenario resolver now resumeFrom = .error e → opened = .ok () →
      runScenario digest scenario resolver opts later opened w = (.done (.error e), w) ∧
      (rehearse digest scenario resolver opts now label knobs w.file = .error e ∨
        ∃ rehearsed, rehearse digest scenario resolver opts now label knobs w.file = .ok rehearsed ∧
          rehearsed.refusal = some e.display ∧ rehearsed.totalProbes = 0)) := by
  refine ⟨?_, ?_, ?_⟩
  · intro resumeFrom plan hval hresume hplan hfits
    have hlater : planFor scenario resolver later resumeFrom = .ok (plan.stamped later) := by
      rw [planFor_stamped later, hplan]
      rfl
    have hreh : rehearse digest scenario resolver opts now label knobs w.file =
        .ok ((ScenarioPlan.mk label scenario.probers knobs).resolve
          ⟨attributed plan, .ok plan, resumeBase resumeFrom⟩) := by
      rw [rehearse_eq hval hresume, rehearsedResolution_of_planFor hplan]
      rfl
    refine ⟨_, hreh, rfl, ?_⟩
    intro summary w' hscans hrun hflag
    rw [runScenario_eq hval hresume, hlater] at hrun
    cases opened with
    | error e => cases hrun
    | ok u =>
      obtain ⟨hatt, hnames⟩ :=
        (meets_runDiscoveryCore_attempts hscans (scenario.validate_eq_ok hval).1).of_done trivial
          hrun summary rfl hflag
      have hlen : ((plan.stamped later).planned.targetsFrom resumeFrom).length =
          plan.totalHosts - resumeBase resumeFrom := by
        rw [PlannedScan.targetsFrom, length_drop, plan.totalHosts_eq_length hfits]
        exact congrArg (· - _) (plan.length_intoStream_stamped later)
      refine ⟨?_, ?_⟩
      · rw [hatt, hlen]
        rfl
      · rw [hnames, ScenarioPlan.unresolvableTargets_resolve,
          ScenarioResolution.unresolvableTargets_attributed]
        rfl
  · intro e hval
    refine ⟨?_, ?_⟩
    · rw [rehearse, hval]
      rfl
    · rw [runScenario, hval]
      rfl
  · intro resumeFrom e hval hresume hplan hopened
    refine ⟨?_, ?_⟩
    · rw [runScenario_eq hval hresume, hopened, pure_ok_andThen, planFor_stamped later, hplan]
      rfl
    · rw [rehearse_eq hval hresume]
      rcases rehearsedResolution_of_refused hplan with h | ⟨resolution, h, href⟩
      · rw [h]
        exact .inl rfl
      · rw [h]
        refine .inr ⟨_, rfl, ?_, ?_⟩
        · simp only [ScenarioPlan.resolve, ScenarioResolution.refusal, href, Option.map_some]
        · simp only [ScenarioPlan.resolve, ScenarioResolution.totalHosts, href]
          omega

end Comparison

attribute [local instance] CaseMapping.ascii

/-- Two addresses and a name that cannot be looked up. -/
def pairScenario : DiscoverScenarioConfig where
  name := none
  targets := [.ip (.v4 1), .dnsName "no name", .ip (.v4 2)]
  probers := [.icmp]
  fuser := none
  sink := some (.file "records.ndjson")
  configHash := none
  otherChecks := ⟨.ok (), .ok (), .ok ()⟩

/-- A run without checkpoints over a stream of two. -/
def pairRun : RunOptions Unit where
  checkpoint := none
  mib := ⟨.error (.invalid "no MIB table"), fun _ => .error (.invalid "no MIB table")⟩
  readable := true
  setup := .ok ()
  scanId := "01"
  initiatedAt := 0
  stages := acceptingPipeline
  scheduler := twoTargets.scheduler
  probers := twoTargets.probers
  ends := twoTargets.ends
  scan _ := ([twoTargets.scanAt 1, twoTargets.scanAt 0], false)

def someKnobs : PlanKnobs := ⟨256, none, 0, 1000⟩

def attemptsOf : Exit Unit (Result DiscoverySummary) → Option (Bool × ℕ)
  | .done (.ok summary) => some (summary.cancelled, summary.probeAttempts)
  | _ => none

lemma exists_summary {exit : Exit Unit (Result DiscoverySummary)} {flag : Bool}
    {count : ℕ} (h : attemptsOf exit = some (flag, count)) :
    ∃ summary, exit = .done (.ok summary) ∧ summary.cancelled = flag ∧
      summary.probeAttempts = count := by
  unfold attemptsOf at h
  split at h
  · grind
  · cases h

def namelessResolver : Resolver := .hickory ⟨65536, noNames⟩

/-- The error of a sink that cannot be opened. -/
def sinkFailure : RastreoError :=
  .sink ⟨.other, "cannot open records.ndjson: permission denied"⟩

/-- A network of one address more than a `usize` counts. -/
def wideNet : IpNet := .v6 0x20010db8000000000000000000000000#128 64

def wideScenario : DiscoverScenarioConfig := { pairScenario with targets := [.cidr wideNet] }

/-- A checkpoint that leaves the last address of the network. -/
def wideCheckpoint : Checkpoint where
  checkpointVersion := 1
  scanId := "01"
  initiatedAt := 0
  resumeFingerprint := resumeFingerprint trivialDigest wideScenario
  sourceConfigHash := none
  dnsPins := []
  highestFlushedIndex := 2 ^ 64 - 1

def widePlan : ResolvedPlan := ⟨[.block (cidrBounds wideNet).1 (.cidr wideNet)], 0⟩

def lastScan : Scan Unit ResolvedTarget :=
  { twoTargets with targets := [⟨.v6 0x20010db800000000ffffffffffffffff#128, .cidr wideNet, 0⟩] }

lemma widePlan_targetsFrom :
    widePlan.planned.targetsFrom (some wideCheckpoint) = lastScan.targets := by
  have hfst : (networkBits 0x20010db8000000000000000000000000#128 64).toNat =
      0x20010db8000000000000000000000000 := by decide +kernel
  have hcount : (broadcastBits 0x20010db8000000000000000000000000#128 64).toNat + 1 -
      0x20010db8000000000000000000000000 = 2 ^ 64 := by decide +kernel
  have hstream : widePlan.intoStream =
      ((List.range' 0x20010db8000000000000000000000000 (2 ^ 64)).map fun bits =>
        IpAddr.v6 (BitVec.ofNat 128 bits)).map fun ip => ⟨ip, .cidr wideNet, 0⟩ := by
    exact append_nil _
  change widePlan.intoStream.drop (2 ^ 64 - 1) = _
  rw [hstream, map_map, ← map_drop, drop_range']
  rfl

def wideRun : RunOptions Unit :=
  { pairRun with
    checkpoint := some ⟨"scan.checkpoint", 1, true⟩
    scan := fun _ => ([lastScan.scanAt 0], false) }

/-- A run that cannot open its sink never resolves its targets, where the rehearsal has the refusal
of the allow-list. A resumed run is not held to the host limit, and a span is cut to a `usize`: the
rehearsal of a resume with one address left says that nothing is probed. -/
theorem rehearsal_differs_from_run :
    ((rehearse trivialDigest pairScenario (namelessResolver.guarded (some []) none) pairRun 0
        "pair" someKnobs none).map DiscoveryPlan.refusal =
      .ok (some "target 0.0.0.1 is outside the configured allow-list") ∧
      runScenario trivialDigest pairScenario (namelessResolver.guarded (some []) none)
        pairRun 0 (.error sinkFailure) ⟨[], none⟩ = (.done (.error sinkFailure), ⟨[], none⟩)) ∧
    (planFor wideScenario namelessResolver 0 (some wideCheckpoint) = .ok widePlan ∧
      wideRun.Scans wideScenario (widePlan.planned.targetsFrom (some wideCheckpoint)) ∧
      (rehearse trivialDigest wideScenario namelessResolver wideRun 0 "wide" someKnobs
        (some wideCheckpoint)).map DiscoveryPlan.totalProbes = .ok 0 ∧
      ∃ summary w, runScenario trivialDigest wideScenario namelessResolver wideRun 0 (.ok ())
          ⟨[], some wideCheckpoint⟩ = (.done (.ok summary), w) ∧
        summary.cancelled = false ∧ summary.probeAttempts = 1) := by
  refine ⟨⟨?_, rfl⟩, rfl, ?_, ?_, ?_⟩
  · decide +kernel
  · rw [widePlan_targetsFrom]
    refine ⟨rfl, [.readCancel false 0, .readCancel false 1, .join 0, .readCancel false 1,
      .send true, .proceed], _, rfl, rfl, rfl, rfl, ?_⟩
    intro hseen
    cases hseen
  · decide +kernel
  · have hcount : attemptsOf (runScenario trivialDigest wideScenario namelessResolver wideRun 0
        (.ok ()) ⟨[], some wideCheckpoint⟩).1 = some (false, 1) := by
      decide +kernel
    obtain ⟨summary, hexit, hflag, hatt⟩ := exists_summary hcount
    exact ⟨summary, _, Prod.ext hexit rfl, hflag, hatt⟩

/-- Three targets, one without addresses, and the run of the other two. -/
theorem rehearsal_equals_run_pair : ∃ rehearsed summary w,
    rehearse trivialDigest pairScenario namelessResolver pairRun 7 "pair" someKnobs none =
      .ok rehearsed ∧
    runScenario trivialDigest pairScenario namelessResolver pairRun 0 (.ok ()) ⟨[], none⟩ =
      (.done (.ok summary), w) ∧
    rehearsed.totalProbes = 2 ∧ summary.probeAttempts = 2 ∧
    rehearsed.unresolvableTargets = ["no name"] ∧ summary.unresolvableTargets = ["no name"] := by
  have hagree := (rehearsal_equals_run trivialDigest pairScenario namelessResolver pairRun
    7 0 "pair" someKnobs (.ok ()) ⟨[], none⟩).1 none
    ⟨[.block (.single (.v4 1)) (.ip (.v4 1)), .resolved [] (.dnsName "no name"),
      .block (.single (.v4 2)) (.ip (.v4 2))], 7⟩ rfl rfl (by rfl) (by decide)
  obtain ⟨rehearsed, hreh, -, hagree⟩ := hagree
  have hcount : attemptsOf (runScenario trivialDigest pairScenario namelessResolver pairRun 0
      (.ok ()) ⟨[], none⟩).1 = some (false, 2) := by
    decide +kernel
  obtain ⟨summary, hexit, hflag, hatt⟩ := exists_summary hcount
  have hscans : pairRun.Scans pairScenario twoTargets.targets := by
    obtain ⟨s, hrun, hsent⟩ : ∃ s, twoTargets.RunsToEnd (completionOrder 1 0) s ∧
        s.sent = [twoTargets.scanAt 1, twoTargets.scanAt 0] := ⟨_, ⟨rfl, rfl, rfl, rfl⟩, rfl⟩
    obtain ⟨hrea, hph, halive, hseen⟩ := hrun
    refine ⟨rfl, completionOrder 1 0, s, hrea, hph, halive, hsent.symm, fun h => ?_⟩
    rw [hseen] at h
    cases h
  obtain ⟨hprobes, hnames⟩ := hagree summary _ hscans (Prod.ext hexit rfl) hflag
  have hgone : (rehearse trivialDigest pairScenario namelessResolver pairRun 7 "pair" someKnobs
      none).map DiscoveryPlan.unresolvableTargets = .ok ["no name"] := by
    decide +kernel
  rw [hreh] at hgone
  have hgone := Except.ok.inj hgone
  rw [hatt] at hprobes
  exact ⟨rehearsed, summary, _, hreh, Prod.ext hexit rfl, hprobes, hatt, hgone, hnames ▸ hgone⟩

end Rastreo
