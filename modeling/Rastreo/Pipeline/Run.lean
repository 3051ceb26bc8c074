import Rastreo.Checkpoint.Preflight
import Rastreo.Pipeline.InOrder
import Rastreo.Resolver.Replay
import Rastreo.Scheduler.Delivery

/-!
# Runs of one scenario

`run_discovery` of a scenario, and the sequences of such runs in which each later run resumes from
the file the run before it left.  The first run has its plan from the resolver, a resumed one
rebuilds it from the targets and the pins of its checkpoint.  A run may return or crash before any
of its calls.
-/

namespace Rastreo

open Async

structure PlannedScan where
  stream : List ResolvedTarget
  totalHosts : ℕ
  dnsPins : List (Target × List IpAddr)
  unresolvableTargets : List String

def ResolvedPlan.planned (plan : ResolvedPlan) : PlannedScan where
  stream := plan.intoStream
  totalHosts := plan.totalHosts
  dnsPins := plan.dnsPins
  unresolvableTargets := plan.unresolvableTargets.map Target.display

/-- Beside scenario and plan. `setup` is the outcome of building the parts, none of which writes a
record or touches the checkpoint; of `stages` the run replaces metadata, kinds and plan size; `scan`
yields what the scheduler sends and the cancel flag when it is over. -/
structure RunOptions (P : Type) where
  checkpoint : Option CheckpointConfig
  mib : MibSource
  readable : Bool
  setup : Status
  scanId : String
  initiatedAt : SystemTime
  stages : Pipeline
  scheduler : BoundedScheduler
  probers : List P
  ends : ℕ → ℕ → P → ResolvedTarget → TaskEnd
  scan : List ResolvedTarget → List TargetScan × Bool

section Run

variable {P : Type} (digest : Digest) (scenario : DiscoverScenarioConfig) (plan : PlannedScan)
  (resolver : Resolver) (opts : RunOptions P) (now : SystemTime)

/-- A resumed run continues the scan of its checkpoint. -/
def RunOptions.scanMetadata (resumeFrom : Option Checkpoint) : ScanMetadata :=
  match resumeFrom with
  | some checkpoint => .resumed scenario checkpoint.scanId checkpoint.initiatedAt
  | none => .resumed scenario opts.scanId opts.initiatedAt

def RunOptions.pipeline (resumeFrom : Option Checkpoint) : Pipeline :=
  { opts.stages with
    scanMetadata := opts.scanMetadata scenario resumeFrom
    proberKinds := scenario.probers
    targetsResolved := plan.totalHosts }

def resumeBase (resumeFrom : Option Checkpoint) : ℕ :=
  resumeFrom.elim 0 (·.highestFlushedIndex)

/-- The targets of a run: all but those skipped. -/
def PlannedScan.targetsFrom (resumeFrom : Option Checkpoint) : List ResolvedTarget :=
  plan.stream.drop (resumeBase resumeFrom)

def RunOptions.checkpointWriter (resumeFrom : Option Checkpoint) : Option CheckpointWriter :=
  opts.checkpoint.map fun config =>
    (CheckpointWriter.new config (opts.scanMetadata scenario resumeFrom)
      (resumeFingerprint digest scenario) plan.dnsPins).withResumeBase (resumeBase resumeFrom)

def RunOptions.resumeFrom (file : Option Checkpoint) : Result (Option Checkpoint) :=
  match opts.checkpoint with
  | some config =>
    (preflightCheckpointRequest digest scenario opts.readable config file).mapError .resume
  | none => .ok none

/-- A resumed run rebuilds it from the pins. -/
def planFor (resumeFrom : Option Checkpoint) : Result ResolvedPlan :=
  match resumeFrom with
  | some checkpoint => ResolvedPlan.fromPinned now scenario.targets checkpoint.dnsPins
  | none => resolver.plan now scenario.targets

variable [CaseMapping]

/-- `run_discovery_core` on its plan: the other parts are built, then the scans of the targets that
are left are streamed to the sink. -/
def runDiscoveryCore (resumeFrom : Option Checkpoint) :
    Run (Result DiscoverySummary) :=
  andThen (pure opts.setup) fun _ =>
  andThen (pure (createFuser opts.mib scenario.effectiveFuserConfig)) fun fuser =>
  let (scans, cancelled) := opts.scan (plan.targetsFrom resumeFrom)
  andThen (streamDiscovery (opts.pipeline scenario plan resumeFrom) fuser
      (opts.checkpointWriter digest scenario plan resumeFrom) scans cancelled) fun summary =>
    pure (.ok { summary with unresolvableTargets := plan.unresolvableTargets })

/-- `run_discovery`. The preflight precedes everything with an effect. The sink is opened before the
targets are resolved, with outcome `opened`; the stages after, with the set-up of the options. -/
def runScenario (opened : Status) : Run (Result DiscoverySummary) :=
  andThen (pure (scenario.validate opts.mib)) fun _ => do
    let file ← Async.read RunState.file
    andThen (pure (opts.resumeFrom digest scenario file)) fun resumeFrom =>
    andThen (pure opened) fun _ =>
    andThen (pure (planFor scenario resolver now resumeFrom)) fun plan =>
      runDiscoveryCore digest scenario plan.planned opts resumeFrom

/-! ## Sequences of runs -/

omit [CaseMapping] in
def RunOptions.scanOver (targets : List ResolvedTarget) : Scan P ResolvedTarget :=
  ⟨opts.scheduler, opts.probers, targets, opts.ends⟩

omit [CaseMapping] in
/-- The probers are those of the scenario, and what is received is what a scan sent that returned
with its receiver alive. The flag is never taken back. -/
def RunOptions.Scans (targets : List ResolvedTarget) : Prop :=
  opts.probers.length = scenario.probers.length ∧
    ∃ actions s, (opts.scanOver targets).Reaches actions s ∧
      s.phase = .returned ∧ s.receiverGone = false ∧ (opts.scan targets).1 = s.sent ∧
      (s.cancelSeen = true → (opts.scan targets).2 = true)

/-- Its options and time, the file found, its end, its calls and the file left. -/
structure PastRun (P : Type) where
  opts : RunOptions P
  now : SystemTime
  found : Option Checkpoint
  exit : Exit Unit (Result DiscoverySummary)
  final : RunState

/-- The runs so far and the file left. The first run starts without a file and resolves the targets
to `plan`; each later one is to resume. -/
inductive History (plan : ResolvedPlan) : List (PastRun P) → Option Checkpoint → Prop where
  | start : History plan [] none
  | next {runs : List (PastRun P)} {file : Option Checkpoint} (past : History plan runs file)
      (opts : RunOptions P) (resolver : Resolver) (now : SystemTime)
      (opened : Status)
      (hresume : opts.checkpoint.map (·.resume) = some !runs.isEmpty)
      (hfirst : runs = [] → resolver.IsSystem ∧
        ∀ resolved, resolver.plan now scenario.targets = .ok resolved → resolved = plan.stamped now)
      (hscans : ∀ resolved, planFor scenario resolver now file = .ok resolved →
        opts.Scans scenario (resolved.planned.targetsFrom file))
      {exit : Exit Unit (Result DiscoverySummary)} {w : RunState}
      (hrun : runScenario digest scenario resolver opts now opened ⟨[], file⟩ = (exit, w)) :
      History plan (runs ++ [⟨opts, now, file, exit, w⟩]) w.file

end Run

/-! ## What a run receives -/

section Received

variable {P : Type} {scenario : DiscoverScenarioConfig} {opts : RunOptions P}

/-- A valid scenario has probers, and its parts and its fuser could be built. -/
lemma DiscoverScenarioConfig.validate_eq_ok {mib : MibSource}
    (h : scenario.validate mib = .ok ()) : scenario.probers ≠ [] ∧
      scenario.otherChecks.parts = .ok () ∧
      ∃ fuser, createFuser mib scenario.effectiveFuserConfig = .ok fuser := by
  obtain ⟨_, -, h⟩ := bind_eq_ok.mp h
  dsimp only at h
  split at h
  · contradiction
  split at h
  · contradiction
  next hprobers =>
    obtain ⟨_, hparts, h⟩ := bind_eq_ok.mp h
    obtain ⟨_, hfuser, -⟩ := bind_eq_ok.mp h
    obtain ⟨fuser, hfuser, -⟩ := map_eq_ok.mp hfuser
    exact ⟨fun hnil => hprobers (by rw [hnil]; rfl), hparts, fuser, hfuser⟩

lemma RunOptions.Scans.received {targets : List ResolvedTarget}
    (h : opts.Scans scenario targets) (hprobers : scenario.probers ≠ []) :
    ∃ n ≤ targets.length, AnyOrder (opts.scanOver targets).scanAt n (opts.scan targets).1 ∧
      ((opts.scan targets).2 = false → n = targets.length) := by
  obtain ⟨hlen, actions, s, hrun, hph, halive, hsent, hseen⟩ := h
  have hne : (opts.scanOver targets).probers ≠ [] := by
    intro hnil
    have hzero : opts.probers.length = 0 := congrArg List.length hnil
    grind
  obtain ⟨hall, n, hn, hperm, hfull⟩ := hrun.sent_of_returned hne halive hph
  rw [hsent]
  refine ⟨n, hn, ⟨hall, hperm⟩, fun hflag => hfull ?_⟩
  rw [Bool.eq_false_iff]
  intro htrue
  grind

end Received

end Rastreo
