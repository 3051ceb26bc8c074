import Rastreo.Server.Metrics
import Mathlib.Data.Rat.Defs

/-!
# The scan requests of a server

`POST /scans` requests go through the handler one atomic step at a time, in any interleaving:
admission adds to the counter, tests and rolls back if that was too many; an outcome guard is armed
and the scan awaited; when it returns its outcome is recorded and the guard disarmed.  Then, or when
the future is dropped at the await, the outcome guard is dropped, which records a scan if it is
still armed, and after it the in-flight guard.  The adds that record one outcome commute, so they
are one step.  The running sum of the histogram is left out.  The counter is at most the number of
requests, so its 64 bits do not wrap around.
-/

namespace Rastreo

/-! ## Durations -/

/-- `HistogramShard`, apart from the sum. -/
structure HistogramShard where
  buckets : List UInt64 := List.replicate 11 0
  plusInf : UInt64 := 0
  count : UInt64 := 0
  deriving DecidableEq

/-- `BUCKET_BOUNDS`, in seconds. -/
def HistogramShard.bucketBounds : List ℚ :=
  [5 / 1000, 10 / 1000, 25 / 1000, 50 / 1000, 100 / 1000, 250 / 1000, 500 / 1000, 1, 5 / 2, 5, 10]

def HistogramShard.observe (self : HistogramShard) (seconds : ℚ) : HistogramShard where
  buckets := List.zipWith (fun bound bucket => if seconds ≤ bound then bucket + 1 else bucket)
    bucketBounds self.buckets
  plusInf := self.plusInf + 1
  count := self.count + 1

structure ScenarioHistograms where
  all : HistogramShard := {}
  perScenario : String → Option HistogramShard
  allowlist : List String
  other : HistogramShard := {}
  maxLength : ℕ

/-- At most this many bytes, splitting no character. -/
def floorCharBoundary : ℕ → List Char → List Char
  | _, [] => []
  | bytes, c :: rest =>
    if c.utf8Size ≤ bytes then c :: floorCharBoundary (bytes - c.utf8Size) rest else []

namespace ScenarioHistograms

/-- The allow-list has its shards from the start. -/
def new (allowlist : List String) (maxLength : ℕ) : ScenarioHistograms where
  perScenario name := if name ∈ allowlist then some {} else none
  allowlist := allowlist
  maxLength := maxLength

def resolveLabel (self : ScenarioHistograms) (scenario : String) : Option String :=
  let trimmed :=
    if self.maxLength < scenario.utf8ByteSize then
      String.ofList (floorCharBoundary self.maxLength scenario.toList)
    else scenario
  if trimmed ∈ self.allowlist then some trimmed else none

def observe (self : ScenarioHistograms) (seconds : ℚ) (scenario : String) : ScenarioHistograms :=
  let self := { self with all := self.all.observe seconds }
  match self.resolveLabel scenario with
  | some label =>
    { self with
      perScenario := Function.update self.perScenario label
        (some (((self.perScenario label).getD {}).observe seconds)) }
  | none => { self with other := self.other.observe seconds }

def shardCount (self : ScenarioHistograms) : Option String → UInt64
  | some label => ((self.perScenario label).getD {}).count
  | none => self.other.count

variable (self : ScenarioHistograms) (seconds : ℚ) (scenario : String)

@[simp] lemma resolveLabel_observe (name : String) :
    (self.observe seconds scenario).resolveLabel name = self.resolveLabel name := by
  unfold observe
  dsimp only
  split <;> rfl

@[simp] lemma all_observe : (self.observe seconds scenario).all.count = self.all.count + 1 := by
  unfold observe
  dsimp only
  split <;> rfl

lemma shardCount_observe (shard : Option String) :
    (self.observe seconds scenario).shardCount shard =
      self.shardCount shard + if self.resolveLabel scenario = shard then 1 else 0 := by
  have hres : ScenarioHistograms.resolveLabel { self with all := self.all.observe seconds }
      scenario = self.resolveLabel scenario := rfl
  unfold observe
  dsimp only
  rw [hres]
  cases hlabel : self.resolveLabel scenario with
  | none =>
    cases shard with
    | none => simp [shardCount, HistogramShard.observe]
    | some name => simp [shardCount]
  | some label =>
    cases shard with
    | none => simp [shardCount]
    | some name =>
      by_cases hname : name = label
      · subst hname
        simp [shardCount, HistogramShard.observe]
      · simp [shardCount, hname, Ne.symm hname]

end ScenarioHistograms

/-! ## Recording -/

structure ScanMetrics where
  counters : Metrics := {}
  scanDuration : ScenarioHistograms

namespace ScanMetrics

def recordScanCompletion (self : ScanMetrics) (summary : DiscoverySummary) (elapsed : ℚ)
    (scenario : String) : ScanMetrics where
  counters := self.counters.recordScanCompletion summary
  scanDuration := self.scanDuration.observe elapsed scenario

def recordScanError (self : ScanMetrics) (elapsed : ℚ) (sinkClass : Option SinkErrorClass)
    (scenario : String) : ScanMetrics where
  counters := self.counters.recordScanError sinkClass
  scanDuration := self.scanDuration.observe elapsed scenario

def recordScanCancelled (self : ScanMetrics) (elapsed : ℚ) (scenario : String) : ScanMetrics where
  counters := self.counters.recordScanCancelled
  scanDuration := self.scanDuration.observe elapsed scenario

end ScanMetrics

/-! ## The handler -/

structure ScanOutcomeGuard where
  scenario : String
  armed : Bool
  deriving DecidableEq

namespace ScanOutcomeGuard

def new (scenario : String) : ScanOutcomeGuard := ⟨scenario, true⟩

def disarm (self : ScanOutcomeGuard) : ScanOutcomeGuard := { self with armed := false }

/-- `Drop`: a scan whose outcome was not recorded counts as cancelled. -/
def drop (self : ScanOutcomeGuard) (elapsed : ℚ) (metrics : ScanMetrics) : ScanMetrics :=
  if self.armed then metrics.recordScanCancelled elapsed self.scenario else metrics

end ScanOutcomeGuard

inductive ScanEnd where
  /-- `run_discovery` returns a summary -/
  | succeeded
  /-- `run_discovery` returns a summary of a cancelled scan -/
  | cancelled
  /-- `run_discovery` returns an error -/
  | failed
  /-- the future is dropped at its await, or unwinds from it -/
  | dropped
  deriving DecidableEq

inductive RequestEnd where
  /-- the scenario does not pass validation -/
  | refused
  /-- a dry run, which starts no scan -/
  | rehearsed
  /-- too many scans are running -/
  | tooMany
  | scanned (outcome : ScanEnd)
  deriving DecidableEq

inductive RequestPhase where
  /-- before `try_acquire` -/
  | arrived
  /-- it has added to the counter, and found this -/
  | added (prior : ℕ)
  /-- it has found too many, and is to roll back -/
  | overLimit
  /-- it holds an in-flight guard and an outcome guard, and awaits the scan -/
  | running (guard : ScanOutcomeGuard)
  /-- the scan has returned and its outcome is recorded -/
  | settled (outcome : ScanEnd) (guard : ScanOutcomeGuard)
  /-- the outcome guard is to be dropped -/
  | leaving (outcome : ScanEnd) (guard : ScanOutcomeGuard)
  /-- the in-flight guard is to be dropped -/
  | finished (outcome : ScanEnd)
  | over (answer : RequestEnd)
  deriving DecidableEq

/-- A request, with the label of its scenario. -/
structure Request where
  label : String
  phase : RequestPhase := .arrived
  deriving DecidableEq

structure Shared where
  inflightScans : ℕ := 0
  metrics : ScanMetrics

inductive HandlerStep where
  /-- `validate` fails, after this time -/
  | refuse (err : RastreoError) (elapsed : ℚ)
  /-- a dry run ends, in any way -/
  | rehearse
  /-- `fetch_add` of `try_acquire` -/
  | add
  /-- the test of `try_acquire`; if it passes, the outcome guard is created -/
  | test
  /-- `fetch_sub` of `try_acquire` -/
  | rollBack
  /-- `run_discovery` returns a summary, which is recorded -/
  | complete (summary : DiscoverySummary) (elapsed : ℚ)
  /-- `run_discovery` returns an error, which is recorded -/
  | fail (err : RastreoError) (elapsed : ℚ)
  /-- `disarm`, and the response is built -/
  | disarm
  /-- the future is dropped at its await -/
  | drop
  /-- the outcome guard is dropped, after this time -/
  | dropGuard (elapsed : ℚ)
  /-- the in-flight guard is dropped -/
  | release

def HandlerStep.perform (maxInflight : ℕ) :
    HandlerStep → Request → Shared → Option (Request × Shared)
  | .refuse err elapsed, ⟨label, .arrived⟩, s =>
    some (⟨label, .over .refused⟩,
      { s with metrics := s.metrics.recordScanError elapsed err.sinkErrorClass label })
  | .rehearse, ⟨label, .arrived⟩, s => some (⟨label, .over .rehearsed⟩, s)
  | .add, ⟨label, .arrived⟩, s =>
    some (⟨label, .added s.inflightScans⟩, { s with inflightScans := s.inflightScans + 1 })
  | .test, ⟨label, .added prior⟩, s =>
    some (⟨label, if 0 < maxInflight ∧ maxInflight < prior + 1 then .overLimit
      else .running (.new label)⟩, s)
  | .rollBack, ⟨label, .overLimit⟩, s =>
    some (⟨label, .over .tooMany⟩, { s with inflightScans := s.inflightScans - 1 })
  | .complete summary elapsed, ⟨label, .running guard⟩, s =>
    some (⟨label, .settled (if summary.cancelled then .cancelled else .succeeded) guard⟩,
      { s with metrics := s.metrics.recordScanCompletion summary elapsed label })
  | .fail err elapsed, ⟨label, .running guard⟩, s =>
    some (⟨label, .settled .failed guard⟩,
      { s with metrics := s.metrics.recordScanError elapsed err.sinkErrorClass label })
  | .disarm, ⟨label, .settled outcome guard⟩, s => some (⟨label, .leaving outcome guard.disarm⟩, s)
  | .drop, ⟨label, .running guard⟩, s => some (⟨label, .leaving .dropped guard⟩, s)
  | .dropGuard elapsed, ⟨label, .leaving outcome guard⟩, s =>
    some (⟨label, .finished outcome⟩, { s with metrics := guard.drop elapsed s.metrics })
  | .release, ⟨label, .finished outcome⟩, s =>
    some (⟨label, .over (.scanned outcome)⟩, { s with inflightScans := s.inflightScans - 1 })
  | _, _, _ => none

/-- The server: the requests it has had, and what they share. -/
structure ScanServer where
  shared : Shared
  requests : List Request := []

inductive RequestAction where
  /-- a request arrives, with the label of its scenario -/
  | arrive (label : String)
  /-- the handler of the `i`-th request takes a step -/
  | handle (i : ℕ) (a : HandlerStep)

def ScanServer.step (maxInflight : ℕ) : RequestAction → ScanServer → Option ScanServer
  | .arrive label, s => some { s with requests := s.requests ++ [{ label }] }
  | .handle i a, s => do
    let request ← s.requests[i]?
    let (request, shared) ← a.perform maxInflight request s.shared
    some ⟨shared, s.requests.set i request⟩

def ScanServer.start (allowlist : List String) (maxLength : ℕ) : ScanServer where
  shared := { metrics := { scanDuration := .new allowlist maxLength } }

/-! ## What a step does -/

inductive Handles (maxInflight : ℕ) (label : String) (s : Shared) :
    HandlerStep → RequestPhase → RequestPhase → Shared → Prop where
  | refuse (err : RastreoError) (elapsed : ℚ) :
      Handles maxInflight label s (.refuse err elapsed) .arrived (.over .refused)
        { s with metrics := s.metrics.recordScanError elapsed err.sinkErrorClass label }
  | rehearse : Handles maxInflight label s .rehearse .arrived (.over .rehearsed) s
  | add : Handles maxInflight label s .add .arrived (.added s.inflightScans)
        { s with inflightScans := s.inflightScans + 1 }
  | tooMany (prior : ℕ) (hlimit : 0 < maxInflight) (hprior : maxInflight ≤ prior) :
      Handles maxInflight label s .test (.added prior) .overLimit s
  | start (prior : ℕ) (hprior : maxInflight = 0 ∨ prior < maxInflight) :
      Handles maxInflight label s .test (.added prior) (.running (.new label)) s
  | rollBack : Handles maxInflight label s .rollBack .overLimit (.over .tooMany)
        { s with inflightScans := s.inflightScans - 1 }
  | complete (summary : DiscoverySummary) (elapsed : ℚ) (guard : ScanOutcomeGuard) :
      Handles maxInflight label s (.complete summary elapsed) (.running guard)
        (.settled (if summary.cancelled then .cancelled else .succeeded) guard)
        { s with metrics := s.metrics.recordScanCompletion summary elapsed label }
  | fail (err : RastreoError) (elapsed : ℚ) (guard : ScanOutcomeGuard) :
      Handles maxInflight label s (.fail err elapsed) (.running guard) (.settled .failed guard)
        { s with metrics := s.metrics.recordScanError elapsed err.sinkErrorClass label }
  | disarm (outcome : ScanEnd) (guard : ScanOutcomeGuard) :
      Handles maxInflight label s .disarm (.settled outcome guard) (.leaving outcome guard.disarm) s
  | drop (guard : ScanOutcomeGuard) :
      Handles maxInflight label s .drop (.running guard) (.leaving .dropped guard) s
  | dropGuard (elapsed : ℚ) (outcome : ScanEnd) (guard : ScanOutcomeGuard) :
      Handles maxInflight label s (.dropGuard elapsed) (.leaving outcome guard) (.finished outcome)
        { s with metrics := guard.drop elapsed s.metrics }
  | release (outcome : ScanEnd) :
      Handles maxInflight label s .release (.finished outcome) (.over (.scanned outcome))
        { s with inflightScans := s.inflightScans - 1 }

lemma HandlerStep.handles_of_perform {maxInflight : ℕ} {a : HandlerStep}
    {request request' : Request} {s s' : Shared}
    (h : a.perform maxInflight request s = some (request', s')) :
    request'.label = request.label ∧
      Handles maxInflight request.label s a request.phase request'.phase s' := by
  unfold HandlerStep.perform at h
  split at h
  case h_4 label prior =>
    obtain ⟨rfl, rfl⟩ := Prod.mk.inj (Option.some.inj h)
    refine ⟨rfl, ?_⟩
    dsimp only
    split_ifs with htest
    · exact .tooMany prior htest.1 (Nat.lt_succ_iff.mp htest.2)
    · exact .start prior (by omega)
  case h_12 => cases h
  all_goals
    obtain ⟨rfl, rfl⟩ := Prod.mk.inj (Option.some.inj h)
    exact ⟨rfl, by constructor⟩

namespace ScanServer

variable {maxInflight : ℕ} {s s' : ScanServer} {act : RequestAction}

lemma step_cases (h : step maxInflight act s = some s') :
    (∃ label, act = .arrive label ∧ s' = { s with requests := s.requests ++ [{ label }] }) ∨
    ∃ i a request phase' shared', s.requests[i]? = some request ∧ act = .handle i a ∧
      Handles maxInflight request.label s.shared a request.phase phase' shared' ∧
      s' = ⟨shared', s.requests.set i ⟨request.label, phase'⟩⟩ := by
  cases act with
  | arrive label => exact .inl ⟨label, rfl, (Option.some.inj h).symm⟩
  | handle i a =>
    obtain ⟨request, hreq, h⟩ := Option.bind_eq_some_iff.mp h
    obtain ⟨⟨request', shared'⟩, hper, h⟩ := Option.bind_eq_some_iff.mp h
    obtain ⟨label, phase'⟩ := request'
    obtain ⟨rfl, hhan⟩ := HandlerStep.handles_of_perform hper
    exact .inr ⟨i, a, request, phase', shared', hreq, rfl, hhan, (Option.some.inj h).symm⟩

lemma countP_eq_add {α : Type} {p q r : α → Bool}
    (h : ∀ a, (p a).toNat = (q a).toNat + (r a).toNat) (l : List α) :
    l.countP p = l.countP q + l.countP r := by
  induction l with
  | nil => rfl
  | cons a l ih =>
    have ha := h a
    cases hp : p a <;> cases hq : q a <;> cases hr : r a <;> simp [hp, hq, hr] at ha ⊢ <;> omega

lemma countP_set_add {α : Type} {p : α → Bool} {l : List α} {i : ℕ} {a b : α}
    (h : l[i]? = some b) : (l.set i a).countP p + (p b).toNat = l.countP p + (p a).toNat := by
  obtain ⟨hi, hb⟩ := List.getElem?_eq_some_iff.mp h
  have hmem : p b = true → 0 < l.countP p := fun hp =>
    List.countP_pos_iff.mpr ⟨b, List.mem_of_getElem? h, hp⟩
  rw [List.countP_set hi, hb]
  cases hpb : p b <;> cases hpa : p a
  · simp
  · simp
  · have := hmem hpb
    simp
    omega
  · grind

end ScanServer

end Rastreo
