import Rastreo.Checkpoint.Writer
import Rastreo.CollectionProfile.Assembler
import Rastreo.Fuser.Chain
import Rastreo.Scheduler.Model

/-!
# The discovery pipeline

`stream_discovery`, which emits the records of each target as soon as all targets before it are
done, and the batch reference, which collects all scans first.  `Pipeline` holds what they are
called with, `StreamState` and `Reorder` the mutable variables.  Progress reports, tracing and the
elapsed time are left out.  `andThen` is the operator `?`.
-/

namespace Rastreo

open Async

/-! ## Accumulated metrics -/

/-- Counters are indexed by the kind they count. -/
structure ScanAccumulation where
  probeAttempts : ℕ := 0
  errorCounts : ProbeErrorKind → ℕ := fun _ => 0
  firstProbeError : Option ProbeFault := none
  attemptsByKind : ProbeKind → ℕ := fun _ => 0
  errorsByKind : ProbeKind → ℕ := fun _ => 0
  cancelled : Bool := false

/-- The metrics and the key of the fault latched first. -/
abbrev Tally := ScanAccumulation × Option (ℕ × ℕ)

/-- The order of fault keys: by prober, then by target. -/
def faultKeyLt (a b : ℕ × ℕ) : Bool := a.1 < b.1 || (a.1 == b.1 && a.2 < b.2)

def bump {κ : Type} [DecidableEq κ] (counts : κ → ℕ) (k : κ) : κ → ℕ :=
  Function.update counts k (counts k + 1)

/-- Keep a fault if no fault with a smaller key has been kept. -/
def latchFault (key : ℕ × ℕ) (fault : ProbeFault) (st : Tally) : Tally :=
  if st.2.elim true (faultKeyLt key) then
    ({ st.1 with firstProbeError := some fault }, some key)
  else st

def countFault (kind : ProbeKind) (errorKind : ProbeErrorKind) (st : Tally) : Tally :=
  ({ st.1 with
    errorsByKind := bump st.1.errorsByKind kind
    errorCounts := bump st.1.errorCounts errorKind }, st.2)

/-- The body of the loop of `accumulate_target`. -/
def accumulateOutcome (proberKinds : List ProbeKind) (targetIndex : ℕ) (st : Tally)
    (entry : ℕ × Result ProbeOutcome) : Except Panic Tally := do
  let (passIndex, result) := entry
  let kind ← index proberKinds passIndex
  let st : Tally :=
    ({ st.1 with
      probeAttempts := st.1.probeAttempts + 1
      attemptsByKind := bump st.1.attemptsByKind kind }, st.2)
  match result with
  | .ok outcome =>
    match outcome.fault with
    | none => pure st
    | some fault => pure (latchFault (passIndex, targetIndex) fault (countFault kind fault.kind st))
  | .error err =>
    let st := countFault kind .other st
    let msg := err.display
    if msg = "" then pure st
    else pure (latchFault (passIndex, targetIndex) ⟨.other, msg⟩ st)

def accumulateTarget (proberKinds : List ProbeKind) (scan : TargetScan) (st : Tally) :
    Except Panic Tally :=
  scan.outcomes.foldlM (accumulateOutcome proberKinds scan.targetIndex) st

def probeOutcomes (outcomes : List (ℕ × Result ProbeOutcome)) : List ProbeOutcome :=
  outcomes.filterMap fun o => o.2.toOption

def ProbeKind.all : List ProbeKind :=
  [.tcpConnect, .udp, .http, .dns, .snmp, .arp, .ndp, .ssh, .icmp, .tls, .reverseDns, .gnmi, .lldp]

/-- Attempts and errors of one kind of probe. -/
structure ProbeKindSummary where
  kind : ProbeKind
  attempted : ℕ
  errored : ℕ
  deriving DecidableEq

def buildProbesByKind (attempts errors : ProbeKind → ℕ) : List ProbeKindSummary :=
  (ProbeKind.all.filter fun kind => !(attempts kind == 0 && errors kind == 0)).map fun kind =>
    ⟨kind, attempts kind, errors kind⟩

/-- What a run reports, apart from the time it took. -/
structure DiscoverySummary where
  targetsResolved : ℕ
  probeAttempts : ℕ
  recordsEmitted : ℕ
  linksEmitted : ℕ
  profilesEmitted : ℕ
  unresolvableTargets : List String
  errorCounts : ProbeErrorKind → ℕ
  probesByKind : List ProbeKindSummary
  dlqRecords : ℕ
  dlqRecordsByTypeAndClass : List (SinkType × SinkErrorClass × ℕ)
  sinkType : Option SinkType
  cancelled : Bool
  firstProbeError : Option ProbeFault

/-! ## Emitting -/

/-- What an encoder is given, by `encode_record`, `encode_link` and `encode_profile`. -/
inductive AnyRecord where
  | device (record : DeviceRecord)
  | link (link : LinkRecord)
  | profile (profile : CollectionProfileRecord)

/-- What a new encoder makes of a record, after all it was given before. -/
abbrev Encoder := List AnyRecord → AnyRecord → Result Bytes

/-- An encoder with a state of its own. -/
def Encoder.ofState {σ : Type} (start : σ)
    (encode : σ → AnyRecord → Result Bytes × σ) : Encoder :=
  fun before x => (encode (before.foldl (fun state x => (encode state x).2) start) x).1

/-- All but the fuser, the scan and the checkpoint writer. -/
structure Pipeline where
  env : Surroundings
  scanMetadata : ScanMetadata
  proberKinds : List ProbeKind
  targetsResolved : ℕ
  classify : DeviceRecord → Result DeviceRecord
  encoder : Encoder
  hashOrder : HashOrder
  edgeOrder : EdgeOrder

/-- A panic takes the run down. -/
def orPanic {α : Type} : Except Panic α → Run α
  | .ok a => pure a
  | .error _ => Run.abort

/-- A fuser's error is returned, its panic takes the run down. -/
def orFault {α : Type} : Except FuserFault α → Run (Result α)
  | .ok a => pure (.ok a)
  | .error (.error e) => pure (.error e)
  | .error (.panic _) => Run.abort

section Emit

variable (p : Pipeline)

/-- `write_encoded`: whether anything was written. -/
def writeEncoded (kind : RecordKind) (buf : Bytes) : Run (Result Bool) :=
  if buf.isEmpty then pure (.ok false)
  else andThen (callSink p.env (.writeKind kind buf)) fun _ => pure (.ok true)

/-- How many records were written, all that the encoder was given, and the error that ended it. -/
structure Emission where
  emitted : ℕ := 0
  encoded : List AnyRecord := []
  err : Option RastreoError := none

/-- Until the first error. -/
def emitLoop (kind : RecordKind) : List AnyRecord → Emission → Run Emission
  | [], em => pure em
  | x :: rest, em =>
    let encoded := em.encoded ++ [x]
    match p.encoder em.encoded x with
    | .error e => pure { em with encoded, err := some e }
    | .ok buf => do
      match (← writeEncoded p kind buf) with
      | .error e => pure { em with encoded, err := some e }
      | .ok written => emitLoop kind rest { em with encoded, emitted := em.emitted + written.toNat }

/-- Unless an emission has failed before. -/
def emitUnlessFailed (kind : RecordKind) (records : List AnyRecord) (em : Emission) :
    Run Emission :=
  if em.err.isSome then pure em else emitLoop p kind records em

structure Assemblers where
  topology : TopologyAssembler
  profile : CollectionProfileAssembler

def Assemblers.new : Assemblers :=
  ⟨TopologyAssembler.new p.scanMetadata, CollectionProfileAssembler.new p.scanMetadata⟩

def Assemblers.observeOutcomes (a : Assemblers) (outcomes : List ProbeOutcome) : Assemblers :=
  ⟨a.topology.observeOutcomes outcomes, a.profile.observeOutcomes outcomes⟩

variable [CaseMapping]

def Assemblers.observeRecord (a : Assemblers) (record : DeviceRecord) : Assemblers :=
  ⟨a.topology.observeRecord record, a.profile.observeRecord record⟩

/-- `classify` and `stamp_scan_metadata`. -/
def classifyAndStamp (record : DeviceRecord) : Result DeviceRecord := do
  let record ← p.classify record
  pure { record with scanMetadata := p.scanMetadata }

/-- The loop that classifies, stamps and indexes fused records. -/
def prepareRecords (records : List DeviceRecord) (a : Assemblers) :
    Result (List DeviceRecord × Assemblers) :=
  records.foldlM (fun st record => do
      let record ← classifyAndStamp p record
      pure (st.1 ++ [record], st.2.observeRecord record))
    ([], a)

/-! ## The stream -/

structure StreamState where
  tally : Tally := ({}, none)
  emission : Emission := {}
  fuser : Fuser
  assemblers : Assemblers
  checkpoint : Option CheckpointWriter

/-- Scans by the index of their target. -/
abbrev ScanBuffer := AList fun _ : ℕ => TargetScan

/-- With the index of the target to be emitted next. -/
structure Reorder where
  buffer : ScanBuffer
  nextExpected : ℕ

def emitTargetRecords (outcomes : List (ℕ × Result ProbeOutcome)) (st : StreamState) :
    Run (Result StreamState) :=
  let probeOutcomes := probeOutcomes outcomes
  let assemblers := st.assemblers.observeOutcomes probeOutcomes
  andThen (pure (st.fuser.ingest probeOutcomes)) fun (records, fuser) =>
  andThen (pure (prepareRecords p records assemblers)) fun (records, assemblers) => do
    let emission ← emitLoop p .device (records.map .device) st.emission
    pure (.ok { st with fuser, assemblers, emission })

/-- Count the outcomes, and emit the records unless an emission has failed. -/
def processTarget (ready : TargetScan) (st : StreamState) :
    Run (Result StreamState) := do
  let tally ← orPanic (accumulateTarget p.proberKinds ready st.tally)
  let st := { st with tally }
  if st.emission.err.isNone then emitTargetRecords p ready.outcomes st else pure (.ok st)

/-- Checkpoint after a target, unless an emission has failed. -/
def checkpointTarget (nextExpected : ℕ) (st : StreamState) : Run StreamState := do
  match st.emission.err, st.checkpoint with
  | none, some writer =>
    match (← writer.maybeCheckpoint p.env nextExpected) with
    | .error e => pure { st with emission := { st.emission with err := some e } }
    | .ok writer => pure { st with checkpoint := some writer }
  | _, _ => pure st

def advance (nextExpected : ℕ) (ready : TargetScan) (st : StreamState) :
    Run (Result StreamState) :=
  andThen (processTarget p ready st) fun st => do
    let st ← checkpointTarget p (nextExpected + 1) st
    pure (.ok st)

def drainReady : ℕ → Reorder → StreamState → Run (Result (Reorder × StreamState))
  | 0, reorder, st => pure (.ok (reorder, st))
  | fuel + 1, reorder, st =>
    match reorder.buffer.lookup reorder.nextExpected with
    | none => pure (.ok (reorder, st))
    | some ready =>
      andThen (advance p reorder.nextExpected ready st) (drainReady fuel
          ⟨reorder.buffer.erase reorder.nextExpected, reorder.nextExpected + 1⟩)

def receiveLoop : List TargetScan → Reorder → StreamState →
    Run (Result (Reorder × StreamState))
  | [], reorder, st => pure (.ok (reorder, st))
  | targetScan :: rest, reorder, st =>
    let buffer := reorder.buffer.insert targetScan.targetIndex targetScan
    andThen (drainReady p buffer.keys.length ⟨buffer, reorder.nextExpected⟩ st)
      fun (reorder, st) => receiveLoop rest reorder st

def drainStragglers : List TargetScan → StreamState → Run (Result StreamState)
  | [], st => pure (.ok st)
  | ready :: rest, st => andThen (processTarget p ready st) (drainStragglers rest)

/-- In ascending order of their index. -/
def stragglers (reorder : ScanBuffer) : List TargetScan :=
  (sortBy (fun e => e.1) reorder.entries).map fun e => e.2

structure Emitted where
  records : ℕ
  links : ℕ
  profiles : ℕ
  err : Option RastreoError
  deriving DecidableEq

/-- The records left, then the links, then the profiles. -/
def emitRest (records : List DeviceRecord) (a : Assemblers) (em : Emission) : Run Emitted := do
  let devices ← emitUnlessFailed p .device (records.map .device) em
  let links ← orPanic (a.topology.finish p.edgeOrder)
  let links ← emitUnlessFailed p .link (links.map .link) { devices with emitted := 0 }
  let profiles ← emitUnlessFailed p .collectionProfile (a.profile.finish.map .profile)
    { links with emitted := 0 }
  pure ⟨devices.emitted, links.emitted, profiles.emitted, profiles.err⟩

def finishStream (nextExpected : ℕ) (st : StreamState) :
    Run (Result (ℕ × StreamState × Emitted)) :=
  andThen (orFault (st.fuser.finish p.hashOrder)) fun (tail, _) =>
  andThen (pure (prepareRecords p tail st.assemblers)) fun (tail, assemblers) => do
    let emitted ← emitRest p tail assemblers st.emission
    pure (.ok (nextExpected, st, emitted))

/-- An error inside leaves for the close: the targets emitted in order, the variables and what was
emitted. -/
def streamBlock (scans : List TargetScan) (st : StreamState) :
    Run (Result (ℕ × StreamState × Emitted)) :=
  andThen (receiveLoop p scans ⟨∅, 0⟩ st) fun (reorder, st) =>
  andThen (drainStragglers p (stragglers reorder.buffer) st) (finishStream p reorder.nextExpected)

omit [CaseMapping] in
def finalizeCheckpoint (writer : Option CheckpointWriter) (cancelled : Bool) (nextExpected : ℕ) :
    Run Status := do
  match writer with
  | none => pure (.ok ())
  | some writer =>
    if cancelled then
      if 0 < nextExpected then
        let result ← writer.writeAt p.env (writer.recordIndex nextExpected)
        pure (result.mapError .resume)
      else pure (.ok ())
    else
      let result ← writer.delete p.env
      pure (result.mapError .resume)

omit [CaseMapping] in
def summarize (acc : ScanAccumulation) (emitted : Emitted) (log : List Event) :
    DiscoverySummary where
  targetsResolved := p.targetsResolved
  probeAttempts := acc.probeAttempts
  recordsEmitted := emitted.records
  linksEmitted := emitted.links
  profilesEmitted := emitted.profiles
  unresolvableTargets := []
  errorCounts := acc.errorCounts
  probesByKind := buildProbesByKind acc.attemptsByKind acc.errorsByKind
  dlqRecords := (p.env.dlqRecordsByTypeAndClass log).foldl
    (fun sum entry => min (sum + entry.2.2) (2 ^ 64 - 1)) 0
  dlqRecordsByTypeAndClass := p.env.dlqRecordsByTypeAndClass log
  sinkType := some p.env.sinkType
  cancelled := acc.cancelled
  firstProbeError := acc.firstProbeError

/-- Over the scans received, and the flag read when the scan is over. -/
def streamDiscovery (fuser : Fuser) (checkpoint : Option CheckpointWriter)
    (scans : List TargetScan) (cancelled : Bool) : Run (Result DiscoverySummary) := do
  let block ← streamBlock p scans { fuser, assemblers := Assemblers.new p, checkpoint }
  let closed ← callSink p.env .close
  match block with
  | .error halted => pure (.error halted)
  | .ok (nextExpected, st, emitted) =>
    match emitted.err, closed with
    | some e, _ => pure (.error e)
    | none, .error e => pure (.error e)
    | none, .ok () =>
      match (← finalizeCheckpoint p st.checkpoint cancelled nextExpected) with
      | .error e => pure (.error e)
      | .ok () =>
        let log ← Async.read RunState.log
        pure (.ok (summarize p { st.tally.1 with cancelled } emitted log))

/-! ## The batch reference -/

omit [CaseMapping] in
def groupOutcomesByIp (outcomes : List ProbeOutcome) : List (List ProbeOutcome) :=
  groupByKey (outcomes.map fun o => (o.targetIp, o))

def driveFuser (fuser : Fuser) (outcomes : List ProbeOutcome) :
    Run (Result (List DeviceRecord)) :=
  andThen (pure (fuser.ingestAll (groupOutcomesByIp outcomes))) fun (records, fuser) =>
  andThen (orFault (fuser.finish p.hashOrder)) fun (tail, _) =>
    pure (.ok (records ++ tail))

omit [CaseMapping] in
def collectScansSorted (scans : List TargetScan) : List TargetScan :=
  sortBy (·.targetIndex) scans

omit [CaseMapping] in
/-- `accumulate_scans`: the metrics and all outcomes. -/
def accumulateScans (scans : List TargetScan) : Except Panic (Tally × List ProbeOutcome) :=
  scans.foldlM (fun st scan => do
      let tally ← accumulateTarget p.proberKinds scan st.1
      pure (tally, st.2 ++ probeOutcomes scan.outcomes))
    (({}, none), [])

/-- An error inside leaves for the close. -/
def batchBlock (fuser : Fuser) (allOutcomes : List ProbeOutcome) :
    Run (Result Emitted) :=
  let assemblers := (Assemblers.new p).observeOutcomes allOutcomes
  andThen (driveFuser p fuser allOutcomes) fun records =>
  andThen (pure (prepareRecords p records assemblers)) fun (records, assemblers) => do
    let emitted ← emitRest p records assemblers {}
    pure (.ok emitted)

/-- Collect, accumulate, fuse and emit in one pass. -/
def batchDiscovery (fuser : Fuser) (scans : List TargetScan) (cancelled : Bool) :
    Run (Result DiscoverySummary) := do
  let (tally, allOutcomes) ← orPanic (accumulateScans p (collectScansSorted scans))
  let block ← batchBlock p fuser allOutcomes
  let closed ← callSink p.env .close
  match block with
  | .error halted => pure (.error halted)
  | .ok emitted =>
    match emitted.err, closed with
    | some e, _ => pure (.error e)
    | none, .error e => pure (.error e)
    | none, .ok () =>
      let log ← Async.read RunState.log
      pure (.ok (summarize p { tally.1 with cancelled } emitted log))

end Emit

end Rastreo
