import Rastreo.Pipeline.Model
import Rastreo.Sink.Tee

/-!
# The server's dead-letter metric

Scans run side by side over one shared sink, each through a tee of its own, and their dead letters
are counted with their summaries.  A scan may also end with an error, or be dropped at a timeout:
between two calls of its sink, or inside one.
-/

namespace Rastreo

/-! ## Metrics -/

structure Metrics where
  scansTotalSuccess : UInt64 := 0
  scansTotalError : UInt64 := 0
  scansTotalCancelled : UInt64 := 0
  recordsEmittedTotal : UInt64 := 0
  probesSucceeded : ProbeKind → UInt64 := fun _ => 0
  probesErrored : ProbeKind → UInt64 := fun _ => 0
  sinkErrors : SinkErrorClass → UInt64 := fun _ => 0
  dlq : SinkType → SinkErrorClass → UInt64 := fun _ _ => 0

namespace Metrics

variable (self : Metrics)

/-- `record_dlq`: only brokers have dead letters. -/
def recordDlq (sinkType : SinkType) (c : SinkErrorClass) (count : UInt64) : Metrics :=
  match sinkType with
  | .kafka | .nats =>
    { self with
      dlq := Function.update self.dlq sinkType
        (Function.update (self.dlq sinkType) c (self.dlq sinkType c + count)) }
  | _ => self

def recordProbes (pk : ProbeKindSummary) : Metrics :=
  { self with
    probesSucceeded := Function.update self.probesSucceeded pk.kind
      (self.probesSucceeded pk.kind + UInt64.ofNat (pk.attempted - pk.errored))
    probesErrored := Function.update self.probesErrored pk.kind
      (self.probesErrored pk.kind + UInt64.ofNat pk.errored) }

/-- The loop of `record_scan_completion` over the dead letters. -/
def recordDeadLetters (entries : List (SinkType × SinkErrorClass × ℕ)) : Metrics :=
  entries.foldl (fun m entry => m.recordDlq entry.1 entry.2.1 (UInt64.ofNat entry.2.2)) self

def recordScanCompletion (summary : DiscoverySummary) : Metrics :=
  let self :=
    if summary.cancelled then { self with scansTotalCancelled := self.scansTotalCancelled + 1 }
    else { self with scansTotalSuccess := self.scansTotalSuccess + 1 }
  let self :=
    { self with
      recordsEmittedTotal := self.recordsEmittedTotal + UInt64.ofNat summary.recordsEmitted }
  (summary.probesByKind.foldl recordProbes self).recordDeadLetters summary.dlqRecordsByTypeAndClass

def recordScanError (sinkClass : Option SinkErrorClass) : Metrics :=
  let self := { self with scansTotalError := self.scansTotalError + 1 }
  match sinkClass with
  | none => self
  | some c =>
    { self with sinkErrors := Function.update self.sinkErrors c (self.sinkErrors c + 1) }

def recordScanCancelled : Metrics :=
  { self with scansTotalCancelled := self.scansTotalCancelled + 1 }

end Metrics

def RastreoError.sinkErrorClass : RastreoError → Option SinkErrorClass
  | .sink e => some e.errorClass
  | _ => none

/-! ## Scans over a shared sink -/

/-- The shared sink, the tees of running scans and the metrics. -/
structure Server where
  shared : SharedSink Bytes
  scans : AList fun _ : ℕ => TeeSink
  metrics : Metrics
  maxResultBytes : ℕ

/-- What can happen to the scans of a server. -/
inductive ServerAction where
  /-- a scan starts -/
  | start (id : ℕ)
  /-- a scan calls its sink -/
  | call (id : ℕ) (c : SinkCall)
  /-- `run_discovery` returns a summary -/
  | complete (id : ℕ) (summary : DiscoverySummary)
  /-- `run_discovery` returns an error -/
  | fail (id : ℕ) (err : RastreoError)
  /-- the future of a scan is dropped between two calls -/
  | drop (id : ℕ)

def Server.newTee (maxResultBytes : ℕ) : TeeSink where
  children := [.memory, .shared]
  memory := { maxBytes := some maxResultBytes }

def Attribution.counts (entries : Attribution) : List (SinkType × SinkErrorClass × ℕ) :=
  entries.map fun entry => (entry.1, entry.2.1, entry.2.2.toNat)

/-- A summary carries the dead letters of the tee. A dropped call takes its scan with it, which
counts as cancelled. -/
def Server.step (a : ServerAction) (s : Server) : Option Server :=
  match a with
  | .start id =>
    if id ∈ s.scans then none
    else some { s with scans := s.scans.insert id (Server.newTee s.maxResultBytes) }
  | .call id c =>
    (s.scans.lookup id).map fun tee =>
      match TeeSink.fanOut c ⟨tee, s.shared⟩ with
      | (.done _, w) => { s with shared := w.shared, scans := s.scans.insert id w.tee }
      | (.dropped _, w) =>
        { s with
          shared := w.shared
          scans := s.scans.erase id
          metrics := s.metrics.recordScanCancelled }
  | .complete id summary =>
    (s.scans.lookup id).bind fun tee =>
      if summary.dlqRecordsByTypeAndClass = tee.dlqRecordsByTypeAndClass.counts then
        some { s with
          scans := s.scans.erase id
          metrics := s.metrics.recordScanCompletion summary }
      else none
  | .fail id err =>
    (s.scans.lookup id).map fun _ =>
      { s with
        scans := s.scans.erase id
        metrics := s.metrics.recordScanError err.sinkErrorClass }
  | .drop id =>
    (s.scans.lookup id).map fun _ =>
      { s with scans := s.scans.erase id, metrics := s.metrics.recordScanCancelled }

end Rastreo
