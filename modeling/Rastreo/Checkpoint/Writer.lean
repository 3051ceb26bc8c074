import Rastreo.Model.Target
import Rastreo.Library.Async

/-!
# Effects of a run and the checkpoint writer

Calls of the sink and operations on the checkpoint file may succeed, fail, or be where the process
crashes.  A run is a program over the log of these calls and the file; a crash drops it between two
calls.  Replacing the file is a write to a temporary file and an atomic rename.
-/

namespace Rastreo

open Async

/-- The durable position of a scan in progress. -/
structure Checkpoint where
  checkpointVersion : UInt32
  scanId : String
  initiatedAt : SystemTime
  resumeFingerprint : String
  sourceConfigHash : Option String
  dnsPins : List (Target × List IpAddr)
  highestFlushedIndex : ℕ
  deriving DecidableEq

def checkpointVersion : UInt32 := 1

/-! ## Calls -/

inductive SinkCall where
  | writeKind (kind : RecordKind) (data : Bytes)
  | flush
  | close
  deriving DecidableEq

inductive DiskCall where
  | writeTmp
  | rename (checkpoint : Checkpoint)
  | remove
  deriving DecidableEq

inductive Event where
  | sink (call : SinkCall) (ok : Bool)
  | disk (call : DiskCall) (ok : Bool)
  deriving DecidableEq

inductive CallReply (ε : Type) where
  | ok
  | failed (e : ε)
  | crash

/-- The sink and the file system; replies may depend on all calls before. -/
structure Surroundings where
  sink : List Event → SinkCall → CallReply RastreoError
  disk : List Event → DiskCall → CallReply String
  sinkType : SinkType
  dlqRecordsByTypeAndClass : List Event → List (SinkType × SinkErrorClass × ℕ)

/-- The calls of a run so far and the checkpoint file. -/
structure RunState where
  log : List Event
  file : Option Checkpoint
  deriving DecidableEq

abbrev Run := Async RunState Unit

def DiskCall.apply : DiskCall → Option Checkpoint → Option Checkpoint
  | .writeTmp, file => file
  | .rename checkpoint, _ => some checkpoint
  | .remove, _ => none

def RunState.logged (w : RunState) (event : Event) : RunState := { w with log := w.log ++ [event] }

/-- Stop here, as a panic or a crash does. -/
def Run.abort {α : Type} : Run α := fun w => (.dropped (), w)

section Calls

variable (env : Surroundings)

def callSink (call : SinkCall) : Run Status := fun w =>
  match env.sink w.log call with
  | .ok => (.done (.ok ()), w.logged (.sink call true))
  | .failed e => (.done (.error e), w.logged (.sink call false))
  | .crash => (.dropped (), w)

/-- Operate on the checkpoint file; an error names the path. -/
def callDisk (path : String) (call : DiskCall) : Run (Except ResumeError Unit) := fun w =>
  match env.disk w.log call with
  | .ok => (.done (.ok ()), { w.logged (.disk call true) with file := call.apply w.file })
  | .failed source => (.done (.error (.persist path source)), w.logged (.disk call false))
  | .crash => (.dropped (), w)

def tmpPath (path : String) : String := path ++ ".tmp"

/-- The temporary file is written, then renamed. -/
def Checkpoint.write (checkpoint : Checkpoint) (path : String) : Run (Except ResumeError Unit) :=
  andThen (callDisk env (tmpPath path) .writeTmp) fun _ =>
    callDisk env path (.rename checkpoint)

end Calls

/-! ## The writer -/

structure CheckpointConfig where
  path : String
  interval : ℕ
  resume : Bool
  deriving DecidableEq

structure CheckpointWriter where
  path : String
  interval : ℕ
  interval_pos : 0 < interval
  scanId : String
  initiatedAt : SystemTime
  resumeFingerprint : String
  sourceConfigHash : Option String
  dnsPins : List (Target × List IpAddr)
  resumeBase : ℕ
  lastCheckpointAt : ℕ

namespace CheckpointWriter

def new (config : CheckpointConfig) (scanMetadata : ScanMetadata) (resumeFingerprint : String)
    (dnsPins : List (Target × List IpAddr)) : CheckpointWriter where
  path := config.path
  interval := max config.interval 1
  interval_pos := by omega
  scanId := scanMetadata.scanId
  initiatedAt := scanMetadata.initiatedAt
  resumeFingerprint := resumeFingerprint
  sourceConfigHash := scanMetadata.sourceConfigHash
  dnsPins := dnsPins
  resumeBase := 0
  lastCheckpointAt := 0

variable (self : CheckpointWriter)

def withResumeBase (base : ℕ) : CheckpointWriter :=
  { self with resumeBase := base }

def recordIndex (localNextExpected : ℕ) : ℕ :=
  self.resumeBase + localNextExpected - 1

def due (nextExpected : ℕ) : Bool :=
  self.interval ≤ nextExpected - self.lastCheckpointAt

def checkpointAt (highestFlushedIndex : ℕ) : Checkpoint where
  checkpointVersion := Rastreo.checkpointVersion
  scanId := self.scanId
  initiatedAt := self.initiatedAt
  resumeFingerprint := self.resumeFingerprint
  sourceConfigHash := self.sourceConfigHash
  dnsPins := self.dnsPins
  highestFlushedIndex := highestFlushedIndex

variable (env : Surroundings)

def writeAt (highestFlushedIndex : ℕ) : Run (Except ResumeError Unit) :=
  (self.checkpointAt highestFlushedIndex).write env self.path

/-- At the cadence, flush the sink and record the index reached. -/
def maybeCheckpoint (nextExpected : ℕ) : Run (Result CheckpointWriter) :=
  if nextExpected = 0 || !self.due nextExpected then pure (.ok self)
  else
    andThen (callSink env .flush) fun _ => do
      match (← self.writeAt env (self.recordIndex nextExpected)) with
      | .error e => pure (.error (.resume e))
      | .ok () => pure (.ok { self with lastCheckpointAt := nextExpected })

/-- `delete`: an absent file is what is wanted. -/
def delete : Run (Except ResumeError Unit) :=
  callDisk env self.path .remove

end CheckpointWriter

end Rastreo
