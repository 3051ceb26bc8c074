import Rastreo.Sink.Pending
import Mathlib.Data.List.Perm.Basic

/-!
# The NATS sink

Programs that may be dropped at any await, statement by statement.  The broker has a reply for every
await, and the world records which records each stream has acknowledged.  A deferred ack is the
payload it is for; its outcome is the reply when it is awaited. Server addresses appear only,
redacted, in error texts; headers of dead-letter records and log lines are left out.
-/

namespace Rastreo

inductive AwaitSite where
  /-- an attempt to publish a record of the device stream -/
  | publish
  /-- the pause before another attempt -/
  | backoff
  /-- a deferred ack, awaited by `drain_pending_acks` -/
  | ack
  /-- the dead-letter publish for a record that failed this way -/
  | deadLetterPublish (errorClass : SinkErrorClass)
  /-- the dead-letter ack for a record that failed this way -/
  | deadLetterAck (errorClass : SinkErrorClass)
  /-- an attempt to publish a record of a second stream -/
  | streamPublish
  /-- the ack of a record of a second stream -/
  | streamAck
  deriving DecidableEq

/-- The only caller of `quarantine` for a rejected ack. -/
def AwaitSite.inDrain : AwaitSite → Bool
  | .ack => true
  | .deadLetterPublish c => c = .ackRejection
  | .deadLetterAck c => c = .ackRejection
  | _ => false

def maxPendingAcks : ℕ := 512

def shouldDrainPendingAcks (pending : ℕ) : Bool := maxPendingAcks ≤ pending

inductive NatsFlushMode where
  | perRecord
  | batched (thresholdBytes : ℕ)
  deriving DecidableEq

def NatsFlushMode.toThreshold : NatsFlushMode → ℕ
  | .perRecord => 1
  | .batched thresholdBytes => max thresholdBytes 1

variable {B : Type} [AsRef B]

structure NatsSink (B : Type) [AsRef B] where
  subject : String
  /-- the redacted server list of the error texts -/
  serversForErr : String
  buffer : PendingBuffer B
  bufferThreshold : ℕ
  pendingAcks : List B
  lastWriteDelivered : Bool
  dlqSubject : Option String
  dlqDelivered : SinkErrorClass → UInt64
  retry : SinkRetry
  streamSubject : SecondStream → String
  streamBuffer : SecondStream → PendingBuffer B

structure NatsConfig where
  subject : String
  serversForErr : String
  flushMode : NatsFlushMode
  dlqSubject : Option String
  retry : SinkRetry
  streamSubject : SecondStream → String

/-- `NatsSink::new` with its builder methods. -/
def NatsSink.new (config : NatsConfig) : NatsSink B where
  subject := config.subject
  serversForErr := config.serversForErr
  buffer := .new
  bufferThreshold := config.flushMode.toThreshold
  pendingAcks := []
  lastWriteDelivered := false
  dlqSubject := config.dlqSubject
  dlqDelivered _ := 0
  retry := config.retry
  streamSubject := config.streamSubject
  streamBuffer _ := .new

/-- `last_write_delivered`. -/
def NatsSink.reportsDelivered (self : NatsSink B) : Bool :=
  self.lastWriteDelivered && self.pendingAcks.isEmpty

/-- The broker's replies, and what has happened to the records of either sort so far. -/
structure NatsWorld (B : Type) [AsRef B] where
  sink : NatsSink B
  broker : ℕ → Reply
  awaits : ℕ
  written : List B
  acked : List B
  dlqAcked : List (B × SinkErrorClass)
  streamWritten : SecondStream → List B
  streamAcked : SecondStream → List B

abbrev NatsM (B : Type) [AsRef B] := Async (NatsWorld B) AwaitSite

def modifySink (f : NatsSink B → NatsSink B) : NatsM B Unit :=
  .update fun w => { w with sink := f w.sink }

def readSink {α : Type} (f : NatsSink B → α) : NatsM B α := .read fun w => f w.sink

/-- An await: the next reply, or the future is dropped here. -/
def awaitReply (site : AwaitSite) : NatsM B (Except String Unit) := fun w =>
  let w' := { w with awaits := w.awaits + 1 }
  match w.broker w.awaits with
  | .ok => (.done (.ok ()), w')
  | .err cause => (.done (.error cause), w')
  | .dropped => (.dropped site, w')

def awaitAck (payload : B) : NatsM B (Except String Unit) := do
  match (← awaitReply .ack) with
  | .ok _ =>
    .update fun w => { w with acked := w.acked ++ [payload] }
    pure (.ok ())
  | .error cause => pure (.error cause)

def awaitDeadLetterAck (payload : B) (errorClass : SinkErrorClass) :
    NatsM B (Except String Unit) := do
  match (← awaitReply (.deadLetterAck errorClass)) with
  | .ok _ =>
    .update fun w => { w with dlqAcked := w.dlqAcked ++ [(payload, errorClass)] }
    pure (.ok ())
  | .error cause => pure (.error cause)

def NatsWorld.ackStream (w : NatsWorld B) (stream : SecondStream) (payload : B) : NatsWorld B :=
  { w with
    streamAcked := Function.update w.streamAcked stream (w.streamAcked stream ++ [payload]) }

def awaitStreamAck (stream : SecondStream) (payload : B) : NatsM B (Except String Unit) := do
  match (← awaitReply .streamAck) with
  | .ok _ =>
    .update fun w => w.ackStream stream payload
    pure (.ok ())
  | .error cause => pure (.error cause)

def buildPublishError (subject servers cause : String) : RastreoError :=
  .sink ⟨.publishFailure, "nats sink: failed to publish to subject '" ++ subject ++
    "' at server(s) '" ++ servers ++ "': " ++ cause⟩

def buildAckError (subject servers cause : String) : RastreoError :=
  .sink ⟨.ackRejection, "nats sink: publish to subject '" ++ subject ++ "' at server(s) '" ++
    servers ++ "' was not acked: " ++ cause⟩

/-- `credit_dlq`: the counters wrap around in 64 bits. -/
def creditDlq (errorClass : SinkErrorClass) : NatsM B Unit :=
  modifySink fun s =>
    { s with dlqDelivered := fun c =>
        if c = errorClass then s.dlqDelivered c + 1 else s.dlqDelivered c }

/-- Whether the dead-letter stream acknowledged the payload. -/
def quarantine (payload : B) (errorClass : SinkErrorClass) : NatsM B Bool := do
  match (← readSink (·.dlqSubject)) with
  | none => pure false
  | some _ =>
    match (← awaitReply (.deadLetterPublish errorClass)) with
    | .error _ => pure false
    | .ok _ =>
      match (← awaitDeadLetterAck payload errorClass) with
      | .error _ => pure false
      | .ok _ =>
        creditDlq errorClass
        pure true

/-- Publish a record, retrying; the ack stays deferred. -/
def publishWithRetry (site : AwaitSite) (subject : String) :
    NatsM B Status := do
  let retry ← readSink (·.retry)
  let servers ← readSink (·.serversForErr)
  retryWithBackoff retry (do let _ ← awaitReply .backoff) do
    let reply ← awaitReply site
    pure (reply.mapError (buildPublishError subject servers))

/-- Over the acks taken out of the sink: the payloads that neither stream acknowledged, and the
first error. -/
def drainLoop : List B → PendingBuffer B → Option RastreoError →
    NatsM B (PendingBuffer B × Option RastreoError)
  | [], unacked, firstError => pure (unacked, firstError)
  | payload :: pending, unacked, firstError => do
    match (← awaitAck payload) with
    | .ok _ => drainLoop pending unacked firstError
    | .error cause =>
      let subject ← readSink (·.subject)
      let servers ← readSink (·.serversForErr)
      if (← quarantine payload .ackRejection) then drainLoop pending unacked firstError
      else
        drainLoop pending (unacked.push payload)
          (firstError.or (some (buildAckError subject servers cause)))

def drainPendingAcks : NatsM B Status := do
  let pending ← readSink (·.pendingAcks)
  if pending.isEmpty then pure (.ok ())
  else
    modifySink fun s => { s with pendingAcks := [] }
    let (unacked, firstError) ← drainLoop pending .new none
    modifySink fun s => { s with pendingAcks := [], buffer := s.buffer.restoreFront unacked }
    match firstError with
    | some err => pure (.error err)
    | none => pure (.ok ())

/-- Every round settles the head of the buffer or returns, so its length is fuel enough. -/
def publishLoop (subject : String) : ℕ → NatsM B Status
  | 0 => pure (.ok ())
  | fuel + 1 => do
    match (← readSink fun s => s.buffer.entries.head?) with
    | none => pure (.ok ())
    | some payload =>
      let published ← publishWithRetry .publish subject
      modifySink fun s => { s with buffer := s.buffer.settleFront published }
      match published with
      | .ok _ =>
        modifySink fun s => { s with pendingAcks := s.pendingAcks ++ [payload] }
        if shouldDrainPendingAcks (← readSink (·.pendingAcks.length)) then
          match (← drainPendingAcks) with
          | .error err => pure (.error err)
          | .ok _ => publishLoop subject fuel
        else publishLoop subject fuel
      | .error primaryErr =>
        let quarantined ← quarantine payload .publishFailure
        let settled : Status := if quarantined then .ok () else .error primaryErr
        modifySink fun s => { s with buffer := s.buffer.settleFront settled }
        match settled with
        | .error err => pure (.error err)
        | .ok _ => publishLoop subject fuel

def publishBuffer : NatsM B Status := do
  let subject ← readSink (·.subject)
  publishLoop subject (← readSink (·.buffer.entries.length))

def publishAndDrain : NatsM B Status := do
  let published ← publishBuffer
  let drained ← drainPendingAcks
  pure (firstErr published drained)

/-- The fuel is the length of the buffer. -/
def streamLoop (stream : SecondStream) (subject : String) : ℕ → NatsM B Status
  | 0 => pure (.ok ())
  | fuel + 1 => do
    match (← readSink fun s => (s.streamBuffer stream).entries.head?) with
    | none => pure (.ok ())
    | some payload =>
      match (← publishWithRetry .streamPublish subject) with
      | .error err => pure (.error err)
      | .ok _ =>
        let servers ← readSink (·.serversForErr)
        let reply ← awaitStreamAck stream payload
        let acked := reply.mapError (buildAckError subject servers)
        modifySink fun s =>
          { s with streamBuffer := fun t =>
              if t = stream then (s.streamBuffer t).settleFront acked else s.streamBuffer t }
        match acked with
        | .error err => pure (.error err)
        | .ok _ => streamLoop stream subject fuel

/-- `publish_links_buffer` and `publish_profiles_buffer`. -/
def publishStreamBuffer (stream : SecondStream) : NatsM B Status := do
  let subject ← readSink (·.streamSubject stream)
  streamLoop stream subject (← readSink fun s => (s.streamBuffer stream).entries.length)

/-- `write`: the sink holds the record before the first await. -/
def NatsSink.write (data : B) : NatsM B Status := do
  .update fun w =>
    { w with
      written := w.written ++ [data]
      sink := { w.sink with lastWriteDelivered := false, buffer := w.sink.buffer.push data } }
  let reached ← readSink fun s => s.buffer.reachedThreshold s.bufferThreshold
  if reached then
    if (← readSink (·.bufferThreshold)) = 1 then
      match (← publishAndDrain) with
      | .error err => pure (.error err)
      | .ok _ =>
        modifySink fun s => { s with lastWriteDelivered := true }
        pure (.ok ())
    else publishBuffer
  else pure (.ok ())

/-- `write_link` and `write_profile`. -/
def NatsSink.writeStream (stream : SecondStream) (data : B) :
    NatsM B Status := do
  .update fun w =>
    { w with
      streamWritten := Function.update w.streamWritten stream (w.streamWritten stream ++ [data])
      sink :=
        { w.sink with
          lastWriteDelivered := false
          streamBuffer := fun t =>
            if t = stream then (w.sink.streamBuffer t).push data else w.sink.streamBuffer t } }
  let reached ← readSink fun s => (s.streamBuffer stream).reachedThreshold s.bufferThreshold
  if reached then
    match (← publishStreamBuffer stream) with
    | .error err => pure (.error err)
    | .ok _ =>
      modifySink fun s => { s with lastWriteDelivered := true }
      pure (.ok ())
  else pure (.ok ())

/-- All three streams, whatever any one of them does. -/
def NatsSink.flush : NatsM B Status := do
  let device ← publishAndDrain
  let links ← publishStreamBuffer .links
  let profiles ← publishStreamBuffer .profiles
  let result := firstErr (firstErr device links) profiles
  modifySink fun s => { s with lastWriteDelivered := result matches .ok _ }
  pure result

/-- The calls a sink takes; closing it is flushing it. -/
inductive NatsCall (B : Type) where
  | write (data : B)
  | writeStream (stream : SecondStream) (data : B)
  | flush
  | close

def NatsCall.run : NatsCall B → NatsM B Status
  | .write data => NatsSink.write data
  | .writeStream stream data => NatsSink.writeStream stream data
  | .flush => NatsSink.flush
  | .close => NatsSink.flush

def NatsWorld.start (config : NatsConfig) (broker : ℕ → Reply) : NatsWorld B :=
  ⟨.new config, broker, 0, [], [], [], fun _ => [], fun _ => []⟩

/-- With how each call ended. A dropped call leaves the sink as it is at that await, and later calls
go on. -/
inductive NatsRun (config : NatsConfig) (broker : ℕ → Reply) :
    List (Exit AwaitSite Status) → NatsWorld B → Prop where
  | start : NatsRun config broker [] (.start config broker)
  | call {exits : List (Exit AwaitSite Status)} {w : NatsWorld B}
      (c : NatsCall B) (h : NatsRun config broker exits w) :
      NatsRun config broker (exits ++ [(c.run w).1]) (c.run w).2

end Rastreo
