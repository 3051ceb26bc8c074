import Rastreo.Sink.Pending
import Rastreo.Model.Device

/-!
# The Kafka sink

Three streams, each with its topic and buffer, as programs that may be dropped at any await.  The
clients of the device and dead-letter topics exist from the start, the others are connected when
first needed.  A produce carries a whole buffer and is accepted or refused as a whole. Headers of
dead-letter records, log lines and TLS and SASL settings are left out.
-/

namespace Rastreo

/-- The kind of the records of a second stream. -/
def SecondStream.kind : SecondStream → RecordKind
  | .links => .link
  | .profiles => .collectionProfile

inductive KafkaAwait where
  /-- an attempt to produce the buffer of a stream -/
  | produce (kind : RecordKind)
  /-- the pause before another attempt -/
  | backoff (kind : RecordKind)
  /-- connecting the client of a second stream -/
  | connect (stream : SecondStream)
  | deadLetterProduce
  deriving DecidableEq

def KafkaAwait.kind : KafkaAwait → RecordKind
  | .produce kind => kind
  | .backoff kind => kind
  | .connect stream => stream.kind
  | .deadLetterProduce => .device

inductive ConnectReply where
  | ok
  | timedOut
  | refused (cause : String)
  | noPartition (cause : String)
  | dropped
  deriving DecidableEq

inductive KafkaFlushMode where
  | perRecord
  | batched (thresholdBytes : ℕ)
  deriving DecidableEq

def KafkaFlushMode.toThreshold : KafkaFlushMode → ℕ
  | .perRecord => 1
  | .batched thresholdBytes => max thresholdBytes 1

variable {B : Type} [AsRef B]

/-- `connected` says which second streams have a client. -/
structure KafkaSink (B : Type) [AsRef B] where
  topic : RecordKind → String
  brokersForErr : String
  buffer : RecordKind → PendingBuffer B
  bufferThreshold : ℕ
  lastWriteDelivered : Bool
  dlqTopic : Option String
  dlqDelivered : UInt64
  retry : SinkRetry
  connected : SecondStream → Bool

structure KafkaConfig where
  topic : RecordKind → String
  brokersForErr : String
  flushMode : KafkaFlushMode
  dlqTopic : Option String
  retry : SinkRetry

/-- `KafkaSink::new` with its builder methods. -/
def KafkaSink.new (config : KafkaConfig) : KafkaSink B where
  topic := config.topic
  brokersForErr := config.brokersForErr
  buffer _ := .new
  bufferThreshold := config.flushMode.toThreshold
  lastWriteDelivered := false
  dlqTopic := config.dlqTopic
  dlqDelivered := 0
  retry := config.retry
  connected _ := false

/-- The replies to awaits, those made and which succeeded, and what has happened to the records. -/
structure KafkaWorld (B : Type) [AsRef B] where
  sink : KafkaSink B
  broker : ℕ → Reply
  connector : ℕ → ConnectReply
  log : List (KafkaAwait × Bool)
  written : RecordKind → List B
  accepted : RecordKind → List B
  dlqAccepted : List B

abbrev KafkaM (B : Type) [AsRef B] := Async (KafkaWorld B) KafkaAwait

namespace KafkaSink

def modify (f : KafkaSink B → KafkaSink B) : KafkaM B Unit :=
  .update fun w => { w with sink := f w.sink }

def get {α : Type} (f : KafkaSink B → α) : KafkaM B α := .read fun w => f w.sink

def noted (w : KafkaWorld B) (site : KafkaAwait) (ok : Bool) : KafkaWorld B :=
  { w with log := w.log ++ [(site, ok)] }

def awaitBroker (site : KafkaAwait) : KafkaM B (Except String Unit) := fun w =>
  match w.broker w.log.length with
  | .ok => (.done (.ok ()), noted w site true)
  | .err cause => (.done (.error cause), noted w site false)
  | .dropped => (.dropped site, noted w site false)

def buildProduceError (topic brokers cause : String) : RastreoError :=
  .sink ⟨.produceFailure, "kafka sink: failed to produce record to topic '" ++ topic ++
    "' at broker(s) '" ++ brokers ++ "': " ++ cause⟩

def produce (kind : RecordKind) : KafkaM B (Except String Unit) := do
  match (← awaitBroker (.produce kind)) with
  | .error cause => pure (.error cause)
  | .ok _ =>
    .update fun w =>
      { w with
        accepted := Function.update w.accepted kind
          (w.accepted kind ++ (w.sink.buffer kind).entries) }
    pure (.ok ())

def produceBuffer (kind : RecordKind) : KafkaM B Status := do
  let topic ← get (·.topic kind)
  let brokers ← get (·.brokersForErr)
  let retry ← get (·.retry)
  retryWithBackoff retry (do let _ ← awaitBroker (.backoff kind)) do
    let reply ← produce kind
    pure (reply.mapError (buildProduceError topic brokers))

def settleAll {E : Type} (kind : RecordKind) (outcome : Except E Unit) : KafkaM B Unit :=
  modify fun s =>
    { s with buffer := Function.update s.buffer kind ((s.buffer kind).settleAll outcome) }

/-- Of the device buffer, attempted once. -/
def deadLetterProduce : KafkaM B (Except String Unit) := do
  match (← awaitBroker .deadLetterProduce) with
  | .error cause => pure (.error cause)
  | .ok _ =>
    .update fun w =>
      { w with dlqAccepted := w.dlqAccepted ++ (w.sink.buffer .device).entries }
    pure (.ok ())

/-- `publish_buffer`; the counter wraps around in 64 bits. -/
def publishBuffer : KafkaM B Status := do
  let recordCount ← get fun s => (s.buffer .device).entries.length
  if recordCount = 0 then pure (.ok ())
  else
    let primary ← produceBuffer .device
    settleAll .device primary
    match primary with
    | .ok _ => pure (.ok ())
    | .error primaryErr =>
      match (← get (·.dlqTopic)) with
      | none => pure (.error primaryErr)
      | some _ =>
        let dlqResult ← deadLetterProduce
        settleAll .device dlqResult
        match dlqResult with
        | .ok _ =>
          modify fun s => { s with dlqDelivered := s.dlqDelivered + UInt64.ofNat recordCount }
          pure (.ok ())
        | .error _ => pure (.error primaryErr)

/-- `CONNECT_TIMEOUT` in seconds. -/
def connectTimeout : ℕ := 10

variable (stream : SecondStream)

def connectPartitionClientBounded : KafkaM B Status := fun w =>
  let brokers := w.sink.brokersForErr
  let topic := w.sink.topic stream.kind
  let failed (text : String) : Exit KafkaAwait Status × KafkaWorld B :=
    (.done (.error (.sink ⟨.other, text⟩)), noted w (.connect stream) false)
  match w.connector w.log.length with
  | .ok => (.done (.ok ()), noted w (.connect stream) true)
  | .timedOut =>
    failed ("kafka sink: connecting to broker(s) '" ++ brokers ++ "' for topic '" ++ topic ++
      "' timed out after " ++ toString connectTimeout ++ "s")
  | .refused cause =>
    failed ("kafka sink: failed to connect to broker(s) '" ++ brokers ++ "': " ++ cause)
  | .noPartition cause =>
    failed ("kafka sink: failed to get partition client for topic '" ++ topic ++
      "' at broker(s) '" ++ brokers ++ "': " ++ cause)
  | .dropped => (.dropped (.connect stream), noted w (.connect stream) false)

def setConnected (connected : Bool) : KafkaM B Unit :=
  modify fun s => { s with connected := Function.update s.connected stream connected }

/-- The client leaves the sink. -/
def takeClient : KafkaM B Status := do
  if (← get (·.connected stream)) then
    setConnected stream false
    pure (.ok ())
  else connectPartitionClientBounded stream

/-- `publish_links_buffer` and `publish_profiles_buffer`. -/
def publishStreamBuffer : KafkaM B Status := do
  if (← get fun s => (s.buffer stream.kind).entries.isEmpty) then pure (.ok ())
  else
    match (← takeClient stream) with
    | .error err => pure (.error err)
    | .ok _ =>
      let result ← produceBuffer stream.kind
      setConnected stream true
      settleAll stream.kind result
      pure result

def publish : RecordKind → KafkaM B Status
  | .device => publishBuffer
  | .link => publishStreamBuffer .links
  | .collectionProfile => publishStreamBuffer .profiles

/-- `write`, `write_link` and `write_profile`: the record is held before the first await. -/
def writeKind (kind : RecordKind) (data : B) : KafkaM B Status := do
  .update fun w =>
    { w with
      written := Function.update w.written kind (w.written kind ++ [data])
      sink :=
        { w.sink with
          lastWriteDelivered := false
          buffer := Function.update w.sink.buffer kind ((w.sink.buffer kind).push data) } }
  if (← get fun s => (s.buffer kind).reachedThreshold s.bufferThreshold) then
    match (← publish kind) with
    | .error err => pure (.error err)
    | .ok _ =>
      modify fun s => { s with lastWriteDelivered := true }
      pure (.ok ())
  else pure (.ok ())

/-- All three streams, whatever any one of them does. -/
def flush : KafkaM B Status := do
  let device ← publishBuffer
  let links ← publishStreamBuffer .links
  let profiles ← publishStreamBuffer .profiles
  let result := firstErr (firstErr device links) profiles
  modify fun s => { s with lastWriteDelivered := result matches .ok _ }
  pure result

end KafkaSink

inductive KafkaCall (B : Type) where
  | writeKind (kind : RecordKind) (data : B)
  | flush
  | close

/-- What a call runs; closing is flushing. -/
def KafkaCall.run : KafkaCall B → KafkaM B Status
  | .writeKind kind data => KafkaSink.writeKind kind data
  | .flush => KafkaSink.flush
  | .close => KafkaSink.flush

def KafkaWorld.start (config : KafkaConfig) (broker : ℕ → Reply)
    (connector : ℕ → ConnectReply) : KafkaWorld B :=
  ⟨.new config, broker, connector, [], fun _ => [], fun _ => [], []⟩

/-- A dropped call leaves the sink as it is at that await, and later calls go on. -/
inductive KafkaRun (config : KafkaConfig) (broker : ℕ → Reply) (connector : ℕ → ConnectReply) :
    List (Exit KafkaAwait Status) → KafkaWorld B → Prop where
  | start : KafkaRun config broker connector [] (.start config broker connector)
  | call {exits : List (Exit KafkaAwait Status)} {w : KafkaWorld B}
      (c : KafkaCall B) (h : KafkaRun config broker connector exits w) :
      KafkaRun config broker connector (exits ++ [(c.run w).1]) (c.run w).2

end Rastreo
