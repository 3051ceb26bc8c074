import Rastreo.Checkpoint.Writer
import Rastreo.Sink.Kafka
import Rastreo.Sink.Nats

/-!
# The fan-out sink

`TeeSink` fans every call out to a memory sink of the scan, from which the response is made, and to
the shared sink, and credits the dead letters a call added to a child's counters.  A call holds the
shared sink's lock between its reads of the counters.
-/

namespace Rastreo

/-! ## The memory sink -/

structure MemorySink where
  buffer : Bytes := []
  delivered : Bool := false
  truncated : Bool := false
  maxBytes : Option ℕ
  deriving DecidableEq

/-- A write past the limit is dropped and flagged. -/
def MemorySink.write (self : MemorySink) (data : Bytes) : MemorySink :=
  if self.maxBytes.any fun max => max < self.buffer.length + data.length then
    { self with truncated := true, delivered := false }
  else { self with buffer := self.buffer ++ data, delivered := true }

/-- A call of the memory sink, which never fails. -/
def MemorySink.call (self : MemorySink) : SinkCall → MemorySink
  | .writeKind _ data => self.write data
  | .flush => self
  | .close => self

/-! ## The shared sink -/

/-- What a tee asks of a child, from the trait `Sink`. -/
class Sink (S : Type) where
  call : SinkCall → S → Exit Unit Status × S
  kind : S → SinkType
  lastWriteDelivered : S → Bool
  dlqRecordsByClass : S → SinkErrorClass → UInt64
  /-- No call changes the kind of the sink. -/
  kind_call (c : SinkCall) (s : S) : kind (call c s).2 = kind s

/-- A broker sink over records of any type that have a length. -/
inductive SharedSink (B : Type) [AsRef B] where
  | kafka (world : KafkaWorld B)
  | nats (world : NatsWorld B)

section Broker

variable {B : Type} (record : Bytes → B)

/-- With the record made of the bytes written. -/
def SinkCall.toKafka : SinkCall → KafkaCall B
  | .writeKind kind data => .writeKind kind (record data)
  | .flush => .flush
  | .close => .close

/-- With the record made of the bytes written, on the stream of its kind. -/
def SinkCall.toNats : SinkCall → NatsCall B
  | .writeKind .device data => .write (record data)
  | .writeKind .link data => .writeStream .links (record data)
  | .writeKind .collectionProfile data => .writeStream .profiles (record data)
  | .flush => .flush
  | .close => .close

namespace SharedSink

def forgetSite {S α : Type} : Exit S α → Exit Unit α
  | .done a => .done a
  | .dropped _ => .dropped ()

variable [AsRef B]

/-- A call, which may be dropped at any of its awaits. -/
def call (c : SinkCall) : SharedSink B → Exit Unit Status × SharedSink B
  | .kafka world =>
    let (exit, world) := (c.toKafka record).run world
    (forgetSite exit, .kafka world)
  | .nats world =>
    let (exit, world) := (c.toNats record).run world
    (forgetSite exit, .nats world)

def kind : SharedSink B → SinkType
  | .kafka _ => .kafka
  | .nats _ => .nats

def lastWriteDelivered : SharedSink B → Bool
  | .kafka world => world.sink.lastWriteDelivered
  | .nats world => world.sink.reportsDelivered

/-- Kafka quarantines on a failed produce only. -/
def dlqRecordsByClass : SharedSink B → SinkErrorClass → UInt64
  | .kafka world => fun c => if c = .produceFailure then world.sink.dlqDelivered else 0
  | .nats world => world.sink.dlqDelivered

lemma kind_call (c : SinkCall) (s : SharedSink B) : (s.call record c).2.kind = s.kind := by
  cases s <;> rfl

/-- The sink the scans share, which holds bytes. -/
instance : Sink (SharedSink Bytes) where
  call := SharedSink.call id
  kind := kind
  lastWriteDelivered := lastWriteDelivered
  dlqRecordsByClass := dlqRecordsByClass
  kind_call := kind_call id

end SharedSink

end Broker

/-! ## Attribution -/

def SinkErrorClass.all : List SinkErrorClass :=
  [.publishFailure, .ackRejection, .produceFailure, .writeFailure, .flushFailure, .other]

def saturatingSub (a b : UInt64) : UInt64 := if b ≤ a then a - b else 0

def saturatingAdd (a b : UInt64) : UInt64 := UInt64.ofNat (min (a.toNat + b.toNat) (2 ^ 64 - 1))

abbrev Attribution := List (SinkType × SinkErrorClass × UInt64)

def classDeltas (before after : SinkErrorClass → UInt64) (c : SinkErrorClass) : UInt64 :=
  saturatingSub (after c) (before c)

/-- To the first entry of a type and class, or a new one. -/
def creditEntry (kind : SinkType) (c : SinkErrorClass) (delta : UInt64) : Attribution → Attribution
  | [] => [(kind, c, delta)]
  | entry :: rest =>
    if entry.1 = kind ∧ entry.2.1 = c then (kind, c, saturatingAdd entry.2.2 delta) :: rest
    else entry :: creditEntry kind c delta rest

def creditAttribution (kind : SinkType) (deltas : SinkErrorClass → UInt64)
    (bucket : Attribution) : Attribution :=
  SinkErrorClass.all.foldl
    (fun bucket c => if deltas c = 0 then bucket else creditEntry kind c (deltas c) bucket)
    bucket

inductive TeeChild where
  | memory
  | shared
  deriving DecidableEq

/-- `TeeSink`, with the memory sink it owns. -/
structure TeeSink where
  children : List TeeChild
  memory : MemorySink
  lastDelivered : Bool := false
  attribution : Attribution := []
  deriving DecidableEq

structure ChildAttribution where
  kind : SinkType
  deltas : SinkErrorClass → UInt64
  delivered : Bool

structure TeeWorld (S : Type) where
  tee : TeeSink
  shared : S

abbrev TeeM (S : Type) := Async (TeeWorld S) Unit

namespace TeeSink

variable {S : Type} [Sink S]

/-- `fanout_child`, that is `fanout_sink` on the child. -/
def fanoutChild (c : SinkCall) : TeeChild → TeeM S (ChildAttribution × Option RastreoError)
  | .memory => fun w =>
    let memory := w.tee.memory.call c
    (.done (⟨.memory, fun _ => 0, memory.delivered⟩, none), { w with tee := { w.tee with memory } })
  | .shared => fun w =>
    let before := Sink.dlqRecordsByClass w.shared
    match Sink.call c w.shared with
    | (.dropped site, shared) => (.dropped site, { w with shared })
    | (.done result, shared) =>
      (.done (⟨Sink.kind shared, classDeltas before (Sink.dlqRecordsByClass shared),
          Sink.lastWriteDelivered shared⟩,
        match result with
        | .ok _ => none
        | .error e => some e), { w with shared })

def abortsOnChildError : SinkCall → Bool
  | .writeKind .. => true
  | .flush => false
  | .close => false

/-- The loop of `fan_out`. -/
def fanOutLoop (c : SinkCall) : List TeeChild → Bool → Option RastreoError →
    TeeM S (Bool × Option RastreoError)
  | [], allDelivered, firstError => pure (allDelivered, firstError)
  | child :: rest, allDelivered, firstError => do
    let (attribution, error) ← fanoutChild c child
    .update fun w =>
      { w with tee :=
          { w.tee with attribution :=
              creditAttribution attribution.kind attribution.deltas w.tee.attribution } }
    let allDelivered := allDelivered && attribution.delivered
    let firstError' := firstError.or error
    if error.isSome && abortsOnChildError c then pure (allDelivered, firstError')
    else fanOutLoop c rest allDelivered firstError'

def fanOut (c : SinkCall) : TeeM S Status := do
  .update fun w => { w with tee := { w.tee with lastDelivered := false } }
  let children ← Async.read fun w => w.tee.children
  let (allDelivered, firstError) ← fanOutLoop c children true none
  match firstError with
  | some err => pure (.error err)
  | none =>
    .update fun w => { w with tee := { w.tee with lastDelivered := allDelivered } }
    pure (.ok ())

def dlqRecordsByTypeAndClass (self : TeeSink) : Attribution :=
  self.attribution.filter fun entry => 0 < entry.2.2

end TeeSink

end Rastreo
