import Rastreo.Sink.File
import Rastreo.Sink.Ledger
import Rastreo.Sink.Tee

/-!
# The sinks behind one interface

The file, memory, Kafka and NATS sinks with their worlds.  A write knows who made it and when, and
its bytes carry it, so that a destination can be asked whether it has accepted *this* write. A sink
vouches for a write if it was accepted, or has lapsed: a file sink does not keep track of a failed
call since, a memory sink of another write since.  `LoggedSink.Sound` is the invariant.
-/

namespace Rastreo

open Async List Bool

inductive Caller where
  | sink (i : ℕ)
  | tee (t : ℕ)
  deriving DecidableEq

/-- A write: the `seq`-th of its caller. -/
structure Write where
  caller : Caller
  seq : ℕ
  kind : RecordKind
  data : Bytes
  deriving DecidableEq

/-- Writes are counted by their bytes. -/
instance Write.instAsRef : AsRef Write := ⟨fun x => x.data.length⟩

/-- The bytes of a write, marked as its own. -/
def Write.bytes (x : Write) : List (Write × UInt8) := x.data.map fun b => (x, b)

inductive LeafCall where
  | write (x : Write)
  | flush
  | close
  deriving DecidableEq

def SinkCall.stamp (caller : Caller) (seq : ℕ) : SinkCall → LeafCall
  | .writeKind kind data => .write ⟨caller, seq, kind, data⟩
  | .flush => .flush
  | .close => .close

def LeafCall.toKafka : LeafCall → KafkaCall Write
  | .write x => .writeKind x.kind x
  | .flush => .flush
  | .close => .close

def LeafCall.toNats : LeafCall → NatsCall Write
  | .write x =>
    match x.kind with
    | .device => .write x
    | .link => .writeStream .links x
    | .collectionProfile => .writeStream .profiles x
  | .flush => .flush
  | .close => .close

inductive LeafSink where
  | file (world : FileWorld (Write × UInt8))
  | memory (sink : MemorySink) (kept : List Write)
  | kafka (world : KafkaWorld Write)
  | nats (world : NatsWorld Write)

namespace LeafSink

/-- Every kind goes to the one file, and closing is flushing. -/
def callFile (w : FileWorld (Write × UInt8)) :
    LeafCall → Status × FileWorld (Write × UInt8)
  | .write x => FileSink.write x.bytes w
  | .flush => FileSink.flush w
  | .close => FileSink.flush w

/-- A call of a memory sink, which never fails. -/
def callMemory (sink : MemorySink) (kept : List Write) : LeafCall → MemorySink × List Write
  | .write x =>
    let sink' := sink.write x.data
    (sink', if sink'.buffer = sink.buffer ++ x.data then kept ++ [x] else kept)
  | .flush => (sink, kept)
  | .close => (sink, kept)

/-- A call, which may be dropped at an await. -/
def call (c : LeafCall) : LeafSink → Exit Unit Status × LeafSink
  | .file world =>
    let (result, world) := callFile world c
    (.done result, .file world)
  | .memory sink kept =>
    let (sink, kept) := callMemory sink kept c
    (.done (.ok ()), .memory sink kept)
  | .kafka world =>
    let (exit, world) := c.toKafka.run world
    (SharedSink.forgetSite exit, .kafka world)
  | .nats world =>
    let (exit, world) := c.toNats.run world
    (SharedSink.forgetSite exit, .nats world)

def lastWriteDelivered : LeafSink → Bool
  | .file world => world.sink.delivered
  | .memory sink _ => sink.delivered
  | .kafka world => world.sink.lastWriteDelivered
  | .nats world => world.sink.reportsDelivered

/-- By the destination, or its dead-letter destination. -/
def Accepted (x : Write) : LeafSink → Prop
  | .file world => x.bytes <:+: world.sink.writer.file
  | .memory _ kept => x ∈ kept
  | .kafka world => x ∈ world.ledger.accepted x.kind
  | .nats world => x ∈ world.ledger.accepted x.kind

instance instDecidableAccepted (x : Write) (s : LeafSink) : Decidable (s.Accepted x) :=
  match s with
  | .file world => inferInstanceAs (Decidable (x.bytes <:+: world.sink.writer.file))
  | .memory _ kept => inferInstanceAs (Decidable (x ∈ kept))
  | .kafka world => inferInstanceAs (Decidable (x ∈ world.ledger.accepted x.kind))
  | .nats world => inferInstanceAs (Decidable (x ∈ world.ledger.accepted x.kind))

inductive Fresh : LeafSink → Prop where
  | file (system : ℕ → WriterReply) : Fresh (.file (.start system))
  | memory (maxBytes : Option ℕ) : Fresh (.memory { maxBytes } [])
  | kafka (config : KafkaConfig) (broker : ℕ → Reply) (connector : ℕ → ConnectReply) :
      Fresh (.kafka (.start config broker connector))
  | nats (config : NatsConfig) (broker : ℕ → Reply) : Fresh (.nats (.start config broker))

end LeafSink

/-! ## The calls made on a sink -/

/-- The latest first, and whether they succeeded. -/
abbrev CallLog := List (LeafCall × Bool)

namespace CallLog

def wrote (x : Write) (log : CallLog) : Bool := log.any fun e => e.1 = .write x

def lastWrite : CallLog → Option Write
  | [] => none
  | (.write x, _) :: _ => some x
  | (.flush, _) :: older => lastWrite older
  | (.close, _) :: older => lastWrite older

/-- The write itself included. -/
def failedSince (x : Write) : CallLog → Bool
  | [] => false
  | (c, ok) :: older => (!ok && wrote x ((c, ok) :: older)) || failedSince x older

lemma wrote_of_lastWrite {x : Write} {log : CallLog} (h : log.lastWrite = some x) :
    log.wrote x = true := by
  induction log with
  | nil => cases h
  | cons e older ih =>
    obtain ⟨c, ok⟩ := e
    cases c with
    | write y =>
      obtain rfl := Option.some.inj h
      simp [wrote]
    | flush => simpa [wrote] using ih h
    | close => simpa [wrote] using ih h

end CallLog

structure LoggedSink where
  sink : LeafSink
  log : CallLog := []

namespace LoggedSink

def succeeded (result : Status) : Bool := result matches .ok _

def call (c : LeafCall) (d : LoggedSink) : Option (Status × LoggedSink) :=
  match d.sink.call c with
  | (.done result, sink) => some (result, ⟨sink, (c, succeeded result) :: d.log⟩)
  | (.dropped _, _) => none

/-- A file sink forgets that a call has failed since; a memory sink, that it has taken another
write. -/
def Lapsed (x : Write) (d : LoggedSink) : Prop :=
  match d.sink with
  | .file _ => d.log.failedSince x = true
  | .memory _ _ => d.log.lastWrite ≠ some x
  | .kafka _ => False
  | .nats _ => False

/-- The write is accepted, unless the sink has lapsed. -/
def Vouches (x : Write) (d : LoggedSink) : Prop := d.sink.Accepted x ∨ d.Lapsed x

end LoggedSink

/-! ## What the calls keep -/

section Sound

variable {c : LeafCall} {result : Status} {log : CallLog} {x : Write}

/-- What was written without a failure since is in the file or on its way, and nothing is on its way
once delivery is reported. -/
structure FileSound (w : FileWorld (Write × UInt8)) (log : CallLog) : Prop where
  holds : ∀ x, log.wrote x = true → log.failedSince x = false → x.bytes <:+: w.sink.writer.stream
  empty : w.sink.delivered = true → w.sink.writer.buffered = []

def MemorySound (sink : MemorySink) (kept : List Write) (log : CallLog) : Prop :=
  sink.delivered = true → ∀ x, log.lastWrite = some x → x ∈ kept

/-- The books are balanced, hold every write, and say that the latest was accepted if delivery is
reported. -/
structure LedgerSound (l : Ledger Write) (delivered : Bool) (log : CallLog) : Prop where
  balanced : l.Balanced
  holds : ∀ x, log.wrote x = true → x ∈ l.written x.kind
  reported : delivered = true → ∀ x, log.lastWrite = some x → x ∈ l.accepted x.kind

def Ledger.Called (c : LeafCall) (result : Status) (delivered : Bool)
    (l l' : Ledger Write) : Prop :=
  match c with
  | .write x => Ledger.Writes x.kind x delivered l l'
  | .flush => Ledger.Flushes result delivered l l'
  | .close => Ledger.Flushes result delivered l l'

variable {delivered : Bool} {l l' : Ledger Write}

lemma Ledger.Called.extends_ (h : Ledger.Called c result delivered l l') : l.Extends l' := by
  cases c with
  | write x => exact Ledger.Writes.extends_ h
  | flush => exact Ledger.Flushes.extends_ h
  | close => exact Ledger.Flushes.extends_ h

lemma kafka_called {w w' : KafkaWorld Write} (h : KafkaConserved w)
    (hrun : c.toKafka.run w = (.done result, w')) :
    KafkaConserved w' ∧ Ledger.Called c result w'.sink.lastWriteDelivered w.ledger w'.ledger := by
  refine ⟨(meets_kafkaCall c.toKafka).of_done h hrun, ?_⟩
  cases c with
  | write x => exact ((KafkaSink.meets_writeKind x.kind x w).of_done rfl hrun).writes
  | flush => exact (flush_eq_done hrun).flushes
  | close => exact (flush_eq_done hrun).flushes

lemma nats_called {w w' : NatsWorld Write} (h : NatsBooks w)
    (hrun : c.toNats.run w = (.done result, w')) :
    NatsBooks w' ∧ Ledger.Called c result w'.sink.reportsDelivered w.ledger w'.ledger := by
  cases c with
  | write x =>
    obtain ⟨caller, seq, kind, data⟩ := x
    cases kind with
    | device => exact ((meets_write h.steady _).of_done rfl hrun).books h
    | link => exact ((meets_writeStream .links _ w).of_done rfl hrun).books h
    | collectionProfile => exact ((meets_writeStream .profiles _ w).of_done rfl hrun).books h
  | flush => exact ((meets_flush h.steady).of_done rfl hrun).books h
  | close => exact ((meets_flush h.steady).of_done rfl hrun).books h

lemma LedgerSound.accepted_of_flushes {delivered' : Bool} (h : LedgerSound l delivered log)
    (hbalanced : l'.Balanced) (hfl : Ledger.Flushes (.ok ()) delivered' l l')
    (hx : log.wrote x = true) :
    x ∈ l'.accepted x.kind :=
  hbalanced.mem_accepted (hfl.extends_.written _ (h.holds x hx)) (hfl.emptied rfl x.kind)

lemma LedgerSound.called {delivered' ok : Bool} (h : LedgerSound l delivered log)
    (hbalanced : l'.Balanced) (hcall : Ledger.Called c result delivered' l l') :
    LedgerSound l' delivered' ((c, ok) :: log) := by
  refine ⟨hbalanced, fun x hx => ?_, fun hdel x hx => ?_⟩
  · rw [CallLog.wrote, any_cons, or_eq_true] at hx
    obtain hc | hx := hx
    · obtain rfl : c = .write x := of_decide_eq_true hc
      exact Ledger.Writes.written hcall
    · exact hcall.extends_.written _ (h.holds x hx)
  · -- The latest write is this one, or was made before a flush that succeeded.
    have hfl : Ledger.Flushes result delivered' l l' → log.lastWrite = some x →
        x ∈ l'.accepted x.kind := by
      intro hfl hlast
      obtain rfl := hfl.delivered hdel
      exact h.accepted_of_flushes hbalanced hfl (CallLog.wrote_of_lastWrite hlast)
    cases c with
    | write y =>
      obtain rfl := Option.some.inj hx
      exact hbalanced.mem_accepted hcall.written (hcall.delivered hdel)
    | flush => exact hfl hcall hx
    | close => exact hfl hcall hx

lemma MemorySound.called {sink sink' : MemorySink} {kept kept' : List Write} (ok : Bool)
    (h : MemorySound sink kept log) (hcall : LeafSink.callMemory sink kept c = (sink', kept')) :
    MemorySound sink' kept' ((c, ok) :: log) ∧ kept ⊆ kept' := by
  cases c with
  | flush =>
    obtain ⟨rfl, rfl⟩ := Prod.mk.inj hcall
    exact ⟨h, fun _ hx => hx⟩
  | close =>
    obtain ⟨rfl, rfl⟩ := Prod.mk.inj hcall
    exact ⟨h, fun _ hx => hx⟩
  | write x =>
    obtain ⟨rfl, rfl⟩ := Prod.mk.inj hcall
    constructor
    · intro hdel y hy
      obtain rfl := Option.some.inj hy
      -- A write that is reported was appended.
      have happ : (sink.write x.data).buffer = sink.buffer ++ x.data := by
        grind [MemorySink.write]
      rw [if_pos happ]
      simp
    · grind

lemma CallLog.failedSince_cons {ok : Bool} : CallLog.failedSince x ((c, ok) :: log) = false ↔
      (ok = false → CallLog.wrote x ((c, ok) :: log) = false) ∧ log.failedSince x = false := by
  cases ok <;> simp [CallLog.failedSince]

lemma LeafSink.file_prefix_callFile (w : FileWorld (Write × UInt8)) (c : LeafCall) :
    w.sink.writer.file <+: (LeafSink.callFile w c).2.sink.writer.file := by
  cases c with
  | write x => exact w.sink.writer.file_writeAll_prefix _ _
  | flush => exact w.sink.writer.file_flush_prefix _
  | close => exact w.sink.writer.file_flush_prefix _

variable {w : FileWorld (Write × UInt8)}

lemma FileSound.buffered_flush (h : FileSound w log)
    (hdelivered : (FileSink.flush w).2.sink.delivered = true) :
    (FileSink.flush w).2.sink.writer.buffered = [] := by
  rcases hfl : FileSink.flush w with ⟨_ | _, w'⟩
  · -- The flag of a failed flush is an earlier one.
    unfold FileSink.flush at hfl
    rcases hwriter : w.sink.writer.flush (w.system w.calls) with ⟨_ | _, writer⟩
    · rw [hwriter] at hfl
      obtain rfl := (Prod.mk.inj hfl).2
      unfold FileSink.flush at hdelivered
      rw [hwriter] at hdelivered
      have hempty := BufWriter.buffered_flush (h.empty hdelivered) (w.system w.calls)
      rwa [hwriter] at hempty
    · rw [hwriter] at hfl
      cases (Prod.mk.inj hfl).1
  · exact (FileSink.flush_eq_ok hfl).2

variable {w' : FileWorld (Write × UInt8)}

lemma LeafSink.stream_callFile (h : LeafSink.callFile w c = (.ok (), w')) :
    w'.sink.writer.stream = w.sink.writer.stream ++ match c with
      | .write x => x.bytes
      | .flush => []
      | .close => [] := by
  cases c with
  | write x => exact FileSink.stream_write h
  | flush => rw [(FileSink.flush_eq_ok h).1, append_nil]
  | close => rw [(FileSink.flush_eq_ok h).1, append_nil]

lemma FileSound.called (h : FileSound w log) (hcall : LeafSink.callFile w c = (result, w')) :
    FileSound w' ((c, LoggedSink.succeeded result) :: log) := by
  constructor
  · intro x hx hfailed
    obtain ⟨hsuc, hfailed⟩ := CallLog.failedSince_cons.mp hfailed
    -- No call has failed since the write, so neither has this one.
    cases result with
    | error e => exact absurd hx (by simp [hsuc rfl])
    | ok _ =>
      rw [LeafSink.stream_callFile hcall]
      rw [CallLog.wrote, any_cons, or_eq_true] at hx
      obtain hc | hx := hx
      · obtain rfl : c = .write x := of_decide_eq_true hc
        exact (suffix_append _ _).isInfix
      · exact (h.holds x hx hfailed).trans (prefix_append _ _).isInfix
  · intro hdel
    obtain rfl := congrArg Prod.snd hcall
    cases c with
    | write x => cases hdel
    | flush => exact h.buffered_flush hdel
    | close => exact h.buffered_flush hdel

end Sound

namespace LoggedSink

variable {c : LeafCall} {result : Status} {x : Write} {d d' : LoggedSink}

def Sound (d : LoggedSink) : Prop :=
  match d.sink with
  | .file world => FileSound world d.log
  | .memory sink kept => MemorySound sink kept d.log
  | .kafka world => KafkaConserved world ∧
      LedgerSound world.ledger world.sink.lastWriteDelivered d.log
  | .nats world => NatsBooks world ∧ LedgerSound world.ledger world.sink.reportsDelivered d.log

lemma sound_of_fresh {sink : LeafSink} (h : sink.Fresh) : Sound ⟨sink, []⟩ := by
  cases h with
  | file system => exact ⟨fun x hx => (by cases hx), fun h => (by cases h)⟩
  | memory maxBytes => exact fun h => (by cases h)
  | kafka config broker connector =>
    have hcon := kafkaConserved_start (B := Write) config broker connector
    exact ⟨hcon, hcon.balanced, fun x hx => (by cases hx), fun h => (by cases h)⟩
  | nats config broker =>
    have hbooks := natsBooks_start (B := Write) config broker
    exact ⟨hbooks, hbooks.balanced, fun x hx => (by cases hx), fun h => (by cases h)⟩

lemma call_eq_some (h : d.call c = some (result, d')) :
    ∃ sink, d.sink.call c = (.done result, sink) ∧ d' = ⟨sink, (c, succeeded result) :: d.log⟩ := by
  unfold call at h
  rcases hsink : d.sink.call c with ⟨_ | _, sink⟩
  · rw [hsink] at h
    grind
  · rw [hsink] at h
    cases h

/-- Nothing accepted is taken back, a lapse stays until the write is made again, and a successful
flush vouches for every write. -/
structure Called (c : LeafCall) (result : Status) (d d' : LoggedSink) :
    Prop where
  sound : d'.Sound
  log_eq : d'.log = (c, succeeded result) :: d.log
  accepted : ∀ x, d.sink.Accepted x → d'.sink.Accepted x
  lapsed : ∀ x, c ≠ .write x → d.Lapsed x → d'.Lapsed x
  flushed : result = .ok () → c = .flush ∨ c = .close → ∀ x, d.log.wrote x = true →
    d'.sink.lastWriteDelivered = true → d'.Vouches x

variable {log : CallLog}

lemma Sound.called_file {world : FileWorld (Write × UInt8)}
    (h : Sound ⟨.file world, log⟩) (hcall : call c ⟨.file world, log⟩ = some (result, d')) :
    Called c result ⟨.file world, log⟩ d' := by
  obtain ⟨sink, hsink, rfl⟩ := call_eq_some hcall
  rcases hfile : LeafSink.callFile world c with ⟨result', world'⟩
  obtain ⟨rfl, rfl⟩ : result' = result ∧ sink = .file world' := by
    simp only [LeafSink.call, hfile, Prod.mk.injEq, Exit.done.injEq] at hsink
    grind
  have hsound : FileSound world' ((c, succeeded result') :: log) := FileSound.called h hfile
  refine ⟨hsound, rfl, fun x hx => ?_, fun x _ hx => ?_, fun hok hfl x hx _ => ?_⟩
  · have hpre := LeafSink.file_prefix_callFile world c
    rw [hfile] at hpre
    exact List.IsInfix.trans hx hpre.isInfix
  · exact or_eq_true_iff.mpr (.inr hx)
  · -- Everything the sink held is in the file now.
    subst hok
    have hflu : FileSink.flush world = (.ok (), world') := by
      obtain rfl | rfl := hfl <;> exact hfile
    have hempty := (FileSink.flush_eq_ok hflu).2
    by_cases hfailed : CallLog.failedSince x ((c, succeeded (.ok ())) :: log) = true
    · exact .inr hfailed
    · have hholds := hsound.holds x (by simp [CallLog.wrote] at hx ⊢; exact .inr hx)
        (eq_false_iff.mpr hfailed)
      rw [BufWriter.stream, hempty, append_nil] at hholds
      exact .inl hholds

lemma Sound.called_memory {sink : MemorySink} {kept : List Write}
    (h : Sound ⟨.memory sink kept, log⟩)
    (hcall : call c ⟨.memory sink kept, log⟩ = some (result, d')) :
    Called c result ⟨.memory sink kept, log⟩ d' := by
  obtain ⟨leaf, hsink, rfl⟩ := call_eq_some hcall
  rcases hmem : LeafSink.callMemory sink kept c with ⟨sink', kept'⟩
  obtain ⟨rfl, rfl⟩ : result = .ok () ∧ leaf = .memory sink' kept' := by
    simp only [LeafSink.call, hmem, Prod.mk.injEq, Exit.done.injEq] at hsink
    grind
  obtain ⟨hsound, hkept⟩ := MemorySound.called (succeeded (.ok ())) h hmem
  refine ⟨hsound, rfl, fun x hx => hkept hx, fun x hne hx => ?_, fun _ _ x _ hdel => ?_⟩
  · -- Another write is the latest, or the latest is as it was.
    change CallLog.lastWrite ((c, _) :: log) ≠ some x
    cases c with
    | write y =>
      rintro hy
      exact hne (congrArg LeafCall.write (Option.some.inj hy))
    | flush => exact hx
    | close => exact hx
  · by_cases hlast : CallLog.lastWrite ((c, succeeded (.ok ())) :: log) = some x
    · exact .inl (hsound hdel x hlast)
    · exact .inr hlast

lemma vouches_of_flushed {l l' : Ledger Write} {delivered delivered' : Bool}
    (h : LedgerSound l delivered log) (hbalanced : l'.Balanced)
    (hcall : Ledger.Called c (.ok ()) delivered' l l') (hfl : c = .flush ∨ c = .close)
    (hx : log.wrote x = true) : x ∈ l'.accepted x.kind := by
  obtain rfl | rfl := hfl
  · exact h.accepted_of_flushes hbalanced hcall hx
  · exact h.accepted_of_flushes hbalanced hcall hx

lemma Sound.called_kafka {world : KafkaWorld Write}
    (h : Sound ⟨.kafka world, log⟩) (hcall : call c ⟨.kafka world, log⟩ = some (result, d')) :
    Called c result ⟨.kafka world, log⟩ d' := by
  obtain ⟨sink, hsink, rfl⟩ := call_eq_some hcall
  obtain ⟨hcon, hledger⟩ := h
  rcases hrun : c.toKafka.run world with ⟨result' | site, world'⟩
  · obtain ⟨rfl, rfl⟩ : result' = result ∧ sink = .kafka world' := by
      simp only [LeafSink.call, hrun, SharedSink.forgetSite, Prod.mk.injEq,
        Exit.done.injEq] at hsink
      grind
    obtain ⟨hcon', hcalled⟩ := kafka_called hcon hrun
    refine ⟨⟨hcon', hledger.called hcon'.balanced hcalled⟩, rfl,
      fun x hx => hcalled.extends_.accepted _ hx, fun _ _ hx => hx, fun hok hfl x hx _ => ?_⟩
    subst hok
    exact .inl (vouches_of_flushed hledger hcon'.balanced hcalled hfl hx)
  · simp [LeafSink.call, hrun, SharedSink.forgetSite] at hsink

lemma Sound.called_nats {world : NatsWorld Write}
    (h : Sound ⟨.nats world, log⟩) (hcall : call c ⟨.nats world, log⟩ = some (result, d')) :
    Called c result ⟨.nats world, log⟩ d' := by
  obtain ⟨sink, hsink, rfl⟩ := call_eq_some hcall
  obtain ⟨hbooks, hledger⟩ := h
  rcases hrun : c.toNats.run world with ⟨result' | site, world'⟩
  · obtain ⟨rfl, rfl⟩ : result' = result ∧ sink = .nats world' := by
      simp only [LeafSink.call, hrun, SharedSink.forgetSite, Prod.mk.injEq,
        Exit.done.injEq] at hsink
      grind
    obtain ⟨hboo', hcalled⟩ := nats_called hbooks hrun
    refine ⟨⟨hboo', hledger.called hboo'.balanced hcalled⟩, rfl,
      fun x hx => hcalled.extends_.accepted _ hx, fun _ _ hx => hx, fun hok hfl x hx _ => ?_⟩
    subst hok
    exact .inl (vouches_of_flushed hledger hboo'.balanced hcalled hfl hx)
  · simp [LeafSink.call, hrun, SharedSink.forgetSite] at hsink

lemma Sound.called (h : d.Sound) (hcall : d.call c = some (result, d')) : Called c result d d' := by
  obtain ⟨sink, log⟩ := d
  cases sink with
  | file world => exact h.called_file hcall
  | memory sink kept => exact h.called_memory hcall
  | kafka world => exact h.called_kafka hcall
  | nats world => exact h.called_nats hcall

lemma Sound.reported (h : d.Sound) (hdelivered : d.sink.lastWriteDelivered = true)
    (hx : d.log.lastWrite = some x) :
    d.sink.Accepted x ∨ ((∃ world, d.sink = .file world) ∧ d.log.failedSince x = true) := by
  obtain ⟨sink, log⟩ := d
  cases sink with
  | file world =>
    by_cases hfailed : log.failedSince x = true
    · grind
    · have hholds := FileSound.holds h x (CallLog.wrote_of_lastWrite hx) (eq_false_iff.mpr hfailed)
      rw [BufWriter.stream, FileSound.empty h hdelivered, append_nil] at hholds
      exact .inl hholds
  | memory sink kept => exact .inl (h hdelivered x hx)
  | kafka world => exact .inl (h.2.reported hdelivered x hx)
  | nats world => exact .inl (h.2.reported hdelivered x hx)

lemma Called.vouches (h : Called c result d d') (hne : c ≠ .write x) (hx : d.Vouches x) :
    d'.Vouches x := hx.imp (h.accepted x) (h.lapsed x hne)

lemma Called.vouches_write (h : Called (.write x) result d d')
    (hdelivered : d'.sink.lastWriteDelivered = true) : d'.Vouches x := by
  have hlast : d'.log.lastWrite = some x := by rw [h.log_eq]; rfl
  refine (h.sound.reported hdelivered hlast).imp_right ?_
  rintro ⟨⟨world, hworld⟩, hfailed⟩
  obtain ⟨sink, log⟩ := d'
  obtain rfl := hworld
  exact hfailed

end LoggedSink

end Rastreo
