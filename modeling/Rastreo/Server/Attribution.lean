import Rastreo.Server.DeadLetters
import Rastreo.Sink.Quarantine

/-!
# Whose dead letters a tee is credited with

A tee is credited with whatever its calls add to the sink's dead-letter counters, and a call
publishes everything the sink holds, whoever wrote it.  All the broker sinks ask of a record is its
length, so the records here carry the tee they were written through.  Credits are right as long as
no call publishes while the sink holds a device record of another tee.
-/

namespace Rastreo

open List Function

variable {ι : Type}

/-! ## The shared sink, with owners -/

/-- A record with the tee it was written through. -/
structure Owned (ι B : Type) where
  owner : ι
  payload : B
  deriving DecidableEq

/-- The owner takes no space. -/
instance {B : Type} [AsRef B] : AsRef (Owned ι B) := ⟨fun record => AsRef.len record.payload⟩

abbrev OwnedSink (ι : Type) := SharedSink (Owned ι Bytes)

/-- The shared sink as one tee calls it, which owns what it writes. -/
structure HeldSink (ι : Type) where
  owner : ι
  sink : OwnedSink ι

instance : Sink (HeldSink ι) where
  call c s :=
    let (exit, sink) := s.sink.call (Owned.mk s.owner) c
    (exit, { s with sink })
  kind s := s.sink.kind
  lastWriteDelivered s := s.sink.lastWriteDelivered
  dlqRecordsByClass s := s.sink.dlqRecordsByClass
  kind_call c s := s.sink.kind_call _ c

def SinkCall.deviceRecords : SinkCall → ℕ
  | .writeKind .device _ => 1
  | .writeKind .link _ => 0
  | .writeKind .collectionProfile _ => 0
  | .flush => 0
  | .close => 0

namespace OwnedSink

/-- Whether a call may send out the device records the sink holds. -/
def publishes (owner : ι) (c : SinkCall) : OwnedSink ι → Bool
  | .kafka world => (c.toKafka (Owned.mk owner)).publishes world
  | .nats world => (c.toNats (Owned.mk owner)).publishes world

/-- The device records not yet accepted. -/
def held : OwnedSink ι → List (Owned ι Bytes)
  | .kafka world => (world.sink.buffer .device).entries
  | .nats world => world.held

/-- What the destination has accepted, with the class counted. -/
def deadLetters : OwnedSink ι → List (Owned ι Bytes × SinkErrorClass)
  | .kafka world => world.deadLetters
  | .nats world => world.dlqAcked

/-- The dead letters that were written through one tee. -/
def deadLettersOf [DecidableEq ι] (s : OwnedSink ι) (owner : ι) (t : SinkType)
    (k : SinkErrorClass) : ℕ :=
  if s.kind = t then
    s.deadLetters.countP fun letter => letter.1.owner = owner ∧ letter.2 = k
  else 0

inductive New : OwnedSink ι → Prop where
  | kafka (config : KafkaConfig) (broker : ℕ → Reply) (connector : ℕ → ConnectReply) :
      New (.kafka (.start config broker connector))
  | nats (config : NatsConfig) (broker : ℕ → Reply) : New (.nats (.start config broker))

variable {c : SinkCall} {record : Owned ι Bytes}

lemma owner_of_mem_writes_kafka {owner : ι} (h : record ∈ (c.toKafka (Owned.mk owner)).writes) :
    record.owner = owner := by
  rcases c with ⟨_ | _ | _, data⟩ | _ | _ <;> simp_all [SinkCall.toKafka, KafkaCall.writes]

lemma owner_of_mem_writes_nats {owner : ι} (h : record ∈ (c.toNats (Owned.mk owner)).writes) :
    record.owner = owner := by
  rcases c with ⟨_ | _ | _, data⟩ | _ | _ <;> simp_all [SinkCall.toNats, NatsCall.writes]

lemma length_writes_kafka (owner : ι) (c : SinkCall) :
    (c.toKafka (Owned.mk owner)).writes.length = c.deviceRecords := by
  rcases c with ⟨_ | _ | _, data⟩ | _ | _ <;> rfl

lemma length_writes_nats (owner : ι) (c : SinkCall) :
    (c.toNats (Owned.mk owner)).writes.length = c.deviceRecords := by
  rcases c with ⟨_ | _ | _, data⟩ | _ | _ <;> rfl

/-- Between calls: nothing is lost, and this many device records were written. -/
def Settled (n : ℕ) : OwnedSink ι → Prop
  | .kafka world => KafkaConserved world ∧ (world.written .device).length = n
  | .nats world => Steady world world ∧ world.written.length = n

variable {s : OwnedSink ι}

lemma New.settled (h : s.New) : s.Settled 0 := by
  cases h with
  | kafka config broker connector => exact ⟨kafkaConserved_start config broker connector, rfl⟩
  | nats config broker => exact ⟨steady_start config broker, rfl⟩

lemma New.deadLetters (h : s.New) : OwnedSink.deadLetters s = [] := by
  cases h <;> rfl

variable {n : ℕ}

lemma Settled.counters (h : s.Settled n) (k : SinkErrorClass) : s.dlqRecordsByClass k =
      UInt64.ofNat (s.deadLetters.countP fun letter => letter.2 = k) := by
  cases s with
  | kafka world =>
    have hcount : world.deadLetters.countP (fun letter => letter.2 = k) =
        if k = .produceFailure then world.dlqAccepted.length else 0 := by
      rw [KafkaWorld.deadLetters, countP_map]
      split_ifs with hk
      · simp [hk, comp_def]
      · grind
    change (if k = .produceFailure then world.sink.dlqDelivered else 0) = UInt64.ofNat _
    rw [OwnedSink.deadLetters, hcount, h.1.counter]
    split_ifs <;> rfl
  | nats world => exact h.1.conserved.counters k

lemma Settled.length_deadLetters_le (h : s.Settled n) : s.deadLetters.length ≤ n := by
  cases s with
  | kafka world =>
    have hperm := (h.1.perm .device).length_eq
    have hlet : world.deadLetters.length = world.dlqAccepted.length := length_map _
    simp only [length_append, KafkaWorld.quarantined, h.2] at hperm
    change world.deadLetters.length ≤ n
    omega
  | nats world =>
    have hperm := h.1.conserved.perm.length_eq
    simp only [length_append, length_map, h.2] at hperm
    change world.dlqAcked.length ≤ n
    omega

variable {result : Status}

lemma eq_done_of_forgetSite {S : Type} {exit : Exit S Status}
    (h : SharedSink.forgetSite exit = .done result) : exit = .done result := by
  cases exit with
  | done a =>
    cases h
    rfl
  | dropped site => cases h

lemma owner_of_mem_outgoing {publishes : Bool} {held writes : List (Owned ι Bytes)} {owner : ι}
    (hmem : record ∈ if publishes then held ++ writes else [])
    (hheld : publishes = true → ∀ record ∈ held, record.owner = owner)
    (hwrites : ∀ record ∈ writes, record.owner = owner) : record.owner = owner := by
  split_ifs at hmem with hpub
  · exact (mem_append.mp hmem).elim (hheld hpub record) (hwrites record)
  · cases hmem

/-- The dead letters added are the tee's own, if the sink holds no other tee's record when it
publishes. -/
lemma Settled.call (h : s.Settled n) {owner : ι}
    (hdone : (s.call (Owned.mk owner) c).1 = .done result)
    (hown : s.publishes owner c = true → ∀ record ∈ s.held, record.owner = owner) :
    Settled (n + c.deviceRecords) (s.call (Owned.mk owner) c).2 ∧
      ∃ new, deadLetters (s.call (Owned.mk owner) c).2 = s.deadLetters ++ new ∧
        ∀ letter ∈ new, letter.1.owner = owner := by
  cases s with
  | kafka world =>
    rcases hrun : (c.toKafka (Owned.mk owner)).run world with ⟨exit, w⟩
    simp only [SharedSink.call, hrun] at hdone ⊢
    rw [eq_done_of_forgetSite hdone] at hrun
    have hconserved := (meets_kafkaCall _).of_done h.1 hrun
    obtain ⟨⟨new, hnew, hsource⟩, hwritten⟩ := (KafkaCall.meets_addsFrom _ world).of_done rfl hrun
    refine ⟨⟨hconserved, ?_⟩, new, hnew, fun letter hletter => ?_⟩
    · rw [hwritten, length_append, h.2, length_writes_kafka]
    · exact owner_of_mem_outgoing (hsource letter hletter) hown fun _ => owner_of_mem_writes_kafka
  | nats world =>
    rcases hrun : (c.toNats (Owned.mk owner)).run world with ⟨exit, w⟩
    simp only [SharedSink.call, hrun] at hdone ⊢
    rw [eq_done_of_forgetSite hdone] at hrun
    obtain ⟨⟨new, hnew, hsource⟩, hsteady, hwritten⟩ :=
      (NatsCall.meets_addsFrom _ h.1).of_done rfl hrun
    refine ⟨⟨hsteady, ?_⟩, new, hnew, fun letter hletter => ?_⟩
    · rw [hwritten, length_append, h.2, length_writes_nats]
    · exact owner_of_mem_outgoing (hsource letter hletter) hown fun _ => owner_of_mem_writes_nats

lemma Settled.toNat_counter (h : s.Settled n) (hn : n < 2 ^ 64) (k : SinkErrorClass) :
    (s.dlqRecordsByClass k).toNat = s.deadLetters.countP fun letter => letter.2 = k := by
  have hle : (s.deadLetters.countP fun letter => letter.2 = k) ≤ n :=
    countP_le_length.trans h.length_deadLetters_le
  rw [h.counters, UInt64.toNat_ofNat_of_lt' (Nat.lt_of_le_of_lt hle hn)]

lemma Settled.toNat_deadLetters (h : s.Settled n) (hn : n < 2 ^ 64) (owner : ι)
    (t : SinkType) (k : SinkErrorClass) :
    (Sink.deadLetters (⟨owner, s⟩ : HeldSink ι) t k).toNat =
      if s.kind = t then s.deadLetters.countP fun letter => letter.2 = k else 0 := by
  change (if s.kind = t then s.dlqRecordsByClass k else 0).toNat = _
  split_ifs
  · exact h.toNat_counter hn k
  · rfl

section DeadLettersOf

variable [DecidableEq ι] {s s' : OwnedSink ι} {owner : ι}
  {new : List (Owned ι Bytes × SinkErrorClass)}

lemma deadLettersOf_le (s : OwnedSink ι) (owner : ι) (k : SinkErrorClass) :
    s.deadLettersOf owner s.kind k ≤ s.deadLetters.countP fun letter => letter.2 = k := by
  rw [deadLettersOf, if_pos rfl]
  refine countP_mono_left fun letter _ h => ?_
  grind

lemma deadLettersOf_self (hkind : s'.kind = s.kind)
    (hnew : s'.deadLetters = s.deadLetters ++ new)
    (hown : ∀ letter ∈ new, letter.1.owner = owner) (t : SinkType) (k : SinkErrorClass) :
    s'.deadLettersOf owner t k = s.deadLettersOf owner t k +
      if s.kind = t then new.countP fun letter => letter.2 = k else 0 := by
  have hcount : (new.countP fun letter => letter.1.owner = owner ∧ letter.2 = k) =
      new.countP fun letter => letter.2 = k :=
    countP_congr fun letter hletter => by simp [hown letter hletter]
  grind [deadLettersOf]

lemma deadLettersOf_of_ne (hkind : s'.kind = s.kind)
    (hnew : s'.deadLetters = s.deadLetters ++ new)
    (hown : ∀ letter ∈ new, letter.1.owner = owner) {other : ι} (hne : other ≠ owner)
    (t : SinkType) (k : SinkErrorClass) :
    s'.deadLettersOf other t k = s.deadLettersOf other t k := by
  have hcount : (new.countP fun letter => letter.1.owner = other ∧ letter.2 = k) = 0 := by grind
  rw [deadLettersOf, deadLettersOf, hkind, hnew, countP_append, hcount, Nat.add_zero]

end DeadLettersOf

end OwnedSink

/-! ## Tees over one sink -/

structure SharedTees (ι : Type) where
  tees : ι → TeeSink
  sink : OwnedSink ι

namespace SharedTees

variable [DecidableEq ι]

/-- A call through one of the tees that runs to its end. -/
def step (a : ι × SinkCall) (s : SharedTees ι) : Option (SharedTees ι) :=
  match TeeSink.fanOut a.2 (⟨s.tees a.1, ⟨a.1, s.sink⟩⟩ : TeeWorld (HeldSink ι)) with
  | (.done _, w) => some ⟨Function.update s.tees a.1 w.tee, w.shared.sink⟩
  | (.dropped _, _) => none

/-- Nothing to the credit of tees with the sink among their children, and a new sink. -/
structure Fresh (s : SharedTees ι) : Prop where
  children : ∀ i, (s.tees i).children.count .shared = 1
  attribution : ∀ i, (s.tees i).attribution = []
  sink : s.sink.New

/-- It publishes only where the sink holds no device record of another tee. -/
def OwnPublish (a : ι × SinkCall) (s : SharedTees ι) : Prop :=
  s.sink.publishes a.1 a.2 = true → ∀ record ∈ s.sink.held, record.owner = a.1

/-- Tees are credited with their own dead letters, and nothing is lost. -/
structure Exact (n : ℕ) (s : SharedTees ι) : Prop where
  children : ∀ i, (s.tees i).children.count .shared = 1
  settled : s.sink.Settled n
  credit : ∀ i t k, (s.tees i).credited t k = s.sink.deadLettersOf i t k

variable {s s' : SharedTees ι}

lemma exists_called {a : ι × SinkCall}
    (hchildren : (s.tees a.1).children.count .shared = 1) (h : step a s = some s') :
    ∃ w : TeeWorld (HeldSink ι), Called a.2 ⟨s.tees a.1, ⟨a.1, s.sink⟩⟩ w ∧
      (∃ result, (s.sink.call (Owned.mk a.1) a.2).1 = .done result) ∧
      s' = ⟨Function.update s.tees a.1 w.tee, (s.sink.call (Owned.mk a.1) a.2).2⟩ := by
  set w₀ : TeeWorld (HeldSink ι) := ⟨s.tees a.1, ⟨a.1, s.sink⟩⟩ with hw₀
  rw [step, ← hw₀] at h
  rcases hcall : TeeSink.fanOut a.2 w₀ with ⟨r | site, w⟩
  · rw [hcall] at h
    obtain rfl := Option.some.inj h
    obtain ⟨hcalled, hdone⟩ := (meets_fanOut a.2 w₀ hchildren).of_done rfl hcall
    exact ⟨w, hcalled, hdone, by rw [hcalled.1]; rfl⟩
  · rw [hcall] at h
    cases h

theorem step_exact {a : ι × SinkCall} {n : ℕ} (h : s.Exact n)
    (hown : OwnPublish a s) (hfew : n + a.2.deviceRecords < 2 ^ 64) (hstep : step a s = some s') :
    s'.Exact (n + a.2.deviceRecords) := by
  obtain ⟨w, hcalled, ⟨result, hdone⟩, rfl⟩ := exists_called (h.children a.1) hstep
  obtain ⟨hsettled, new, hnew, howner⟩ := h.settled.call hdone hown
  have hkind := s.sink.kind_call (Owned.mk a.1) a.2
  have hn : n < 2 ^ 64 := Nat.lt_of_le_of_lt (Nat.le_add_right _ _) hfew
  have hbefore := h.settled.toNat_counter hn
  have hafter := hsettled.toNat_counter hfew
  simp only [hnew, countP_append] at hafter
  have hwrap : Sink.NoWrap a.2 (⟨a.1, s.sink⟩ : HeldSink ι) := fun k =>
    UInt64.le_iff_toNat_le.mpr
      ((hbefore k).le.trans ((Nat.le_add_right _ _).trans (hafter k).ge))
  have hcounted : ∀ k, (s.tees a.1).credited s.sink.kind k ≤
      (s.sink.dlqRecordsByClass k).toNat := by
    intro k
    rw [h.credit, hbefore]
    exact s.sink.deadLettersOf_le a.1 k
  refine ⟨fun i => ?_, hsettled, fun i t k => ?_⟩
  · dsimp only
    by_cases hi : i = a.1
    · subst hi
      rw [update_self, hcalled.2.1]
      exact h.children _
    · rw [update_of_ne hi]
      exact h.children i
  · dsimp only
    by_cases hi : i = a.1
    · subst hi
      have hcredit := hcalled.credited hwrap hcounted t k
      have hshared : w.shared = ⟨a.1, (s.sink.call (Owned.mk a.1) a.2).2⟩ := hcalled.1
      rw [hshared, h.settled.toNat_deadLetters hn, hsettled.toNat_deadLetters hfew, hkind, hnew,
        countP_append, h.credit] at hcredit
      rw [update_self, OwnedSink.deadLettersOf_self hkind hnew howner]
      grind
    · rw [update_of_ne hi, h.credit]
      exact (OwnedSink.deadLettersOf_of_ne hkind hnew howner hi t k).symm

/-- So do calls one after another. -/
theorem run_exact {calls : List (ι × SinkCall)} {n : ℕ} (h : s.Exact n)
    (hown : AllSteps step OwnPublish calls s)
    (hfew : n + (calls.map fun a => a.2.deviceRecords).sum < 2 ^ 64)
    (hrun : runActions step calls s = some s') :
    s'.Exact (n + (calls.map fun a => a.2.deviceRecords).sum) := by
  induction calls generalizing n s with
  | nil =>
    obtain rfl := Option.some.inj hrun
    exact h
  | cons a calls ih =>
    obtain ⟨t, ht, hrest⟩ := runActions_cons_eq_some.mp hrun
    rw [map_cons, sum_cons, ← Nat.add_assoc] at hfew ⊢
    have hstep : t.Exact (n + a.2.deviceRecords) :=
      step_exact h hown.1 (Nat.lt_of_le_of_lt (Nat.le_add_right _ _) hfew) ht
    exact ih hstep (hown.2 t ht) hfew hrest

lemma Fresh.exact {s : SharedTees ι} (h : s.Fresh) : s.Exact 0 where
  children := h.children
  settled := h.sink.settled
  credit i t k := by
    rw [TeeSink.credited, h.attribution, OwnedSink.deadLettersOf, h.sink.deadLetters]
    split_ifs <;> rfl

/-- Any tees over one new broker sink, any brokers, any calls that all return, in any order, and
fewer than 2⁶⁴ device records: if no call publishes while the sink holds a device record of another
tee, the dead letters each tee reports are, for every type and class, those written through it. -/
theorem attribution_exact {s s' : SharedTees ι} (hfresh : s.Fresh)
    {calls : List (ι × SinkCall)} (hrun : runActions step calls s = some s')
    (hown : AllSteps step OwnPublish calls s)
    (hfew : (calls.map fun a => a.2.deviceRecords).sum < 2 ^ 64) (i : ι) (t : SinkType)
    (k : SinkErrorClass) :
    credited (s'.tees i).dlqRecordsByTypeAndClass.counts t k = s'.sink.deadLettersOf i t k := by
  have hexact : s'.Exact (0 + (calls.map fun a => a.2.deviceRecords).sum) :=
    run_exact hfresh.exact hown (by rw [Nat.zero_add]; exact hfew) hrun
  rw [credited_dlqRecordsByTypeAndClass, hexact.credit]

/-- `false` and `true` share a Kafka sink that buffers so many bytes, does not retry and has a
dead-letter topic. -/
def twoScans (thresholdBytes : ℕ) (broker : ℕ → Reply) : SharedTees Bool where
  tees _ := { children := [.memory, .shared], memory := { maxBytes := none } }
  sink := .kafka (.start
    { topic _ := "rastreo.devices"
      brokersForErr := "localhost:9092"
      flushMode := .batched thresholdBytes
      dlqTopic := some "rastreo.devices.dlq"
      retry := { maxAttempts := 1 } } broker fun _ => .ok)

/-- The dead-letter topic takes every batch. -/
def refusesDevices (n : ℕ) : Reply :=
  if n % 2 = 0 then .err "not leader for partition" else .ok

/-- A device written by one scan is buffered; the other flushes, and gets the credit of the dead
letter. -/
theorem flush_takes_credit : ∃ s', (twoScans 1024 refusesDevices).Fresh ∧
      runActions step [(false, .writeKind .device [7]), (true, .flush)]
        (twoScans 1024 refusesDevices) = some s' ∧
      s'.sink.deadLettersOf false .kafka .produceFailure = 1 ∧
      s'.sink.deadLettersOf true .kafka .produceFailure = 0 ∧
      credited (s'.tees false).dlqRecordsByTypeAndClass.counts .kafka .produceFailure = 0 ∧
      credited (s'.tees true).dlqRecordsByTypeAndClass.counts .kafka .produceFailure = 1 := by
  refine ⟨_, ⟨fun _ => rfl, fun _ => rfl, .kafka _ _ _⟩, rfl, ?_, ?_, ?_, ?_⟩
  · decide
  · decide
  · decide
  · decide

/-- Devices are published at once, and each scan is credited with its own. -/
theorem attribution_exact_two :
    ∃ s', runActions step [(false, .writeKind .device [7]), (true, .writeKind .device [8])]
        (twoScans 1 refusesDevices) = some s' ∧
      s'.sink.deadLettersOf false .kafka .produceFailure = 1 ∧
      s'.sink.deadLettersOf true .kafka .produceFailure = 1 ∧
      ∀ i t k, credited (s'.tees i).dlqRecordsByTypeAndClass.counts t k =
        s'.sink.deadLettersOf i t k := by
  have hfresh : (twoScans 1 refusesDevices).Fresh := ⟨fun _ => rfl, fun _ => rfl, .kafka _ _ _⟩
  have hown : AllSteps step OwnPublish
      [(false, .writeKind .device [7]), (true, .writeKind .device [8])]
      (twoScans 1 refusesDevices) := by
    refine ⟨fun _ _ hrecord => absurd hrecord not_mem_nil,
      fun t ht => ⟨fun _ => ?_, fun _ _ => trivial⟩⟩
    -- the first write leaves nothing behind
    have hheld : t.sink.held = [] := by
      obtain rfl := Option.some.inj ht
      rfl
    rw [hheld]
    exact forall_mem_nil _
  have hcounts : (runActions step [(false, .writeKind .device [7]), (true, .writeKind .device [8])]
      (twoScans 1 refusesDevices)).map (fun s' =>
        (s'.sink.deadLettersOf false .kafka .produceFailure,
          s'.sink.deadLettersOf true .kafka .produceFailure)) = some (1, 1) := by
    decide +kernel
  obtain ⟨s', hrun, hcounts⟩ := Option.map_eq_some_iff.mp hcounts
  obtain ⟨hfalse, htrue⟩ := Prod.mk.inj hcounts
  exact ⟨s', hrun, hfalse, htrue, attribution_exact hfresh hrun hown (by decide)⟩

end SharedTees

end Rastreo
