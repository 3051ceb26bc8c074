import Rastreo.Sink.Kafka
import Mathlib.Data.List.Perm.Basic

/-!
# What the Kafka sink does with the records of its three streams

Every record written is accepted by its topic, accepted by the dead-letter topic, or buffered.
`Published` says everything that publishing one stream can do; conservation, and the independence of
the streams in a flush, follow.
-/

namespace Rastreo

open Async List Function

variable {B : Type} [AsRef B]

/-! ## Publishing one stream -/

/-- After awaits from which nothing else has followed, whichever clients the sink now has. -/
def KafkaWorld.waited (w : KafkaWorld B) (awaits : List (KafkaAwait × Bool))
    (connected : SecondStream → Bool) : KafkaWorld B :=
  { w with log := w.log ++ awaits, sink := { w.sink with connected } }

/-- Whether a success delivers records. -/
def KafkaAwait.delivers : KafkaAwait → Bool
  | .produce _ => true
  | .deadLetterProduce => true
  | _ => false

/-- Awaits for one stream that delivered nothing. -/
def Fruitless (kind : RecordKind) (awaits : List (KafkaAwait × Bool)) : Prop :=
  ∀ e ∈ awaits, e.1.kind = kind ∧ (e.1.delivers = true → e.2 = false)

inductive Undelivered (kind : RecordKind) (w₀ : KafkaWorld B) : KafkaWorld B → Prop where
  | intro {awaits : List (KafkaAwait × Bool)} (connected : SecondStream → Bool)
      (h : Fruitless kind awaits) : Undelivered kind w₀ (w₀.waited awaits connected)

/-- The same, with at least one await. -/
inductive Refused (kind : RecordKind) (w₀ : KafkaWorld B) : KafkaWorld B → Prop where
  | intro {awaits : List (KafkaAwait × Bool)} (connected : SecondStream → Bool)
      (h : Fruitless kind awaits) (hne : awaits ≠ []) : Refused kind w₀ (w₀.waited awaits connected)

variable {kind : RecordKind} {w₀ w : KafkaWorld B}

lemma Undelivered.refl (kind : RecordKind) (w : KafkaWorld B) : Undelivered kind w w := by
  have h : Undelivered kind w (w.waited [] w.sink.connected) := .intro _ (by simp [Fruitless])
  rwa [KafkaWorld.waited, append_nil] at h

lemma Refused.undelivered (h : Refused kind w₀ w) : Undelivered kind w₀ w := by
  obtain ⟨connected, hawaits, -⟩ := h
  exact .intro connected hawaits

variable {site : KafkaAwait}

lemma Undelivered.noted (h : Undelivered kind w₀ w) {ok : Bool} (hkind : site.kind = kind)
    (hok : site.delivers = true → ok = false) :
    Refused kind w₀ (KafkaSink.noted w site ok) := by
  obtain ⟨connected, hawaits⟩ := h
  rw [KafkaSink.noted, KafkaWorld.waited, append_assoc]
  refine .intro connected (fun e he => ?_) (by simp)
  rcases mem_append.mp he with he | he
  · exact hawaits e he
  · grind

/-- An error leaves the buffer after at least one attempt; a success empties it into the topic or,
for device records, the dead-letter topic. -/
inductive Published :
    RecordKind → KafkaWorld B → Status → KafkaWorld B → Prop where
  | idle {kind : RecordKind} {w : KafkaWorld B} (h : (w.sink.buffer kind).entries = []) :
      Published kind w (.ok ()) w
  | failed {kind : RecordKind} {w₀ w : KafkaWorld B} (hne : (w₀.sink.buffer kind).entries ≠ [])
      (h : Refused kind w₀ w) (e : RastreoError) : Published kind w₀ (.error e) w
  | accepted {kind : RecordKind} {w₀ w : KafkaWorld B} (h : Undelivered kind w₀ w)
      (connected : SecondStream → Bool) : Published kind w₀ (.ok ())
        { w with
          log := w.log ++ [(.produce kind, true)]
          accepted := Function.update w.accepted kind
            (w.accepted kind ++ (w.sink.buffer kind).entries)
          sink :=
            { w.sink with connected, buffer := Function.update w.sink.buffer kind .new } }
  | quarantined {w₀ w : KafkaWorld B} (h : Undelivered .device w₀ w) :
      Published .device w₀ (.ok ())
        { w with
          log := w.log ++ [(.deadLetterProduce, true)]
          dlqAccepted := w.dlqAccepted ++ (w.sink.buffer .device).entries
          sink :=
            { w.sink with
              buffer := Function.update w.sink.buffer .device .new
              dlqDelivered := w.sink.dlqDelivered +
                UInt64.ofNat (w.sink.buffer .device).entries.length } }

/-! ## The programs -/

lemma KafkaSink.meets_awaitBroker (hsite : site.kind = kind) :
    Meets (Undelivered kind w₀) (KafkaSink.awaitBroker site) (fun r w => match r with
        | .error _ => Refused kind w₀ w
        | .ok _ => ∃ w₁, Undelivered kind w₀ w₁ ∧ w = KafkaSink.noted w₁ site true)
      (fun _ => Undelivered kind w₀) := by
  intro w hw
  unfold KafkaSink.awaitBroker
  cases w.broker w.log.length with
  | ok => exact ⟨w, hw, rfl⟩
  | err cause => exact hw.noted hsite fun _ => rfl
  | dropped => exact (hw.noted hsite fun _ => rfl).undelivered

/-- A batch that was accepted and is still in the buffer. -/
def Accepted (kind : RecordKind) (w₀ w : KafkaWorld B) : Prop :=
  ∃ w₁, Undelivered kind w₀ w₁ ∧ w = { KafkaSink.noted w₁ (.produce kind) true with
      accepted := Function.update w₁.accepted kind
        (w₁.accepted kind ++ (w₁.sink.buffer kind).entries) }

/-- Producing the buffer of a stream, with its retries. -/
lemma KafkaSink.meets_produceBuffer (kind : RecordKind) (w₀ : KafkaWorld B) :
    Meets (Undelivered kind w₀) (KafkaSink.produceBuffer kind) (fun r w => match r with
        | .error _ => Refused kind w₀ w
        | .ok _ => Accepted kind w₀ w)
      (fun _ => Undelivered kind w₀) := by
  refine meets_read_bind fun topic => meets_read_bind fun brokers => meets_read_bind fun retry => ?_
  refine meets_retryWithBackoff ?_ (fun e w h => h.undelivered) ?_
  · refine meets_bind (Q := fun r w => match r with
      | .error _ => Refused kind w₀ w
      | .ok _ => Accepted kind w₀ w) ?_ fun reply => ?_
    · refine meets_bind (KafkaSink.meets_awaitBroker rfl) fun reply => ?_
      cases reply with
      | error cause => exact meets_pure fun w h => h
      | ok _ =>
        refine meets_update_pure fun w h => ?_
        obtain ⟨w₁, hw₁, rfl⟩ := h
        exact ⟨w₁, hw₁, rfl⟩
    · cases reply <;> exact meets_pure fun w h => h
  · -- A pause is an await that delivers nothing, however it ends.
    refine meets_bind (KafkaSink.meets_awaitBroker rfl) fun reply => meets_pure fun w h => ?_
    cases reply with
    | error cause => exact h.undelivered
    | ok _ =>
      obtain ⟨w₁, hw₁, rfl⟩ := h
      exact (hw₁.noted rfl (by intro h; cases h)).undelivered

lemma KafkaSink.meets_settleAll_error {E : Type} {P : KafkaWorld B → Prop}
    {D : KafkaAwait → KafkaWorld B → Prop} (kind : RecordKind) (e : E) :
    Meets P (KafkaSink.settleAll kind (.error e)) (fun _ => P) D := by
  refine meets_update fun w h => ?_
  dsimp only
  simp_all

lemma KafkaSink.meets_deadLetterProduce (w₀ : KafkaWorld B) :
    Meets (Undelivered .device w₀) KafkaSink.deadLetterProduce (fun r w => match r with
        | .error _ => Refused .device w₀ w
        | .ok _ => ∃ w₁, Undelivered .device w₀ w₁ ∧
            w = { KafkaSink.noted w₁ .deadLetterProduce true with
              dlqAccepted := w₁.dlqAccepted ++ (w₁.sink.buffer .device).entries })
      (fun _ => Undelivered .device w₀) := by
  refine meets_bind (KafkaSink.meets_awaitBroker rfl) fun reply => ?_
  cases reply with
  | error cause => exact meets_pure fun w h => h
  | ok _ =>
    refine meets_update_pure fun w h => ?_
    obtain ⟨w₁, hw₁, rfl⟩ := h
    exact ⟨w₁, hw₁, rfl⟩

lemma KafkaSink.meets_publishBuffer (w₀ : KafkaWorld B) :
    Meets (fun w => w = w₀) KafkaSink.publishBuffer (Published .device w₀)
      (fun _ => Undelivered .device w₀) := by
  refine meets_read_bind_eq (w₀.sink.buffer .device).entries.length (fun w h => by rw [h]) ?_
  split
  · rename_i hzero
    rintro w rfl
    exact .idle (eq_nil_of_length_eq_zero hzero)
  · rename_i hpos
    have hne : (w₀.sink.buffer .device).entries ≠ [] := fun h => hpos (by rw [h]; rfl)
    have hproduce := (KafkaSink.meets_produceBuffer .device w₀).pre fun w (h : w = w₀) =>
      h ▸ .refl .device w
    refine meets_bind hproduce fun primary => ?_
    cases primary with
    | ok _ =>
      rintro w ⟨w₁, hw₁, rfl⟩
      exact .accepted hw₁ _
    | error primaryErr =>
      refine meets_bind (KafkaSink.meets_settleAll_error _ _) fun _ => ?_
      refine meets_read_bind fun dlqTopic => ?_
      cases dlqTopic with
      | none => exact meets_pure fun w h => .failed hne h primaryErr
      | some _ =>
        refine meets_bind ((KafkaSink.meets_deadLetterProduce w₀).pre fun w h => h.undelivered)
          fun dlqResult => ?_
        cases dlqResult with
        | error _ =>
          refine meets_bind (KafkaSink.meets_settleAll_error _ _) fun _ => meets_pure fun w h => ?_
          exact .failed hne h primaryErr
        | ok _ =>
          rintro w ⟨w₁, ⟨connected, hw₁⟩, rfl⟩
          exact .quarantined (.intro connected hw₁)

variable (stream : SecondStream)

lemma KafkaSink.meets_connectPartitionClientBounded (w₀ : KafkaWorld B) :
    Meets (Undelivered stream.kind w₀) (KafkaSink.connectPartitionClientBounded stream)
      (fun _ => Refused stream.kind w₀) (fun _ => Undelivered stream.kind w₀) := by
  intro w hw
  have hnoted : ∀ ok, Refused stream.kind w₀ (KafkaSink.noted w (.connect stream) ok) :=
    fun ok => hw.noted rfl (by intro h; cases h)
  unfold KafkaSink.connectPartitionClientBounded
  cases w.connector w.log.length with
  | dropped => exact (hnoted false).undelivered
  | _ => exact hnoted _

lemma KafkaSink.meets_takeClient (w₀ : KafkaWorld B) :
    Meets (Undelivered stream.kind w₀) (KafkaSink.takeClient stream)
      (fun r w => Undelivered stream.kind w₀ w ∧ ((∃ e, r = .error e) → Refused stream.kind w₀ w))
      (fun _ => Undelivered stream.kind w₀) := by
  refine meets_read_bind fun connected => ?_
  cases connected with
  | true =>
    refine meets_update_pure fun w h => ⟨?_, by rintro ⟨e, he⟩; cases he⟩
    obtain ⟨connected, hawaits⟩ := h
    exact .intro _ hawaits
  | false =>
    exact (KafkaSink.meets_connectPartitionClientBounded stream w₀).post
      fun _ _ h => ⟨h.undelivered, fun _ => h⟩

lemma KafkaSink.meets_publishStreamBuffer (w₀ : KafkaWorld B) :
    Meets (fun w => w = w₀) (KafkaSink.publishStreamBuffer stream) (Published stream.kind w₀)
      (fun _ => Undelivered stream.kind w₀) := by
  refine meets_read_bind_eq (w₀.sink.buffer stream.kind).entries.isEmpty (fun w h => by rw [h]) ?_
  split
  · rename_i hempty
    rintro w rfl
    exact .idle (isEmpty_iff.mp hempty)
  · rename_i hempty
    have hne : (w₀.sink.buffer stream.kind).entries ≠ [] := fun h => hempty (by rw [h]; rfl)
    have htake := (KafkaSink.meets_takeClient stream w₀).pre fun w (h : w = w₀) =>
      h ▸ .refl stream.kind w
    refine meets_bind htake fun taken => ?_
    cases taken with
    | error err => exact meets_pure fun w h => .failed hne (h.2 ⟨err, rfl⟩) err
    | ok _ =>
      refine meets_bind ((KafkaSink.meets_produceBuffer stream.kind w₀).pre fun w h => h.1)
        fun result => ?_
      cases result with
      | ok _ =>
        rintro w ⟨w₁, hw₁, rfl⟩
        exact .accepted hw₁ _
      | error err =>
        refine meets_update_bind (I := Refused stream.kind w₀) (fun w h => ?_) ?_
        · obtain ⟨connected, hawaits, hne⟩ := h
          exact .intro _ hawaits hne
        · exact meets_bind (KafkaSink.meets_settleAll_error _ _) fun _ =>
            meets_pure fun w h => .failed hne h err

lemma KafkaSink.meets_publish (kind : RecordKind) (w₀ : KafkaWorld B) :
    Meets (fun w => w = w₀) (KafkaSink.publish kind) (Published kind w₀)
      (fun _ => Undelivered kind w₀) := by
  cases kind with
  | device => exact KafkaSink.meets_publishBuffer w₀
  | link => exact KafkaSink.meets_publishStreamBuffer .links w₀
  | collectionProfile => exact KafkaSink.meets_publishStreamBuffer .profiles w₀

/-- A record written, before anything is published. -/
def KafkaWorld.buffered (w : KafkaWorld B) (kind : RecordKind) (x : B) : KafkaWorld B :=
  { w with
    written := Function.update w.written kind (w.written kind ++ [x])
    sink :=
      { w.sink with
        lastWriteDelivered := false
        buffer := Function.update w.sink.buffer kind ((w.sink.buffer kind).push x) } }

def KafkaWorld.report (w : KafkaWorld B) (lastWriteDelivered : Bool) : KafkaWorld B :=
  { w with sink := { w.sink with lastWriteDelivered } }

/-- Published only at the threshold, and reported as delivered only if that succeeds. -/
inductive KafkaWrote (kind : RecordKind) (x : B) (w₀ : KafkaWorld B) : KafkaWorld B → Prop where
  | held : KafkaWrote kind x w₀ (w₀.buffered kind x)
  | failed {w : KafkaWorld B} (e : RastreoError)
      (hreached : ((w₀.sink.buffer kind).push x).reachedThreshold w₀.sink.bufferThreshold)
      (h : Published kind (w₀.buffered kind x) (.error e) w) : KafkaWrote kind x w₀ w
  | delivered {w : KafkaWorld B}
      (hreached : ((w₀.sink.buffer kind).push x).reachedThreshold w₀.sink.bufferThreshold)
      (h : Published kind (w₀.buffered kind x) (.ok ()) w) : KafkaWrote kind x w₀ (w.report true)

lemma KafkaSink.meets_writeKind (kind : RecordKind) (x : B) (w₀ : KafkaWorld B) :
    Meets (fun w => w = w₀) (KafkaSink.writeKind kind x) (fun _ => KafkaWrote kind x w₀)
      (fun _ => Undelivered kind (w₀.buffered kind x)) := by
  refine meets_update_bind (I := fun w => w = w₀.buffered kind x) (fun w hw => hw ▸ rfl) ?_
  refine meets_read_bind_eq (((w₀.sink.buffer kind).push x).reachedThreshold
    w₀.sink.bufferThreshold) (fun w hw => ?_) ?_
  · rw [hw, KafkaWorld.buffered]
    dsimp only
    rw [update_self]
  · split_ifs with hreached
    · refine meets_bind (KafkaSink.meets_publish kind _) fun result => ?_
      cases result with
      | error err => exact meets_pure fun w h => .failed err hreached h
      | ok _ => exact meets_update_pure fun w h => .delivered hreached h
    · exact meets_pure fun w h => h ▸ .held

/-! ## Conservation -/

/-- Device records only. -/
def KafkaWorld.quarantined (w : KafkaWorld B) (kind : RecordKind) : List B :=
  match kind with
  | .device => w.dlqAccepted
  | _ => []

/-- Every record written is accepted, quarantined or buffered, the buffered ones last and in order;
the counter counts the quarantined ones. -/
structure KafkaConserved (w : KafkaWorld B) : Prop where
  perm : ∀ kind, (w.accepted kind ++ w.quarantined kind ++ (w.sink.buffer kind).entries).Perm
    (w.written kind)
  order : ∀ kind, (w.sink.buffer kind).entries <:+ w.written kind
  counter : w.sink.dlqDelivered = UInt64.ofNat w.dlqAccepted.length

lemma kafkaConserved_start (config : KafkaConfig) (broker : ℕ → Reply)
    (connector : ℕ → ConnectReply) :
    KafkaConserved (KafkaWorld.start config broker connector : KafkaWorld B) where
  perm kind := by cases kind <;> exact .nil
  order kind := suffix_rfl
  counter := rfl

lemma Undelivered.conserved (h : Undelivered kind w₀ w) (hc : KafkaConserved w₀) :
    KafkaConserved w := by
  obtain ⟨connected, -⟩ := h
  exact ⟨hc.perm, hc.order, hc.counter⟩

section Published

variable {result : Status} (h : Published kind w₀ result w)

include h

lemma Published.written_eq : w.written = w₀.written := by
  rcases h with _ | ⟨_, ⟨_, _, _⟩, _⟩ | ⟨⟨_, _⟩, _⟩ | ⟨⟨_, _⟩⟩ <;> rfl

lemma Published.flag_eq : w.sink.lastWriteDelivered = w₀.sink.lastWriteDelivered := by
  rcases h with _ | ⟨_, ⟨_, _, _⟩, _⟩ | ⟨⟨_, _⟩, _⟩ | ⟨⟨_, _⟩⟩ <;> rfl

/-- The other streams are left alone. -/
lemma Published.other {k : RecordKind} (hk : k ≠ kind) : w.sink.buffer k = w₀.sink.buffer k ∧
      w.accepted k = w₀.accepted k ∧ w.quarantined k = w₀.quarantined k := by
  rcases h with _ | ⟨_, ⟨_, _, _⟩, _⟩ | ⟨⟨_, _⟩, _⟩ | ⟨⟨_, _⟩⟩
  · exact ⟨rfl, rfl, rfl⟩
  · exact ⟨rfl, rfl, rfl⟩
  · exact ⟨update_of_ne hk _ _, update_of_ne hk _ _, rfl⟩
  · refine ⟨update_of_ne hk _ _, rfl, ?_⟩
    cases k <;> [exact absurd rfl hk; rfl; rfl]

/-- What has left the buffer was accepted. -/
lemma Published.perm : (w.accepted kind ++ w.quarantined kind ++ (w.sink.buffer kind).entries).Perm
      (w₀.accepted kind ++ w₀.quarantined kind ++ (w₀.sink.buffer kind).entries) := by
  rcases h with _ | ⟨_, ⟨_, _, _⟩, _⟩ | ⟨⟨_, _⟩, _⟩ | ⟨⟨_, _⟩⟩
  · exact .refl _
  · exact .refl _
  · dsimp only
    rw [update_self, update_self, PendingBuffer.new, append_nil, append_assoc, append_assoc]
    exact perm_append_comm.append_left _
  · refine .of_eq ?_
    simp [KafkaWorld.quarantined, KafkaWorld.waited, PendingBuffer.new]

lemma Published.eq_ok_iff : result = .ok () ↔ (w.sink.buffer kind).entries = [] := by
  rcases h with hempty | ⟨hne, ⟨_, _, _⟩, _⟩ | ⟨⟨_, _⟩, _⟩ | ⟨⟨_, _⟩⟩
  · simp [hempty]
  · exact ⟨nofun, fun h => absurd h hne⟩
  · simp [PendingBuffer.new]
  · simp [PendingBuffer.new]

lemma Published.conserved (hc : KafkaConserved w₀) : KafkaConserved w := by
  refine ⟨fun k => ?_, fun k => ?_, ?_⟩
  · rw [h.written_eq]
    by_cases hk : k = kind
    · subst hk
      exact h.perm.trans (hc.perm k)
    · obtain ⟨hbuffer, haccepted, hquarantined⟩ := h.other hk
      rw [hbuffer, haccepted, hquarantined]
      exact hc.perm k
  · rw [h.written_eq]
    by_cases hk : k = kind
    · subst hk
      rcases h with _ | ⟨_, ⟨_, _, _⟩, _⟩ | ⟨⟨_, _⟩, _⟩ | ⟨⟨_, _⟩⟩
      · exact hc.order _
      · exact hc.order _
      · simp [PendingBuffer.new]
      · simp [PendingBuffer.new]
    · rw [(h.other hk).1]
      exact hc.order k
  · rcases h with _ | ⟨_, ⟨_, _, _⟩, _⟩ | ⟨⟨_, _⟩, _⟩ | ⟨⟨_, _⟩⟩
    · exact hc.counter
    · exact hc.counter
    · exact hc.counter
    · dsimp only [KafkaWorld.waited]
      rw [hc.counter, length_append, UInt64.ofNat_add]

end Published

lemma KafkaConserved.report (h : KafkaConserved w) (lastWriteDelivered : Bool) :
    KafkaConserved (w.report lastWriteDelivered) := ⟨h.perm, h.order, h.counter⟩

lemma KafkaConserved.buffered (h : KafkaConserved w) (kind : RecordKind) (x : B) :
    KafkaConserved (w.buffered kind x) := by
  refine ⟨fun k => ?_, fun k => ?_, h.counter⟩
  · dsimp only [KafkaWorld.buffered]
    by_cases hk : k = kind
    · subst hk
      rw [update_self, update_self, PendingBuffer.entries_push, ← append_assoc]
      exact (h.perm k).append_right [x]
    · rw [update_of_ne hk, update_of_ne hk]
      exact h.perm k
  · dsimp only [KafkaWorld.buffered]
    by_cases hk : k = kind
    · subst hk
      rw [update_self, update_self, PendingBuffer.entries_push]
      obtain ⟨front, hfront⟩ := h.order k
      grind
    · rw [update_of_ne hk, update_of_ne hk]
      exact h.order k

lemma KafkaWrote.conserved {x : B} (h : KafkaWrote kind x w₀ w) (hc : KafkaConserved w₀) :
    KafkaConserved w := by
  cases h with
  | held => exact hc.buffered kind x
  | failed e _ h => exact h.conserved (hc.buffered kind x)
  | delivered _ h => exact (h.conserved (hc.buffered kind x)).report true

/-! ## Calls -/

/-- The three streams are published in turn, and then the flag is set. -/
def KafkaFlushed (w : KafkaWorld B) (result : Status) (w' : KafkaWorld B) :
    Prop :=
  ∃ device links profiles w₁ w₂ w₃, (KafkaSink.publishBuffer w = (.done device, w₁) ∧
      KafkaSink.publishStreamBuffer .links w₁ = (.done links, w₂) ∧
      KafkaSink.publishStreamBuffer .profiles w₂ = (.done profiles, w₃)) ∧
    (Published .device w device w₁ ∧ Published .link w₁ links w₂ ∧
      Published .collectionProfile w₂ profiles w₃) ∧
    result = firstErr (firstErr device links) profiles ∧
    w' = w₃.report (result matches .ok _)

variable {w' : KafkaWorld B} {result : Status}

lemma flush_eq_done (h : KafkaSink.flush w = (.done result, w')) : KafkaFlushed w result w' := by
  obtain ⟨device, w₁, hdevice, h⟩ := bind_eq_done.mp h
  obtain ⟨links, w₂, hlinks, h⟩ := bind_eq_done.mp h
  obtain ⟨profiles, w₃, hpro, h⟩ := bind_eq_done.mp h
  obtain ⟨_, w₄, hset, h⟩ := bind_eq_done.mp h
  cases hset
  cases h
  exact ⟨device, links, profiles, w₁, w₂, w₃, ⟨hdevice, hlinks, hpro⟩,
    ⟨(KafkaSink.meets_publishBuffer w).of_done rfl hdevice,
      (KafkaSink.meets_publishStreamBuffer .links w₁).of_done rfl hlinks,
      (KafkaSink.meets_publishStreamBuffer .profiles w₂).of_done rfl hpro⟩, rfl, rfl⟩

lemma KafkaSink.meets_flush (w₀ : KafkaWorld B) :
    Meets (fun w => w = w₀) KafkaSink.flush (KafkaFlushed w₀) (fun _ _ => True) := by
  rintro w rfl
  rcases h : KafkaSink.flush w with ⟨_ | _, w'⟩
  · exact flush_eq_done h
  · trivial

lemma KafkaSink.meets_publish_conserved (kind : RecordKind) :
    Meets KafkaConserved (KafkaSink.publish kind) (fun _ => (KafkaConserved : KafkaWorld B → Prop))
      (fun _ => KafkaConserved) :=
  meets_of_forall fun w₀ h₀ => (KafkaSink.meets_publish kind w₀).conseq (fun _ h => h)
    (fun _ _ h => h.conserved h₀) (fun _ _ h => h.conserved h₀)

/-- Also where it is dropped. -/
lemma meets_kafkaCall (c : KafkaCall B) :
    Meets KafkaConserved c.run (fun _ => KafkaConserved) (fun _ => KafkaConserved) := by
  have hflush : Meets KafkaConserved (KafkaSink.flush : KafkaM B _) (fun _ => KafkaConserved)
      (fun _ => KafkaConserved) := by
    refine meets_bind (KafkaSink.meets_publish_conserved .device) fun device => ?_
    refine meets_bind (KafkaSink.meets_publish_conserved .link) fun links => ?_
    refine meets_bind (KafkaSink.meets_publish_conserved .collectionProfile) fun profiles => ?_
    exact meets_update_pure fun w h => h.report _
  cases c with
  | flush => exact hflush
  | close => exact hflush
  | writeKind kind data =>
    exact meets_of_forall fun w₀ h₀ => (KafkaSink.meets_writeKind kind data w₀).conseq
      (fun _ h => h) (fun _ _ h => h.conserved h₀) fun _ _ h => h.conserved (h₀.buffered kind data)

lemma KafkaRun.conserved {config : KafkaConfig} {broker : ℕ → Reply}
    {connector : ℕ → ConnectReply} {exits : List (Exit KafkaAwait Status)}
    (h : KafkaRun config broker connector exits w) : KafkaConserved w := by
  induction h with
  | start => exact kafkaConserved_start config broker connector
  | @call exits w c _ ih =>
    have hcall := meets_kafkaCall c w ih
    grind

lemma firstErr_eq_ok_iff {a b c : Status} :
    firstErr (firstErr a b) c = .ok () ↔ a = .ok () ∧ b = .ok () ∧ c = .ok () := by
  cases a <;> cases b <;> cases c <;> simp [firstErr]

/-- Attempted if there is something to publish, and emptied by whatever is delivered. -/
lemma Published.awaits (h : Published kind w₀ result w) :
    ∃ awaits, w.log = w₀.log ++ awaits ∧ (∀ e ∈ awaits, e.1.kind = kind) ∧
      ((w₀.sink.buffer kind).entries ≠ [] → awaits ≠ []) ∧
      ((∃ e ∈ awaits, e.1.delivers = true ∧ e.2 = true) → (w.sink.buffer kind).entries = []) := by
  have hempty := h.eq_ok_iff
  rcases h with hnone | ⟨_, ⟨_, hawaits, hsome⟩, _⟩ | ⟨⟨_, hawaits⟩, _⟩ | ⟨⟨_, hawaits⟩⟩
  · exact ⟨[], by simp, by simp, fun hne => absurd hnone hne, fun _ => hnone⟩
  · exact ⟨_, rfl, fun e he => (hawaits e he).1, fun _ => hsome, by grind [Fruitless]⟩
  · refine ⟨_, append_assoc _ _ _, ?_, by simp, fun _ => hempty.mp rfl⟩
    grind [Fruitless, KafkaAwait.kind]
  · refine ⟨_, append_assoc _ _ _, ?_, by simp, fun _ => hempty.mp rfl⟩
    grind [Fruitless, KafkaAwait.kind]

/-- Attempted if there is something to produce, empty afterwards if the broker took it, whatever the
other streams do. -/
structure FlushedStream (kind : RecordKind) (w w' : KafkaWorld B)
    (awaits : List (KafkaAwait × Bool)) (result : Status) : Prop where
  attempted : (w.sink.buffer kind).entries ≠ [] → ∃ e ∈ awaits, e.1.kind = kind
  taken : (∃ e ∈ awaits, e.1.kind = kind ∧ e.1.delivers = true ∧ e.2 = true) →
    (w'.sink.buffer kind).entries = []
  ok_iff : result = .ok () ↔ (w'.sink.buffer kind).entries = []

lemma Published.flushedStream (h : Published kind w₀ result w₁)
    {awaits all : List (KafkaAwait × Bool)} (hlog : w₁.log = w₀.log ++ awaits) (hsub : awaits ⊆ all)
    (hown : ∀ e ∈ all, e.1.kind = kind → e ∈ awaits)
    (hw : w.sink.buffer kind = w₀.sink.buffer kind)
    (hw' : w'.sink.buffer kind = w₁.sink.buffer kind) : FlushedStream kind w w' all result := by
  obtain ⟨awaits', hlog', hkind, hatt, htaken⟩ := h.awaits
  obtain rfl := append_cancel_left (hlog.symm.trans hlog')
  refine ⟨fun hne => ?_, ?_, ?_⟩
  · rw [hw] at hne
    obtain ⟨e, he⟩ := exists_mem_of_ne_nil awaits (hatt hne)
    exact ⟨e, hsub he, hkind e he⟩
  · rintro ⟨e, he, hk, hdel⟩
    rw [hw']
    exact htaken ⟨e, hown e he hk, hdel⟩
  · rw [h.eq_ok_iff, hw']

lemma flushedStreams (h : KafkaSink.flush w = (.done result, w')) :
    ∃ device links profiles w₁ w₂ w₃, KafkaSink.publishBuffer w = (.done device, w₁) ∧
      KafkaSink.publishStreamBuffer .links w₁ = (.done links, w₂) ∧
      KafkaSink.publishStreamBuffer .profiles w₂ = (.done profiles, w₃) ∧
      result = firstErr (firstErr device links) profiles ∧
      FlushedStream .device w w' (w'.log.drop w.log.length) device ∧
      FlushedStream .link w w' (w'.log.drop w.log.length) links ∧
      FlushedStream .collectionProfile w w' (w'.log.drop w.log.length) profiles := by
  obtain ⟨device, links, profiles, w₁, w₂, w₃, ⟨hdevice, hlinks, hpro⟩, ⟨h₁, h₂, h₃⟩, hr, rfl⟩ :=
    flush_eq_done h
  obtain ⟨a₁, hlog₁, hkind₁, -⟩ := h₁.awaits
  obtain ⟨a₂, hlog₂, hkind₂, -⟩ := h₂.awaits
  obtain ⟨a₃, hlog₃, hkind₃, -⟩ := h₃.awaits
  have hall : ∀ flag, (w₃.report flag).log.drop w.log.length = a₁ ++ a₂ ++ a₃ := by
    intro flag
    rw [KafkaWorld.report, hlog₃, hlog₂, hlog₁, append_assoc, append_assoc, drop_left, append_assoc]
  refine ⟨device, links, profiles, w₁, w₂, w₃, hdevice, hlinks, hpro, hr, ?_, ?_, ?_⟩
  · refine h₁.flushedStream hlog₁ (by simp [hall]) ?_ rfl ?_
    · grind
    · exact (h₃.other (by decide)).1.trans (h₂.other (by decide)).1
  · refine h₂.flushedStream hlog₂ (by simp [hall]) ?_ (h₁.other (by decide)).1.symm
      (h₃.other (by decide)).1
    grind
  · refine h₃.flushedStream hlog₃ (by simp [hall]) ?_ ?_ rfl
    · grind
    · exact ((h₂.other (by decide)).1.trans (h₁.other (by decide)).1).symm

/-- Conservation of the three streams. After every sequence of calls, whatever connects, produces
and dead-letter produces reply, each record written is accepted by the topic of its stream, by the
dead-letter topic (device records only) or in the buffer, in write order, and the counter is the
number of records the dead-letter topic accepted. A flush that runs to its end publishes all three;
a stream with records is attempted, and empty afterwards if the broker takes its batch, whatever the
others do. It returns the first error in the order of the streams, and succeeds exactly when all
buffers are empty. -/
theorem kafka_conserves_records {config : KafkaConfig} {broker : ℕ → Reply}
    {connector : ℕ → ConnectReply} {exits : List (Exit KafkaAwait Status)}
    {w : KafkaWorld B} (hrun : KafkaRun config broker connector exits w) :
    (∀ kind, (w.accepted kind ++ w.quarantined kind ++ (w.sink.buffer kind).entries).Perm
        (w.written kind) ∧
      (w.sink.buffer kind).entries <:+ w.written kind) ∧
    w.sink.dlqDelivered = UInt64.ofNat w.dlqAccepted.length ∧
    ∀ result w', KafkaSink.flush w = (.done result, w') →
      (∃ device links profiles w₁ w₂ w₃, KafkaSink.publishBuffer w = (.done device, w₁) ∧
        KafkaSink.publishStreamBuffer .links w₁ = (.done links, w₂) ∧
        KafkaSink.publishStreamBuffer .profiles w₂ = (.done profiles, w₃) ∧
        result = firstErr (firstErr device links) profiles) ∧
      (∀ kind, (w.sink.buffer kind).entries ≠ [] →
        ∃ e ∈ w'.log.drop w.log.length, e.1.kind = kind) ∧
      (∀ kind, (∃ e ∈ w'.log.drop w.log.length,
          e.1.kind = kind ∧ e.1.delivers = true ∧ e.2 = true) →
        (w'.sink.buffer kind).entries = []) ∧
      (result = .ok () ↔ ∀ kind, (w'.sink.buffer kind).entries = []) := by
  have hc := hrun.conserved
  refine ⟨fun kind => ⟨hc.perm kind, hc.order kind⟩, hc.counter, fun result w' hfl => ?_⟩
  obtain ⟨device, links, profiles, w₁, w₂, w₃, hdevice, hlinks, hpro, hr, h₁, h₂, h₃⟩ :=
    flushedStreams hfl
  refine ⟨⟨device, links, profiles, w₁, w₂, w₃, hdevice, hlinks, hpro, hr⟩,
    fun kind => ?_, fun kind => ?_, ?_⟩
  · cases kind <;> [exact h₁.attempted; exact h₂.attempted; exact h₃.attempted]
  · cases kind <;> [exact h₁.taken; exact h₂.taken; exact h₃.taken]
  · rw [hr, firstErr_eq_ok_iff, h₁.ok_iff, h₂.ok_iff, h₃.ok_iff]
    refine ⟨fun h kind => ?_, fun h => ⟨h _, h _, h _⟩⟩
    cases kind <;> [exact h.1; exact h.2.1; exact h.2.2]

/-- A sink that buffers, without a dead-letter topic. -/
def batchedConfig : KafkaConfig where
  topic
    | .device => "devices"
    | .link => "links"
    | .collectionProfile => "profiles"
  brokersForErr := "localhost:9092"
  flushMode := .batched 1024
  dlqTopic := none
  retry := {}

/-- The brokers refuse the device batch three times and take the links: the device record stays, the
link leaves. -/
theorem kafka_conserves_records_partial :
    let broker : ℕ → Reply := fun n => if n < 5 then .err "leader not available" else .ok
    let w := (KafkaSink.writeKind .link [2] (KafkaSink.writeKind .device [1]
      (KafkaWorld.start batchedConfig broker fun _ => .ok)).2).2
    let w' := (KafkaSink.flush w).2
    (w'.sink.buffer .device).entries = [[(1 : UInt8)]] ∧ (w'.sink.buffer .link).entries = [] ∧
      w'.accepted .link = [[2]] ∧ ∀ kind,
        (w'.accepted kind ++ w'.quarantined kind ++ (w'.sink.buffer kind).entries).Perm
          (w'.written kind) := by
  intro broker w w'
  have hwrites : KafkaRun batchedConfig broker (fun _ => .ok) ([] ++ [_] ++ [_]) w :=
    .call (.writeKind .link [2]) (.call (.writeKind .device [1]) .start)
  have hfl : KafkaRun batchedConfig broker (fun _ => .ok) ([] ++ [_] ++ [_] ++ [_]) w' :=
    .call .flush hwrites
  refine ⟨?_, ?_, ?_, fun kind => ((kafka_conserves_records hfl).1 kind).1⟩
  · decide +kernel
  · decide +kernel
  · decide +kernel

end Rastreo
