import Rastreo.Sink.Ledger

/-!
# What one call sends to the dead letters

A call may publish the device records the sink holds, with the one it writes, only if it is a flush
or brings the buffer to its threshold (`outgoing`).  The dead letters it adds are among these.
-/

namespace Rastreo

open Async List

variable {B : Type} [AsRef B]

/-- Those before it and some of the records of `source`. -/
def AddsFrom (source : List B) (before after : List (B × SinkErrorClass)) : Prop :=
  ∃ new, after = before ++ new ∧ ∀ letter ∈ new, letter.1 ∈ source

omit [AsRef B] in
lemma AddsFrom.of_eq {source : List B} {before after : List (B × SinkErrorClass)}
    (h : after = before) : AddsFrom source before after :=
  ⟨[], by rw [h, append_nil], by simp⟩

/-! ## The Kafka sink -/

/-- The dead letters, each with the class it is counted under. -/
def KafkaWorld.deadLetters (w : KafkaWorld B) : List (B × SinkErrorClass) :=
  w.dlqAccepted.map fun x => (x, .produceFailure)

def KafkaCall.writes : KafkaCall B → List B
  | .writeKind .device data => [data]
  | .writeKind .link _ => []
  | .writeKind .collectionProfile _ => []
  | .flush => []
  | .close => []

def KafkaCall.publishes (w : KafkaWorld B) : KafkaCall B → Bool
  | .writeKind .device data =>
    ((w.sink.buffer .device).push data).reachedThreshold w.sink.bufferThreshold
  | .writeKind .link _ => false
  | .writeKind .collectionProfile _ => false
  | .flush => true
  | .close => true

def KafkaCall.outgoing (w : KafkaWorld B) (c : KafkaCall B) : List B :=
  if c.publishes w then (w.sink.buffer .device).entries ++ c.writes else []

structure KafkaCall.Adds (c : KafkaCall B) (w₀ w : KafkaWorld B) : Prop where
  letters : AddsFrom (c.outgoing w₀) w₀.deadLetters w.deadLetters
  written : w.written .device = w₀.written .device ++ c.writes

section Kafka

variable {w₀ w : KafkaWorld B} {kind : RecordKind} {result : Status}

lemma Published.deadLetters_eq (h : Published kind w₀ result w) (hkind : kind ≠ .device) :
    w.deadLetters = w₀.deadLetters := by
  have hdlq : w.dlqAccepted = w₀.dlqAccepted := (h.other hkind.symm).2.2
  rw [KafkaWorld.deadLetters, hdlq, KafkaWorld.deadLetters]

lemma Published.addsFrom (h : Published .device w₀ result w) :
    AddsFrom (w₀.sink.buffer .device).entries w₀.deadLetters w.deadLetters := by
  rcases h with _ | ⟨_, ⟨_, _, _⟩, _⟩ | ⟨⟨_, _⟩, _⟩ | ⟨⟨_, _⟩⟩
  · exact .of_eq rfl
  · exact .of_eq rfl
  · exact .of_eq rfl
  · exact ⟨(w₀.sink.buffer .device).entries.map fun x => (x, .produceFailure), map_append, by simp⟩

lemma KafkaFlushed.adds (h : KafkaFlushed w₀ result w) {c : KafkaCall B}
    (houtgoing : c.outgoing w₀ = (w₀.sink.buffer .device).entries) (hwrites : c.writes = []) :
    c.Adds w₀ w := by
  obtain ⟨device, links, profiles, w₁, w₂, w₃, -, ⟨h₁, h₂, h₃⟩, -, rfl⟩ := h
  have hletters : w₃.deadLetters = w₁.deadLetters :=
    (h₃.deadLetters_eq (by decide)).trans (h₂.deadLetters_eq (by decide))
  constructor
  · change AddsFrom _ _ w₃.deadLetters
    rw [hletters, houtgoing]
    exact h₁.addsFrom
  · change w₃.written .device = _
    rw [h₃.written_eq, h₂.written_eq, h₁.written_eq, hwrites, append_nil]

/-- Those buffered before it and its own. -/
lemma KafkaWrote.adds {x : B} (h : KafkaWrote kind x w₀ w) :
    (KafkaCall.writeKind kind x).Adds w₀ w := by
  have hwritten : (w₀.buffered kind x).written .device =
      w₀.written .device ++ (KafkaCall.writeKind kind x).writes := by
    cases kind <;> simp [KafkaWorld.buffered, KafkaCall.writes]
  have hpublished : ∀ {result w}, ((w₀.sink.buffer kind).push x).reachedThreshold
        w₀.sink.bufferThreshold = true → Published kind (w₀.buffered kind x) result w →
      (KafkaCall.writeKind kind x).Adds w₀ w := by
    intro result w hreached h
    refine ⟨?_, (congrFun h.written_eq .device).trans hwritten⟩
    by_cases hkind : kind = .device
    · subst hkind
      rw [KafkaCall.outgoing, KafkaCall.publishes, if_pos hreached]
      exact h.addsFrom
    · exact .of_eq (h.deadLetters_eq hkind)
  cases h with
  | held => exact ⟨.of_eq rfl, hwritten⟩
  | failed e hreached h => exact hpublished hreached h
  | delivered hreached h => exact ⟨(hpublished hreached h).letters, (hpublished hreached h).written⟩

lemma KafkaCall.meets_addsFrom (c : KafkaCall B) (w₀ : KafkaWorld B) :
    Meets (fun w => w = w₀) c.run (fun _ => c.Adds w₀) (fun _ _ => True) := by
  cases c with
  | writeKind kind x =>
    exact (KafkaSink.meets_writeKind kind x w₀).conseq (fun _ h => h) (fun _ _ h => h.adds)
      fun _ _ _ => trivial
  | flush => exact (KafkaSink.meets_flush w₀).post fun _ _ h => h.adds (append_nil _) rfl
  | close => exact (KafkaSink.meets_flush w₀).post fun _ _ h => h.adds (append_nil _) rfl

end Kafka

/-! ## The NATS sink -/

def NatsCall.publishes (w : NatsWorld B) : NatsCall B → Bool
  | .write data => (w.sink.buffer.push data).reachedThreshold w.sink.bufferThreshold
  | .writeStream _ _ => false
  | .flush => true
  | .close => true

def NatsCall.outgoing (w : NatsWorld B) (c : NatsCall B) : List B :=
  if c.publishes w then w.held ++ c.writes else []

section Nats

variable {w₀ w : NatsWorld B}

/-- The acks, and the dead letters, that were there come first, and a call that does not publish
adds none to these. -/
structure NatsCollects (c : NatsCall B) (w₀ w : NatsWorld B) : Prop where
  acked : w₀.acked <+: w.acked
  dlqAcked : w₀.dlqAcked <+: w.dlqAcked
  quiet : c.publishes w₀ = false → w.dlqAcked = w₀.dlqAcked

lemma NatsCall.meets_collects (c : NatsCall B) (h₀ : Steady w₀ w₀) :
    Meets (fun w => w = w₀) c.run (fun _ => NatsCollects c w₀) (fun _ _ => True) := by
  have hflush : ∀ {c : NatsCall B}, c.publishes w₀ = true →
      Meets (fun w => w = w₀) NatsSink.flush (fun _ => NatsCollects c w₀) (fun _ _ => True) := by
    intro c hc
    refine (meets_flush h₀).conseq (fun _ h => h) (fun r w hw => ?_) fun _ _ _ => trivial
    obtain ⟨device, links, profiles, w₁, w₂, w₃, h₁, h₂, h₃, -, rfl⟩ := hw
    have hdevice := h₃.only.device_eq.trans h₂.only.device_eq
    have hacked : w₃.acked = w₁.acked := congrArg (·.2.1) hdevice
    have hletters : w₃.dlqAcked = w₁.dlqAcked := congrArg (·.2.2.1) hdevice
    obtain ⟨-, hacks, hdlq⟩ := h₁.conserved.only
    rw [← hacked] at hacks
    rw [← hletters] at hdlq
    exact ⟨hacks, hdlq, fun hnot => absurd (hc.symm.trans hnot) Bool.noConfusion⟩
  cases c with
  | write data =>
    refine (meets_write h₀ data).conseq (fun _ h => h) (fun r w hw => ?_) fun _ _ _ => trivial
    obtain ⟨w₁, hsteady, hsame, hreport⟩ := hw
    obtain ⟨-, hacks, hdlq⟩ := hsteady.conserved.only
    have hquiet := fun hnot => congrArg NatsWorld.dlqAcked (hsame hnot)
    rcases hreport with rfl | ⟨rfl, -⟩
    · exact ⟨hacks, hdlq, hquiet⟩
    · exact ⟨hacks, hdlq, hquiet⟩
  | writeStream stream data =>
    refine (meets_writeStream stream data w₀).conseq (fun _ h => h) (fun r w hw => ?_)
      fun _ _ _ => trivial
    obtain ⟨w₁, honly, hreport⟩ := hw
    have hacked : w.acked = w₀.acked := by
      rcases hreport with rfl | ⟨rfl, -⟩ <;> exact congrArg (·.2.1) honly.device_eq
    have hletters : w.dlqAcked = w₀.dlqAcked := by
      rcases hreport with rfl | ⟨rfl, -⟩ <;> exact congrArg (·.2.2.1) honly.device_eq
    exact ⟨hacked ▸ prefix_rfl, hletters ▸ prefix_rfl, fun _ => hletters⟩
  | flush => exact hflush rfl
  | close => exact hflush rfl

/-- No record is lost: those that joined the acks were held or have been written. -/
lemma NatsCollects.addsFrom {c : NatsCall B} {new : List B} (h : NatsCollects c w₀ w)
    (h₀ : Steady w₀ w₀) (hw : Steady w w) (hwritten : w.written = w₀.written ++ new) :
    AddsFrom (w₀.held ++ new) w₀.dlqAcked w.dlqAcked := by
  obtain ⟨acks, hacks⟩ := h.acked
  obtain ⟨letters, hletters⟩ := h.dlqAcked
  refine ⟨letters, hletters.symm, fun letter hletter => ?_⟩
  classical
  -- Count one record on both sides of the two balances.
  set p : B → Bool := fun x => decide (x = letter.1)
  have hbefore := h₀.conserved.perm.countP_eq p
  have hafter := hw.conserved.perm.countP_eq p
  simp only [hwritten, ← hacks, ← hletters, map_append, countP_append] at hbefore hafter
  have hpos : 0 < (letters.map Prod.fst).countP p :=
    countP_pos_iff.mpr ⟨letter.1, mem_map_of_mem hletter, decide_eq_true rfl⟩
  have hsource : 0 < (w₀.held ++ new).countP p := by
    rw [countP_append]
    omega
  obtain ⟨x, hx, hxp⟩ := countP_pos_iff.mp hsource
  exact of_decide_eq_true hxp ▸ hx

lemma NatsCall.meets_addsFrom (c : NatsCall B) (h₀ : Steady w₀ w₀) :
    Meets (fun w => w = w₀) c.run (fun _ w => AddsFrom (c.outgoing w₀) w₀.dlqAcked w.dlqAcked ∧
        Steady w w ∧ w.written = w₀.written ++ c.writes) (fun _ _ => True) := by
  refine ((meets_call c h₀).and (c.meets_collects h₀)).conseq (fun w hw => ⟨hw, hw⟩)
    (fun r w hw => ⟨?_, hw.1⟩) fun _ _ _ => trivial
  obtain ⟨⟨hsteady, hwritten⟩, hcollects⟩ := hw
  rw [NatsCall.outgoing]
  split_ifs with hpub
  · exact hcollects.addsFrom h₀ hsteady hwritten
  · exact .of_eq (hcollects.quiet (Bool.eq_false_iff.mpr hpub))

end Nats

end Rastreo
