import Rastreo.Sink.KafkaDelivery
import Rastreo.Sink.NatsDelivery

/-!
# The ledger of a broker sink

What a broker sink was given, what its destinations, the dead-letter one included, have accepted and
what it still holds.  In a balanced ledger a record written and no longer held was accepted.  Both
broker sinks keep one: a write reported as delivered leaves nothing of its kind held, a successful
flush nothing.
-/

namespace Rastreo

open Async List Function

variable {B : Type}

structure Ledger (B : Type) where
  written : RecordKind → List B
  accepted : RecordKind → List B
  held : RecordKind → List B

namespace Ledger

variable {l l' l'' : Ledger B} {kind : RecordKind} {x : B}

def Balanced (l : Ledger B) : Prop :=
  ∀ kind, (l.accepted kind ++ l.held kind).Perm (l.written kind)

lemma Balanced.mem_accepted (h : l.Balanced) (hx : x ∈ l.written kind)
    (hheld : l.held kind = []) : x ∈ l.accepted kind := by
  have hmem := (h kind).mem_iff.mpr hx
  grind

structure Extends (l l' : Ledger B) : Prop where
  written : ∀ kind, l.written kind ⊆ l'.written kind
  accepted : ∀ kind, l.accepted kind ⊆ l'.accepted kind

lemma Extends.trans (h : l.Extends l') (h' : l'.Extends l'') : l.Extends l'' :=
  ⟨fun kind => List.Subset.trans (h.written kind) (h'.written kind),
    fun kind => List.Subset.trans (h.accepted kind) (h'.accepted kind)⟩

/-- What a write of `x` leaves in the books. -/
structure Writes (kind : RecordKind) (x : B) (delivered : Bool) (l l' : Ledger B) : Prop where
  extends_ : l.Extends l'
  written : x ∈ l'.written kind
  delivered : delivered = true → l'.held kind = []

lemma Writes.after {flag delivered : Bool} (h : Writes kind x flag l l') (hextends : l'.Extends l'')
    (hheld : delivered = true → l''.held kind = []) : Writes kind x delivered l l'' :=
  ⟨h.extends_.trans hextends, hextends.written kind h.written, hheld⟩

structure Flushes (result : Status) (delivered : Bool) (l l' : Ledger B) :
    Prop where
  extends_ : l.Extends l'
  emptied : result = .ok () → ∀ kind, l'.held kind = []
  delivered : delivered = true → result = .ok ()

end Ledger

variable {result : Status}

lemma eq_ok_of_matches (h : (result matches .ok _) = true) : result = .ok () := by
  cases result with
  | ok _ => rfl
  | error e => cases h

lemma subset_update_append {κ : Type} [DecidableEq κ] (lists : κ → List B) (k : κ) (x : B) (t : κ) :
    lists t ⊆ Function.update lists k (lists k ++ [x]) t := by
  by_cases ht : t = k
  · subst ht
    rw [update_self]
    simp
  · grind

variable [AsRef B]

/-! ## The Kafka sink -/

def KafkaWorld.ledger (w : KafkaWorld B) : Ledger B where
  written := w.written
  accepted kind := w.accepted kind ++ w.quarantined kind
  held kind := (w.sink.buffer kind).entries

variable {kind : RecordKind} {w₀ w : KafkaWorld B}

lemma KafkaConserved.balanced (h : KafkaConserved w) : w.ledger.Balanced := h.perm

lemma Published.extends_ (h : Published kind w₀ result w) : w₀.ledger.Extends w.ledger := by
  refine ⟨fun k => ?_, fun k => ?_⟩
  · change w₀.written k ⊆ w.written k
    rw [h.written_eq]
    exact fun _ hx => hx
  · change w₀.accepted k ++ w₀.quarantined k ⊆ w.accepted k ++ w.quarantined k
    by_cases hk : k = kind
    · subst hk
      rcases h with _ | ⟨_, ⟨_, _, _⟩, _⟩ | ⟨⟨_, _⟩, _⟩ | ⟨⟨_, _⟩⟩
      · exact fun _ hx => hx
      · exact fun _ hx => hx
      · dsimp only
        rw [update_self]
        change _ ⊆ w₀.accepted k ++ _ ++ w₀.quarantined k
        simp
      · change w₀.accepted .device ++ w₀.dlqAccepted ⊆ w₀.accepted .device ++ (w₀.dlqAccepted ++ _)
        simp
    · obtain ⟨-, haccepted, hquarantined⟩ := h.other hk
      rw [haccepted, hquarantined]
      exact fun _ hx => hx

lemma KafkaWorld.writes_buffered (w : KafkaWorld B) (kind : RecordKind) (x : B) :
    Ledger.Writes kind x false w.ledger (w.buffered kind x).ledger := by
  refine ⟨⟨subset_update_append w.written kind x, fun _ _ hx => hx⟩, ?_, nofun⟩
  change x ∈ Function.update w.written kind (w.written kind ++ [x]) kind
  simp

lemma KafkaWrote.writes {x : B} (h : KafkaWrote kind x w₀ w) :
    Ledger.Writes kind x w.sink.lastWriteDelivered w₀.ledger w.ledger := by
  have hbuffered := w₀.writes_buffered kind x
  cases h with
  | held => exact hbuffered
  | failed e _ h =>
    refine hbuffered.after h.extends_ fun hflag => ?_
    rw [h.flag_eq] at hflag
    cases hflag
  | delivered _ h => exact hbuffered.after h.extends_ fun _ => h.eq_ok_iff.mp rfl

lemma KafkaFlushed.flushes (h : KafkaFlushed w₀ result w) :
    Ledger.Flushes result w.sink.lastWriteDelivered w₀.ledger w.ledger := by
  obtain ⟨device, links, profiles, w₁, w₂, w₃, -, ⟨h₁, h₂, h₃⟩, rfl, rfl⟩ := h
  refine ⟨h₁.extends_.trans (h₂.extends_.trans h₃.extends_), fun hok kind => ?_, eq_ok_of_matches⟩
  obtain ⟨hdevice, hlinks, hprofiles⟩ := firstErr_eq_ok_iff.mp hok
  change (w₃.sink.buffer kind).entries = []
  -- Later streams leave the emptied buffers alone.
  cases kind with
  | device =>
    rw [(h₃.other (by decide)).1, (h₂.other (by decide)).1]
    exact h₁.eq_ok_iff.mp hdevice
  | link =>
    rw [(h₃.other (by decide)).1]
    exact h₂.eq_ok_iff.mp hlinks
  | collectionProfile => exact h₃.eq_ok_iff.mp hprofiles

/-! ## The NATS sink -/

def NatsWorld.ledger (w : NatsWorld B) : Ledger B where
  written
    | .device => w.written
    | .link => w.streamWritten .links
    | .collectionProfile => w.streamWritten .profiles
  accepted
    | .device => w.acked ++ w.dlqAcked.map Prod.fst
    | .link => w.streamAcked .links
    | .collectionProfile => w.streamAcked .profiles
  held
    | .device => w.held
    | .link => (w.sink.streamBuffer .links).entries
    | .collectionProfile => (w.sink.streamBuffer .profiles).entries

/-- The device stream is steady, and a second stream has acknowledged all but what is buffered. -/
structure NatsBooks (w : NatsWorld B) : Prop where
  steady : Steady w w
  streams : ∀ stream, w.streamAcked stream ++ (w.sink.streamBuffer stream).entries =
    w.streamWritten stream

lemma NatsBooks.balanced {w : NatsWorld B} (h : NatsBooks w) : w.ledger.Balanced := by
  intro kind
  cases kind with
  | device => exact h.steady.conserved.perm
  | link => exact .of_eq (h.streams .links)
  | collectionProfile => exact .of_eq (h.streams .profiles)

lemma natsBooks_start (config : NatsConfig) (broker : ℕ → Reply) :
    NatsBooks (NatsWorld.start config broker : NatsWorld B) :=
  ⟨steady_start config broker, fun _ => rfl⟩

section Nats

variable {stream : SecondStream} {x : B} {w₀ w : NatsWorld B}

lemma NatsWorld.extends_ (hwr : w₀.written ⊆ w.written)
    (hstreamWritten : ∀ t, w₀.streamWritten t ⊆ w.streamWritten t) (hacked : w₀.acked ⊆ w.acked)
    (hdlq : w₀.dlqAcked ⊆ w.dlqAcked)
    (hstreamAcked : ∀ t, w₀.streamAcked t ⊆ w.streamAcked t) : w₀.ledger.Extends w.ledger := by
  constructor
  · intro kind
    cases kind with
    | device => exact hwr
    | link => exact hstreamWritten .links
    | collectionProfile => exact hstreamWritten .profiles
  · intro kind
    cases kind with
    | device =>
      exact append_subset.mpr ⟨subset_append_of_subset_left _ hacked,
        subset_append_of_subset_right _ (map_subset _ hdlq)⟩
    | link => exact hstreamAcked .links
    | collectionProfile => exact hstreamAcked .profiles

/-- The device stream leaves the books of the others, -/
lemma Steady.books (h : Steady w₀ w) (h₀ : NatsBooks w₀) :
    NatsBooks w ∧ w₀.ledger.Extends w.ledger := by
  obtain ⟨hsame, hacked, hdlq⟩ := h.conserved.only
  have hbuffer : w.sink.streamBuffer = w₀.sink.streamBuffer :=
    (congrArg (·.sink.streamBuffer) hsame :)
  have hwritten : w.streamWritten = w₀.streamWritten := (congrArg (·.streamWritten) hsame :)
  have hacks : w.streamAcked = w₀.streamAcked := (congrArg (·.streamAcked) hsame :)
  refine ⟨⟨h.rebase, ?_⟩, NatsWorld.extends_ ?_ ?_ hacked.subset hdlq.subset ?_⟩
  · rw [hacks, hbuffer, hwritten]
    exact h₀.streams
  · rw [h.conserved.only.written_eq]
    exact fun _ hx => hx
  · rw [hwritten]
    exact fun _ _ hx => hx
  · rw [hacks]
    exact fun _ _ hx => hx

/-- and a second stream those of the device stream. -/
lemma StreamOnly.books (h : StreamOnly stream w₀ w) (h₀ : NatsBooks w₀) :
    NatsBooks w ∧ w₀.ledger.Extends w.ledger := by
  have hwritten : w.streamWritten = w₀.streamWritten := (congrArg (·.streamWritten) h.same :)
  have hdevice := h.device_eq
  simp only [NatsWorld.device, Prod.mk.injEq] at hdevice
  obtain ⟨hwr, hacked, hdlq, -⟩ := hdevice
  refine ⟨⟨h₀.steady.of_device_eq h.device_eq, fun t => ?_⟩,
    NatsWorld.extends_ ?_ ?_ ?_ ?_ fun t => ?_⟩
  · rw [hwritten, ← h₀.streams t]
    by_cases ht : t = stream
    · subst ht
      exact h.conserved
    · rw [h.other_acked t ht, h.other_buffer t ht]
  · exact hwr ▸ fun _ hx => hx
  · exact hwritten ▸ fun _ _ hx => hx
  · exact hacked ▸ fun _ hx => hx
  · exact hdlq ▸ fun _ hx => hx
  · by_cases ht : t = stream
    · subst ht
      exact h.acked_subset
    · rw [h.other_acked t ht]
      exact fun _ hx => hx

lemma NatsBooks.report (h : NatsBooks w) (lastWriteDelivered : Bool) :
    NatsBooks (w.report lastWriteDelivered) := ⟨h.steady.of_device_eq rfl, h.streams⟩

lemma NatsWorld.writes_buffered (w : NatsWorld B) (x : B) :
    Ledger.Writes .device x false w.ledger (w.buffered x).ledger := by
  refine ⟨NatsWorld.extends_ (subset_append_left _ _) (fun _ _ hx => hx) (fun _ hx => hx)
    (fun _ hx => hx) fun _ _ hx => hx, ?_, nofun⟩
  change x ∈ w.written ++ [x]
  simp

lemma NatsWrote.books (h : NatsWrote x w₀ w) (h₀ : NatsBooks w₀) : NatsBooks w ∧
      Ledger.Writes .device x w.sink.reportsDelivered w₀.ledger w.ledger := by
  obtain ⟨w₁, hsteady, -, hreport⟩ := h
  obtain ⟨hbooks, hext⟩ := hsteady.books ⟨h₀.steady.buffered x, h₀.streams⟩
  have hwrites := w₀.writes_buffered x
  rcases hreport with rfl | ⟨rfl, hheld⟩
  · refine ⟨hbooks, hwrites.after hext fun hdelivered => ?_⟩
    have hflag : w.sink.lastWriteDelivered = false :=
      (congrArg (·.sink.lastWriteDelivered) hsteady.conserved.only.same :)
    simp [NatsSink.reportsDelivered, hflag] at hdelivered
  · exact ⟨hbooks.report true, hwrites.after hext fun _ => hheld⟩

lemma NatsBooks.streamBuffered (h : NatsBooks w) (stream : SecondStream) (x : B) :
    NatsBooks (w.streamBuffered stream x) := by
  refine ⟨h.steady.of_device_eq rfl, fun t => ?_⟩
  have ht := h.streams t
  dsimp only [NatsWorld.streamBuffered]
  by_cases hts : t = stream
  · subst hts
    rw [if_pos rfl, update_self, PendingBuffer.entries_push, ← append_assoc, ht]
  · rw [if_neg hts, update_of_ne hts, ht]

lemma NatsWorld.writes_streamBuffered (w : NatsWorld B) (stream : SecondStream) (x : B) :
    Ledger.Writes stream.kind x false w.ledger (w.streamBuffered stream x).ledger := by
  refine ⟨NatsWorld.extends_ (fun _ hx => hx) (subset_update_append w.streamWritten stream x)
    (fun _ hx => hx) (fun _ hx => hx) fun _ _ hx => hx, ?_, nofun⟩
  have hmem : x ∈ (w.streamBuffered stream x).streamWritten stream := by
    simp [NatsWorld.streamBuffered]
  cases stream <;> exact hmem

lemma NatsStreamed.books (h : NatsStreamed stream x w₀ w) (h₀ : NatsBooks w₀) : NatsBooks w ∧
      Ledger.Writes stream.kind x w.sink.reportsDelivered w₀.ledger w.ledger := by
  obtain ⟨w₁, honly, hreport⟩ := h
  obtain ⟨hbooks, hext⟩ := honly.books (h₀.streamBuffered stream x)
  have hwrites := w₀.writes_streamBuffered stream x
  rcases hreport with rfl | ⟨rfl, hempty⟩
  · refine ⟨hbooks, hwrites.after hext fun hdelivered => ?_⟩
    have hflag : w.sink.lastWriteDelivered = false :=
      (congrArg (·.sink.lastWriteDelivered) honly.same :)
    simp [NatsSink.reportsDelivered, hflag] at hdelivered
  · refine ⟨hbooks.report true, hwrites.after hext fun _ => ?_⟩
    cases stream <;> exact hempty

lemma NatsFlushed.books (h : NatsFlushed w₀ result w) (h₀ : NatsBooks w₀) : NatsBooks w ∧
      Ledger.Flushes result w.sink.reportsDelivered w₀.ledger w.ledger := by
  obtain ⟨device, links, profiles, w₁, w₂, w₃, h₁, h₂, h₃, rfl, rfl⟩ := h
  obtain ⟨hbooks₁, hext₁⟩ := h₁.steady.books h₀
  obtain ⟨hbooks₂, hext₂⟩ := h₂.only.books hbooks₁
  obtain ⟨hbooks₃, hext₃⟩ := h₃.only.books hbooks₂
  refine ⟨hbooks₃.report _, hext₁.trans (hext₂.trans hext₃), fun hok kind => ?_, fun hdelivered =>
    eq_ok_of_matches (Bool.and_eq_true_iff.mp hdelivered).1⟩
  obtain ⟨rfl, hlinks, hprofiles⟩ := firstErr_eq_ok_iff.mp hok
  -- Later streams leave what is empty alone.
  cases kind with
  | device =>
    exact (held_of_device_eq (h₃.only.device_eq.trans h₂.only.device_eq)).trans h₁.held_eq
  | link =>
    change (w₃.sink.streamBuffer .links).entries = []
    rw [h₃.only.other_buffer _ (by decide)]
    exact h₂.emptied hlinks
  | collectionProfile => exact h₃.emptied hprofiles

end Nats

end Rastreo
