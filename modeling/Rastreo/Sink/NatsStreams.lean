import Rastreo.Sink.Nats

/-!
# The second streams of the NATS sink

A second stream is published in write order, one acknowledged record at a time, and the device
stream is left as it was (`StreamOnly`).
-/

namespace Rastreo

open Async List Function

variable {B : Type} [AsRef B] {P : NatsWorld B → Prop}

lemma keeps_awaitReply (hP : ∀ w n, P w → P { w with awaits := n })
    (site : AwaitSite) : Keeps P (awaitReply site) := by
  intro w hw
  unfold awaitReply
  cases w.broker w.awaits <;> exact hP w _ hw

lemma keeps_publishWithRetry
    (hP : ∀ w n, P w → P { w with awaits := n }) (site : AwaitSite) (subject : String) :
    Keeps P (publishWithRetry site subject) := by
  refine keeps_read_bind fun retry => keeps_read_bind fun servers => ?_
  refine meets_retryWithBackoff ?_ (fun _ _ h => h) ?_
  · exact keeps_bind (keeps_awaitReply hP site) fun reply => keeps_pure _
  · exact keeps_bind (keeps_awaitReply hP .backoff) fun reply => keeps_pure _

/-- What a program of the second streams leaves alone. -/
def NatsWorld.besideStreams (w : NatsWorld B) : NatsWorld B :=
  { w with
    awaits := 0
    streamAcked := fun _ => []
    sink := { w.sink with streamBuffer := fun _ => .new } }

/-- Head records are acknowledged, and nothing else changes. -/
structure StreamOnly (stream : SecondStream) (w₀ w : NatsWorld B) : Prop where
  same : w.besideStreams = w₀.besideStreams
  other_buffer : ∀ t, t ≠ stream → w.sink.streamBuffer t = w₀.sink.streamBuffer t
  other_acked : ∀ t, t ≠ stream → w.streamAcked t = w₀.streamAcked t
  conserved : w.streamAcked stream ++ (w.sink.streamBuffer stream).entries =
    w₀.streamAcked stream ++ (w₀.sink.streamBuffer stream).entries
  acked_subset : w₀.streamAcked stream ⊆ w.streamAcked stream

variable {stream : SecondStream} {w₀ w : NatsWorld B}

lemma StreamOnly.refl (stream : SecondStream) (w : NatsWorld B) : StreamOnly stream w w :=
  ⟨rfl, fun _ _ => rfl, fun _ _ => rfl, rfl, fun _ h => h⟩

lemma StreamOnly.await (h : StreamOnly stream w₀ w) (n : ℕ) :
    StreamOnly stream w₀ { w with awaits := n } :=
  ⟨h.same, h.other_buffer, h.other_acked, h.conserved, h.acked_subset⟩

lemma StreamOnly.settle (h : StreamOnly stream w₀ w) {payload : B} {rest : List B}
    (hentries : (w.sink.streamBuffer stream).entries = payload :: rest)
    {buffer : SecondStream → PendingBuffer B}
    (hbuf : (buffer stream).entries = rest)
    (hother : ∀ t, t ≠ stream → buffer t = w.sink.streamBuffer t) :
    StreamOnly stream w₀
      { w.ackStream stream payload with sink := { w.sink with streamBuffer := buffer } } where
  same := h.same
  other_buffer t ht := (hother t ht).trans (h.other_buffer t ht)
  other_acked t ht := (update_of_ne ht _ _).trans (h.other_acked t ht)
  conserved := by
    have hcon := h.conserved
    rw [hentries] at hcon
    dsimp only [NatsWorld.ackStream]
    grind
  acked_subset := by
    dsimp only [NatsWorld.ackStream]
    rw [update_self]
    exact subset_append_of_subset_left _ h.acked_subset

lemma meets_awaitStreamAck (hP : ∀ w n, P w → P { w with awaits := n }) (payload : B) :
    Meets P (awaitStreamAck stream payload) (fun reply w =>
        match reply with
        | .error _ => P w
        | .ok _ => ∃ w₁, P w₁ ∧ w = w₁.ackStream stream payload) (fun _ => P) := by
  refine meets_bind (keeps_awaitReply hP _) fun reply => ?_
  cases reply with
  | error cause => exact meets_pure fun w hw => hw
  | ok _ => exact meets_update_pure fun w hw => ⟨w, hw, rfl⟩

/-- The buffer is emptied unless it failed. -/
structure StreamRan (stream : SecondStream) (w₀ : NatsWorld B) (result : Status)
    (w : NatsWorld B) : Prop where
  only : StreamOnly stream w₀ w
  emptied : result = .ok () → (w.sink.streamBuffer stream).entries = []

/-- With enough fuel. -/
lemma meets_streamLoop (subject : String) (fuel : ℕ) :
    Meets (fun w => StreamOnly stream w₀ w ∧ (w.sink.streamBuffer stream).entries.length ≤ fuel)
      (streamLoop stream subject fuel) (StreamRan stream w₀) (fun _ => StreamOnly stream w₀) := by
  induction fuel with
  | zero =>
    exact meets_pure fun w hw => ⟨hw.1, fun _ => eq_nil_of_length_eq_zero (Nat.le_zero.mp hw.2)⟩
  | succ fuel ih =>
    refine meets_of_forall fun w₁ hw₁ => ?_
    obtain ⟨honly, hlen⟩ := hw₁
    cases hent : (w₁.sink.streamBuffer stream).entries with
    | nil =>
      refine meets_read_bind_eq none (fun w hw => by rw [hw]; simp [hent]) ?_
      exact meets_pure fun w hw => hw ▸ ⟨honly, fun _ => hent⟩
    | cons payload rest =>
      refine meets_read_bind_eq (some payload) (fun w hw => by rw [hw]; simp [hent]) ?_
      have hrest : rest.length ≤ fuel := by
        rw [hent] at hlen
        exact Nat.le_of_succ_le_succ hlen
      set P : NatsWorld B → Prop := fun w =>
        StreamOnly stream w₀ w ∧ (w.sink.streamBuffer stream).entries = payload :: rest with hP
      have hawait : ∀ w n, P w → P { w with awaits := n } := fun w n h => ⟨h.1.await n, h.2⟩
      refine Meets.pre (P := P) ?_ fun w hw => hw ▸ ⟨honly, hent⟩
      refine meets_bind ((keeps_publishWithRetry hawait _ subject).atDrop fun _ _ h => h.1)
        fun published => ?_
      cases published with
      | error err => exact meets_pure fun w hw => ⟨hw.1, nofun⟩
      | ok _ =>
        refine meets_read_bind fun servers => ?_
        refine meets_bind ((meets_awaitStreamAck hawait payload).atDrop fun _ _ h => h.1)
          fun reply => ?_
        cases reply with
        | error cause =>
          refine meets_update_bind (I := P) (fun w hw => ?_) (meets_pure fun w hw => ⟨hw.1, nofun⟩)
          -- A refused head stays where it is.
          have hsame : ∀ s : NatsSink B, (fun t => if t = stream then
              (s.streamBuffer t).settleFront (Except.error (buildAckError subject servers cause) :
                Status) else s.streamBuffer t) = s.streamBuffer := by
            intro s
            funext t
            split_ifs <;> rfl
          change P { w with sink := { w.sink with streamBuffer := _ } }
          rw [Except.mapError, hsame]
          exact hw
        | ok _ =>
          refine meets_update_bind (fun w hw => ?_) ih
          obtain ⟨w₂, ⟨honly₂, hent₂⟩, rfl⟩ := hw
          have hset : ((if stream = stream then (w₂.sink.streamBuffer stream).settleFront
              (Except.ok () : Status)
                else w₂.sink.streamBuffer stream)).entries = rest := by simp_all
          exact ⟨honly₂.settle hent₂ hset fun t ht => if_neg ht, hset ▸ hrest⟩

lemma meets_publishStreamBuffer (stream : SecondStream) (w₀ : NatsWorld B) :
    Meets (fun w => w = w₀) (publishStreamBuffer stream) (StreamRan stream w₀)
      (fun _ => StreamOnly stream w₀) := by
  refine meets_read_bind fun subject => ?_
  refine meets_read_bind_eq (w₀.sink.streamBuffer stream).entries.length (fun w hw => by rw [hw]) ?_
  refine (meets_streamLoop subject _).pre ?_
  rintro w rfl
  exact ⟨.refl stream w, le_rfl⟩

end Rastreo
