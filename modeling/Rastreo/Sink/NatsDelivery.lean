import Rastreo.Sink.NatsStreams

/-!
# What the NATS sink does with device records

Every record written is acknowledged by the primary or the dead-letter stream, or held, in write
order. `Conserved` says so of a list of held records, for the programs of the device stream, which
leave the second streams alone (`DeviceOnly`); the triples say what each program does to that list,
where it ends and where it is dropped.
-/

namespace Rastreo

open Async List

variable {B : Type} [AsRef B]

/-- What a program of the device stream leaves alone. -/
def NatsWorld.besideDevice (w : NatsWorld B) : NatsWorld B :=
  { w with
    awaits := 0
    acked := []
    dlqAcked := []
    sink := { w.sink with buffer := .new, pendingAcks := [], dlqDelivered := fun _ => 0 } }

/-- Nothing but collect acks. -/
structure DeviceOnly (w₀ w : NatsWorld B) : Prop where
  same : w.besideDevice = w₀.besideDevice
  acked : w₀.acked <+: w.acked
  dlqAcked : w₀.dlqAcked <+: w.dlqAcked

/-- The records written are those acknowledged and those `held`, in write order; the counters count
the dead-letter acks of their class. -/
structure Conserved (w₀ : NatsWorld B) (held : List B) (w : NatsWorld B) : Prop where
  only : DeviceOnly w₀ w
  perm : (w.acked ++ w.dlqAcked.map Prod.fst ++ held).Perm w₀.written
  order : held.Sublist w₀.written
  counters : ∀ c, w.sink.dlqDelivered c = UInt64.ofNat (w.dlqAcked.countP fun x => x.2 = c)

/-- Those whose ack is pending, then the buffered ones. -/
def NatsWorld.held (w : NatsWorld B) : List B := w.sink.pendingAcks ++ w.sink.buffer.entries

/-- The sink between two calls or programs. -/
structure Steady (w₀ w : NatsWorld B) : Prop where
  conserved : Conserved w₀ w.held w
  pending_lt : w.sink.pendingAcks.length < maxPendingAcks

/-- The records `held`, with these pending and these buffered. -/
structure Holding (w₀ : NatsWorld B) (held pending buffered : List B) (w : NatsWorld B) :
    Prop where
  conserved : Conserved w₀ held w
  pending_eq : w.sink.pendingAcks = pending
  buffered_eq : w.sink.buffer.entries = buffered

/-- Outside of `drain_pending_acks` every record is held. -/
def DropOk (w₀ : NatsWorld B) (site : AwaitSite) (w : NatsWorld B) : Prop :=
  w.sink.pendingAcks.length < maxPendingAcks ∧ (site.inDrain = false → Conserved w₀ w.held w)

section Device

variable {w₀ w : NatsWorld B} {pending buffered : List B}

lemma DeviceOnly.refl (w : NatsWorld B) : DeviceOnly w w := ⟨rfl, prefix_rfl, prefix_rfl⟩

lemma DeviceOnly.written_eq (h : DeviceOnly w₀ w) : w.written = w₀.written :=
  (congrArg NatsWorld.written h.same :)

lemma Conserved.rebase {held : List B} (h : Conserved w₀ held w) : Conserved w held w :=
  ⟨.refl w, h.only.written_eq ▸ h.perm, h.only.written_eq ▸ h.order, h.counters⟩

lemma Holding.steady (h : Holding w₀ (pending ++ buffered) pending buffered w)
    (hlt : pending.length < maxPendingAcks) : Steady w₀ w where
  conserved := by
    unfold NatsWorld.held
    rw [h.pending_eq, h.buffered_eq]
    exact h.conserved
  pending_lt := h.pending_eq ▸ hlt

lemma Holding.steady_of_drained (h : Holding w₀ buffered [] buffered w) : Steady w₀ w := by
  have h' : Holding w₀ ([] ++ buffered) [] buffered w := h
  exact h'.steady (by rw [length_nil]; decide)

lemma Steady.dropOk (h : Steady w₀ w) (site : AwaitSite) : DropOk w₀ site w :=
  ⟨h.pending_lt, fun _ => h.conserved⟩

variable {pre post : List B} {payload : B}

lemma Conserved.ack (h : Conserved w₀ (pre ++ payload :: post) w) :
    Conserved w₀ (pre ++ post) { w with acked := w.acked ++ [payload] } where
  only := ⟨h.only.same, h.only.acked.trans (prefix_append _ _), h.only.dlqAcked⟩
  perm := by
    refine List.Perm.trans ?_ h.perm
    simp only [append_assoc, singleton_append]
    refine List.Perm.append_left _ ?_
    rw [← append_assoc, ← append_assoc]
    exact perm_middle.symm
  order := ((sublist_cons_self payload post).append_left pre).trans h.order
  counters := h.counters

lemma Conserved.deadLetter (h : Conserved w₀ (pre ++ payload :: post) w)
    (errorClass : SinkErrorClass) :
    Conserved w₀ (pre ++ post)
      { w with
        dlqAcked := w.dlqAcked ++ [(payload, errorClass)]
        sink := { w.sink with dlqDelivered := fun c =>
          if c = errorClass then w.sink.dlqDelivered c + 1 else w.sink.dlqDelivered c } } where
  only := ⟨h.only.same, h.only.acked, h.only.dlqAcked.trans (prefix_append _ _)⟩
  perm := by
    refine List.Perm.trans ?_ h.perm
    simp only [map_append, map_cons, map_nil, append_assoc, singleton_append]
    refine List.Perm.append_left _ (List.Perm.append_left _ ?_)
    exact perm_middle.symm
  order := ((sublist_cons_self payload post).append_left pre).trans h.order
  counters c := by
    dsimp only
    rw [countP_append, h.counters c]
    by_cases hc : c = errorClass
    · subst hc
      simp [UInt64.ofNat_add]
    · simp [hc, Ne.symm hc]

variable {held : List B}

/-- Only the lists of the sink and the count of the awaits change. -/
lemma Holding.moved (h : Holding w₀ held pending buffered w) (awaits : ℕ) (pendingAcks : List B)
    (buffer : PendingBuffer B) {pending' buffered' : List B} (hpending : pendingAcks = pending')
    (hbuffered : buffer.entries = buffered') : Holding w₀ held pending' buffered'
      { w with awaits, sink := { w.sink with pendingAcks, buffer } } := by
  obtain ⟨⟨⟨hsame, hacked, hdlq⟩, hperm, horder, hcounters⟩, -, -⟩ := h
  exact ⟨⟨⟨hsame, hacked, hdlq⟩, hperm, horder, hcounters⟩, hpending, hbuffered⟩

variable {D : AwaitSite → NatsWorld B → Prop}

lemma meets_awaitReply (site : AwaitSite)
    (hD : ∀ w, Holding w₀ held pending buffered w → D site w) :
    Meets (Holding w₀ held pending buffered) (awaitReply site)
      (fun _ => Holding w₀ held pending buffered) D := by
  intro w hw
  have hawait : Holding w₀ held pending buffered { w with awaits := w.awaits + 1 } :=
    hw.moved _ _ _ hw.pending_eq hw.buffered_eq
  unfold awaitReply
  cases w.broker w.awaits with
  | ok => exact hawait
  | err cause => exact hawait
  | dropped => exact hD _ hawait

lemma meets_awaitAck (hD : ∀ w, Holding w₀ (pre ++ payload :: post) pending buffered w → D .ack w) :
    Meets (Holding w₀ (pre ++ payload :: post) pending buffered) (awaitAck payload)
      (fun reply => Holding w₀
        (if reply matches .ok _ then pre ++ post else pre ++ payload :: post)
          pending buffered) D := by
  refine meets_bind (meets_awaitReply .ack hD) fun reply => ?_
  cases reply with
  | error cause => exact meets_pure fun w hw => hw
  | ok _ =>
    refine meets_update_pure fun w hw => ?_
    exact ⟨hw.conserved.ack, hw.pending_eq, hw.buffered_eq⟩

variable {errorClass : SinkErrorClass}

lemma meets_awaitDeadLetterAck
    (hD : ∀ w, Holding w₀ held pending buffered w → D (.deadLetterAck errorClass) w) :
    Meets (Holding w₀ held pending buffered) (awaitDeadLetterAck payload errorClass) (fun reply w =>
        match reply with
        | .error _ => Holding w₀ held pending buffered w
        | .ok _ => ∃ w₁, Holding w₀ held pending buffered w₁ ∧
            w = { w₁ with dlqAcked := w₁.dlqAcked ++ [(payload, errorClass)] }) D := by
  refine meets_bind (meets_awaitReply _ hD) fun reply => ?_
  cases reply with
  | error cause => exact meets_pure fun w hw => hw
  | ok _ => exact meets_update_pure fun w hw => ⟨w, hw, rfl⟩

/-- It goes to the dead-letter stream, or stays held. -/
lemma meets_quarantine (hpublish : ∀ w, Holding w₀ (pre ++ payload :: post) pending buffered w →
      D (.deadLetterPublish errorClass) w)
    (hacked : ∀ w, Holding w₀ (pre ++ payload :: post) pending buffered w →
      D (.deadLetterAck errorClass) w) :
    Meets (Holding w₀ (pre ++ payload :: post) pending buffered) (quarantine payload errorClass)
      (fun accepted => Holding w₀
        (if accepted then pre ++ post else pre ++ payload :: post) pending buffered) D := by
  refine meets_read_bind fun dlqSubject => ?_
  cases dlqSubject with
  | none => exact meets_pure fun w hw => hw
  | some _ =>
    refine meets_bind (meets_awaitReply _ hpublish) fun published => ?_
    cases published with
    | error _ => exact meets_pure fun w hw => hw
    | ok _ =>
      refine meets_bind (meets_awaitDeadLetterAck hacked) fun acked => ?_
      cases acked with
      | error _ => exact meets_pure fun w hw => hw
      | ok _ =>
        refine meets_update_pure fun w hw => ?_
        obtain ⟨w₁, hw₁, rfl⟩ := hw
        exact ⟨hw₁.conserved.deadLetter errorClass, hw₁.pending_eq, hw₁.buffered_eq⟩

variable {subject : String}

lemma meets_publishWithRetry {site : AwaitSite}
    (hsite : ∀ w, Holding w₀ held pending buffered w → D site w)
    (hbackoff : ∀ w, Holding w₀ held pending buffered w → D .backoff w) :
    Meets (Holding w₀ held pending buffered) (publishWithRetry site subject)
      (fun _ => Holding w₀ held pending buffered) D := by
  refine meets_read_bind fun retry => meets_read_bind fun servers => ?_
  refine meets_retryWithBackoff ?_ (fun _ _ h => h) ?_
  · exact meets_bind (meets_awaitReply site hsite) fun reply => meets_pure fun w hw => hw
  · exact meets_bind (meets_awaitReply .backoff hbackoff) fun reply => meets_pure fun w hw => hw

/-! ## Draining the acks -/

lemma dropOk_of_inDrain {site : AwaitSite} (hsite : site.inDrain = true)
    (h : Holding w₀ held [] buffered w) : DropOk w₀ site w := by
  refine ⟨by rw [h.pending_eq, length_nil]; decide, fun hout => ?_⟩
  rw [hsite] at hout
  cases hout

/-- Records are acknowledged or collected, in order, behind those collected before; without an error
none. -/
lemma meets_drainLoop (pending : List B) (unacked : PendingBuffer B)
    (firstError : Option RastreoError) (hfst : firstError = none → unacked.entries = []) :
    Meets (Holding w₀ (unacked.entries ++ (pending ++ buffered)) [] buffered)
      (drainLoop pending unacked firstError)
      (fun r w => Holding w₀ (r.1.entries ++ buffered) [] buffered w ∧
        (r.2 = none → r.1.entries = [])) (DropOk w₀) := by
  induction pending generalizing unacked firstError with
  | nil => exact meets_pure fun w hw => ⟨hw, hfst⟩
  | cons payload pending ih =>
    have hdrop : ∀ site : AwaitSite, site.inDrain = true → ∀ w,
        Holding w₀ (unacked.entries ++ payload :: (pending ++ buffered)) [] buffered w →
          DropOk w₀ site w := fun site hsite w hw => dropOk_of_inDrain hsite hw
    refine meets_bind (meets_awaitAck (hdrop .ack rfl)) fun reply => ?_
    cases reply with
    | ok _ => exact ih unacked firstError hfst
    | error cause =>
      refine meets_read_bind fun subject => meets_read_bind fun servers => ?_
      refine meets_bind (meets_quarantine (hdrop _ rfl) (hdrop _ rfl)) fun accepted => ?_
      cases accepted with
      | true => exact ih unacked firstError hfst
      | false =>
        refine (ih (unacked.push payload) _ fun h => ?_).pre fun w hw => ?_
        · cases firstError <;> simp at h
        · simpa using hw

/-- What is not acknowledged is buffered again, ahead of the rest; without an error nothing is. -/
lemma meets_drainPendingAcks (pending buffered : List B) :
    Meets (Holding w₀ (pending ++ buffered) pending buffered) drainPendingAcks
      (fun r w => ∃ buffered', Holding w₀ buffered' [] buffered' w ∧
        (r = .ok () → buffered' = buffered)) (DropOk w₀) := by
  refine meets_read_bind_eq pending (fun w hw => hw.pending_eq) ?_
  split_ifs with hempty
  · refine meets_pure fun w hw => ⟨buffered, ?_, fun _ => rfl⟩
    grind
  · refine meets_update_bind (I := Holding w₀ (pending ++ buffered) [] buffered)
      (fun w hw => hw.moved _ _ _ rfl hw.buffered_eq) ?_
    refine meets_bind (meets_drainLoop pending .new none fun _ => rfl) fun r => ?_
    obtain ⟨unacked, firstError⟩ := r
    refine meets_update_bind (I := fun w => Holding w₀ (unacked.entries ++ buffered) []
      (unacked.entries ++ buffered) w ∧ (firstError = none → unacked.entries = []))
      (fun w hw => ⟨hw.1.moved _ _ _ rfl ?_, hw.2⟩) ?_
    · rw [PendingBuffer.entries_restoreFront, hw.1.buffered_eq]
    · cases firstError with
      | some err => exact meets_pure fun w hw => ⟨_, hw.1, fun h => (by cases h)⟩
      | none =>
        refine meets_pure fun w hw => ⟨_, hw.1, fun _ => ?_⟩
        rw [hw.2 rfl]
        rfl

/-! ## Publishing the buffer -/

/-- The buffer is empty unless it failed. -/
def Ran (w₀ : NatsWorld B) (result : Status) (w : NatsWorld B) : Prop :=
  Steady w₀ w ∧ (result = .ok () → w.sink.buffer.entries = [])

/-- The record joins the pending acks, which are drained when there are many. -/
lemma meets_publishLoop_accepted {fuel : ℕ} {rest : List B} (hlen : rest.length ≤ fuel)
    (ih : Meets (fun w : NatsWorld B => Steady w₀ w ∧ w.sink.buffer.entries.length ≤ fuel)
      (publishLoop subject fuel) (Ran w₀) (DropOk w₀)) :
    Meets (Holding w₀ (pending ++ payload :: rest) pending rest) (do
        modifySink fun s => { s with pendingAcks := s.pendingAcks ++ [payload] }
        if shouldDrainPendingAcks (← readSink (·.pendingAcks.length)) then
          match (← drainPendingAcks) with
          | .error err => pure (.error err)
          | .ok _ => publishLoop subject fuel
        else publishLoop subject fuel)
      (Ran w₀) (DropOk w₀) := by
  refine meets_update_bind
    (I := Holding w₀ (pending ++ [payload] ++ rest) (pending ++ [payload]) rest) (fun w hw => ?_) ?_
  · rw [append_assoc]
    exact hw.moved _ _ _ (by rw [← hw.pending_eq]) hw.buffered_eq
  refine meets_read_bind_eq (pending ++ [payload]).length
    (fun w hw => congrArg List.length hw.pending_eq) ?_
  split_ifs with hdrain
  · refine meets_bind (meets_drainPendingAcks _ _) fun drained => ?_
    cases drained with
    | error err =>
      refine meets_pure fun w hw => ?_
      obtain ⟨buffered, hw, -⟩ := hw
      exact ⟨hw.steady_of_drained, fun h => (by cases h)⟩
    | ok _ =>
      refine ih.pre fun w hw => ?_
      obtain ⟨buffered, hw, hsame⟩ := hw
      obtain rfl := hsame rfl
      exact ⟨hw.steady_of_drained, hw.buffered_eq ▸ hlen⟩
  · refine ih.pre fun w hw => ?_
    refine ⟨hw.steady ?_, hw.buffered_eq ▸ hlen⟩
    simpa [shouldDrainPendingAcks] using hdrain

/-- The record goes to the dead-letter stream, or the loop ends. -/
lemma meets_publishLoop_refused {fuel : ℕ} {rest : List B} {primaryErr : RastreoError}
    (hlt : pending.length < maxPendingAcks) (hlen : rest.length ≤ fuel)
    (ih : Meets (fun w : NatsWorld B => Steady w₀ w ∧ w.sink.buffer.entries.length ≤ fuel)
      (publishLoop subject fuel) (Ran w₀) (DropOk w₀)) :
    Meets (Holding w₀ (pending ++ payload :: rest) pending (payload :: rest)) (do
        modifySink fun s =>
          { s with buffer := s.buffer.settleFront (.error primaryErr : Status) }
        let quarantined ← quarantine payload .publishFailure
        let settled : Status := if quarantined then .ok () else .error primaryErr
        modifySink fun s => { s with buffer := s.buffer.settleFront settled }
        match settled with
        | .error err => pure (.error err)
        | .ok _ => publishLoop subject fuel)
      (Ran w₀) (DropOk w₀) := by
  have hdrop : ∀ (site : AwaitSite) (w : NatsWorld B),
      Holding w₀ (pending ++ payload :: rest) pending (payload :: rest) w → DropOk w₀ site w :=
    fun site w hw => (hw.steady hlt).dropOk site
  refine meets_update_bind (I := Holding w₀ (pending ++ payload :: rest) pending (payload :: rest))
    (fun w hw => hw.moved _ _ _ hw.pending_eq hw.buffered_eq) ?_
  refine meets_bind (meets_quarantine (hdrop _) (hdrop _)) fun accepted => ?_
  cases accepted with
  | true =>
    refine meets_update_bind (I := Holding w₀ (pending ++ rest) pending rest)
      (fun w hw => hw.moved _ _ _ hw.pending_eq ?_) ?_
    · simp only [if_true, PendingBuffer.entries_settleFront_ok, hw.buffered_eq, tail_cons]
    · exact ih.pre fun w hw => ⟨hw.steady hlt, hw.buffered_eq ▸ hlen⟩
  | false =>
    exact meets_pure fun w hw => ⟨hw.steady hlt, fun h => (by cases h)⟩

/-- With enough fuel. -/
lemma meets_publishLoop (subject : String) (fuel : ℕ) :
    Meets (fun w : NatsWorld B => Steady w₀ w ∧ w.sink.buffer.entries.length ≤ fuel)
      (publishLoop subject fuel) (Ran w₀) (DropOk w₀) := by
  induction fuel with
  | zero =>
    refine meets_pure fun w hw => ⟨hw.1, fun _ => ?_⟩
    grind
  | succ fuel ih =>
    refine meets_of_forall fun w₁ hw₁ => ?_
    obtain ⟨⟨hcon, hlt⟩, hlen⟩ := hw₁
    cases hent : w₁.sink.buffer.entries with
    | nil =>
      refine meets_read_bind_eq none (fun w hw => by rw [hw]; simp [hent]) ?_
      refine meets_pure fun w hw => ?_
      rw [hw]
      exact ⟨⟨hcon, hlt⟩, fun _ => hent⟩
    | cons payload rest =>
      refine meets_read_bind_eq (some payload) (fun w hw => by rw [hw]; simp [hent]) ?_
      set pending := w₁.sink.pendingAcks with hpen
      have hhold : Holding w₀ (pending ++ payload :: rest) pending (payload :: rest) w₁ := by
        refine ⟨?_, rfl, hent⟩
        rw [← hent]
        exact hcon
      have hrest : rest.length ≤ fuel := by grind
      have hdrop : ∀ (site : AwaitSite) (w : NatsWorld B),
          Holding w₀ (pending ++ payload :: rest) pending (payload :: rest) w → DropOk w₀ site w :=
        fun site w hw => (hw.steady hlt).dropOk site
      refine (meets_bind (meets_publishWithRetry (hdrop .publish) (hdrop .backoff))
        fun published => ?_).pre fun w hw => hw ▸ hhold
      cases published with
      | ok _ =>
        refine meets_update_bind (I := Holding w₀ (pending ++ payload :: rest) pending rest)
          (fun w hw => hw.moved _ _ _ hw.pending_eq ?_) (meets_publishLoop_accepted hrest ih)
        rw [PendingBuffer.entries_settleFront_ok, hw.buffered_eq]
        rfl
      | error primaryErr => exact meets_publishLoop_refused hlt hrest ih

lemma meets_publishBuffer : Meets (Steady w₀) publishBuffer (Ran w₀) (DropOk w₀) := by
  refine meets_read_bind fun subject => meets_of_forall fun w₁ hw₁ => ?_
  refine meets_read_bind_eq w₁.sink.buffer.entries.length (fun w hw => by rw [hw]) ?_
  refine (meets_publishLoop subject _).pre fun w hw => ?_
  rw [hw]
  exact ⟨hw₁, le_rfl⟩

/-- Everything held is buffered, and nothing is if all went well. -/
structure Drained (w₀ : NatsWorld B) (r : Status) (w : NatsWorld B) : Prop where
  conserved : Conserved w₀ w.sink.buffer.entries w
  pending_eq : w.sink.pendingAcks = []
  emptied : r = .ok () → w.sink.buffer.entries = []

variable {result : Status}

lemma Drained.steady (h : Drained w₀ result w) : Steady w₀ w :=
  Holding.steady_of_drained ⟨h.conserved, h.pending_eq, rfl⟩

lemma Drained.held_eq (h : Drained w₀ (.ok ()) w) : w.held = [] := by
  rw [NatsWorld.held, h.pending_eq, h.emptied rfl]
  rfl

lemma meets_publishAndDrain : Meets (Steady w₀) publishAndDrain (Drained w₀) (DropOk w₀) := by
  refine meets_bind meets_publishBuffer fun published => meets_of_forall fun w₁ hw₁ => ?_
  obtain ⟨hsteady, hempty⟩ := hw₁
  have hhold : Holding w₀ (w₁.sink.pendingAcks ++ w₁.sink.buffer.entries) w₁.sink.pendingAcks
      w₁.sink.buffer.entries w₁ := ⟨hsteady.conserved, rfl, rfl⟩
  refine meets_bind ((meets_drainPendingAcks w₁.sink.pendingAcks w₁.sink.buffer.entries).pre
    fun w hw => hw ▸ hhold) fun drained => meets_pure fun w hw => ?_
  obtain ⟨buffered, hw, hsame⟩ := hw
  refine ⟨hw.buffered_eq ▸ hw.conserved, hw.pending_eq, fun hok => ?_⟩
  cases published with
  | error e => cases hok
  | ok _ => rw [hw.buffered_eq, hsame hok, hempty rfl]

end Device

/-! ## The calls -/

section Calls

variable {w₀ w w' : NatsWorld B} {held : List B} {result : Status}

/-- What the device stream has to do with. -/
def NatsWorld.device (w : NatsWorld B) :=
  (w.written, w.acked, w.dlqAcked, w.sink.buffer, w.sink.pendingAcks, w.sink.dlqDelivered)

lemma StreamOnly.device_eq {stream : SecondStream} (h : StreamOnly stream w₀ w) :
    w.device = w₀.device := (congrArg NatsWorld.device h.same :)

lemma Conserved.of_device_eq (h : Conserved w₀ held w) (hdevice : w'.device = w.device) :
    Conserved w' held w' := by
  obtain ⟨-, hperm, horder, hcounters⟩ := h.rebase
  simp only [NatsWorld.device, Prod.mk.injEq] at hdevice
  obtain ⟨hwritten, hacked, hdlq, -, -, hcount⟩ := hdevice
  rw [← hwritten] at hperm horder
  rw [← hacked, ← hdlq] at hperm
  rw [← hdlq, ← hcount] at hcounters
  exact ⟨.refl w', hperm, horder, hcounters⟩

lemma Drained.of_device_eq (h : Drained w₀ result w) (hdevice : w'.device = w.device) :
    Drained w' result w' := by
  have hbuffer : w'.sink.buffer = w.sink.buffer := congrArg (·.2.2.2.1) hdevice
  refine ⟨hbuffer ▸ h.conserved.of_device_eq hdevice, ?_, hbuffer ▸ h.emptied⟩
  exact (congrArg (·.2.2.2.2.1) hdevice).trans h.pending_eq

lemma held_of_device_eq (hdevice : w'.device = w.device) : w'.held = w.held :=
  congrArg (fun device => device.2.2.2.2.1 ++ device.2.2.2.1.entries) hdevice

lemma Steady.of_device_eq (h : Steady w₀ w) (hdevice : w'.device = w.device) : Steady w' w' := by
  have hpending : w'.sink.pendingAcks = w.sink.pendingAcks := congrArg (·.2.2.2.2.1) hdevice
  exact ⟨held_of_device_eq hdevice ▸ h.conserved.of_device_eq hdevice, hpending ▸ h.pending_lt⟩

lemma Steady.rebase (h : Steady w₀ w) : Steady w w := h.of_device_eq rfl

/-- With the flag set. -/
def NatsWorld.report (w : NatsWorld B) (lastWriteDelivered : Bool) : NatsWorld B :=
  { w with sink := { w.sink with lastWriteDelivered } }

/-- With a record held. -/
def NatsWorld.buffered (w : NatsWorld B) (data : B) : NatsWorld B :=
  { w with
    written := w.written ++ [data]
    sink := { w.sink with lastWriteDelivered := false, buffer := w.sink.buffer.push data } }

lemma Steady.buffered (h : Steady w₀ w) (data : B) :
    Steady (w.buffered data) (w.buffered data) := by
  obtain ⟨⟨-, hperm, horder, hcounters⟩, hlt⟩ := h.rebase
  have hheld : (w.buffered data).held = w.held ++ [data] := (append_assoc _ _ _).symm
  refine ⟨⟨.refl _, ?_, ?_, hcounters⟩, hlt⟩
  · rw [hheld, ← append_assoc]
    exact hperm.append_right _
  · rw [hheld]
    exact horder.append (List.Sublist.refl _)

/-- The device stream runs if its buffer is full, and the flag is set if nothing is held then. -/
def NatsWrote (data : B) (w₀ w : NatsWorld B) : Prop :=
  ∃ w₁, Steady (w₀.buffered data) w₁ ∧
    ((w₀.sink.buffer.push data).reachedThreshold w₀.sink.bufferThreshold = false →
      w₁ = w₀.buffered data) ∧
    (w = w₁ ∨ w = w₁.report true ∧ w₁.held = [])

lemma meets_write (h₀ : Steady w₀ w₀) (data : B) :
    Meets (fun w => w = w₀) (NatsSink.write data) (fun _ => NatsWrote data w₀)
      (DropOk (w₀.buffered data)) := by
  have hbuffered := h₀.buffered data
  refine meets_update_bind (I := fun w => w = w₀.buffered data) (fun w hw => hw ▸ rfl) ?_
  refine meets_read_bind_eq ((w₀.sink.buffer.push data).reachedThreshold w₀.sink.bufferThreshold)
    (fun w hw => hw ▸ rfl) ?_
  split_ifs with hreached
  · have hfull : ∀ {w}, (w₀.sink.buffer.push data).reachedThreshold w₀.sink.bufferThreshold
        = false → w = w₀.buffered data := fun h => absurd (hreached.symm.trans h) Bool.noConfusion
    refine Meets.pre (P := Steady (w₀.buffered data)) ?_ fun w hw => hw.symm ▸ hbuffered
    refine meets_read_bind fun threshold => ?_
    split_ifs
    · refine meets_bind meets_publishAndDrain fun r => ?_
      cases r with
      | error err => exact meets_pure fun w hw => ⟨w, hw.steady, hfull, .inl rfl⟩
      | ok _ =>
        exact meets_update_pure fun w hw => ⟨w, hw.steady, hfull, .inr ⟨rfl, hw.held_eq⟩⟩
    · exact meets_publishBuffer.post fun r w hw => ⟨w, hw.1, hfull, .inl rfl⟩
  · exact meets_pure fun w hw => ⟨w, hw.symm ▸ hbuffered, fun _ => hw, .inl rfl⟩

/-- With a record of a second stream held. -/
def NatsWorld.streamBuffered (w : NatsWorld B) (stream : SecondStream) (data : B) : NatsWorld B :=
  { w with
    streamWritten := Function.update w.streamWritten stream (w.streamWritten stream ++ [data])
    sink :=
      { w.sink with
        lastWriteDelivered := false
        streamBuffer := fun t =>
          if t = stream then (w.sink.streamBuffer t).push data else w.sink.streamBuffer t } }

/-- The stream runs if its buffer is full, and the flag is set if nothing is held then. -/
def NatsStreamed (stream : SecondStream) (data : B) (w₀ w : NatsWorld B) : Prop :=
  ∃ w₁, StreamOnly stream (w₀.streamBuffered stream data) w₁ ∧
    (w = w₁ ∨ w = w₁.report true ∧ (w₁.sink.streamBuffer stream).entries = [])

lemma meets_writeStream (stream : SecondStream) (data : B) (w₀ : NatsWorld B) :
    Meets (fun w => w = w₀) (NatsSink.writeStream stream data)
      (fun _ => NatsStreamed stream data w₀)
      (fun _ => StreamOnly stream (w₀.streamBuffered stream data)) := by
  refine meets_update_bind (I := fun w => w = w₀.streamBuffered stream data)
    (fun w hw => hw ▸ rfl) ?_
  refine meets_read_bind fun reached => ?_
  split_ifs
  · refine meets_bind (meets_publishStreamBuffer stream _) fun r => ?_
    cases r with
    | error err => exact meets_pure fun w hw => ⟨w, hw.only, .inl rfl⟩
    | ok _ => exact meets_update_pure fun w hw => ⟨w, hw.only, .inr ⟨rfl, hw.emptied rfl⟩⟩
  · exact meets_pure fun w hw => ⟨w, hw ▸ .refl stream w, .inl rfl⟩

/-- The three streams run in turn, and then the flag is set. -/
def NatsFlushed (w₀ : NatsWorld B) (result : Status) (w : NatsWorld B) : Prop :=
  ∃ device links profiles w₁ w₂ w₃, Drained w₀ device w₁ ∧ StreamRan .links w₁ links w₂ ∧
    StreamRan .profiles w₂ profiles w₃ ∧ result = firstErr (firstErr device links) profiles ∧
    w = w₃.report (result matches .ok _)

lemma meets_flush (h₀ : Steady w₀ w₀) : Meets (fun w => w = w₀) NatsSink.flush (NatsFlushed w₀)
      (fun site w => DropOk w site w) := by
  have hstream : ∀ stream {w₁ : NatsWorld B}, Steady w₁ w₁ →
      Meets (fun w => w = w₁) (publishStreamBuffer stream) (StreamRan stream w₁)
        (fun site w => DropOk w site w) := fun stream w₁ h₁ =>
    (meets_publishStreamBuffer stream w₁).atDrop fun site _ h =>
      (h₁.of_device_eq h.device_eq).dropOk site
  refine meets_bind (Q := Drained w₀) (meets_publishAndDrain.conseq (fun w hw => hw.symm ▸ h₀)
    (fun _ _ h => h) fun _ _ h => ⟨h.1, fun hout => (h.2 hout).rebase⟩) fun device =>
      meets_of_forall fun w₁ h₁ => ?_
  refine meets_bind (hstream .links h₁.steady.rebase) fun links =>
    meets_of_forall fun w₂ h₂ => ?_
  refine meets_bind (hstream .profiles (h₁.steady.of_device_eq h₂.only.device_eq))
    fun profiles => ?_
  exact meets_update_pure fun w h₃ => ⟨device, links, profiles, w₁, w₂, w, h₁, h₂, h₃, rfl, rfl⟩

/-- Nothing is left pending, nor buffered unless it fails. -/
lemma NatsFlushed.drained (h : NatsFlushed w₀ result w) :
    Drained w result w ∧ w.written = w₀.written := by
  obtain ⟨device, links, profiles, w₁, w₂, w₃, h₁, h₂, h₃, rfl, rfl⟩ := h
  have hdev : ∀ flag, (w₃.report flag).device = w₁.device := fun _ =>
    h₃.only.device_eq.trans h₂.only.device_eq
  refine ⟨?_, (congrArg Prod.fst (hdev true)).trans h₁.conserved.only.written_eq⟩
  obtain ⟨hcon, hpen, hempty⟩ := h₁.of_device_eq (hdev _)
  refine ⟨hcon, hpen, fun hok => hempty ?_⟩
  cases device with
  | ok _ => rfl
  | error e => cases hok

def NatsCall.writes : NatsCall B → List B
  | .write data => [data]
  | .writeStream _ _ => []
  | .flush => []
  | .close => []

lemma meets_call (c : NatsCall B) (h₀ : Steady w₀ w₀) :
    Meets (fun w => w = w₀) c.run (fun _ w => Steady w w ∧ w.written = w₀.written ++ c.writes)
      (fun site w => DropOk w site w) := by
  have hflush : ∀ {c : NatsCall B}, c.writes = [] → Meets (fun w => w = w₀) NatsSink.flush
      (fun _ w => Steady w w ∧ w.written = w₀.written ++ c.writes)
      (fun site w => DropOk w site w) := fun hc =>
    (meets_flush h₀).post fun r w hw => ⟨hw.drained.1.steady, by rw [hw.drained.2, hc, append_nil]⟩
  cases c with
  | write data =>
    refine (meets_write h₀ data).conseq (fun _ h => h) (fun r w hw => ?_)
      fun _ _ h => ⟨h.1, fun hout => (h.2 hout).rebase⟩
    obtain ⟨w₁, hsteady, -, rfl | ⟨rfl, -⟩⟩ := hw
    · exact ⟨hsteady.rebase, hsteady.conserved.only.written_eq⟩
    · exact ⟨hsteady.of_device_eq rfl, hsteady.conserved.only.written_eq⟩
  | writeStream stream data =>
    have hstream : ∀ {w}, w.device = (w₀.streamBuffered stream data).device → Steady w w :=
      fun hdev => h₀.of_device_eq hdev
    refine (meets_writeStream stream data w₀).conseq (fun _ h => h) (fun r w hw => ?_)
      fun site _ h => (hstream h.device_eq).dropOk site
    rw [NatsCall.writes, append_nil]
    obtain ⟨w₁, honly, rfl | ⟨rfl, -⟩⟩ := hw
    · exact ⟨hstream honly.device_eq, congrArg Prod.fst honly.device_eq⟩
    · exact ⟨hstream honly.device_eq, congrArg Prod.fst honly.device_eq⟩
  | flush => exact hflush rfl
  | close => exact hflush rfl

/-! ## Runs -/

lemma steady_start (config : NatsConfig) (broker : ℕ → Reply) :
    Steady (NatsWorld.start config broker : NatsWorld B) (NatsWorld.start config broker) where
  conserved := ⟨.refl _, List.Perm.refl _, List.Sublist.refl _, fun _ => rfl⟩
  pending_lt := by
    simp only [NatsWorld.start, NatsSink.new, length_nil]
    decide

abbrev NatsExits := List (Exit AwaitSite Status)

/-- No call of the run was dropped inside `drain_pending_acks`. -/
def NoDropInDrain (exits : NatsExits) : Prop :=
  ∀ site, .dropped site ∈ exits → site.inDrain = false

def AllCompleted (exits : NatsExits) : Prop := ∀ site, .dropped site ∉ exits

lemma NatsRun.steady {config : NatsConfig} {broker : ℕ → Reply} {exits : NatsExits}
    (hrun : NatsRun config broker exits w) (hdrops : NoDropInDrain exits) : Steady w w := by
  induction hrun with
  | start => exact steady_start config broker
  | @call exits w c hrun ih =>
    have hw : Steady w w := ih fun site hsite => hdrops site (mem_append_left _ hsite)
    have hcall := meets_call c hw w rfl
    rcases hexit : c.run w with ⟨_ | site, w'⟩
    · rw [hexit] at hcall
      exact hcall.1
    · rw [hexit] at hcall
      exact ⟨hcall.2 (hdrops site (by simp [hexit])), hcall.1⟩

end Calls

/-- The device stream loses and reorders nothing. After any calls that ran to completion, every
record is acknowledged by the primary or the dead-letter stream, pending or buffered, the latter in
write order; the dead-letter counters count the acknowledged records of their class, in 64 bits. A
next call never has more than 512 acks pending, even at an await; a flush leaves none pending, and
nothing buffered if it succeeds, or every record not accepted if it fails. -/
theorem nats_conserves_device_records (config : NatsConfig) (broker : ℕ → Reply)
    {exits : NatsExits} {w : NatsWorld B} (hrun : NatsRun config broker exits w)
    (hdone : AllCompleted exits) :
    ((w.acked ++ w.dlqAcked.map Prod.fst ++ (w.sink.pendingAcks ++ w.sink.buffer.entries)).Perm
        w.written ∧
      (w.sink.pendingAcks ++ w.sink.buffer.entries).Sublist w.written ∧
      ∀ c, w.sink.dlqDelivered c = UInt64.ofNat (w.dlqAcked.countP fun x => x.2 = c)) ∧
    (∀ (call : NatsCall B), (call.run w).2.sink.pendingAcks.length ≤ 512) ∧
    ∀ call : NatsCall B, call = .flush ∨ call = .close → ∀ r w', call.run w = (.done r, w') →
      w'.sink.pendingAcks = [] ∧ (r = .ok () → w'.sink.buffer.entries = []) ∧
      (w'.acked ++ w'.dlqAcked.map Prod.fst ++ w'.sink.buffer.entries).Perm w'.written := by
  have hsteady : Steady w w := hrun.steady fun site hsite => absurd hsite (hdone site)
  obtain ⟨-, hperm, horder, hcounters⟩ := hsteady.conserved
  refine ⟨⟨hperm, horder, hcounters⟩, fun call => ?_, ?_⟩
  · have hcall := meets_call call hsteady w rfl
    rcases hexit : call.run w with ⟨_ | site, w'⟩
    · rw [hexit] at hcall
      exact hcall.1.pending_lt.le
    · rw [hexit] at hcall
      exact hcall.1.le
  · intro call hcall r w' hexit
    have hfl : NatsSink.flush w = (.done r, w') := by rcases hcall with rfl | rfl <;> exact hexit
    obtain ⟨hcon, hpen, hempty⟩ := ((meets_flush hsteady).of_done rfl hfl).drained.1
    exact ⟨hpen, hempty, hcon.perm⟩

/-- Every record is published at once, without a dead-letter stream. -/
def perRecordConfig : NatsConfig where
  subject := "devices"
  serversForErr := "nats://localhost:4222"
  flushMode := .perRecord
  dlqSubject := none
  retry := {}
  streamSubject _ := "links"

/-- Two records are written and the broker refuses their acks: both are kept, in order. -/
theorem nats_conserves_device_records_refused :
    let broker : ℕ → Reply := fun n => if n = 0 then .ok else .err "no stream"
    let w := (NatsSink.write [8] (NatsSink.write [7] (NatsWorld.start perRecordConfig broker)).2).2
    w.sink.buffer.entries = [[(7 : UInt8)], [8]] ∧
      (w.sink.pendingAcks ++ w.sink.buffer.entries).Sublist w.written ∧
      (w.acked ++ w.dlqAcked.map Prod.fst ++
        (w.sink.pendingAcks ++ w.sink.buffer.entries)).Perm w.written := by
  intro broker w
  have hrun : NatsRun perRecordConfig broker ([] ++ [_] ++ [_]) w :=
    .call (.write [8]) (.call (.write [7]) .start)
  have hconserved := nats_conserves_device_records perRecordConfig broker hrun fun site hsite => by
    rcases mem_pair.mp hsite with heq | heq <;> cases heq
  exact ⟨by decide +kernel, hconserved.1.2.1, hconserved.1.1⟩

/-- If no call is dropped inside `drain_pending_acks`, every record not acknowledged is still held,
and a later flush that succeeds delivers it. -/
theorem dropped_calls_lose_nothing (config : NatsConfig) (broker : ℕ → Reply)
    {exits : NatsExits} {w : NatsWorld B} (hrun : NatsRun config broker exits w)
    (hdrops : NoDropInDrain exits) :
    (w.acked ++ w.dlqAcked.map Prod.fst ++ (w.sink.pendingAcks ++ w.sink.buffer.entries)).Perm
        w.written ∧
      ∀ w', NatsSink.flush w = (.done (.ok ()), w') →
        (w'.acked ++ w'.dlqAcked.map Prod.fst).Perm w.written := by
  have hsteady := hrun.steady hdrops
  refine ⟨hsteady.conserved.perm, fun w' hfl => ?_⟩
  obtain ⟨⟨hcon, -, hempty⟩, hwritten⟩ := ((meets_flush hsteady).of_done rfl hfl).drained
  simpa [hempty rfl, hwritten] using hcon.perm

/-- Dropped while it publishes; a later flush delivers the record. -/
theorem dropped_calls_lose_nothing_publish :
    let broker : ℕ → Reply := fun n => if n = 0 then .dropped else .ok
    let w := (NatsSink.write [7] (NatsWorld.start perRecordConfig broker)).2
    let w' := (NatsSink.flush w).2
    w.sink.buffer.entries = [[(7 : UInt8)]] ∧
      (w'.acked ++ w'.dlqAcked.map Prod.fst).Perm w.written := by
  intro broker w w'
  have hrun : NatsRun perRecordConfig broker ([] ++ [_]) w := .call (.write [7]) .start
  have hdrops : NoDropInDrain [((NatsCall.write [7]).run
      (NatsWorld.start perRecordConfig broker : NatsWorld (List UInt8))).1] := by
    intro site hsite
    cases mem_singleton.mp hsite
    rfl
  exact ⟨rfl, (dropped_calls_lose_nothing perRecordConfig broker hrun hdrops).2 w' rfl⟩

/-- Dropped while it awaits the ack: the record is held by nobody. -/
theorem dropped_drain_loses_record : ∃ (exits : NatsExits) (w : NatsWorld (List UInt8)),
    NatsRun perRecordConfig (fun n => if n = 0 then .ok else .dropped) exits w ∧
      exits = [.dropped .ack] ∧ w.written = [[7]] ∧ w.acked = [] ∧ w.dlqAcked = [] ∧
      w.sink.pendingAcks = [] ∧ w.sink.buffer.entries = [] :=
  ⟨_, _, .call (.write [7]) .start, rfl, rfl, rfl, rfl, rfl, rfl⟩

end Rastreo
