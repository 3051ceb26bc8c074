import Rastreo.Library.Machine
import Rastreo.Sink.Leaf

/-!
# What the sinks report of the last write

Any number of sinks, and tees over them.  A call of a tee holds a child only for the child's own
call, so other calls come in between.  All calls run to their end. For every sink and tee the model
remembers the last write, and for a tee the children it has reached: a write stops at the first
child that fails.
-/

namespace Rastreo

open List Function

def LeafCall.abortsOnChildError : LeafCall → Bool
  | .write _ => true
  | .flush => false
  | .close => false

/-- The children yet to be called, and the variables of `fan_out`. -/
structure FanOut where
  call : LeafCall
  rest : List ℕ
  allDelivered : Bool := true
  firstError : Option RastreoError := none

structure TeeState where
  children : List ℕ
  lastDelivered : Bool := false
  call : Option FanOut := none
  /-- how many calls were made through the tee -/
  seq : ℕ := 0
  lastWrite : Option Write := none
  /-- the children the last write has reached -/
  reached : List ℕ := []

namespace TeeState

/-- The start of `fan_out`. -/
def start (t : ℕ) (c : SinkCall) (self : TeeState) : TeeState :=
  let call := c.stamp (.tee t) self.seq
  let self := { self with
    lastDelivered := false, call := some ⟨call, self.children, true, none⟩, seq := self.seq + 1 }
  match call with
  | .write x => { self with lastWrite := some x, reached := [] }
  | .flush => self
  | .close => self

/-- The child `i` has answered. -/
def answered (i : ℕ) (rest : List ℕ) (f : FanOut) (result : Status)
    (delivered : Bool) (self : TeeState) : TeeState :=
  let error := match result with
    | .ok _ => none
    | .error e => some e
  { self with
    call := some
      { f with
        rest := if error.isSome && f.call.abortsOnChildError then [] else rest
        allDelivered := f.allDelivered && delivered
        firstError := f.firstError.or error }
    reached := match f.call with
      | .write _ => self.reached ++ [i]
      | .flush => self.reached
      | .close => self.reached }

/-- The end of `fan_out`. -/
def finish (f : FanOut) (self : TeeState) : TeeState :=
  { self with
    call := none
    lastDelivered := match f.firstError with
      | some _ => self.lastDelivered
      | none => f.allDelivered }

end TeeState

/-- The sinks and the tees over them. -/
structure SinkSystem where
  sinks : ℕ → LoggedSink
  tees : ℕ → TeeState

inductive SinkAction where
  /-- a call made directly on a sink -/
  | direct (i : ℕ) (c : SinkCall)
  /-- a call through a tee begins -/
  | start (t : ℕ) (c : SinkCall)
  /-- the call of the tee makes its call on the next child -/
  | child (t : ℕ)
  /-- the call of the tee returns -/
  | finish (t : ℕ)
  deriving DecidableEq

namespace SinkSystem

def setSink (s : SinkSystem) (i : ℕ) (d : LoggedSink) : SinkSystem :=
  { s with sinks := Function.update s.sinks i d }

def setTee (s : SinkSystem) (t : ℕ) (tee : TeeState) : SinkSystem :=
  { s with tees := Function.update s.tees t tee }

def step : SinkAction → SinkSystem → Option SinkSystem
  | .direct i c, s => do
    let (_, d) ← (s.sinks i).call (c.stamp (.sink i) (s.sinks i).log.length)
    some (s.setSink i d)
  | .start t c, s =>
    match (s.tees t).call with
    | none => some (s.setTee t ((s.tees t).start t c))
    | some _ => none
  | .child t, s =>
    match (s.tees t).call with
    | none => none
    | some f =>
      match f.rest with
      | [] => none
      | i :: rest => do
        let (result, d) ← (s.sinks i).call f.call
        let tee := (s.tees t).answered i rest f result d.sink.lastWriteDelivered
        some ((s.setSink i d).setTee t tee)
  | .finish t, s =>
    match (s.tees t).call with
    | none => none
    | some f => if f.rest.isEmpty then some (s.setTee t ((s.tees t).finish f)) else none

/-- Before the first call. -/
structure Fresh (s : SinkSystem) : Prop where
  sinks : ∀ i, ∃ sink : LeafSink, sink.Fresh ∧ s.sinks i = ⟨sink, []⟩
  tees : ∀ t, ∃ children, s.tees t = { children }

/-! ## What a step does -/

variable {s s' : SinkSystem}

/-- By a user or by a tee, or the start or end of a call of a tee. -/
lemma step_cases {a : SinkAction} (h : step a s = some s') :
    (∃ i c result d, (s.sinks i).call (SinkCall.stamp (.sink i) (s.sinks i).log.length c) =
        some (result, d) ∧ s' = s.setSink i d) ∨
    (∃ t c, (s.tees t).call = none ∧ s' = s.setTee t ((s.tees t).start t c)) ∨
    (∃ t f i rest result d, (s.tees t).call = some f ∧ f.rest = i :: rest ∧
      (s.sinks i).call f.call = some (result, d) ∧
      s' = (s.setSink i d).setTee t
        ((s.tees t).answered i rest f result d.sink.lastWriteDelivered)) ∨
    (∃ t f, (s.tees t).call = some f ∧ f.rest = [] ∧ s' = s.setTee t ((s.tees t).finish f)) := by
  cases a with
  | direct i c =>
    obtain ⟨⟨result, d⟩, hcall, hs'⟩ := Option.bind_eq_some_iff.mp h
    exact .inl ⟨i, c, result, d, hcall, (Option.some.inj hs').symm⟩
  | start t c =>
    simp only [step] at h
    split at h
    · next hnone => exact .inr (.inl ⟨t, c, hnone, (Option.some.inj h).symm⟩)
    · cases h
  | child t =>
    simp only [step] at h
    split at h
    · cases h
    · next f hf =>
      split at h
      · cases h
      · next i rest hrest =>
        obtain ⟨⟨result, d⟩, hcall, hs'⟩ := Option.bind_eq_some_iff.mp h
        exact .inr (.inr (.inl ⟨t, f, i, rest, result, d, hf, hrest, hcall,
          (Option.some.inj hs').symm⟩))
  | finish t =>
    simp only [step] at h
    split at h
    · cases h
    · next f hf =>
      split at h
      · next hempty =>
        exact .inr (.inr (.inr ⟨t, f, hf, isEmpty_iff.mp hempty, (Option.some.inj h).symm⟩))
      · cases h

/-! ## The invariant -/

/-- The children called vouch for the last write, if it has reached them, as long as none failed and
all reported delivery. -/
structure FanOutSound (f : FanOut) (tee : TeeState) (sinks : ℕ → LoggedSink) : Prop where
  silent : tee.lastDelivered = false
  write_eq : ∀ x, f.call = .write x → tee.lastWrite = some x
  suffix : f.rest <:+ tee.children
  vouched : ∀ done, done ++ f.rest = tee.children → f.firstError = none → f.allDelivered = true →
    ∀ x, tee.lastWrite = some x → ∀ i ∈ done, i ∈ tee.reached → (sinks i).Vouches x

structure TeeSound (t : ℕ) (tee : TeeState) (sinks : ℕ → LoggedSink) : Prop where
  caller : ∀ x, tee.lastWrite = some x → x.caller = .tee t
  reached : ∀ x, tee.lastWrite = some x → ∀ i ∈ tee.reached,
    i ∈ tee.children ∧ (sinks i).log.wrote x = true
  underWay : ∀ f, tee.call = some f → FanOutSound f tee sinks
  reported : tee.lastDelivered = true → ∀ x, tee.lastWrite = some x → ∀ i ∈ tee.reached,
    (sinks i).Vouches x

variable {t : ℕ} {tee : TeeState} {sinks sinks' : ℕ → LoggedSink}

lemma TeeSound.mono (h : TeeSound t tee sinks)
    (hlog : ∀ i x, (sinks i).log.wrote x = true → (sinks' i).log.wrote x = true)
    (hvouches : ∀ i x, x.caller = .tee t → (sinks i).Vouches x → (sinks' i).Vouches x) :
    TeeSound t tee sinks' where
  caller := h.caller
  reached x hx i hi := (h.reached x hx i hi).imp_right (hlog i x)
  underWay f hf :=
    { silent := (h.underWay f hf).silent
      write_eq := (h.underWay f hf).write_eq
      suffix := (h.underWay f hf).suffix
      vouched := fun done hdone herr hall x hx i hi hrea =>
        hvouches i x (h.caller x hx) ((h.underWay f hf).vouched done hdone herr
          hall x hx i hi hrea) }
  reported hdel x hx i hi :=
    hvouches i x (h.caller x hx) (h.reported hdel x hx i hi)

variable {i : ℕ} {result : Status} {d : LoggedSink}

lemma wrote_update {c : LeafCall} (hcall : LoggedSink.Called c result (sinks i) d) (j : ℕ)
    (x : Write) (h : (sinks j).log.wrote x = true) :
    (Function.update sinks i d j).log.wrote x = true := by
  by_cases hj : j = i
  · subst hj
    rw [update_self, hcall.log_eq, CallLog.wrote, any_cons, Bool.or_eq_true]
    exact .inr h
  · rwa [update_of_ne hj]

lemma TeeSound.called {c : LeafCall} (h : TeeSound t tee sinks)
    (hcall : LoggedSink.Called c result (sinks i) d)
    (hother : ∀ x, c = .write x → x.caller ≠ .tee t) :
    TeeSound t tee (Function.update sinks i d) := by
  refine h.mono (wrote_update hcall) fun j x hcalled hx => ?_
  by_cases hj : j = i
  · subst hj
    rw [update_self]
    exact hcall.vouches (fun hc => hother x hc hcalled) hx
  · rwa [update_of_ne hj]

lemma TeeSound.start (h : TeeSound t tee sinks) (c : SinkCall) :
    TeeSound t (tee.start t c) sinks := by
  -- A call that is no write: no child has been called yet.
  have hfl : ∀ call : LeafCall, (∀ x, call ≠ .write x) → TeeSound t { tee with
        lastDelivered := false, call := some ⟨call, tee.children, true, none⟩,
        seq := tee.seq + 1 } sinks := by
    intro call hcall
    refine ⟨h.caller, h.reached, ?_, fun hdel => (by cases hdel)⟩
    intro f hf
    obtain rfl := Option.some.inj hf
    refine ⟨rfl, fun x hx => absurd hx (hcall x), suffix_rfl, ?_⟩
    intro done hdone herr hall x hx i hi hrea
    simp_all
  cases c with
  | flush => exact hfl .flush fun x hx => (by cases hx)
  | close => exact hfl .close fun x hx => (by cases hx)
  | writeKind kind data =>
    -- A new write has reached no child.
    refine ⟨fun x hx => ?_, fun x hx i hi => (by cases hi), fun f hf => ?_,
      fun hdel => (by cases hdel)⟩
    · obtain rfl := Option.some.inj hx
      rfl
    · obtain rfl := Option.some.inj hf
      refine ⟨rfl, fun x hx => congrArg some (LeafCall.write.inj hx), suffix_rfl, ?_⟩
      intro done hdone herr hall x hx i hi hrea
      cases hrea

variable {f : FanOut}

lemma TeeSound.finish (h : TeeSound t tee sinks) (hf : tee.call = some f) (hrest : f.rest = []) :
    TeeSound t (tee.finish f) sinks := by
  refine ⟨h.caller, h.reached, fun f' hf' => (by cases hf'), fun hdel x hx i hi => ?_⟩
  have hunder := h.underWay f hf
  unfold TeeState.finish at hdel
  dsimp only at hdel
  split at hdel
  · rw [hunder.silent] at hdel
    cases hdel
  · next hnone =>
    refine hunder.vouched tee.children ?_ hnone hdel x hx i (h.reached x hx i hi).1 hi
    rw [hrest, append_nil]

variable {x : Write}

lemma FanOutSound.vouches_answered (h : FanOutSound f tee sinks)
    (hcall : LoggedSink.Called f.call (.ok ()) (sinks i) d)
    (hdelivered : d.sink.lastWriteDelivered = true) (hx : tee.lastWrite = some x)
    (hwrote : f.call = .write x ∨ (sinks i).log.wrote x = true) : d.Vouches x := by
  rcases hc : f.call with y | _ | _
  · obtain rfl := Option.mem_unique (h.write_eq y hc) hx
    rw [hc] at hcall
    exact hcall.vouches_write hdelivered
  · refine hcall.flushed rfl (.inl hc) x (hwrote.resolve_left ?_) hdelivered
    rw [hc]
    exact fun h => (by cases h)
  · refine hcall.flushed rfl (.inr hc) x (hwrote.resolve_left ?_) hdelivered
    rw [hc]
    exact fun h => (by cases h)

lemma TeeSound.reached_answered {rest : List ℕ} (h : TeeSound t tee sinks) (hf : tee.call = some f)
    (hrest : f.rest = i :: rest) (hcall : LoggedSink.Called f.call result (sinks i) d)
    (hx : tee.lastWrite = some x) {delivered : Bool} {j : ℕ}
    (hj : j ∈ (tee.answered i rest f result delivered).reached) :
    j ∈ tee.children ∧ (Function.update sinks i d j).log.wrote x = true := by
  have hunder := h.underWay f hf
  have hold : j ∈ tee.reached →
      j ∈ tee.children ∧ (Function.update sinks i d j).log.wrote x = true := fun hj =>
    (h.reached x hx j hj).imp_right (wrote_update hcall j x)
  unfold TeeState.answered at hj
  rcases hc : f.call with y | _ | _
  · rw [hc] at hj
    obtain hj | hj := mem_append.mp hj
    · exact hold hj
    · obtain rfl := mem_singleton.mp hj
      obtain rfl := Option.mem_unique (hunder.write_eq y hc) hx
      have hchild : j ∈ f.rest := by rw [hrest]; exact mem_cons_self
      refine ⟨hunder.suffix.subset hchild, ?_⟩
      rw [update_self, hcall.log_eq, hc]
      simp [CallLog.wrote]
  · rw [hc] at hj
    exact hold hj
  · rw [hc] at hj
    exact hold hj

lemma TeeSound.answered {rest : List ℕ} (h : TeeSound t tee sinks) (hf : tee.call = some f)
    (hrest : f.rest = i :: rest) (hcall : LoggedSink.Called f.call result (sinks i) d) :
    TeeSound t (tee.answered i rest f result d.sink.lastWriteDelivered)
      (Function.update sinks i d) := by
  have hunder := h.underWay f hf
  have hsuffix : i :: rest <:+ tee.children := hrest ▸ hunder.suffix
  refine ⟨h.caller, fun x hx j hj => h.reached_answered hf hrest hcall hx hj, fun f' hf' => ?_,
    fun hdel => absurd hdel (by simp [TeeState.answered, hunder.silent])⟩
  obtain rfl := Option.some.inj hf'
  refine ⟨hunder.silent, hunder.write_eq, ?_, fun done hdone herr hall x hx j hj hrea => ?_⟩
  · split_ifs
    · exact nil_suffix
    · exact (suffix_cons i rest).trans hsuffix
  · dsimp only at hdone herr hall
    -- No child has failed, so neither has this one, and the loop goes on.
    cases result with
    | error e => cases herr' : f.firstError <;> simp [herr'] at herr
    | ok _ =>
      obtain ⟨hall, hdel⟩ := Bool.and_eq_true_iff.mp hall
      obtain ⟨before, hbefore⟩ := hsuffix
      obtain rfl : done = before ++ [i] := by
        refine append_cancel_right (hdone.trans ?_)
        rw [append_assoc]
        exact hbefore.symm
      have hwrote := (h.reached_answered hf hrest hcall hx hrea).2
      by_cases hji : j = i
      · subst hji
        rw [update_self, hcall.log_eq, CallLog.wrote, any_cons, Bool.or_eq_true] at hwrote
        rw [update_self]
        exact hunder.vouches_answered hcall hdel hx (hwrote.imp_left of_decide_eq_true)
      · -- Another child is as it was.
        rw [update_of_ne hji]
        have hj : j ∈ before := by simpa [hji] using hj
        refine hunder.vouched before (hrest ▸ hbefore) (by simpa using herr) hall x hx j hj ?_
        unfold TeeState.answered at hrea
        dsimp only at hrea
        split at hrea
        · simpa [hji] using hrea
        · exact hrea
        · exact hrea

/-! ## Runs -/

structure Sound (s : SinkSystem) : Prop where
  sinks : ∀ i, (s.sinks i).Sound
  tees : ∀ t, TeeSound t (s.tees t) s.sinks

lemma Fresh.sound (h : s.Fresh) : s.Sound := by
  constructor
  · intro i
    obtain ⟨sink, hfresh, hsink⟩ := h.sinks i
    rw [hsink]
    exact LoggedSink.sound_of_fresh hfresh
  · intro t
    obtain ⟨children, htee⟩ := h.tees t
    rw [htee]
    exact ⟨fun x hx => (by cases hx), fun x hx => (by cases hx), fun f hf => (by cases hf),
      fun hdel => (by cases hdel)⟩

lemma Sound.setTee (h : s.Sound) (htee : TeeSound t tee s.sinks) : (s.setTee t tee).Sound := by
  refine ⟨h.sinks, fun t' => ?_⟩
  by_cases ht : t' = t
  · subst ht
    simpa [SinkSystem.setTee] using htee
  · simpa [SinkSystem.setTee, ht] using h.tees t'

lemma Sound.sinks_update (h : s.Sound) (hd : d.Sound) (j : ℕ) :
    (Function.update s.sinks i d j).Sound := by
  by_cases hj : j = i
  · subst hj
    rwa [update_self]
  · rw [update_of_ne hj]
    exact h.sinks j

lemma caller_of_stamp {caller : Caller} {seq : ℕ} {c : SinkCall} (h : c.stamp caller seq = .write x)
    : x.caller = caller := by
  cases c with
  | writeKind kind data =>
    obtain rfl := LeafCall.write.inj h
    rfl
  | flush => cases h
  | close => cases h

lemma Sound.step {a : SinkAction} (h : s.Sound) (hstep : SinkSystem.step a s = some s') :
    s'.Sound := by
  obtain ⟨i, c, result, d, hcall, rfl⟩ | ⟨t, c, -, rfl⟩ |
    ⟨t, f, i, rest, result, d, hf, hrest, hcall, rfl⟩ | ⟨t, f, hf, hrest, rfl⟩ := step_cases hstep
  · have hcalled := (h.sinks i).called hcall
    refine ⟨h.sinks_update hcalled.sound, fun t => (h.tees t).called hcalled fun x hx => ?_⟩
    rw [caller_of_stamp hx]
    exact fun hc => (by cases hc)
  · exact h.setTee ((h.tees t).start c)
  · have hcalled := (h.sinks i).called hcall
    refine ⟨h.sinks_update hcalled.sound, fun t' => ?_⟩
    by_cases ht : t' = t
    · subst ht
      change TeeSound t' (Function.update s.tees t' _ t') _
      rw [update_self]
      exact (h.tees t').answered hf hrest hcalled
    · change TeeSound t' (Function.update s.tees t _ t') _
      rw [update_of_ne ht]
      refine (h.tees t').called hcalled fun x hx => ?_
      rw [(h.tees t).caller x (((h.tees t).underWay f hf).write_eq x hx)]
      grind
  · exact h.setTee ((h.tees t).finish hf hrest)

/-- What is reported of the last write is true, up to what sinks and tees do not keep track of.
Whatever calls are made, through any tees, in any interleaving and with any outcomes: a write
reported by a sink was accepted, unless it is a file sink and a call has failed since; if a tee
reports it, every child has accepted it, except one it has not reached, a file sink with a failed
call since, and a memory sink with another write since. -/
theorem last_write_delivered_sound {s₀ : SinkSystem} (h₀ : s₀.Fresh) {as : List SinkAction}
    (hrun : runActions SinkSystem.step as s₀ = some s) :
    (∀ i x, (s.sinks i).sink.lastWriteDelivered = true → (s.sinks i).log.lastWrite = some x →
      (s.sinks i).sink.Accepted x ∨
        ((∃ world, (s.sinks i).sink = .file world) ∧ (s.sinks i).log.failedSince x = true)) ∧
    ∀ t x, (s.tees t).lastDelivered = true → (s.tees t).lastWrite = some x →
      ∀ i ∈ (s.tees t).children, i ∈ (s.tees t).reached → ¬ (s.sinks i).Lapsed x →
        (s.sinks i).sink.Accepted x := by
  have hsound : s.Sound := runActions_invariant (fun a s s' h hstep => h.step hstep) h₀.sound hrun
  constructor
  · intro i x hdel hx
    exact (hsound.sinks i).reported hdel hx
  · intro t x hdel hx i _ hrea hlapsed
    exact ((hsound.tees t).reported hdel x hx i hrea).resolve_right hlapsed

/-! ## What is not kept track of -/

/-- A Kafka sink whose broker refuses the second produce, a memory sink, a file sink on a disk full
at first, and a memory sink of three bytes. The tee 0 is over the first two, all others over the
second. -/
def troubledSystem : SinkSystem where
  sinks
    | 0 => ⟨.kafka (.start
        { batchedConfig with flushMode := .perRecord, retry := { maxAttempts := 1 } }
        (fun n => if n = 1 then .err "leader not available" else .ok) fun _ => .ok), []⟩
    | 1 => ⟨.memory { maxBytes := none } [], []⟩
    | 2 => ⟨.file (.start fun n =>
        if n = 0 then .err "no space left on device" 0 0 0 else .ok 0), []⟩
    | _ => ⟨.memory { maxBytes := some 3 } [], []⟩
  tees
    | 0 => { children := [0, 1] }
    | _ => { children := [3] }

lemma troubledSystem_fresh : troubledSystem.Fresh := by
  constructor
  · intro i
    match i with
    | 0 => exact ⟨_, .kafka _ _ _, rfl⟩
    | 1 => exact ⟨_, .memory none, rfl⟩
    | 2 => exact ⟨_, .file _, rfl⟩
    | _ + 3 => exact ⟨_, .memory (some 3), rfl⟩
  · intro t
    match t with
    | 0 => exact ⟨[0, 1], rfl⟩
    | _ + 1 => exact ⟨[3], rfl⟩

/-- A write, then one that stops at the Kafka sink, which keeps the record, then a flush, which
delivers it: the tee reports delivery, and the memory sink has never seen it. -/
theorem tee_reports_unreached_write : troubledSystem.Fresh ∧ ∃ s, runActions SinkSystem.step
        [.start 0 (.writeKind .device [1]), .child 0, .child 0, .finish 0,
          .start 0 (.writeKind .device [2]), .child 0, .finish 0,
          .start 0 .flush, .child 0, .child 0, .finish 0] troubledSystem = some s ∧
      (s.tees 0).lastDelivered = true ∧
      (s.tees 0).lastWrite = some ⟨.tee 0, 1, .device, [2]⟩ ∧ 1 ∈ (s.tees 0).children ∧
      ¬ (s.sinks 1).sink.Accepted ⟨.tee 0, 1, .device, [2]⟩ :=
  ⟨troubledSystem_fresh, _, rfl, by decide +kernel, by decide +kernel, by decide +kernel,
    by decide +kernel⟩

/-- A write that fails, then a flush of nothing. -/
example : ∃ s, runActions SinkSystem.step
        [.direct 2 (.writeKind .device [1]), .direct 2 .flush] troubledSystem = some s ∧
      (s.sinks 2).sink.lastWriteDelivered = true ∧
      (s.sinks 2).log.lastWrite = some ⟨.sink 2, 0, .device, [1]⟩ ∧
      ¬ (s.sinks 2).sink.Accepted ⟨.sink 2, 0, .device, [1]⟩ :=
  ⟨_, rfl, by decide +kernel, by decide +kernel, by decide +kernel⟩

/-- A write too long, then a short one through another tee, then a flush through the first. -/
example : ∃ s, runActions SinkSystem.step
        [.start 1 (.writeKind .device [1, 2, 3, 4]), .child 1, .finish 1,
          .start 2 (.writeKind .device [5]), .child 2, .finish 2,
          .start 1 .flush, .child 1, .finish 1] troubledSystem = some s ∧
      (s.tees 1).lastDelivered = true ∧
      (s.tees 1).lastWrite = some ⟨.tee 1, 0, .device, [1, 2, 3, 4]⟩ ∧
      3 ∈ (s.tees 1).children ∧
      ¬ (s.sinks 3).sink.Accepted ⟨.tee 1, 0, .device, [1, 2, 3, 4]⟩ :=
  ⟨_, rfl, by decide +kernel, by decide +kernel, by decide +kernel, by decide +kernel⟩

/-- The first write through the tee is delivered to both sinks. -/
theorem last_write_delivered_sound_tee : ∃ s, runActions SinkSystem.step
        [.start 0 (.writeKind .device [1]), .child 0, .child 0, .finish 0] troubledSystem = some s ∧
      (s.tees 0).lastDelivered = true ∧
      (s.sinks 1).sink.Accepted ⟨.tee 0, 0, .device, [1]⟩ := by
  have hrun : runActions SinkSystem.step
      [.start 0 (.writeKind .device [1]), .child 0, .child 0, .finish 0] troubledSystem =
      some _ := rfl
  refine ⟨_, hrun, by decide +kernel, ?_⟩
  refine (last_write_delivered_sound troubledSystem_fresh hrun).2 0 _ ?_ ?_ 1 ?_ ?_ ?_
  · decide +kernel
  · decide +kernel
  · decide +kernel
  · decide +kernel
  · exact fun h => h rfl

end SinkSystem

end Rastreo
