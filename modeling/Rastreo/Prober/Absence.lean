import Rastreo.Prober.LinkLayer

/-!
# When link-layer probes report absence

A probe should be reported absent only when its deadline has passed without a reply or a fault while
its waiter was registered, and no probe should take away the waiter of another.  Waiters are removed
by address, though: a probe whose own waiter is gone still deregisters the address, and with it
whichever probe has registered there since (`third_probe_absent`).  `no_false_absence_iff` says
exactly when all is well.
-/

namespace Rastreo

open Option Function

/-- A reply for the address, a second registration, or the death of the reader. -/
def LinkAction.answers {Addr : Type} [DecidableEq Addr] (addr : Addr) : LinkAction Addr → Bool
  | .register _ a _ _ _ => a = addr
  | .read (.frame (some (a, _))) => a = addr
  | .read (.error err) => !recvErrorIsTransient err
  | .read .panic => true
  | _ => false

/-- At most the attempts left lie between an instant and the deadline. -/
def LinkPhase.InBudget (slice now : ℕ) : LinkPhase → Prop
  | .sending deadline left => deadline ≤ now + (left + 1) * slice
  | .waiting deadline left attemptDeadline => deadline ≤ attemptDeadline + left * slice
  | .elapsed deadline left => deadline ≤ now + left * slice
  | .leaving deadline => deadline ≤ now
  | _ => True

def LinkProbe.InBudget {Addr : Type} (probe : LinkProbe Addr) (now : ℕ) : Prop :=
  probe.retries.toNat + 1 ∣ probe.timeout ∧
    probe.phase.InBudget (perAttemptTimeout probe.timeout probe.retries) now

namespace LinkEngine

variable {Addr : Type} [DecidableEq Addr]

def Registered (s : LinkEngine Addr) (p : ℕ) : Prop :=
  ∃ addr w, s.addrOf p = some addr ∧ s.demux.waiters.lookup addr = some w ∧ w.tx = p

def Reports (s s' : LinkEngine Addr) (p : ℕ) (outcome : ProbeOutcome) : Prop :=
  s'.phaseOf p = some (.done outcome) ∧ ∀ o, s.phaseOf p ≠ some (.done o)

section Runs

variable (proto : LinkLayerProtocol) (wall : ℕ → SystemTime) (as : List (LinkAction Addr))

/-- A reply or a fault came while the waiter was registered, before an instant. -/
def AnsweredIn (p deadline : ℕ) : Prop :=
  ∃ before a s s' addr, Takes (step proto wall) as new before a s s' ∧ s.now < deadline ∧
    s.Registered p ∧ s.addrOf p = some addr ∧ a.answers addr = true

/-- One of these came after its last look at the channel. -/
def MissedIn (p deadline : ℕ) : Prop :=
  ∃ before a s s' addr phase, Takes (step proto wall) as new before a s s' ∧ s.now < deadline ∧
    s.Registered p ∧ s.addrOf p = some addr ∧ a.answers addr = true ∧
    s.phaseOf p = some phase ∧ phase.looked = true

/-- Absence is reported after the deadline and without an answer before it, and no probe takes away
the waiter of another. -/
structure NoFalseAbsence : Prop where
  absent : ∀ {before a s s' p outcome}, Takes (step proto wall) as new before a s s' →
    Reports s s' p outcome → outcome.reachable = false → outcome.fault = none →
    ∃ deadline, (s.phaseOf p).bind LinkPhase.deadline = some deadline ∧ deadline ≤ s.now ∧
      ¬AnsweredIn proto wall before p deadline
  keeps : ∀ {before a s s' p q}, Takes (step proto wall) as new before a s s' →
    a.actor = some p → q ≠ p → s.Registered q → s'.Registered q

/-- One whose waiter is gone finds no other in its place, and one that gives up has used its time
and has missed nothing since it last looked. -/
structure LeavesCleanly : Prop where
  place_free : ∀ {before p s s' addr},
    Takes (step proto wall) as new before (.deregister p) s s' → s.addrOf p = some addr →
    s.demux.channels p ≠ .empty → s.demux.waiters.lookup addr = none
  in_time : ∀ {before p s s' deadline}, Takes (step proto wall) as new before (.deregister p) s s' →
    s.phaseOf p = some (.leaving deadline) →
    deadline ≤ s.now ∧ ¬MissedIn proto wall before p deadline

end Runs

/-! ## Steps -/

section Steps

variable {proto : LinkLayerProtocol} {wall : ℕ → SystemTime} {s s' : LinkEngine Addr}
  {a : LinkAction Addr} {p : ℕ} {probe : LinkProbe Addr}

/-- Its channel is closed, or it leaves. -/
lemma Moves.absent {outcome : ProbeOutcome}
    (h : s.Moves proto wall p probe a (.done outcome)) (hreach : outcome.reachable = false)
    (hfault : outcome.fault = none) : s.demux.channels p = .closed ∨
      (∃ q, a = .deregister q) ∧ ∃ deadline, probe.phase = .leaving deadline := by
  cases h with
  | @answered _ _ _ _ reply =>
    cases reply with
    | reached mac => cases hreach
    | failed fault => cases hfault
  | closed _ hclosed => exact .inl hclosed
  | left h => exact .inr ⟨⟨_, rfl⟩, _, h⟩
  | failed => cases hfault

variable {event : ReadEvent Addr}

lemma closed_of_read (h : (s.read proto event).demux.channels p = .closed)
    : s.demux.channels p = .closed := by
  unfold read at h
  split at h
  · exact h
  · exact Demux.closed_of_dispatch h
  · split_ifs at h
    · exact h
    · exact Demux.closed_of_poisonWith h
  · exact Demux.closed_of_poisonWith h

lemma lookup_of_read {addr : Addr} {w : Waiter Unit}
    (h : (s.read proto event).demux.waiters.lookup addr = some w) :
    s.demux.waiters.lookup addr = some w := by
  unfold read at h
  split at h
  · exact h
  · exact Demux.lookup_of_dispatch h
  · split_ifs at h
    · exact h
    · exact Demux.lookup_of_poisonWith h
  · exact Demux.lookup_of_poisonWith h

lemma lookup_read_of_answers (htracks : s.demux.Tracks s.addrOf)
    {addr : Addr} (h : (LinkAction.read event).answers addr = true) :
    (s.read proto event).demux.waiters.lookup addr = none := by
  -- A poisoned table is empty, whether or not it was poisoned before.
  have hpoison : ∀ fault, (s.demux.poisonWith fault).waiters.lookup addr = none := by
    intro fault
    cases hpoison : s.demux.poison with
    | none => simp [(Demux.poisonWith_of_none hpoison fault).1]
    | some first =>
      simpa [Demux.poisonWith, hpoison] using htracks.empty_of_poison (by simp [hpoison]) addr
  cases event with
  | frame source =>
    obtain _ | ⟨key, mac⟩ := source
    · simp [LinkAction.answers] at h
    · obtain rfl : key = addr := by simpa [LinkAction.answers] using h
      simp only [read, Demux.dispatch]
      split
      · simp
      · assumption
  | error err =>
    have htransient : recvErrorIsTransient err = false := by simpa [LinkAction.answers] using h
    simpa [read, htransient] using hpoison _
  | panic => exact hpoison _

lemma waiter_eq_of_empty (h : s.demux.Tracks s.addrOf)
    (hp : s.probes p = some probe) (hempty : s.demux.channels p = .empty) {w : Waiter Unit}
    (hw : s.demux.waiters.lookup probe.addr = some w) : w.tx = p := by
  have haddr : s.addrOf p = some probe.addr := by simp [addrOf, hp]
  obtain ⟨w', hw', htx⟩ := h.waiter_of_empty haddr hempty
  grind

def ClosedOver (s : LinkEngine Addr) : Prop :=
  ∀ p, s.demux.channels p = .closed → ∃ phase, s.phaseOf p = some phase ∧ phase.over = true

lemma demuxAfter_cases (hactor : a.actor = some p) (addr : Addr) :
    a = .deregister p ∧ s.demuxAfter addr a = s.demux.deregister addr ∨
      (∀ q, a ≠ .deregister q) ∧ s.demuxAfter addr a = s.demux := by
  cases a <;> cases hactor <;> simp [demuxAfter]

lemma lookup_of_demuxAfter {key addr : Addr} {w : Waiter Unit}
    (h : (s.demuxAfter key a).waiters.lookup addr = some w) :
    s.demux.waiters.lookup addr = some w := by
  unfold demuxAfter at h
  split at h
  · exact Demux.lookup_of_deregister h
  · exact h

variable {phase : LinkPhase}

lemma ne_of_phaseOf {q : ℕ} (hphase : s.phaseOf q = some phase)
    (hnone : s.probes p = none) : q ≠ p := by
  rintro rfl
  simp [phaseOf, hnone] at hphase

/-- A deregistration that meets another waiter is the only exception. -/
lemma closedOver_step (htracks : s.demux.Tracks s.addrOf) (h : s.ClosedOver)
    (hstep : step proto wall a s = some s')
    (hclean : ∀ p addr, a = .deregister p → s.addrOf p = some addr →
      s.demux.channels p ≠ .empty → s.demux.waiters.lookup addr = none) : s'.ClosedOver := by
  intro q hclosed
  cases steps_of_step hstep with
  | register hnone =>
    obtain ⟨phase, hph, hover⟩ := h q (Demux.closed_of_register hclosed)
    exact ⟨phase, by simpa [phaseOf, update_of_ne (ne_of_phaseOf hph hnone)] using hph, hover⟩
  | @moves _ p probe phase hactor hp hmoves =>
    -- A probe that takes a step was not over, so its channel was not closed before.
    have hopen : s.demux.channels p ≠ .closed := by
      intro hclosed
      obtain ⟨phase', hph, hover⟩ := h p hclosed
      obtain rfl : probe.phase = phase' := by simpa [phaseOf, hp] using hph
      exact absurd (hmoves.not_over.symm.trans hover) Bool.false_ne_true
    rw [demux_setPhase] at hclosed
    by_cases hq : q = p
    · subst hq
      rcases demuxAfter_cases hactor probe.addr with ⟨rfl, -⟩ | ⟨-, hdemux⟩
      · exact ⟨phase, phaseOf_setPhase_self _ _ _, by cases hmoves <;> rfl⟩
      · exact absurd (hdemux ▸ hclosed) hopen
    · rw [phaseOf_setPhase_of_ne hq]
      refine h q ?_
      rcases demuxAfter_cases hactor probe.addr with ⟨rfl, hdemux⟩ | ⟨-, hdemux⟩
      · rcases Demux.closed_of_deregister (hdemux ▸ hclosed) with hclosed | ⟨w, hw, htx⟩
        · exact hclosed
        · -- The waiter under the address would be another probe's.
          refine absurd ?_ hq
          by_cases hempty : s.demux.channels p = .empty
          · rw [← htx, waiter_eq_of_empty htracks hp hempty hw]
          · rw [hclean p probe.addr rfl (by simp [addrOf, hp]) hempty] at hw
            cases hw
      · exact hdemux ▸ hclosed
  | read event =>
    obtain ⟨phase, hph, hover⟩ := h q (closed_of_read hclosed)
    exact ⟨phase, by simpa [phaseOf] using hph, hover⟩
  | tick d => exact h q hclosed

/-! ### Answers a probe has still to find

A probe that is answered before it looks at its channel finds the answer there, and does not give
up. -/

lemma Registered.of_step (htracks : s.demux.Tracks s.addrOf)
    (hstep : step proto wall a s = some s') (hphase : s.phaseOf p = some phase)
    (h : s'.Registered p) : s.Registered p := by
  obtain ⟨addr, w, haddr, hw, htx⟩ := h
  cases steps_of_step hstep with
  | register hnone =>
    have hne := ne_of_phaseOf hphase hnone
    rcases Demux.lookup_of_register hw htracks.empty_of_poison with ⟨-, hnew⟩ | ⟨-, hold⟩
    · exact absurd (htx.symm.trans hnew) hne
    · exact ⟨addr, w, by simpa [addrOf, update_of_ne hne] using haddr, hold, htx⟩
  | moves _ hq _ =>
    rw [addrOf_setPhase hq] at haddr
    exact ⟨addr, w, haddr, lookup_of_demuxAfter hw, htx⟩
  | read event => exact ⟨addr, w, by simpa [addrOf] using haddr, lookup_of_read hw, htx⟩
  | tick d => exact ⟨addr, w, haddr, hw, htx⟩

/-- Its waiter is gone, and it has still to look. -/
structure Unheard (s : LinkEngine Addr) (p : ℕ) : Prop where
  gone : ¬s.Registered p
  listens : ∃ phase, s.phaseOf p = some phase ∧ phase.looked = false

/-- Only one whose channel is empty gives up listening. -/
lemma Moves.listens (h : s.Moves proto wall p probe a phase) (hbefore : probe.phase.looked = false)
    (hch : s.demux.channels p ≠ .empty) : phase.looked = false := by
  cases h with
  | elapsed _ hempty _ => exact absurd hempty hch
  | gaveUp h _ => simp [h, LinkPhase.looked] at hbefore
  | _ => rfl

lemma Unheard.step (htracks : s.demux.Tracks s.addrOf) (h : s.Unheard p)
    (hstep : step proto wall a s = some s') : s'.Unheard p := by
  obtain ⟨hgone, phase, hphase, hlistens⟩ := h
  refine ⟨fun hreg => hgone (hreg.of_step htracks hstep hphase), ?_⟩
  have hch : s.demux.channels p ≠ .empty := by
    intro hempty
    obtain ⟨probe, hp, -⟩ := map_eq_some_iff.mp hphase
    have haddr : s.addrOf p = some probe.addr := by simp [addrOf, hp]
    obtain ⟨w, hw, htx⟩ := htracks.waiter_of_empty haddr hempty
    exact hgone ⟨probe.addr, w, haddr, hw, htx⟩
  cases steps_of_step hstep with
  | register hnone =>
    have hne := ne_of_phaseOf hphase hnone
    exact ⟨phase, by simpa [phaseOf, update_of_ne hne] using hphase, hlistens⟩
  | @moves _ q probe phase' _ hq hmoves =>
    by_cases hpq : p = q
    · subst hpq
      obtain rfl : probe.phase = phase := by simpa [phaseOf, hq] using hphase
      exact ⟨phase', phaseOf_setPhase_self _ _ _, hmoves.listens hlistens hch⟩
    · rw [phaseOf_setPhase_of_ne hpq]
      exact ⟨phase, hphase, hlistens⟩
  | read event => exact ⟨phase, by simpa [phaseOf] using hphase, hlistens⟩
  | tick d => exact ⟨phase, hphase, hlistens⟩

/-- An answer takes the waiter away. -/
lemma unheard_of_answers (htracks : s.demux.Tracks s.addrOf)
    (hstep : step proto wall a s = some s') {addr : Addr} (haddr : s.addrOf p = some addr)
    (hanswers : a.answers addr = true) (hphase : s.phaseOf p = some phase)
    (hlistens : phase.looked = false) : s'.Unheard p := by
  cases steps_of_step hstep with
  | @register q key _ _ _ hnone =>
    have hne := ne_of_phaseOf hphase hnone
    obtain rfl : key = addr := by simpa [LinkAction.answers] using hanswers
    refine ⟨?_, phase, by simpa [phaseOf, update_of_ne hne] using hphase, hlistens⟩
    rintro ⟨addr', w, haddr', hw, htx⟩
    have haddr' : s.addrOf p = some addr' := by simpa [addrOf, update_of_ne hne] using haddr'
    obtain rfl := Option.mem_unique haddr' haddr
    rcases Demux.lookup_of_register hw htracks.empty_of_poison with ⟨-, hnew⟩ | ⟨hkey, -⟩
    · exact hne (htx.symm.trans hnew)
    · exact hkey rfl
  | moves hactor => cases a <;> cases hactor <;> cases hanswers
  | read event =>
    refine ⟨?_, phase, by simpa [phaseOf] using hphase, hlistens⟩
    rintro ⟨addr', w, haddr', hw, -⟩
    have haddr' : s.addrOf p = some addr' := by simpa [addrOf] using haddr'
    obtain rfl := Option.mem_unique haddr' haddr
    rw [lookup_read_of_answers htracks hanswers] at hw
    cases hw
  | tick => cases hanswers

end Steps

/-! ## Runs -/

section Runs

variable {proto : LinkLayerProtocol} {wall : ℕ → SystemTime} {as before : List (LinkAction Addr)}
  {a : LinkAction Addr} {s s' : LinkEngine Addr}

lemma tracks_of_takes (h : Takes (step proto wall) as new before a s s') :
    s.demux.Tracks s.addrOf := by
  refine h.invariant (P := fun s => s.demux.Tracks s.addrOf) Demux.tracks_new ?_
  exact fun htaken htracks => tracks_step htracks htaken.taken

lemma closedOver_of_takes (hclean : LeavesCleanly proto wall as)
    (h : Takes (step proto wall) as new before a s s') : s.ClosedOver := by
  have hboth : s.demux.Tracks s.addrOf ∧ s.ClosedOver := by
    refine h.invariant (P := fun s => s.demux.Tracks s.addrOf ∧ s.ClosedOver)
      ⟨Demux.tracks_new, fun p hclosed => by cases hclosed⟩ ?_
    rintro before a s s' htaken ⟨htracks, hclosed⟩
    refine ⟨tracks_step htracks htaken.taken, closedOver_step htracks hclosed htaken.taken ?_⟩
    rintro p addr rfl haddr hne
    exact hclean.place_free htaken haddr hne
  exact hboth.2

variable {p : ℕ}

lemma Registered.of_lookup (h : s.Registered p) (haddr : s'.addrOf p = s.addrOf p)
    (hlookup : ∀ addr w, s.addrOf p = some addr → s.demux.waiters.lookup addr = some w →
      w.tx = p → s'.demux.waiters.lookup addr = some w) : s'.Registered p := by
  obtain ⟨addr, w, hp, hw, htx⟩ := h
  exact ⟨addr, w, haddr.trans hp, hlookup addr w hp hw htx, htx⟩

lemma deregister_taken (h : Takes (step proto wall) as new before (.deregister p) s s') :
    ∃ probe phase, s.probes p = some probe ∧ s.Moves proto wall p probe (.deregister p) phase ∧
      s' = { s with demux := s.demux.deregister probe.addr }.setPhase p probe phase := by
  cases steps_of_step h.taken with
  | moves hactor hp hmoves =>
    obtain rfl := Option.some.inj hactor
    exact ⟨_, _, hp, hmoves, rfl⟩

variable {probe : LinkProbe Addr} {addr : Addr}

lemma NoFalseAbsence.place_free (h : NoFalseAbsence proto wall as)
    (htaken : Takes (step proto wall) as new before (.deregister p) s s')
    (haddr : s.addrOf p = some addr) (hne : s.demux.channels p ≠ .empty) :
    s.demux.waiters.lookup addr = none := by
  by_contra hsome
  obtain ⟨w, hw⟩ := ne_none_iff_exists'.mp hsome
  have htracks := tracks_of_takes htaken
  have hreg : s.Registered w.tx := ⟨addr, w, htracks.key_of_waiter hw, hw, rfl⟩
  have hother : w.tx ≠ p := by
    rintro rfl
    exact hne (htracks.empty_of_waiter hw)
  obtain ⟨addr', w', haddr', hw', -⟩ := h.keeps htaken rfl hother hreg
  obtain ⟨probe, phase, hp, -, rfl⟩ := deregister_taken htaken
  have hprobe : probe.addr = addr := by simpa [addrOf, hp] using haddr
  rw [addrOf_setPhase hp, htracks.key_of_waiter hw] at haddr'
  obtain rfl := Option.some.inj haddr'
  rw [demux_setPhase, hprobe] at hw'
  simp [Demux.deregister, hw] at hw'

variable {deadline : ℕ}

lemma MissedIn.answeredIn (h : MissedIn proto wall as p deadline) :
    AnsweredIn proto wall as p deadline := by
  obtain ⟨before, a, s, s', addr, -, htaken, hlt, hreg, haddr, hanswers, -⟩ := h
  exact ⟨before, a, s, s', addr, htaken, hlt, hreg, haddr, hanswers⟩

lemma NoFalseAbsence.in_time (h : NoFalseAbsence proto wall as)
    (htaken : Takes (step proto wall) as new before (.deregister p) s s')
    (hph : s.phaseOf p = some (.leaving deadline)) :
    deadline ≤ s.now ∧ ¬MissedIn proto wall before p deadline := by
  obtain ⟨probe, phase, hp, hnext, hs'⟩ := deregister_taken htaken
  have hprobe : probe.phase = .leaving deadline := by simpa [phaseOf, hp] using hph
  have hrep : Reports s s' p (replyToOutcome proto probe.targetIp (wall s.now) none) := by
    refine ⟨?_, fun o => by simp [hph]⟩
    rw [hs', phaseOf_setPhase_self]
    cases hnext with
    | left => rfl
    | failed h => cases hprobe.symm.trans h
  obtain ⟨deadline', hdea, hle, hnot⟩ := h.absent htaken hrep rfl rfl
  rw [hph] at hdea
  obtain rfl := Option.some.inj hdea
  exact ⟨hle, fun h => hnot h.answeredIn⟩

/-- One that gives up was answered before only after its last look. -/
lemma missedIn_of_answeredIn (htakes : Takes (step proto wall) as new before a s s')
    (hph : s.phaseOf p = some (.leaving deadline))
    (h : AnsweredIn proto wall before p deadline) : MissedIn proto wall before p deadline := by
  obtain ⟨earlier, b, t, t', addr, hans, hlt, hreg, haddr, hanswers⟩ := h
  obtain ⟨probe, hp, -⟩ := map_eq_some_iff.mp haddr
  have hphase : t.phaseOf p = some probe.phase := by simp [phaseOf, hp]
  by_contra hmissed
  have hlistens : probe.phase.looked = false := by
    by_contra hlooked
    exact hmissed ⟨earlier, b, t, t', addr, probe.phase, hans, hlt, hreg, haddr, hanswers, hphase,
      by simpa using hlooked⟩
  have htracks := tracks_of_takes hans
  obtain ⟨later, rfl⟩ := hans.position
  have hrun : runActions (step proto wall) later t' = some s := by
    have hreached := htakes.reached
    rw [runActions_append, hans.reached, bind_some] at hreached
    obtain ⟨u, hu, hrest⟩ := runActions_cons_eq_some.mp hreached
    obtain rfl := Option.some.inj (hans.taken.symm.trans hu)
    exact hrest
  have hboth : s.demux.Tracks s.addrOf ∧ s.Unheard p := by
    refine runActions_invariant (P := fun s => s.demux.Tracks s.addrOf ∧ s.Unheard p)
      (fun _ _ _ h hstep => ⟨tracks_step h.1 hstep, h.2.step h.1 hstep⟩)
      ⟨tracks_step htracks hans.taken, ?_⟩ hrun
    exact unheard_of_answers htracks hans.taken haddr hanswers hphase hlistens
  obtain ⟨phase, hphase', hlooked⟩ := hboth.2.listens
  rw [hph] at hphase'
  obtain rfl := Option.some.inj hphase'
  cases hlooked

lemma LeavesCleanly.absent_of_moves (h : LeavesCleanly proto wall as)
    (htakes : Takes (step proto wall) as new before a s s') {outcome : ProbeOutcome}
    (hp : s.probes p = some probe) (hmoves : s.Moves proto wall p probe a (.done outcome))
    (hself : ∀ q, a = .deregister q → q = p) (hreach : outcome.reachable = false)
    (hfault : outcome.fault = none) :
    ∃ deadline, (s.phaseOf p).bind LinkPhase.deadline = some deadline ∧ deadline ≤ s.now ∧
      ¬AnsweredIn proto wall before p deadline := by
  have hphase : s.phaseOf p = some probe.phase := by simp [phaseOf, hp]
  rcases hmoves.absent hreach hfault with hclosed | ⟨⟨q, rfl⟩, deadline, hleaving⟩
  · obtain ⟨phase, hph, hover⟩ := closedOver_of_takes h htakes p hclosed
    obtain rfl := Option.mem_unique hphase hph
    exact absurd (hmoves.not_over.symm.trans hover) Bool.false_ne_true
  · obtain rfl := hself q rfl
    rw [hleaving] at hphase
    obtain ⟨hle, hmissed⟩ := h.in_time htakes hphase
    exact ⟨deadline, by rw [hphase]; rfl, hle,
      fun h => hmissed (missedIn_of_answeredIn htakes hphase h)⟩

lemma LeavesCleanly.absent (h : LeavesCleanly proto wall as)
    (htaken : Takes (step proto wall) as new before a s s') {outcome : ProbeOutcome}
    (hreports : Reports s s' p outcome) (hreach : outcome.reachable = false)
    (hfault : outcome.fault = none) :
    ∃ deadline, (s.phaseOf p).bind LinkPhase.deadline = some deadline ∧ deadline ≤ s.now ∧
      ¬AnsweredIn proto wall before p deadline := by
  obtain ⟨hdone, hnot⟩ := hreports
  cases steps_of_step htaken.taken with
  | @register q =>
    refine absurd ?_ (hnot outcome)
    by_cases hpq : p = q
    · subst hpq
      simp [phaseOf] at hdone
    · simpa [phaseOf, update_of_ne hpq] using hdone
  | @moves _ q probe phase hactor hq hmoves =>
    by_cases hpq : p = q
    · subst hpq
      obtain rfl : phase = .done outcome := by simpa using hdone
      refine h.absent_of_moves htaken hq hmoves (fun r hr => ?_) hreach hfault
      rw [hr] at hactor
      exact Option.some.inj hactor
    · rw [phaseOf_setPhase_of_ne hpq] at hdone
      exact absurd hdone (hnot outcome)
  | read event => exact absurd (by simpa [phaseOf] using hdone) (hnot outcome)
  | tick d => exact absurd hdone (hnot outcome)

lemma LeavesCleanly.keeps (h : LeavesCleanly proto wall as)
    (htaken : Takes (step proto wall) as new before a s s') {q : ℕ} (hact : a.actor = some p)
    (hq : q ≠ p) (hregistered : s.Registered q) : s'.Registered q := by
  cases steps_of_step htaken.taken with
  | @moves _ r probe _ hactor hp _ =>
    obtain rfl := Option.mem_unique hactor hact
    refine hregistered.of_lookup (by rw [addrOf_setPhase hp]) fun addr w haddr hw htx => ?_
    rw [demux_setPhase]
    rcases demuxAfter_cases hactor probe.addr with ⟨rfl, hdemux⟩ | ⟨-, hdemux⟩
    rotate_left
    · rwa [hdemux]
    -- The address is another one, or the place would be free or the probe's own.
    have hne : addr ≠ probe.addr := by
      rintro rfl
      by_cases hempty : s.demux.channels r = .empty
      · exact hq (htx.symm.trans (waiter_eq_of_empty (tracks_of_takes htaken) hp hempty hw))
      · rw [h.place_free htaken (by simp [addrOf, hp]) hempty] at hw
        cases hw
    rw [hdemux, Demux.deregister]
    split
    · rw [Demux.waiters_setChannel, Demux.waiters_remove, AList.lookup_erase_ne hne]
      exact hw
    · exact hw
  | _ => cases hact

/-- In every interleaving of probes and the reader, no absence is false and no waiter of another
taken away, exactly when probes leave cleanly: one that deregisters after its waiter was answered or
pushed out finds no other in its place, and one that reports absence has passed its deadline
unanswered. -/
theorem no_false_absence_iff (proto : LinkLayerProtocol) (wall : ℕ → SystemTime)
    (as : List (LinkAction Addr)) :
    NoFalseAbsence proto wall as ↔ LeavesCleanly proto wall as := by
  constructor
  · intro h
    exact ⟨fun htaken haddr hne => h.place_free htaken haddr hne,
      fun htaken hph => h.in_time htaken hph⟩
  · intro h
    exact ⟨fun htaken hrep hrea hfault => h.absent htaken hrep hrea hfault,
      fun htaken hactor hq hreg => h.keeps htaken hactor hq hreg⟩

/-! ## Probes that do not overlap -/

/-- No probe is registered while another of its address is under way. -/
def Alone (proto : LinkLayerProtocol) (wall : ℕ → SystemTime) (as : List (LinkAction Addr)) :
    Prop :=
  ∀ {before p addr targetIp timeout retries s s'},
    Takes (step proto wall) as new before (.register p addr targetIp timeout retries) s s' →
    ∀ q probe, s.probes q = some probe → probe.addr = addr → probe.phase.over = true

/-- The waiter under the address of a probe under way is its own. -/
def OwnPlace (s : LinkEngine Addr) : Prop :=
  ∀ p probe w, s.probes p = some probe → probe.phase.over = false →
    s.demux.waiters.lookup probe.addr = some w → w.tx = p

lemma ownPlace_step (htracks : s.demux.Tracks s.addrOf) (h : s.OwnPlace)
    (hstep : step proto wall a s = some s')
    (halone : ∀ {p addr targetIp timeout retries}, a = .register p addr targetIp timeout retries →
      ∀ q probe, s.probes q = some probe → probe.addr = addr → probe.phase.over = true) :
    s'.OwnPlace := by
  cases steps_of_step hstep with
  | @register p addr targetIp timeout retries hnone =>
    intro q probe w hq hover hw
    have hplace := Demux.lookup_of_register hw htracks.empty_of_poison
    by_cases hqp : q = p
    · subst hqp
      obtain rfl : LinkProbe.mk addr targetIp timeout retries .registered = probe := by
        simpa using hq
      exact hplace.elim And.right fun hne => absurd rfl hne.1
    · have hq' : s.probes q = some probe := by simpa [update_of_ne hqp] using hq
      rcases hplace with ⟨heq, -⟩ | ⟨-, hw'⟩
      · exact absurd (hover.symm.trans (halone rfl q probe hq' heq)) Bool.false_ne_true
      · exact h q probe w hq' hover hw'
  | @moves _ p probe phase _ hp hmoves =>
    intro q probe' w hq hover hw
    replace hw := lookup_of_demuxAfter hw
    by_cases hqp : q = p
    · subst hqp
      obtain rfl : { probe with phase := phase } = probe' := by simpa [LinkEngine.setPhase] using hq
      exact h q probe w hp hmoves.not_over hw
    · exact h q probe' w (by simpa [LinkEngine.setPhase, update_of_ne hqp] using hq) hover hw
  | read event =>
    intro q probe w hq hover hw
    rw [probes_read] at hq
    exact h q probe w hq hover (lookup_of_read hw)
  | tick d => exact h

/-- Where probes of an address do not overlap, each leaves its own place only. -/
theorem place_free_of_alone (halone : Alone proto wall as)
    (htaken : Takes (step proto wall) as new before (.deregister p) s s')
    (haddr : s.addrOf p = some addr) (hne : s.demux.channels p ≠ .empty) :
    s.demux.waiters.lookup addr = none := by
  have hboth : s.demux.Tracks s.addrOf ∧ s.OwnPlace := by
    refine htaken.invariant (P := fun s => s.demux.Tracks s.addrOf ∧ s.OwnPlace)
      ⟨Demux.tracks_new, fun p probe w hp => by simp [new] at hp⟩ ?_
    rintro before a s s' htaken ⟨htracks, hown⟩
    refine ⟨tracks_step htracks htaken.taken, ownPlace_step htracks hown htaken.taken ?_⟩
    rintro p addr targetIp timeout retries rfl
    exact halone htaken
  obtain ⟨htracks, hown⟩ := hboth
  obtain ⟨probe, phase, hp, hmoves, -⟩ := deregister_taken htaken
  have hprobe : probe.addr = addr := by simpa [addrOf, hp] using haddr
  by_contra hsome
  obtain ⟨w, hw⟩ := ne_none_iff_exists'.mp hsome
  have htx : w.tx = p := hown p probe w hp hmoves.not_over (hprobe ▸ hw)
  exact hne (htx ▸ htracks.empty_of_waiter hw)

/-! ## Attempts that divide the time -/

/-- The attempts of each probe divide its time evenly. -/
def Divides (as : List (LinkAction Addr)) : Prop :=
  ∀ p addr targetIp timeout retries, .register p addr targetIp timeout retries ∈ as →
    retries.toNat + 1 ∣ timeout

lemma timeout_le_attempts {timeout : ℕ} {retries : UInt32} (h : retries.toNat + 1 ∣ timeout) :
    timeout ≤ (retries.toNat + 1) * perAttemptTimeout timeout retries := by
  obtain ⟨k, rfl⟩ := h
  refine Nat.mul_le_mul_left _ ((?_ : k ≤ _).trans (Nat.le_max_left _ _))
  rw [Nat.le_div_iff_mul_le (by omega), Nat.mul_comm]
  exact Nat.mul_le_mul_right _ (Nat.min_le_left _ _)

lemma Moves.inBudget {phase : LinkPhase} (hmoves : s.Moves proto wall p probe a phase)
    (h : probe.InBudget s.now) : LinkProbe.InBudget { probe with phase := phase } s.now := by
  obtain ⟨hdvd, hbudget⟩ := h
  refine ⟨hdvd, ?_⟩
  cases hmoves with
  | start => exact Nat.add_le_add_left (timeout_le_attempts hdvd) _
  | sent h =>
    simp only [h, LinkPhase.InBudget, Nat.succ_mul] at hbudget ⊢
    omega
  | elapsed h _ hle =>
    simp only [h, LinkPhase.InBudget] at hbudget ⊢
    omega
  | gaveUp h hgive =>
    simp only [h, LinkPhase.InBudget] at hbudget ⊢
    rcases hgive with hle | rfl
    · exact hle
    · simpa using hbudget
  | again h =>
    rw [h] at hbudget
    exact hbudget
  | _ => trivial

lemma inBudget_tick (h : probe.InBudget s.now) (d : ℕ) :
    probe.InBudget (s.now + d) := by
  refine ⟨h.1, ?_⟩
  have hbudget := h.2
  unfold LinkPhase.InBudget at hbudget ⊢
  split <;> simp_all <;> omega

/-- One that gives up has used its time. -/
theorem time_up_of_divides (hdiv : Divides as)
    (htakes : Takes (step proto wall) as new before a s s')
    (hph : s.phaseOf p = some (.leaving deadline)) : deadline ≤ s.now := by
  have hbudget : ∀ p probe, s.probes p = some probe → probe.InBudget s.now := by
    refine htakes.invariant (P := fun s => ∀ p probe, s.probes p = some probe →
      probe.InBudget s.now) (fun p probe hp => by simp [new] at hp) ?_
    intro before a s s' htakes hbudget
    cases steps_of_step htakes.taken with
    | @register q key targetIp timeout retries hnone =>
      intro p probe hp
      by_cases hpq : p = q
      · subst hpq
        obtain rfl : LinkProbe.mk key targetIp timeout retries .registered = probe := by
          simpa using hp
        obtain ⟨after, hafter⟩ := htakes.position
        exact ⟨hdiv p key targetIp timeout retries (by simp [hafter]), trivial⟩
      · exact hbudget p probe (by simpa [update_of_ne hpq] using hp)
    | @moves _ q probe phase _ hq hmoves =>
      intro p probe' hp
      by_cases hpq : p = q
      · subst hpq
        obtain rfl : { probe with phase := phase } = probe' := by
          simpa [LinkEngine.setPhase] using hp
        exact hmoves.inBudget (hbudget p probe hq)
      · exact hbudget p probe' (by simpa [LinkEngine.setPhase, update_of_ne hpq] using hp)
    | read event =>
      intro p probe hp
      rw [now_read]
      exact hbudget p probe (by simpa using hp)
    | tick d => exact fun p probe hp => inBudget_tick (hbudget p probe hp) d
  obtain ⟨probe, hp, hphase⟩ := map_eq_some_iff.mp hph
  simpa [LinkPhase.InBudget, hphase] using (hbudget p probe hp).2

/-- Probes leave cleanly where those of an address do not overlap, the attempts of each divide its
time, and none is answered between its last look at its channel and its leaving. -/
theorem leavesCleanly_of_alone (halone : Alone proto wall as) (hdiv : Divides as)
    (hmissed : ∀ {before p s s' deadline},
      Takes (step proto wall) as new before (.deregister p) s s' →
      s.phaseOf p = some (.leaving deadline) → ¬MissedIn proto wall before p deadline) :
    LeavesCleanly proto wall as :=
  ⟨fun htaken haddr hne => place_free_of_alone halone htaken haddr hne,
    fun htaken hph => ⟨time_up_of_divides hdiv htaken hph, hmissed htaken hph⟩⟩

end Runs

/-- An ARP probe whose send fails, and which is answered before it leaves. -/
def answeredProbe : List (LinkAction (BitVec 32)) :=
  [.register 0 0x0A000001 (.v4 0x0A000001) 1000000000 0, .start 0,
    .send 0 (some (.error ⟨.other, "no buffer space"⟩)),
    .read (.frame (some (0x0A000001, ⟨2, 0, 0, 0, 0, 1⟩))), .deregister 0]

theorem place_free_of_alone_answered :
    ∃ s, runActions (step .arp fun _ => 0) (answeredProbe.take 4) new = some s ∧
      s.demux.waiters.lookup 0x0A000001 = none := by
  have halone : Alone .arp (fun _ => 0) answeredProbe := by
    rintro before p addr targetIp timeout retries s s' ⟨⟨after, hpos⟩, hrea, -⟩ q probe hq
    cases before with
    | nil =>
      obtain rfl := Option.some.inj hrea
      cases hq
    | cons b rest =>
      have hmem : .register p addr targetIp timeout retries ∈ answeredProbe.tail := by simp [hpos]
      simp [answeredProbe] at hmem
  have hlast : (runActions (step .arp fun _ => 0) (answeredProbe.take 4) new).map (fun s =>
      (s.addrOf 0, s.demux.channels 0 matches .empty,
        (step .arp (fun _ => 0) (.deregister 0) s).isSome)) =
      some (some 0x0A000001, false, true) := by
    decide +kernel
  obtain ⟨s, hs, hstate⟩ := map_eq_some_iff.mp hlast
  simp only [Prod.mk.injEq] at hstate
  obtain ⟨haddr, hch, hsome⟩ := hstate
  obtain ⟨s', hstep⟩ := isSome_iff_exists.mp hsome
  refine ⟨s, hs, place_free_of_alone halone ⟨⟨[], rfl⟩, hs, hstep⟩ haddr fun hempty => ?_⟩
  simp [hempty] at hch

/-! ## Three probes of one address -/

section ThirdProbe

/-- The second ARP probe pushes out the first, the third takes the place, and the send of the second
fails. -/
def thirdProbe : List (LinkAction (BitVec 32)) :=
  [.register 0 0x0A000001 (.v4 0x0A000001) 1000000000 0,
    .register 1 0x0A000001 (.v4 0x0A000001) 1000000000 0,
    .register 2 0x0A000001 (.v4 0x0A000001) 1000000000 0,
    .start 1, .send 1 (some (.error ⟨.other, "no buffer space"⟩)), .start 2,
    .send 2 (some (.ok ())), .deregister 1, .poll 2]

/-- The third is absent a second before its deadline: the second has taken its waiter away. -/
theorem third_probe_absent :
    (∃ s, runActions (step .arp fun _ => 0) thirdProbe new = some s ∧ s.now = 0 ∧
      s.phaseOf 2 = some (.done (absenceOutcome .arp (.v4 0x0A000001) 0))) ∧
    ¬NoFalseAbsence .arp (fun _ => 0) thirdProbe := by
  have hwai : (runActions (step .arp fun _ => 0) (thirdProbe.take 8) new).map
      (fun s => (s.now, s.phaseOf 2)) = some (0, some (.waiting 1000000000 0 1000000000)) := by
    decide +kernel
  have hdone : (runActions (step .arp fun _ => 0) thirdProbe new).map
      (fun s => (s.now, s.phaseOf 2)) =
        some (0, some (.done (absenceOutcome .arp (.v4 0x0A000001) 0))) := by
    decide +kernel
  obtain ⟨s, hs, hstate⟩ := map_eq_some_iff.mp hwai
  obtain ⟨s', hs', hsta'⟩ := map_eq_some_iff.mp hdone
  obtain ⟨hnow, hph⟩ := Prod.mk.inj hstate
  obtain ⟨hnow', hph'⟩ := Prod.mk.inj hsta'
  refine ⟨⟨s', hs', hnow', hph'⟩, fun h => ?_⟩
  have hstep : step .arp (fun _ => 0) (.poll 2) s = some s' := by
    have hlast : thirdProbe = thirdProbe.take 8 ++ [.poll 2] := rfl
    rw [hlast, runActions_append, hs, bind_some] at hs'
    obtain ⟨t, ht, hend⟩ := runActions_cons_eq_some.mp hs'
    rwa [Option.some.inj hend] at ht
  have htaken : Takes (step .arp fun _ => 0) thirdProbe new (thirdProbe.take 8) (.poll 2) s s' :=
    ⟨⟨[], rfl⟩, hs, hstep⟩
  have hrep : Reports s s' 2 (absenceOutcome .arp (.v4 0x0A000001) 0) :=
    ⟨hph', fun o => by simp [hph]⟩
  obtain ⟨deadline, hdea, hle, -⟩ := h.absent htaken hrep rfl rfl
  rw [hph] at hdea
  obtain rfl := Option.some.inj hdea
  simp [hnow] at hle

end ThirdProbe

end LinkEngine

end Rastreo
