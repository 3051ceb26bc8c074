import Rastreo.Library.Machine
import Rastreo.Prober.Classify
import Rastreo.Prober.Demux

/-!
# Link-layer probes over one engine

ARP and NDP probes share a sender, a demultiplexer keyed by address and a reader.  A probe
registers, sends, waits up to the deadline of the attempt, sends again, and leaves when its deadline
has passed or its attempts are used up.  Each action is one atomic step of a probe or of the reader,
or the passing of time, in nanoseconds.
-/

namespace Rastreo

open Option Function

/-! ## Outcomes -/

/-- `LinkLayerProtocol`, as far as a reply is awaited. -/
structure LinkLayerProtocol where
  name : String
  kind : ProbeKind

/-- `ArpProtocol`. -/
def LinkLayerProtocol.arp : LinkLayerProtocol := ⟨"arp", .arp⟩

/-- `NdpProtocol`. -/
def LinkLayerProtocol.ndp : LinkLayerProtocol := ⟨"ndp", .ndp⟩

structure MacAddr where
  a : UInt8
  b : UInt8
  c : UInt8
  d : UInt8
  e : UInt8
  f : UInt8
  deriving DecidableEq

def hexByte (n : UInt8) : String :=
  String.ofList [Nat.digitChar (n.toNat / 16), Nat.digitChar (n.toNat % 16)]

def formatMac (mac : MacAddr) : String :=
  ":".intercalate [hexByte mac.a, hexByte mac.b, hexByte mac.c, hexByte mac.d, hexByte mac.e,
    hexByte mac.f]

section Outcomes

variable (proto : LinkLayerProtocol) (targetIp : IpAddr) (now : SystemTime)

def faultOutcome (fault : ProbeFault) : ProbeOutcome where
  kind := proto.kind
  targetIp := targetIp
  timestamp := now
  reachable := false
  signals := []
  fault := some fault

def linkLayerFault (detail : String) : ProbeOutcome :=
  faultOutcome proto targetIp now ⟨.other, detail⟩

def reachedOutcome (mac : MacAddr) : ProbeOutcome where
  kind := proto.kind
  targetIp := targetIp
  timestamp := now
  reachable := true
  signals := [.mac (formatMac mac)]

def absenceOutcome : ProbeOutcome where
  kind := proto.kind
  targetIp := targetIp
  timestamp := now
  reachable := false
  signals := []

def replyToOutcome : Option (EngineReply MacAddr) → ProbeOutcome
  | some (.reached mac) => reachedOutcome proto targetIp now mac
  | some (.failed fault) => faultOutcome proto targetIp now fault
  | none => absenceOutcome proto targetIp now

end Outcomes

/-! ## The engine -/

/-- Within `send_and_await_reply`; `left` counts the attempts after this one. -/
inductive LinkPhase where
  /-- the overall deadline is not yet computed -/
  | registered
  | sending (deadline left : ℕ)
  | waiting (deadline left attemptDeadline : ℕ)
  /-- the deadline of the attempt has passed -/
  | elapsed (deadline left : ℕ)
  /-- about to deregister and to report absence -/
  | leaving (deadline : ℕ)
  /-- about to deregister and to report a failed send -/
  | failing (detail : String)
  | done (outcome : ProbeOutcome)
  /-- its future was dropped -/
  | dropped
  deriving DecidableEq

def LinkPhase.deadline : LinkPhase → Option ℕ
  | .sending deadline _ | .waiting deadline _ _ | .elapsed deadline _ | .leaving deadline =>
    some deadline
  | _ => none

/-- It has polled its channel, and looks again only if it sends again. -/
def LinkPhase.looked : LinkPhase → Bool
  | .elapsed _ _ | .leaving _ => true
  | _ => false

def LinkPhase.over : LinkPhase → Bool
  | .done _ | .dropped => true
  | _ => false

structure LinkProbe (Addr : Type) where
  addr : Addr
  targetIp : IpAddr
  timeout : ℕ
  retries : UInt32
  phase : LinkPhase

/-- With its clock and its probes, each with the channel of its number. -/
structure LinkEngine (Addr : Type) [DecidableEq Addr] where
  demux : Demux Addr Unit MacAddr
  readerAlive : Bool
  now : ℕ
  probes : ℕ → Option (LinkProbe Addr)

inductive ReadEvent (Addr : Type) where
  /-- a frame, with the address it announces if it is a reply -/
  | frame (source : Option (Addr × MacAddr))
  | error (err : IoError)
  | panic

/-- The atomic steps of probes and reader. -/
inductive LinkAction (Addr : Type) where
  | register (p : ℕ) (addr : Addr) (targetIp : IpAddr) (timeout : ℕ) (retries : UInt32)
  | start (p : ℕ)
  /-- `none` is a packet too large for its buffer -/
  | send (p : ℕ) (result : Option (Except IoError Unit))
  | poll (p : ℕ)
  | check (p : ℕ)
  | deregister (p : ℕ)
  | drop (p : ℕ)
  | read (event : ReadEvent Addr)
  | tick (d : ℕ)

/-- A registration also concerns the waiter that is there. -/
def LinkAction.actor {Addr : Type} : LinkAction Addr → Option ℕ
  | .start p | .send p _ | .poll p | .check p | .deregister p | .drop p => some p
  | .register .. | .read _ | .tick _ => none

section Reader

variable (proto : LinkLayerProtocol)

def recvErrorIsTransient (err : IoError) : Bool :=
  match err.kind with
  | .timedOut | .wouldBlock | .interrupted => true
  | _ => false

/-- `reader_fault`: a dead reader is never absence. -/
def readerFault (err : IoError) : ProbeFault where
  kind :=
    match err.kind.disposition with
    | .fault kind => kind
    | .absence => .other
  detail := proto.name ++ " reader recv failed: " ++ err.text

/-- Of a reader that ends without a reason. -/
def readerExitFault : ProbeFault := ⟨.other, proto.name ++ " reader thread exited unexpectedly"⟩

end Reader

namespace LinkEngine

variable {Addr : Type} [DecidableEq Addr]

/-- `Engine::spawn`. -/
def new : LinkEngine Addr := ⟨Demux.new, true, 0, fun _ => none⟩

def setPhase (s : LinkEngine Addr) (p : ℕ) (probe : LinkProbe Addr) (phase : LinkPhase) :
    LinkEngine Addr :=
  { s with probes := Function.update s.probes p (some { probe with phase }) }

variable (proto : LinkLayerProtocol)

/-- One turn of `run_reader`. -/
def read (s : LinkEngine Addr) : ReadEvent Addr → LinkEngine Addr
  | .frame none => s
  | .frame (some (addr, mac)) => { s with demux := s.demux.dispatch addr (.reached mac) }
  | .error err =>
    if recvErrorIsTransient err then s
    else { s with demux := s.demux.poisonWith (readerFault proto err), readerAlive := false }
  | .panic => { s with demux := s.demux.poisonWith (readerExitFault proto), readerAlive := false }

/-- Of a probe that sends, polls its channel or reads the clock. -/
def nextPhase (wall : ℕ → SystemTime) (s : LinkEngine Addr) (p : ℕ)
    (probe : LinkProbe Addr) : LinkAction Addr → Option LinkPhase
  | .start _ =>
    match probe.phase with
    | .registered => some (.sending (s.now + probe.timeout) probe.retries.toNat)
    | _ => none
  | .send _ result =>
    match probe.phase, result with
    | .sending deadline left, some (.ok ()) =>
      some (.waiting deadline left
        (min (s.now + perAttemptTimeout probe.timeout probe.retries) deadline))
    | .sending _ _, some (.error err) =>
        some (.failing (proto.name ++ " send failed: " ++ err.text))
    | .sending _ _, none =>
      some (.failing (proto.name ++ " send returned None (packet too large for send buffer)"))
    | _, _ => none
  | .poll _ =>
    match probe.phase, s.demux.channels p with
    | .waiting _ _ _, .sent reply =>
      some (.done (replyToOutcome proto probe.targetIp (wall s.now) (some reply)))
    | .waiting _ _ _, .closed =>
      some (.done (replyToOutcome proto probe.targetIp (wall s.now) none))
    | .waiting deadline left attemptDeadline, .empty =>
      if attemptDeadline ≤ s.now then some (.elapsed deadline left) else none
    | _, _ => none
  | .check _ =>
    match probe.phase with
    | .elapsed deadline left =>
      if deadline ≤ s.now then some (.leaving deadline)
      else
        match left with
        | 0 => some (.leaving deadline)
        | left + 1 => some (.sending deadline left)
    | _ => none
  | .deregister _ =>
    match probe.phase with
    | .leaving _ => some (.done (replyToOutcome proto probe.targetIp (wall s.now) none))
    | .failing detail => some (.done (linkLayerFault proto probe.targetIp (wall s.now) detail))
    | _ => none
  | .drop _ => if probe.phase.over then none else some .dropped
  | .register .. | .read _ | .tick _ => none

def advance (wall : ℕ → SystemTime) (a : LinkAction Addr) (p : ℕ)
    (s : LinkEngine Addr) : Option (LinkEngine Addr) :=
  (s.probes p).bind fun probe =>
    (s.nextPhase proto wall p probe a).map fun phase => s.setPhase p probe phase

/-- One atomic step; `wall` is the wall clock at an instant. -/
def step (wall : ℕ → SystemTime) (a : LinkAction Addr)
    (s : LinkEngine Addr) : Option (LinkEngine Addr) :=
  match a with
  | .register p addr targetIp timeout retries =>
    match s.probes p with
    | some _ => none
    | none =>
      some { s with
        demux := s.demux.register addr () p
        probes := Function.update s.probes p
          (some ⟨addr, targetIp, timeout, retries, .registered⟩) }
  | .start p | .send p _ | .poll p | .check p | .drop p => s.advance proto wall a p
  | .deregister p =>
    (s.probes p).bind fun probe =>
      (s.nextPhase proto wall p probe a).map fun phase =>
        { s with demux := s.demux.deregister probe.addr }.setPhase p probe phase
  | .read event => if s.readerAlive then some (s.read proto event) else none
  | .tick d => some { s with now := s.now + d }

def phaseOf (s : LinkEngine Addr) (p : ℕ) : Option LinkPhase := (s.probes p).map LinkProbe.phase

def addrOf (s : LinkEngine Addr) (p : ℕ) : Option Addr := (s.probes p).map LinkProbe.addr

/-! ## Steps -/

section Steps

variable {proto : LinkLayerProtocol} {wall : ℕ → SystemTime} {s s' : LinkEngine Addr}
  {a : LinkAction Addr} {p : ℕ} {probe : LinkProbe Addr}

lemma addrOf_setPhase (hp : s.probes p = some probe) (phase : LinkPhase)
    (demux : Demux Addr Unit MacAddr) :
    ({ s with demux := demux }.setPhase p probe phase).addrOf = s.addrOf := by
  funext q
  by_cases hq : q = p
  · subst hq
    simp [addrOf, setPhase, hp]
  · simp [addrOf, setPhase, update_of_ne hq]

@[simp] lemma phaseOf_setPhase_self (p : ℕ) (probe : LinkProbe Addr) (phase : LinkPhase) :
    (s.setPhase p probe phase).phaseOf p = some phase := by
  simp [phaseOf, setPhase]

lemma phaseOf_setPhase_of_ne {q : ℕ} (hq : q ≠ p) (probe : LinkProbe Addr) (phase : LinkPhase) :
    (s.setPhase p probe phase).phaseOf q = s.phaseOf q := by
  simp [phaseOf, setPhase, update_of_ne hq]

@[simp] lemma demux_setPhase (p : ℕ) (probe : LinkProbe Addr) (phase : LinkPhase) :
    (s.setPhase p probe phase).demux = s.demux := rfl

section Spec

variable (proto : LinkLayerProtocol) (wall : ℕ → SystemTime) (s : LinkEngine Addr)

/-- The moves of a probe, by the phase it is in. -/
inductive Moves (p : ℕ) (probe : LinkProbe Addr) : LinkAction Addr → LinkPhase → Prop
  | start {q} (h : probe.phase = .registered) :
    Moves p probe (.start q) (.sending (s.now + probe.timeout) probe.retries.toNat)
  | sent {q result deadline left} (h : probe.phase = .sending deadline left) :
    Moves p probe (.send q result) (.waiting deadline left
      (min (s.now + perAttemptTimeout probe.timeout probe.retries) deadline))
  | unsent {q result deadline left} (h : probe.phase = .sending deadline left) (detail : String) :
    Moves p probe (.send q result) (.failing detail)
  | answered {q deadline left attempt reply} (h : probe.phase = .waiting deadline left attempt) :
    Moves p probe (.poll q)
      (.done (replyToOutcome proto probe.targetIp (wall s.now) (some reply)))
  | closed {q deadline left attempt} (h : probe.phase = .waiting deadline left attempt)
    (hclosed : s.demux.channels p = .closed) :
    Moves p probe (.poll q) (.done (replyToOutcome proto probe.targetIp (wall s.now) none))
  | elapsed {q deadline left attempt} (h : probe.phase = .waiting deadline left attempt)
    (hempty : s.demux.channels p = .empty) (hle : attempt ≤ s.now) :
    Moves p probe (.poll q) (.elapsed deadline left)
  | gaveUp {q deadline left} (h : probe.phase = .elapsed deadline left)
    (hgive : deadline ≤ s.now ∨ left = 0) : Moves p probe (.check q) (.leaving deadline)
  | again {q deadline left} (h : probe.phase = .elapsed deadline (left + 1)) :
    Moves p probe (.check q) (.sending deadline left)
  | left {q deadline} (h : probe.phase = .leaving deadline) :
    Moves p probe (.deregister q) (.done (replyToOutcome proto probe.targetIp (wall s.now) none))
  | failed {q detail} (h : probe.phase = .failing detail) : Moves p probe (.deregister q)
      (.done (linkLayerFault proto probe.targetIp (wall s.now) detail))
  | dropped {q} (h : probe.phase.over = false) : Moves p probe (.drop q) .dropped

/-- One that leaves gives up the place of its address. -/
def demuxAfter (addr : Addr) : LinkAction Addr → Demux Addr Unit MacAddr
  | .deregister _ => s.demux.deregister addr
  | _ => s.demux

/-- The steps of the engine. -/
inductive Steps : LinkAction Addr → LinkEngine Addr → Prop
  | register {p addr targetIp timeout retries} (hnone : s.probes p = none) :
    Steps (.register p addr targetIp timeout retries) { s with
      demux := s.demux.register addr () p
      probes := Function.update s.probes p (some ⟨addr, targetIp, timeout, retries, .registered⟩) }
  | moves {a p probe phase} (hactor : a.actor = some p) (hp : s.probes p = some probe)
    (hmoves : s.Moves proto wall p probe a phase) :
    Steps a ({ s with demux := s.demuxAfter probe.addr a }.setPhase p probe phase)
  | read (event : ReadEvent Addr) : Steps (.read event) (s.read proto event)
  | tick (d : ℕ) : Steps (.tick d) { s with now := s.now + d }

end Spec

lemma moves_of_nextPhase {phase : LinkPhase} (h : s.nextPhase proto wall p probe a = some phase) :
    s.Moves proto wall p probe a phase := by
  cases a with
  | start _ =>
    simp only [nextPhase] at h
    split at h
    · next hph => exact Option.some.inj h ▸ .start hph
    · cases h
  | send _ result =>
    simp only [nextPhase] at h
    split at h
    · next hph => exact Option.some.inj h ▸ .sent hph
    · next hph => exact Option.some.inj h ▸ .unsent hph _
    · next hph => exact Option.some.inj h ▸ .unsent hph _
    · cases h
  | poll _ =>
    simp only [nextPhase] at h
    split at h
    · next hph _ => exact Option.some.inj h ▸ .answered hph
    · next hph hclosed => exact Option.some.inj h ▸ .closed hph hclosed
    · next hph hempty =>
      split_ifs at h with hle
      exact Option.some.inj h ▸ .elapsed hph hempty hle
    · cases h
  | check _ =>
    simp only [nextPhase] at h
    split at h
    · next left hph =>
      split_ifs at h with hle
      · exact Option.some.inj h ▸ .gaveUp hph (.inl hle)
      · cases left with
        | zero => exact Option.some.inj h ▸ .gaveUp hph (.inr rfl)
        | succ n => exact Option.some.inj h ▸ .again hph
    · cases h
  | deregister q =>
    simp only [nextPhase] at h
    split at h
    · next hph => exact Option.some.inj h ▸ .left hph
    · next hph => exact Option.some.inj h ▸ .failed hph
    · cases h
  | drop _ =>
    simp only [nextPhase] at h
    split_ifs at h with hover
    exact Option.some.inj h ▸ .dropped (by simpa using hover)
  | register _ _ _ _ _ => cases h
  | read _ => cases h
  | tick _ => cases h

lemma Moves.not_over {phase : LinkPhase} (h : s.Moves proto wall p probe a phase) :
    probe.phase.over = false := by
  cases h with
  | dropped h => exact h
  | _ h => rw [h]; rfl

lemma steps_of_step (h : step proto wall a s = some s') : s.Steps proto wall a s' := by
  have hmoves : ∀ {p}, a.actor = some p → (∀ addr, s.demuxAfter addr a = s.demux) →
      s.advance proto wall a p = some s' → s.Steps proto wall a s' := by
    intro p hactor hstays h
    obtain ⟨probe, hp, h⟩ := bind_eq_some_iff.mp h
    obtain ⟨phase, hnext, rfl⟩ := map_eq_some_iff.mp h
    have hsteps : s.Steps proto wall a _ := .moves hactor hp (moves_of_nextPhase hnext)
    rwa [hstays] at hsteps
  cases a with
  | register p addr targetIp timeout retries =>
    simp only [step] at h
    split at h
    · cases h
    · next hnone => exact Option.some.inj h ▸ .register hnone
  | start p => exact hmoves rfl (fun _ => rfl) h
  | send p result => exact hmoves rfl (fun _ => rfl) h
  | poll p => exact hmoves rfl (fun _ => rfl) h
  | check p => exact hmoves rfl (fun _ => rfl) h
  | drop p => exact hmoves rfl (fun _ => rfl) h
  | deregister p =>
    obtain ⟨probe, hp, h⟩ := bind_eq_some_iff.mp h
    obtain ⟨phase, hnext, rfl⟩ := map_eq_some_iff.mp h
    exact .moves rfl hp (moves_of_nextPhase hnext)
  | read event =>
    simp only [step] at h
    split_ifs at h
    exact Option.some.inj h ▸ .read event
  | tick d => exact Option.some.inj h ▸ .tick d

@[simp] lemma probes_read (event : ReadEvent Addr) : (s.read proto event).probes = s.probes := by
  unfold read
  split
  · rfl
  · rfl
  · split_ifs <;> rfl
  · rfl

@[simp] lemma now_read (event : ReadEvent Addr) : (s.read proto event).now = s.now := by
  unfold read
  split
  · rfl
  · rfl
  · split_ifs <;> rfl
  · rfl

/-- Every step keeps the table in line with the channels. -/
lemma tracks_step (h : s.demux.Tracks s.addrOf) (hstep : step proto wall a s = some s') :
    s'.demux.Tracks s'.addrOf := by
  cases steps_of_step hstep with
  | @register p addr targetIp timeout retries hnone =>
    have haddr : addrOf { s with
        demux := s.demux.register addr () p
        probes := Function.update s.probes p
          (some ⟨addr, targetIp, timeout, retries, .registered⟩) } =
        Function.update s.addrOf p (some addr) := by
      funext q
      by_cases hq : q = p
      · subst hq
        simp [addrOf]
      · simp [addrOf, update_of_ne hq]
    rw [haddr]
    exact h.register (by simp [addrOf, hnone]) addr ()
  | moves _ hp _ =>
    rw [addrOf_setPhase hp, demux_setPhase]
    unfold demuxAfter
    split
    · exact h.deregister _
    · exact h
  | read event =>
    have haddr : (s.read proto event).addrOf = s.addrOf := by
      funext q
      simp [addrOf]
    unfold read
    split
    · exact h
    · exact h.dispatch _ _
    · split_ifs
      · exact h
      · exact h.poisonWith _
    · exact h.poisonWith _
  | tick d => exact h

end Steps

end LinkEngine

end Rastreo
