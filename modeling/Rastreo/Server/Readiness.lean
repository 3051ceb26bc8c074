import Rastreo.Server.Admission

/-!
# Refusals and the readiness gauge

`try_acquire` adds to the counter before it tests, and a refused request takes its one back
afterwards.  In between the counter holds more than the guards, for the next test and for `readyz`,
here a further step of the server.  A request is starting when it has added below the limit, and
refused from the moment it adds at the limit.
-/

namespace Rastreo

open List

/-! ## The readiness probe -/

inductive NotReady where
  | inflightScanLimitExceeded
  | sinkProbeStalled
  | sinkUnreachable
  | sinkErrorWithinQuarantine
  | scanErrorWithinQuarantine
  deriving DecidableEq

/-- The reason as `readyz` gives it. -/
def NotReady.text : NotReady → String
  | .inflightScanLimitExceeded => "inflight_scan_limit_exceeded"
  | .sinkProbeStalled => "sink_probe_stalled"
  | .sinkUnreachable => "sink_unreachable"
  | .sinkErrorWithinQuarantine => "sink_error_within_quarantine"
  | .scanErrorWithinQuarantine => "scan_error_within_quarantine"

/-- The quarantines, the ages of the last errors and the sink probe, in seconds. -/
structure ReadinessView where
  sinkErrorQuarantine : ℚ := 30
  scanErrorQuarantine : ℚ := 30
  secondsSinceSinkError : Option ℚ := none
  secondsSinceScanError : Option ℚ := none
  configured : Bool := false
  reachable : Bool := false
  attached : Bool := false
  sinkTypeLabel : Option String := none
  secondsSinceLastProbe : Option ℚ := none
  secondsSinceLastProbeTick : Option ℚ := none
  lastProbeError : Option String := none
  probeInterval : ℚ := 0
  probeTimeout : ℚ := 0

/-- `reachability_state`: nothing when no sink is configured. -/
def ReadinessView.reachabilityState (self : ReadinessView) : Option Bool :=
  if self.configured then some self.reachable else none

def longestLegitimateCycleSecs (probeInterval probeTimeout : ℚ) : ℚ :=
  probeInterval + 3 * probeTimeout

def probeStaleAfterSecs (probeInterval probeTimeout : ℚ) : ℚ :=
  3 * longestLegitimateCycleSecs probeInterval probeTimeout

/-- What `classify` decides on. -/
structure ReadinessSignals where
  inflight : ℕ
  maxInflight : ℕ
  sinkReachable : Option Bool
  secondsSinceSinkError : Option ℚ
  sinkQuarantineSecs : ℚ
  secondsSinceScanError : Option ℚ
  scanQuarantineSecs : ℚ
  secondsSinceLastProbeTick : Option ℚ
  probeStaleAfterSecs : ℚ

namespace ReadinessSignals

variable (signals : ReadinessSignals)

def sinkProbeIsStalled : Bool :=
  match signals.secondsSinceLastProbeTick with
  | none => false
  | some age => signals.sinkReachable.isSome && decide (signals.probeStaleAfterSecs < age)

/-- A quarantine of zero is none. -/
def withinQuarantine (quarantine : ℚ) (age : Option ℚ) : Bool :=
  decide (0 < quarantine) && age.any fun s => decide (s < quarantine)

/-- `classify`: the first reason not to be ready. -/
def classify : Option NotReady :=
  if 0 < signals.maxInflight ∧ signals.maxInflight ≤ signals.inflight then
    some .inflightScanLimitExceeded
  else if signals.sinkProbeIsStalled then some .sinkProbeStalled
  else if signals.sinkReachable = some false then some .sinkUnreachable
  else if withinQuarantine signals.sinkQuarantineSecs signals.secondsSinceSinkError then
    some .sinkErrorWithinQuarantine
  else if withinQuarantine signals.scanQuarantineSecs signals.secondsSinceScanError then
    some .scanErrorWithinQuarantine
  else none

end ReadinessSignals

/-- Ready when there is no reason not to be. -/
structure ReadyzAnswer where
  reason : Option NotReady
  inflightScans : ℕ
  maxInflightScans : ℕ
  secondsSinceSinkError : Option ℚ
  secondsSinceScanError : Option ℚ
  sinkReachable : Option Bool
  sinkAttached : Option Bool
  sinkType : Option String
  secondsSinceLastProbe : Option ℚ
  secondsSinceLastProbeTick : Option ℚ
  lastProbeError : Option String

def readyz (maxInflight : ℕ) (view : ReadinessView) (shared : Shared) : ReadyzAnswer :=
  let inflight := shared.inflightScans
  let sinkReachable := view.reachabilityState
  { reason := ReadinessSignals.classify
      { inflight
        maxInflight
        sinkReachable
        secondsSinceSinkError := view.secondsSinceSinkError
        sinkQuarantineSecs := view.sinkErrorQuarantine
        secondsSinceScanError := view.secondsSinceScanError
        scanQuarantineSecs := view.scanErrorQuarantine
        secondsSinceLastProbeTick := view.secondsSinceLastProbeTick
        probeStaleAfterSecs := probeStaleAfterSecs view.probeInterval view.probeTimeout }
    inflightScans := inflight
    maxInflightScans := maxInflight
    secondsSinceSinkError := view.secondsSinceSinkError
    secondsSinceScanError := view.secondsSinceScanError
    sinkReachable
    sinkAttached := if view.configured then some view.attached else none
    sinkType := view.sinkTypeLabel
    secondsSinceLastProbe := view.secondsSinceLastProbe
    secondsSinceLastProbeTick := view.secondsSinceLastProbeTick
    lastProbeError := view.lastProbeError }

lemma readyz_limit_iff {maxInflight : ℕ} {view : ReadinessView} {shared : Shared} :
    (readyz maxInflight view shared).reason = some .inflightScanLimitExceeded ↔
      0 < maxInflight ∧ maxInflight ≤ shared.inflightScans := by
  simp only [readyz, ReadinessSignals.classify]
  grind

/-! ## The server with its readiness probe -/

/-- A request, or a readiness probe. -/
inductive ReadinessAction where
  | request (act : RequestAction)
  /-- `readyz` loads the counter -/
  | readyz (view : ReadinessView)

/-- One step of the server: `readyz` changes nothing. -/
def ScanServer.serve (maxInflight : ℕ) : ReadinessAction → ScanServer → Option ScanServer
  | .request act, s => ScanServer.step maxInflight act s
  | .readyz _, s => some s

/-- Added below the limit, with the test to come. -/
def RequestPhase.starting (maxInflight : ℕ) : RequestPhase → Bool
  | .added prior => maxInflight = 0 ∨ prior < maxInflight
  | _ => false

def RequestPhase.refusing (maxInflight : ℕ) : RequestPhase → Bool
  | .added prior => 0 < maxInflight ∧ maxInflight ≤ prior
  | .overLimit => true
  | _ => false

namespace ScanServer

/-- How many requests are to hold a guard after their test. -/
def starting (maxInflight : ℕ) (s : ScanServer) : ℕ :=
  s.requests.countP fun r => r.phase.starting maxInflight

def refusing (maxInflight : ℕ) (s : ScanServer) : ℕ :=
  s.requests.countP fun r => r.phase.refusing maxInflight

variable {maxInflight : ℕ} {s s' : ScanServer} {a : ReadinessAction}

lemma unsettled_eq (maxInflight : ℕ) (s : ScanServer) :
    s.unsettled = s.starting maxInflight + s.refusing maxInflight := by
  refine countP_eq_add (fun r => ?_) s.requests
  obtain ⟨label, phase⟩ := r
  cases phase with
  | added prior =>
    by_cases hfull : 0 < maxInflight ∧ maxInflight ≤ prior
    · have hnot : ¬ (maxInflight = 0 ∨ prior < maxInflight) := by omega
      simp [RequestPhase.unsettled, RequestPhase.starting, RequestPhase.refusing, hfull, hnot]
    · have hroom : maxInflight = 0 ∨ prior < maxInflight := by omega
      simp [RequestPhase.unsettled, RequestPhase.starting, RequestPhase.refusing, hfull, hroom]
  | _ => rfl

lemma admitted_eq (hlimit : 0 < maxInflight) (s : ScanServer) :
    (s.requests.countP fun r => r.phase.admitted maxInflight) =
      s.guards + s.starting maxInflight := by
  refine countP_eq_add (fun r => ?_) s.requests
  obtain ⟨label, phase⟩ := r
  cases phase with
  | added prior =>
    simp [RequestPhase.admitted, RequestPhase.holdsGuard, RequestPhase.starting, hlimit.ne']
  | _ => rfl

/-- The counter counts active requests, guards held and to be held are within the limit, and the
server is full while a request is refused. -/
structure FullWhileRefusing (maxInflight : ℕ) (s : ScanServer) : Prop where
  counter : s.shared.inflightScans = s.requests.countP fun r => r.phase.active
  bounded : 0 < maxInflight → s.guards + s.starting maxInflight ≤ maxInflight
  full : 0 < s.refusing maxInflight → 0 < maxInflight ∧ s.guards = maxInflight

lemma inflightScans_eq (maxInflight : ℕ)
    (hcounter : s.shared.inflightScans = s.requests.countP fun r => r.phase.active) :
    s.shared.inflightScans = s.guards + s.starting maxInflight + s.refusing maxInflight := by
  rw [hcounter, ← guards_add_unsettled, unsettled_eq maxInflight, Nat.add_assoc]

/-- A request does not add to a full counter while another is to make its test, and no guard is
dropped and no readiness probe made while a refused request has not rolled back. -/
def Undisturbed (maxInflight : ℕ) : ReadinessAction → ScanServer → Prop
  | .request (.handle _ .add), s =>
    0 < maxInflight → maxInflight ≤ s.shared.inflightScans → s.starting maxInflight = 0
  | .request (.handle _ .release), s => s.refusing maxInflight = 0
  | .readyz _, s => s.refusing maxInflight = 0
  | _, _ => True

lemma fullWhileRefusing_start (maxInflight : ℕ) (allowlist : List String) (maxLength : ℕ) :
    (start allowlist maxLength).FullWhileRefusing maxInflight :=
  ⟨rfl, fun _ => Nat.zero_le _, fun h => absurd h (Nat.lt_irrefl 0)⟩

lemma full_of_handles {label : String} {step : HandlerStep} {phase phase' : RequestPhase}
    {shared shared' : Shared} {guards guards' starting refusing refusing' : ℕ}
    (hhandles : Handles maxInflight label shared step phase phase' shared')
    (hguards : guards' + phase.holdsGuard.toNat = guards + phase'.holdsGuard.toNat)
    (hrefusing : refusing' + (phase.refusing maxInflight).toNat =
      refusing + (phase'.refusing maxInflight).toNat)
    (hcounter : shared.inflightScans = guards + starting + refusing)
    (hbou' : 0 < maxInflight → guards' ≤ maxInflight)
    (hadd : step = .add → 0 < maxInflight → maxInflight ≤ shared.inflightScans → starting = 0)
    (hrelease : step = .release → refusing = 0)
    (hfull : 0 < refusing → 0 < maxInflight ∧ guards = maxInflight) (hpos : 0 < refusing') :
    0 < maxInflight ∧ guards' = maxInflight := by
  cases hhandles with
  | add =>
    have hadd := hadd rfl
    by_cases hlimit : 0 < maxInflight ∧ maxInflight ≤ shared.inflightScans
    · -- Nothing else is starting: the counter is at the limit by guards and refused requests.
      have hrfs : (RequestPhase.added shared.inflightScans).refusing maxInflight = true :=
        decide_eq_true hlimit
      rw [hrfs] at hrefusing
      change guards' + 0 = guards + 0 at hguards
      change refusing' + 0 = refusing + 1 at hrefusing
      omega
    · have hroom : (RequestPhase.added shared.inflightScans).refusing maxInflight = false :=
        decide_eq_false hlimit
      rw [hroom] at hrefusing
      change refusing' + 0 = refusing + 0 at hrefusing
      omega
  | tooMany prior hlimit hprior =>
    have hrfs : (RequestPhase.added prior).refusing maxInflight = true :=
      decide_eq_true ⟨hlimit, hprior⟩
    rw [hrfs] at hrefusing
    change guards' + 0 = guards + 0 at hguards
    change refusing' + 1 = refusing + 1 at hrefusing
    omega
  | start prior hprior =>
    -- A full server has no request left to start.
    have hroom : (RequestPhase.added prior).refusing maxInflight = false :=
      decide_eq_false (by omega)
    rw [hroom] at hrefusing
    change guards' + 0 = guards + 1 at hguards
    change refusing' + 0 = refusing + 0 at hrefusing
    omega
  | rollBack =>
    change guards' + 0 = guards + 0 at hguards
    change refusing' + 1 = refusing + 0 at hrefusing
    omega
  | release outcome =>
    have hnone := hrelease rfl
    change refusing' + 0 = refusing + 0 at hrefusing
    omega
  | _ =>
    -- The other steps leave both numbers as they are.
    have hsame : guards' = guards := Nat.add_right_cancel hguards
    have hrfs : refusing' = refusing := Nat.add_right_cancel hrefusing
    omega

lemma FullWhileRefusing.serve (h : s.FullWhileRefusing maxInflight)
    (hundisturbed : Undisturbed maxInflight a s)
    (hserve : ScanServer.serve maxInflight a s = some s') : s'.FullWhileRefusing maxInflight := by
  cases a with
  | readyz view => exact Option.some.inj hserve ▸ h
  | request act =>
    have hcou' := counter_step h.counter hserve
    have hbou' (hlimit : 0 < maxInflight) : s'.guards + s'.starting maxInflight ≤ maxInflight := by
      have hadmits : s.Admits maxInflight :=
        ⟨h.counter, admitted_eq hlimit s ▸ h.bounded hlimit⟩
      exact admitted_eq hlimit s' ▸ (hadmits.step hlimit hserve).bounded
    refine ⟨hcou', hbou', fun href => ?_⟩
    obtain ⟨label, -, rfl⟩ | ⟨i, step, request, phase', shared', hreq, rfl, hhan, rfl⟩ :=
      step_cases hserve
    · -- A request that arrives is neither refused nor holds a guard.
      have hfull := h.full
      simp only [refusing, guards, countP_append] at href hfull ⊢
      exact hfull href
    · have hguards := countP_set_add (p := fun r : Request => r.phase.holdsGuard)
        (a := ⟨request.label, phase'⟩) hreq
      have hrfs := countP_set_add (p := fun r : Request => r.phase.refusing maxInflight)
        (a := ⟨request.label, phase'⟩) hreq
      refine full_of_handles hhan hguards hrfs (inflightScans_eq maxInflight h.counter)
        (fun hlimit => Nat.le_of_add_right_le (hbou' hlimit)) ?_ ?_ h.full href
      · rintro rfl
        exact hundisturbed
      · rintro rfl
        exact hundisturbed

lemma active_of_serve {i : ℕ} (hserve : ScanServer.serve maxInflight a s = some s')
    (hactive : ∃ r, s'.requests[i]? = some r ∧ r.phase.active = true) :
    a = .request (.handle i .add) ∨ ∃ r, s.requests[i]? = some r ∧ r.phase.active = true := by
  cases a with
  | readyz view => exact .inr (Option.some.inj hserve ▸ hactive)
  | request act =>
    obtain ⟨r, hr, hactive⟩ := hactive
    obtain ⟨label, -, rfl⟩ | ⟨j, step, request, phase', shared', hreq, rfl, hhan, rfl⟩ :=
      step_cases hserve
    · -- A request that arrives is not active.
      obtain hr | ⟨-, rfl⟩ := getElem?_concat_eq_some.mp hr
      · grind
      · cases hactive
    · by_cases hij : j = i
      · subst hij
        obtain ⟨hj, -⟩ := List.getElem?_eq_some_iff.mp hreq
        rw [getElem?_set_self hj] at hr
        obtain rfl := Option.some.inj hr
        by_cases hbefore : request.phase.active = true
        · grind
        · refine .inl ?_
          generalize request.phase = phase at hhan hbefore
          cases hhan with
          | add => rfl
          | _ => first | exact absurd rfl hbefore | cases hactive
      · grind

lemma readyz_inflightScans (hfull : s.FullWhileRefusing maxInflight) (view : ReadinessView) :
    (readyz maxInflight view s.shared).inflightScans =
      s.guards + s.starting maxInflight + s.refusing maxInflight :=
  inflightScans_eq maxInflight hfull.counter

/-- If no refusal is disturbed, a refused request finds the limit reached by guards between its
`fetch_add` and its `fetch_sub`, and a readiness probe reports no more than the guards held and
those about to be. -/
theorem refused_only_when_full (allowlist : List String) (maxLength : ℕ)
    {as : List ReadinessAction}
    (hsteps : ∀ {before a s s'}, Takes (serve maxInflight) as (start allowlist maxLength)
      before a s s' → Undisturbed maxInflight a s) :
    (∀ {i before s s'}, Takes (serve maxInflight) as (start allowlist maxLength) before
        (.request (.handle i .rollBack)) s s' →
      ∃ earlier later t, before = earlier ++ later ∧ .request (.handle i .add) ∈ earlier ∧
        runActions (serve maxInflight) earlier (start allowlist maxLength) = some t ∧
        t.guards = maxInflight) ∧
    ∀ {view before s s'}, Takes (serve maxInflight) as (start allowlist maxLength) before
        (.readyz view) s s' →
      (readyz maxInflight view s.shared).inflightScans ≤ s.guards + s.starting maxInflight := by
  have hinv {before a s s'} (h : Takes (serve maxInflight) as (start allowlist maxLength)
      before a s s') : s.FullWhileRefusing maxInflight :=
    h.invariant (fullWhileRefusing_start maxInflight allowlist maxLength)
      fun htakes hfull => hfull.serve (hsteps htakes) htakes.taken
  refine ⟨fun {i before s s'} h => ?_, fun {view before s s'} h => ?_⟩
  · -- The request is refused up to the roll back, so the server is full when that comes.
    have hstep : ScanServer.step maxInflight (.handle i .rollBack) s = some s' := h.taken
    obtain ⟨label, hactive, -⟩ | ⟨j, step, request, phase', shared', hreq, hactive, hhan, -⟩ :=
      step_cases hstep
    · cases hactive
    · obtain ⟨rfl, rfl⟩ := RequestAction.handle.inj hactive
      have hph : request.phase = .overLimit := by
        generalize request.phase = phase at hhan
        cases hhan
        rfl
      have href : 0 < s.refusing maxInflight :=
        countP_pos_iff.mpr ⟨request, mem_of_getElem? hreq, by rw [hph]; rfl⟩
      have hadd : .request (.handle i .add) ∈ before :=
        mem_of_runActions (fun _ _ _ => active_of_serve) (by simp [start]) h.reached
          ⟨request, hreq, by rw [hph]; rfl⟩
      exact ⟨before, [], s, (append_nil before).symm, hadd, h.reached, ((hinv h).full href).2⟩
  · have hnone : s.refusing maxInflight = 0 := hsteps h
    rw [readyz_inflightScans (hinv h), hnone, Nat.add_zero]

/-- Under a limit of one the first guard is dropped before the second, refused, has rolled back, and
the third is refused as well. -/
def crossedRun : List ReadinessAction :=
  [.request (.arrive "a"), .request (.arrive "b"), .request (.arrive "c"),
    .request (.handle 0 .add), .request (.handle 0 .test),
    .request (.handle 1 .add), .request (.handle 1 .test),
    .request (.handle 0 .drop), .request (.handle 0 (.dropGuard 1)), .request (.handle 0 .release),
    .readyz {},
    .request (.handle 2 .add), .request (.handle 2 .test), .request (.handle 2 .rollBack)]

lemma guards_crossedRun {earlier later : List ReadinessAction} {t : ScanServer}
    (hsplit : crossedRun.take 13 = earlier ++ later)
    (hadd : .request (.handle 2 .add) ∈ earlier)
    (hrun : runActions (serve 1) earlier (start [] 64) = some t) : t.guards = 0 := by
  have hear : earlier = (crossedRun.take 13).take earlier.length := by
    rw [hsplit, take_left]
  have hle : earlier.length ≤ 13 := by grind
  have hlate : 12 ≤ earlier.length := by
    by_contra hlt
    have hsub : earlier <+: crossedRun.take 11 := by grind
    have := hsub.subset hadd
    simp [crossedRun] at this
  have hguards : (runActions (serve 1) (crossedRun.take earlier.length) (start [] 64)).map guards =
      some 0 := by
    interval_cases earlier.length <;> decide +kernel
  grind

/-- The third is refused although no guard is held from its `fetch_add` to its `fetch_sub`, and a
readiness probe reports one scan, and the limit exceeded, when there is none. -/
theorem refused_while_empty : (∃ s s', Takes (serve 1) crossedRun (start [] 64) (crossedRun.take 13)
        (.request (.handle 2 .rollBack)) s s' ∧
      ∀ earlier later t, crossedRun.take 13 = earlier ++ later →
        .request (.handle 2 .add) ∈ earlier →
          runActions (serve 1) earlier (start [] 64) = some t → t.guards = 0) ∧
    ∃ s s', Takes (serve 1) crossedRun (start [] 64) (crossedRun.take 10) (.readyz {}) s s' ∧
      s.guards + s.starting 1 = 0 ∧ (readyz 1 {} s.shared).inflightScans = 1 ∧
      (readyz 1 {} s.shared).reason = some .inflightScanLimitExceeded := by
  constructor
  · obtain ⟨s, s', h⟩ : ∃ s s', Takes (serve 1) crossedRun (start [] 64) (crossedRun.take 13)
        (.request (.handle 2 .rollBack)) s s' := exists_takes rfl (by decide +kernel)
    exact ⟨s, s', h, fun _ _ _ => guards_crossedRun⟩
  · obtain ⟨s, s', h⟩ : ∃ s s', Takes (serve 1) crossedRun (start [] 64) (crossedRun.take 10)
        (.readyz {}) s s' := exists_takes rfl (by decide +kernel)
    have hcounts : (runActions (serve 1) (crossedRun.take 10) (start [] 64)).map (fun s =>
        (s.guards + s.starting 1, s.shared.inflightScans)) = some (0, 1) := by decide +kernel
    rw [h.reached] at hcounts
    obtain ⟨hnone, hone⟩ := Prod.mk.inj (Option.some.inj hcounts)
    refine ⟨s, s', h, hnone, hone, ?_⟩
    rw [readyz_limit_iff, hone]
    exact ⟨Nat.one_pos, Nat.le_refl 1⟩

/-- It rolls back while the first holds the only guard. -/
def refusedRun : List ReadinessAction :=
  [.request (.arrive "a"), .request (.arrive "b"), .request (.handle 0 .add),
    .request (.handle 0 .test), .request (.handle 1 .add), .request (.handle 1 .test),
    .request (.handle 1 .rollBack), .readyz {}]

/-- The second request is refused at the limit. -/
theorem refused_only_when_full_two :
    (∃ s s', Takes (serve 1) refusedRun (start [] 64) (refusedRun.take 6)
        (.request (.handle 1 .rollBack)) s s') ∧
      ∃ earlier later t, refusedRun.take 6 = earlier ++ later ∧
        .request (.handle 1 .add) ∈ earlier ∧
        runActions (serve 1) earlier (start [] 64) = some t ∧ t.guards = 1 := by
  have hund {before a s s'} (h : Takes (serve 1) refusedRun (start [] 64) before a s s') :
      Undisturbed 1 a s := by
    obtain ⟨ha, hs⟩ := h.getElem?
    have hlt : before.length < 8 := (List.getElem?_eq_some_iff.mp ha).1
    generalize before.length = n at ha hs hlt
    have hquiet (hn : n = 2 ∨ n = 4 ∨ n = 7) : s.starting 1 = 0 ∧ s.refusing 1 = 0 := by
      have hcounts : (runActions (serve 1) (refusedRun.take n) (start [] 64)).map (fun s =>
          (s.starting 1, s.refusing 1)) = some (0, 0) := by
        rcases hn with rfl | rfl | rfl <;> decide +kernel
      rw [hs] at hcounts
      exact Prod.mk.inj (Option.some.inj hcounts)
    -- Only the two `fetch_add`s and the readiness probe could disturb a refusal.
    interval_cases n <;> obtain rfl := Option.some.inj ha
    case «2» => exact fun _ _ => (hquiet (.inl rfl)).1
    case «4» => exact fun _ _ => (hquiet (.inr (.inl rfl))).1
    case «7» => exact (hquiet (.inr (.inr rfl))).2
    all_goals trivial
  obtain ⟨s, s', h⟩ : ∃ s s', Takes (serve 1) refusedRun (start [] 64) (refusedRun.take 6)
      (.request (.handle 1 .rollBack)) s s' := exists_takes rfl (by decide +kernel)
  exact ⟨⟨s, s', h⟩, (refused_only_when_full [] 64 hund).1 h⟩

end ScanServer

end Rastreo
