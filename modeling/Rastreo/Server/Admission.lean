import Rastreo.Server.Requests

/-!
# The admission of scans

The counter of running scans is the number of requests that have added to it and not taken their one
back: those with an in-flight guard, those before their test, and those to roll back.  A request
that passes found fewer than the limit.
-/

namespace Rastreo

open List Bool

def RequestPhase.holdsGuard : RequestPhase → Bool
  | .running _ => true
  | .settled _ _ => true
  | .leaving _ _ => true
  | .finished _ => true
  | _ => false

/-- Added to the counter, without a guard and not rolled back. -/
def RequestPhase.unsettled : RequestPhase → Bool
  | .added _ => true
  | .overLimit => true
  | _ => false

/-- Added to the counter and not subtracted. -/
def RequestPhase.active (phase : RequestPhase) : Bool := phase.holdsGuard || phase.unsettled

def RequestPhase.admitted (maxInflight : ℕ) : RequestPhase → Bool
  | .added prior => prior < maxInflight
  | phase => phase.holdsGuard

namespace ScanServer

def guards (s : ScanServer) : ℕ := s.requests.countP fun r => r.phase.holdsGuard

/-- How many have added to the counter without having a guard or having rolled back. -/
def unsettled (s : ScanServer) : ℕ := s.requests.countP fun r => r.phase.unsettled

structure Admits (maxInflight : ℕ) (s : ScanServer) : Prop where
  counter : s.shared.inflightScans = s.requests.countP fun r => r.phase.active
  bounded : (s.requests.countP fun r => r.phase.admitted maxInflight) ≤ maxInflight

variable {maxInflight : ℕ} {s s' : ScanServer} {a : HandlerStep} {label : String}
  {phase phase' : RequestPhase} {shared shared' : Shared}

lemma counter_of_handles (h : Handles maxInflight label shared a phase phase' shared')
    (hpos : phase.active = true → 0 < shared.inflightScans) :
    shared'.inflightScans + phase.active.toNat = shared.inflightScans + phase'.active.toNat := by
  cases h with
  | rollBack => exact Nat.sub_add_cancel (hpos rfl)
  | release outcome => exact Nat.sub_add_cancel (hpos rfl)
  | _ => rfl

lemma admitted_of_handles (hlimit : 0 < maxInflight)
    (h : Handles maxInflight label shared a phase phase' shared')
    (hadmitted : phase'.admitted maxInflight = true) :
    phase.admitted maxInflight = true ∨
      (phase = .arrived ∧ shared.inflightScans < maxInflight) := by
  cases h with
  | add => exact .inr ⟨rfl, of_decide_eq_true hadmitted⟩
  | start prior hprior => exact .inl (decide_eq_true (hprior.resolve_left hlimit.ne'))
  | complete summary elapsed guard => exact .inl rfl
  | fail err elapsed guard => exact .inl rfl
  | disarm outcome guard => exact .inl rfl
  | drop guard => exact .inl rfl
  | dropGuard elapsed outcome guard => exact .inl rfl
  | refuse err elapsed => cases hadmitted
  | rehearse => cases hadmitted
  | tooMany prior _ _ => cases hadmitted
  | rollBack => cases hadmitted
  | release outcome => cases hadmitted

lemma active_of_admitted (h : phase.admitted maxInflight = true) : phase.active = true := by
  cases phase with
  | added prior => rfl
  | _ => simpa [RequestPhase.admitted, RequestPhase.active] using .inl h

lemma admits_start (maxInflight : ℕ) (allowlist : List String) (maxLength : ℕ) :
    (start allowlist maxLength).Admits maxInflight :=
  ⟨rfl, Nat.zero_le _⟩

lemma counter_step {act : RequestAction}
    (h : s.shared.inflightScans = s.requests.countP fun r => r.phase.active)
    (hstep : ScanServer.step maxInflight act s = some s') :
    s'.shared.inflightScans = s'.requests.countP fun r => r.phase.active := by
  obtain ⟨label, -, rfl⟩ | ⟨i, a, request, phase', shared', hreq, -, hhan, rfl⟩ :=
    step_cases hstep
  · -- A request that arrives has not added to the counter.
    simpa [RequestPhase.active, RequestPhase.holdsGuard, RequestPhase.unsettled] using h
  · have hactive := countP_set_add (p := fun r : Request => r.phase.active)
      (a := ⟨request.label, phase'⟩) hreq
    have hpos : request.phase.active = true → 0 < s.shared.inflightScans := fun hr =>
      h ▸ countP_pos_iff.mpr ⟨request, mem_of_getElem? hreq, hr⟩
    grind [counter_of_handles]

lemma Admits.step {act : RequestAction} (hlimit : 0 < maxInflight) (h : s.Admits maxInflight)
    (hstep : ScanServer.step maxInflight act s = some s') : s'.Admits maxInflight := by
  obtain ⟨hcou, hbou⟩ := h
  refine ⟨counter_step hcou hstep, ?_⟩
  obtain ⟨label, -, rfl⟩ | ⟨i, a, request, phase', shared', hreq, -, hhan, rfl⟩ :=
    step_cases hstep
  · simpa [RequestPhase.admitted, RequestPhase.holdsGuard] using hbou
  · have hadm := countP_set_add (p := fun r : Request => r.phase.admitted maxInflight)
      (a := ⟨request.label, phase'⟩) hreq
    have hle : (s.requests.countP fun r => r.phase.admitted maxInflight) ≤
        s.shared.inflightScans :=
      hcou ▸ countP_mono_left fun r _ hr => active_of_admitted hr
    dsimp only at hadm ⊢
    by_cases hnew : phase'.admitted maxInflight = true
    · -- Before it is admitted a request finds fewer than the limit, itself not counted.
      obtain hold | ⟨harr, hlt⟩ := admitted_of_handles hlimit hhan hnew
      · grind
      · grind
    · grind

lemma Admits.subtracts {i : ℕ} (h : s.Admits maxInflight) (ha : a = .rollBack ∨ a = .release)
    (hstep : ScanServer.step maxInflight (.handle i a) s = some s') :
    0 < s.shared.inflightScans ∧ s'.shared.inflightScans + 1 = s.shared.inflightScans := by
  obtain ⟨label, hact, -⟩ | ⟨i, a', request, phase', shared', hreq, hact, hhan, rfl⟩ :=
    step_cases hstep
  · cases hact
  · obtain ⟨rfl, rfl⟩ := RequestAction.handle.inj hact
    have hactive : request.phase.active = true ∧ phase'.active = false := by
      obtain rfl | rfl := ha
      · generalize request.phase = phase at hhan
        cases hhan
        exact ⟨rfl, rfl⟩
      · generalize request.phase = phase at hhan
        cases hhan
        exact ⟨rfl, rfl⟩
    have hpos : 0 < s.shared.inflightScans :=
      h.counter ▸ countP_pos_iff.mpr ⟨request, mem_of_getElem? hreq, hactive.1⟩
    grind [counter_of_handles]

lemma guards_add_unsettled (s : ScanServer) :
    s.guards + s.unsettled = s.requests.countP fun r => r.phase.active := by
  refine (countP_eq_add (fun r => ?_) s.requests).symm
  obtain ⟨label, phase⟩ := r
  cases phase <;> rfl

/-- Under any interleaving and a positive limit at most that many requests hold a guard; the counter
is the guards held and the increments not settled, at most the number of requests; it is positive
wherever a handler subtracts, and zero when no request is active. -/
theorem admission_bounded (hlimit : 0 < maxInflight) (allowlist : List String) (maxLength : ℕ)
    {as : List RequestAction}
    (hrun : runActions (ScanServer.step maxInflight) as (start allowlist maxLength) = some s) :
    s.guards ≤ maxInflight ∧ s.shared.inflightScans = s.guards + s.unsettled ∧
      s.shared.inflightScans ≤ s.requests.length ∧
      (∀ i s', ScanServer.step maxInflight (.handle i .rollBack) s = some s' ∨
        ScanServer.step maxInflight (.handle i .release) s = some s' → 0 < s.shared.inflightScans ∧
            s'.shared.inflightScans + 1 = s.shared.inflightScans) ∧
      ((∀ r ∈ s.requests, r.phase.active = false) → s.shared.inflightScans = 0) := by
  have hadmits : s.Admits maxInflight := runActions_invariant
    (fun _ _ _ h hstep => h.step hlimit hstep) (admits_start maxInflight allowlist maxLength) hrun
  have hcou := hadmits.counter
  refine ⟨?_, ?_, ?_, ?_, ?_⟩
  · refine le_trans (countP_mono_left fun r _ hr => ?_) hadmits.bounded
    cases hph : r.phase <;> rw [hph] at hr <;> first | exact hr | cases hr
  · rw [guards_add_unsettled]
    exact hcou
  · exact hcou ▸ countP_le_length
  · rintro i s' (hstep | hstep)
    · exact hadmits.subtracts (.inl rfl) hstep
    · exact hadmits.subtracts (.inr rfl) hstep
  · intro hidle
    rw [hcou, countP_eq_zero]
    exact fun r hr => by simp [hidle r hr]

/-- Under a limit of one the second is added before the first makes its test, and is to roll back.
-/
theorem admission_bounded_two :
    let s := runActions (ScanServer.step 1) [.arrive "a", .arrive "b", .handle 0 .add,
      .handle 1 .add, .handle 0 .test, .handle 1 .test] (start [] 64)
    s.map (fun s => (s.shared.inflightScans, s.requests.map Request.phase)) =
        some (2, [.running (.new "a"), .overLimit]) ∧
      ∀ s', s = some s' → s'.guards ≤ 1 := by
  intro s
  exact ⟨by decide +kernel, fun s' hs => (admission_bounded Nat.one_pos [] 64 hs).1⟩

end ScanServer

end Rastreo
