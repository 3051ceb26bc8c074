import Rastreo.Resolver.Guard

/-!
# Resolutions of a scenario

The plan a scan would run, or the error it would abort on, with what each target contributes.  A
fresh scan asks the resolver; a resumed one replays its pins.  Time matters to the stamp only.
-/

namespace Rastreo

open List

structure ScenarioResolution where
  entries : List (Target × Result SpecContribution)
  plan : Result ResolvedPlan
  resumeBase : ℕ

namespace ScenarioResolution

def totalHosts (self : ScenarioResolution) : ℕ :=
  match self.plan with
  | .ok plan => plan.totalHosts - self.resumeBase
  | .error _ => 0

def refusal (self : ScenarioResolution) : Option RastreoError :=
  match self.plan with
  | .ok _ => none
  | .error e => some e

def unresolvableTargets (self : ScenarioResolution) : List Target :=
  (self.entries.filter fun (_, result) => result.toOption == some .unresolvable).map Prod.fst

end ScenarioResolution

/-- `attribute`. -/
def attributed (plan : ResolvedPlan) : List (Target × Result SpecContribution) :=
  plan.perTargetSamples.map fun (target, sample) => (target, .ok sample)

def contribution (resolver : Resolver) (now : SystemTime) (target : Target) :
    Result SpecContribution := do
  let planned ← resolver.plan now [target]
  return (planned.perTargetSamples.head?.map Prod.snd).getD .unresolvable

/-- Only a refused set is planned again per target. -/
def resolveScenario (resolver : Resolver) (now : SystemTime) (targets : List Target) :
    ScenarioResolution :=
  match resolver.plan now targets with
  | .ok plan => ⟨attributed plan, .ok plan, 0⟩
  | .error refusal =>
    ⟨targets.map fun target => (target, contribution resolver now target), .error refusal, 0⟩

def resolvePinnedScenario (now : SystemTime) (targets : List Target)
    (dnsPins : List (Target × List IpAddr)) (resumeBase : ℕ) :
    Result ScenarioResolution := do
  let plan ← ResolvedPlan.fromPinned now targets dnsPins
  return ⟨attributed plan, .ok plan, resumeBase⟩

/-! ## Times -/

/-- The plan as it would have been made at another time. -/
def ResolvedPlan.stamped (plan : ResolvedPlan) (now : SystemTime) : ResolvedPlan :=
  { plan with resolvedAt := now }

lemma ResolvedPlan.fromPinned_stamped (now later : SystemTime) (targets : List Target)
    (dnsPins : List (Target × List IpAddr)) :
    fromPinned later targets dnsPins = (fromPinned now targets dnsPins).map (·.stamped later) := by
  unfold fromPinned
  cases pinnedSpecs targets dnsPins <;> rfl

/-- On the same answers a later plan differs in its stamp only. -/
lemma Resolver.plan_stamped (r : Resolver) (now later : SystemTime) (targets : List Target) :
    r.plan later targets = (r.plan now targets).map (·.stamped later) := by
  have hstamp : ∀ specs : Result (List PlannedSpec),
      (specs >>= fun specs => pure ⟨specs, later⟩) =
        (specs >>= fun specs => pure ⟨specs, now⟩).map fun plan : ResolvedPlan =>
          plan.stamped later := by
    intro specs
    cases specs <;> rfl
  induction r with
  | hickory self =>
    exact hstamp _
  | eager answer =>
    exact hstamp _
  | guarded inner allowlist cap ih =>
    rw [Resolver.plan, Resolver.plan, ih]
    cases inner.plan now targets with
    | error e => rfl
    | ok plan =>
      -- Neither check looks at the stamp.
      change (checkPlanAllowed allowlist plan >>= fun _ => checkCap cap plan.totalHosts >>= _) = _
      rw [ok_bind]
      cases checkPlanAllowed allowlist plan with
      | error e => rfl
      | ok _ => cases checkCap cap plan.totalHosts <;> rfl

lemma ResolvedPlan.length_intoStream_stamped (plan : ResolvedPlan) (now : SystemTime) :
    (plan.stamped now).intoStream.length = plan.intoStream.length := by
  rw [← length_map ResolvedTarget.ip, map_ip_intoStream,
    ← length_map ResolvedTarget.ip, map_ip_intoStream]
  rfl

/-! ## Counts -/

lemma ResolvedPlan.totalHosts_eq_length {plan : ResolvedPlan}
    (h : plan.intoStream.length ≤ usizeMax) : plan.totalHosts = plan.intoStream.length := by
  have hfits : plan.Fits := by
    intro spec hspec
    obtain ⟨before, after, hspecs⟩ := append_of_mem hspec
    rw [ResolvedPlan.intoStream, hspecs] at h
    simp only [flatMap_append, flatMap_cons, length_append,
      PlannedSpec.intoStream, length_map] at h
    rw [PlannedSpec.Fits]
    omega
  rw [hfits.totalHosts_eq, Nat.min_eq_left h]

lemma PlannedSpec.sample_eq_unresolvable (spec : PlannedSpec) :
    spec.sample = .unresolvable ↔ spec.isUnresolvable = true := by
  unfold PlannedSpec.sample
  split
  next h => simp [h]
  next h => cases spec <;> simp [h]

lemma ScenarioResolution.unresolvableTargets_attributed (plan : ResolvedPlan)
    (planned : Result ResolvedPlan) (resumeBase : ℕ) :
    unresolvableTargets ⟨attributed plan, planned, resumeBase⟩ = plan.unresolvableTargets := by
  have hsample : ∀ spec : PlannedSpec,
      ((Except.ok spec.sample : Result SpecContribution).toOption ==
        some .unresolvable) = spec.isUnresolvable := by
    intro spec
    rw [Bool.eq_iff_iff, ← spec.sample_eq_unresolvable]
    simp [Except.toOption]
  simp only [unresolvableTargets, attributed, ResolvedPlan.perTargetSamples,
    ResolvedPlan.unresolvableTargets, map_map, filter_map, Function.comp_def, hsample]

end Rastreo
