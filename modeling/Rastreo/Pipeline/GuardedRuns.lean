import Rastreo.Pipeline.Rehearsal
import Rastreo.Resolver.Counting

/-!
# Guarded runs

A guard sees the plan of a run that starts afresh.  A resumed run takes its addresses from the
targets and the pins of its checkpoint, and asks neither the resolver nor the guard;
`guard_covers_run_iff` says when it is within the guard all the same.
-/

namespace Rastreo

open Async List

/-- The addresses that targets stand for, names by their pins. -/
def pinnedAddresses : List Target → List (Target × List IpAddr) → List IpAddr
  | [], _ => []
  | .ip addr :: targets, pins => addr :: pinnedAddresses targets pins
  | .cidr net :: targets, pins =>
    blockAddresses (cidrBounds net).1.first (cidrBounds net).1.last ++ pinnedAddresses targets pins
  | .range start stop :: targets, pins => blockAddresses start stop ++ pinnedAddresses targets pins
  | .dnsName _ :: targets, [] => pinnedAddresses targets []
  | .dnsName _ :: targets, (_, ips) :: pins => ips ++ pinnedAddresses targets pins

lemma blockAddresses_single (addr : IpAddr) : blockAddresses addr addr = [addr] := by
  cases addr <;> simp [blockAddresses]

/-- A plan rebuilt from pins has the addresses of its targets and the pins. -/
lemma pinnedSpecs_addresses {targets : List Target} {pins : List (Target × List IpAddr)}
    {specs : List PlannedSpec} (h : ResolvedPlan.pinnedSpecs targets pins = .ok specs) :
    specs.flatMap PlannedSpec.addresses = pinnedAddresses targets pins := by
  obtain ⟨hfor, hpins⟩ := pinnedSpecs_eq_ok.mp h
  clear h
  induction hfor generalizing pins with
  | nil => rfl
  | @cons target spec targets specs hspec _ ih =>
    rw [flatMap_cons]
    cases target with
    | ip addr =>
      obtain rfl := hspec
      rw [ih hpins, pinnedAddresses, PlannedSpec.addresses, Block.single_first, Block.single_last,
        blockAddresses_single, singleton_append]
    | cidr net =>
      obtain rfl := hspec
      rw [ih hpins]
      rfl
    | range start stop =>
      obtain ⟨bounds, hbounds, rfl⟩ := hspec
      obtain ⟨hfst, hlast⟩ := rangeBounds_ends hbounds
      rw [ih hpins, pinnedAddresses, PlannedSpec.addresses, hfst, hlast]
    | dnsName name =>
      obtain ⟨ips, rfl⟩ := hspec
      obtain ⟨rest, rfl⟩ := hpins
      rw [ih (prefix_append _ rest)]
      rfl

/-! ## What is handed to the scheduler -/

section Guard

variable {P : Type} (digest : Digest) (scenario : DiscoverScenarioConfig) (resolver : Resolver)
  (opts : RunOptions P) (now : SystemTime)

/-- The plan that gets as far as the scheduler, and the checkpoint resumed from. -/
def scheduledRun (file : Option Checkpoint) :
    Result (ResolvedPlan × Option Checkpoint) := do
  scenario.validate opts.mib
  let resumeFrom ← opts.resumeFrom digest scenario file
  let plan ← planFor scenario resolver now resumeFrom
  return (plan, resumeFrom)

variable {digest scenario resolver opts now}

lemma scheduledRun_eq_ok {file resumeFrom : Option Checkpoint} {plan : ResolvedPlan} :
    scheduledRun digest scenario resolver opts now file = .ok (plan, resumeFrom) ↔
      scenario.validate opts.mib = .ok () ∧ opts.resumeFrom digest scenario file = .ok resumeFrom ∧
        planFor scenario resolver now resumeFrom = .ok plan := by
  rw [scheduledRun, bind_eq_ok]
  constructor
  · rintro ⟨⟨⟩, hval, h⟩
    obtain ⟨resumeFrom', hresume, h⟩ := bind_eq_ok.mp h
    obtain ⟨plan', hplan, h⟩ := bind_eq_ok.mp h
    simp_all
  · rintro ⟨hval, hresume, hplan⟩
    simp_all

variable (scenario) (allowlist : Option (List IpNet)) (cap : Option UInt64)

/-- The targets scheduled lie in the allow-list, and the plan has no more hosts than the cap. -/
def WithinGuard (plan : ResolvedPlan) (resumeFrom : Option Checkpoint) : Prop :=
  (∀ rt ∈ plan.planned.targetsFrom resumeFrom, permits allowlist rt.ip = true) ∧
    ∀ limit ∈ cap, plan.intoStream.length ≤ limit.toNat

/-- Afresh, unless the count saturates at the largest cap; resumed, if the addresses of the targets
and the pins are within the guard, where those before the position only count. -/
def GuardCovers (plan : ResolvedPlan) : Option Checkpoint → Prop
  | none => ∀ limit ∈ cap, limit.toNat = usizeMax → plan.intoStream.length ≤ usizeMax
  | some checkpoint =>
    (∀ ip ∈ (pinnedAddresses scenario.targets checkpoint.dnsPins).drop
        checkpoint.highestFlushedIndex, permits allowlist ip = true) ∧
      ∀ limit ∈ cap, (pinnedAddresses scenario.targets checkpoint.dnsPins).length ≤ limit.toNat

variable {scenario allowlist cap}

/-- What is scheduled is within the guard exactly if the guard covers the run. -/
theorem guard_covers_run_iff {inner : Resolver} {file resumeFrom : Option Checkpoint}
    {plan : ResolvedPlan}
    (h : scheduledRun digest scenario (inner.guarded allowlist cap) opts now file =
      .ok (plan, resumeFrom)) :
    WithinGuard allowlist cap plan resumeFrom ↔
      GuardCovers scenario allowlist cap plan resumeFrom := by
  obtain ⟨-, -, hplan⟩ := scheduledRun_eq_ok.mp h
  cases resumeFrom with
  | none =>
    obtain ⟨-, hall, hcap⟩ := guarded_plan_eq_ok.mp hplan
    have hbd : ∀ limit : UInt64, limit.toNat ≤ usizeMax := fun limit =>
      Nat.le_sub_one_of_lt limit.toNat_lt
    constructor
    · rintro ⟨-, hlimit⟩ limit hmem heq
      exact heq ▸ hlimit limit hmem
    · intro hcovers
      refine ⟨hall, fun limit hmem => ?_⟩
      have hcount := hcap limit hmem
      have hle := hbd limit
      have hsat := hcovers limit hmem
      omega
  | some checkpoint =>
    -- The guard never saw this plan: its addresses are those of the targets and the pins.
    obtain ⟨specs, hspecs, hpure⟩ := bind_eq_ok.mp hplan
    obtain rfl := Except.ok.inj hpure
    have hadd : (ResolvedPlan.mk specs now).intoStream.map ResolvedTarget.ip =
        pinnedAddresses scenario.targets checkpoint.dnsPins := by
      rw [ResolvedPlan.map_ip_intoStream]
      exact pinnedSpecs_addresses hspecs
    rw [WithinGuard, GuardCovers, ← hadd, length_map, ← map_drop, forall_mem_map]
    rfl

end Guard

/-! ## A checkpoint that leads outside -/

def namedScenario : DiscoverScenarioConfig := { pairScenario with targets := [.dnsName "edge"] }

/-- The name has the address of a metadata service. -/
def strayCheckpoint : Checkpoint where
  checkpointVersion := 1
  scanId := "01"
  initiatedAt := 0
  resumeFingerprint := resumeFingerprint trivialDigest namedScenario
  sourceConfigHash := none
  dnsPins := [(.dnsName "edge", [.v4 0xa9fea9fe#32])]
  highestFlushedIndex := 0

def resumingRun : RunOptions Unit :=
  { pairRun with checkpoint := some ⟨"scan.checkpoint", 1, true⟩ }

def strayPlan : ResolvedPlan := ⟨[.resolved [.v4 0xa9fea9fe#32] (.dnsName "edge")], 0⟩

lemma stray_scheduled (allowlist : Option (List IpNet)) (cap : Option UInt64) :
    scheduledRun trivialDigest namedScenario (namelessResolver.guarded allowlist cap) resumingRun 0
      (some strayCheckpoint) = .ok (strayPlan, some strayCheckpoint) := by
  refine scheduledRun_eq_ok.mpr ⟨rfl, ?_, rfl⟩
  decide +kernel

/-- The address is not in the allow-list. -/
theorem resumed_run_escapes_guard : ∃ plan, scheduledRun trivialDigest namedScenario
        (namelessResolver.guarded (some [.v4 0x0a000000#32 8]) none) resumingRun 0
        (some strayCheckpoint) = .ok (plan, some strayCheckpoint) ∧
      ¬WithinGuard (some [.v4 0x0a000000#32 8]) none plan (some strayCheckpoint) := by
  refine ⟨strayPlan, stray_scheduled _ _, fun h => ?_⟩
  have hmem : (⟨.v4 0xa9fea9fe#32, .dnsName "edge", 0⟩ : ResolvedTarget) ∈
      strayPlan.planned.targetsFrom (some strayCheckpoint) := by decide
  exact absurd (h.1 _ hmem) (by decide)

/-- An allow-list that contains the address covers the run. -/
theorem guard_covers_run_iff_pinned :
    WithinGuard (some [.v4 0xa9fea9fe#32 32]) (some 1) strayPlan (some strayCheckpoint) := by
  refine (guard_covers_run_iff (stray_scheduled (some [.v4 0xa9fea9fe#32 32]) (some 1))).mpr ?_
  refine ⟨by decide, fun limit hlimit => ?_⟩
  obtain rfl := Option.some.inj hlimit
  exact Nat.le_refl 1

end Rastreo
