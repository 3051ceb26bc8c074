import Rastreo.Checkpoint.Preflight
import Rastreo.Prober.Config
import Rastreo.Resolver.Guard

/-!
# Requests for a scan

`POST /scans` up to the point where probes start.  The destination of the records is the server's,
and targets are planned through the server's resolver.  The allow-list of the guard is not consulted
for the name servers of a reverse lookup (`destinations_allowed_iff`).
-/

namespace Rastreo

open List

/-- The scenario and the settings of its probers. -/
structure ScanRequest where
  scenario : DiscoverScenarioConfig
  probers : List ProberConfig
  kinds : scenario.probers = probers.map ProberConfig.kind

/-- `proberChecks` and `classifierChecks` check settings left out here. -/
structure AppState where
  resolver : Resolver
  mib : MibSource
  maxInflightScans : ℕ
  inflightScans : ℕ
  proberChecks : ProberConfig → Status
  classifierChecks : DiscoverScenarioConfig → Status

/-- `AppError`, before it is given a status. -/
inductive AppError where
  | rastreo (e : RastreoError)
  | tooManyRequests (msg : String)
  deriving DecidableEq

/-- One prober run against one target. -/
structure Probe where
  target : ResolvedTarget
  prober : Prober
  deriving DecidableEq

def Probe.destinations (probe : Probe) : List Destination :=
  probe.prober.destinations probe.target.ip

def pinServerDestination (scenario : DiscoverScenarioConfig) : DiscoverScenarioConfig :=
  { scenario with sink := none }

section Create

variable (state : AppState) (now : SystemTime)

/-- The plan comes first, then the stages; each target is handed to each prober. -/
def startProbes (scenario : DiscoverScenarioConfig) (configs : List ProberConfig) :
    Result (List Probe) := do
  scenario.validate state.mib
  let plan ← state.resolver.plan now scenario.targets
  discard (createFuser state.mib scenario.effectiveFuserConfig)
  state.classifierChecks scenario
  let probers ← configs.mapM (createProber state.proberChecks)
  return plan.intoStream.flatMap fun target => probers.map (Probe.mk target)

/-- `InflightGuard::try_acquire`: a limit of zero is none. -/
def tryAcquire : Except AppError Unit :=
  if 0 < state.maxInflightScans ∧ state.maxInflightScans < state.inflightScans + 1 then
    .error (.tooManyRequests "inflight scan limit reached; retry once running scans complete")
  else .ok ()

/-- `create_scan`, up to the probes it may start. -/
def createScan (request : ScanRequest) (dryRun : Bool) : Except AppError (List Probe) := do
  let scenario := pinServerDestination request.scenario
  (scenario.validate state.mib).mapError AppError.rastreo
  if dryRun then .ok []
  else do
    tryAcquire state
    (startProbes state now scenario request.probers).mapError AppError.rastreo

variable {state now}

lemma mapM_createProber {configs : List ProberConfig} {probers : List Prober}
    (h : configs.mapM (createProber state.proberChecks) = .ok probers) :
    probers = configs.map ProberConfig.prober := by
  have heq : List.Forall₂ Eq (configs.map ProberConfig.prober) probers := by
    refine forall₂_map_left_iff.mpr ((forall₂_of_mapM_ok h).imp ?_)
    intro config prober hcreate
    obtain ⟨_, _, hcreate⟩ := bind_eq_ok.mp hcreate
    exact Except.ok.inj hcreate
  rw [forall₂_eq_eq_eq] at heq
  exact heq.symm

lemma createScan_eq_ok {request : ScanRequest} {dryRun : Bool} {probes : List Probe}
    (h : createScan state now request dryRun = .ok probes) :
    probes = [] ∨ ∃ plan, state.resolver.plan now request.scenario.targets = .ok plan ∧
      probes = plan.intoStream.flatMap fun target =>
        request.probers.map fun config => Probe.mk target config.prober := by
  obtain ⟨_, _, h⟩ := bind_eq_ok.mp h
  split at h
  next => exact .inl (Except.ok.inj h).symm
  next =>
    obtain ⟨_, _, h⟩ := bind_eq_ok.mp h
    have hst := mapError_eq_ok.mp h
    obtain ⟨_, _, hst⟩ := bind_eq_ok.mp hst
    obtain ⟨plan, hplan, hst⟩ := bind_eq_ok.mp hst
    obtain ⟨_, _, hst⟩ := bind_eq_ok.mp hst
    obtain ⟨_, _, hst⟩ := bind_eq_ok.mp hst
    obtain ⟨probers, hpro, hst⟩ := bind_eq_ok.mp hst
    obtain rfl := mapM_createProber hpro
    refine .inr ⟨plan, hplan, ?_⟩
    simpa only [map_map, Function.comp_def] using (Except.ok.inj hst).symm

end Create

/-- Under an allow-list all destinations of an admitted scan lie in it exactly if no probe starts or
every name server of every reverse lookup does. -/
theorem destinations_allowed_iff {state : AppState} {inner : Resolver} {nets : List IpNet}
    {cap : Option UInt64} (hguard : state.resolver = inner.guarded (some nets) cap)
    {now : SystemTime} {request : ScanRequest} {dryRun : Bool} {probes : List Probe}
    (h : createScan state now request dryRun = .ok probes) :
    (∀ probe ∈ probes, ∀ d ∈ probe.destinations, allows nets d.ip = true) ↔
      probes = [] ∨ ∀ resolvers, ProberConfig.reverseDns resolvers ∈ request.probers →
        ∀ ip ∈ resolvers, allows nets ip = true := by
  rcases createScan_eq_ok h with rfl | ⟨plan, hplan, rfl⟩
  · simp
  · rw [hguard] at hplan
    have hstream : ∀ rt ∈ plan.intoStream, allows nets rt.ip = true :=
      (guarded_plan_eq_ok.mp hplan).2.1
    constructor
    · intro hall
      rw [Classical.or_iff_not_imp_left]
      intro hne resolvers hmem ip hip
      obtain ⟨probe, hprobe⟩ := exists_mem_of_ne_nil _ hne
      obtain ⟨target, htarget, _⟩ := mem_flatMap.mp hprobe
      refine hall ⟨target, (ProberConfig.reverseDns resolvers).prober⟩ ?_ ⟨ip, some 53⟩
        (mem_destinations_reverseDns hip target.ip)
      exact mem_flatMap.mpr ⟨target, htarget, mem_map.mpr ⟨_, hmem, rfl⟩⟩
    · rintro (hnil | hres) probe hprobe d hd
      · rw [hnil] at hprobe
        cases hprobe
      · obtain ⟨target, htarget, hprobe⟩ := mem_flatMap.mp hprobe
        obtain ⟨config, hconfig, rfl⟩ := mem_map.mp hprobe
        rcases ProberConfig.ip_of_mem_destinations hd with hip | ⟨resolvers, rfl, hip⟩
        · rw [hip]
          exact hstream target htarget
        · exact hres resolvers hconfig d.ip hip

/-- A scan of one address of a private network with one prober. -/
def oneAddressRequest (config : ProberConfig) : ScanRequest where
  scenario :=
    { name := none, targets := [.ip (.v4 0x0a000001#32)], probers := [config.kind], fuser := none,
      sink := none, configHash := none, otherChecks := ⟨.ok (), .ok (), .ok ()⟩ }
  probers := [config]
  kinds := rfl

/-- A server that admits that network only. -/
def privateServer : AppState where
  resolver := (Resolver.hickory ⟨65536, noNames⟩).guarded (some [.v4 0x0a000000#32 8]) none
  mib := ⟨.error (.invalid "no MIB table"), fun _ => .error (.invalid "no MIB table")⟩
  maxInflightScans := 0
  inflightScans := 0
  proberChecks _ := .ok ()
  classifierChecks _ := .ok ()

/-- A reverse lookup queries an address outside the allow-list. -/
theorem resolver_outside_allowlist_queried : ∃ probes, createScan privateServer 0
        (oneAddressRequest (.reverseDns [.v4 0xa9fea9fe#32])) false = .ok probes ∧
      ∃ probe ∈ probes, ∃ d ∈ probe.destinations,
        d = ⟨.v4 0xa9fea9fe#32, some 53⟩ ∧ allows [.v4 0x0a000000#32 8] d.ip = false := by
  refine ⟨[⟨⟨.v4 0x0a000001#32, .ip (.v4 0x0a000001#32), 0⟩, .reverseDns [.v4 0xa9fea9fe#32]⟩],
    ?_, ?_⟩
  · decide +kernel
  · decide +kernel

/-- A reverse lookup that asks a server of the private network stays within the allow-list. -/
theorem destinations_allowed_reverse_dns : ∃ probes, createScan privateServer 0
        (oneAddressRequest (.reverseDns [.v4 0x0a000035#32])) false = .ok probes ∧
      probes.flatMap Probe.destinations = [⟨.v4 0x0a000035#32, some 53⟩] ∧
      ∀ probe ∈ probes, ∀ d ∈ probe.destinations, allows [.v4 0x0a000000#32 8] d.ip = true := by
  have hscan : createScan privateServer 0
      (oneAddressRequest (.reverseDns [.v4 0x0a000035#32])) false =
        .ok [⟨⟨.v4 0x0a000001#32, .ip (.v4 0x0a000001#32), 0⟩,
          .reverseDns [.v4 0x0a000035#32]⟩] := by
    decide +kernel
  refine ⟨_, hscan, rfl, (destinations_allowed_iff rfl hscan).mpr (.inr ?_)⟩
  intro resolvers hmem
  obtain rfl : resolvers = [.v4 0x0a000035#32] := by simpa [oneAddressRequest] using hmem
  decide +kernel

end Rastreo
