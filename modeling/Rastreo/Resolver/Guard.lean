import Rastreo.Resolver.Distinct
import Mathlib.Data.List.Find

/-!
# The guard

The allow-list check of a plan works on blocks, that of an answer on addresses, and the cap on
counts. Each agrees with the stream: the sweep finds the first address that no network contains
(`firstUncoveredIp_eq`), counts are lengths, and a guarded plan is refused exactly for what it would
stream (`guarded_plan_exact`).
-/

namespace Rastreo

open List Function

/-! ## The sweep -/

/-- Some network of the list contains the address. -/
def allows (nets : List IpNet) (ip : IpAddr) : Bool := nets.any fun net => net.contains ip

lemma uncoveredPoint_eq {lo hi : ℕ} (hlo : lo ≤ hi) (ivals : List (ℕ × ℕ)) :
    uncoveredPoint lo hi ivals =
      (List.range' lo (hi + 1 - lo)).find? fun x => decide ¬Covered ivals x := by
  have hsorted := pairwise_mergeSort_key Prod.fst ivals
  exact (sweep_spec hsorted hlo).unique (fun i => (mergeSort_perm ivals _).mem_iff)
    (firstGap_find? ivals lo hi)

lemma covered_singleton (net : IpNet) (ip : IpAddr) :
    Covered (networkIntervals (ipToBits ip).1 [net]) (ipToBits ip).2 ↔ net.contains ip = true := by
  cases net <;> cases ip <;>
    simp [Covered, networkIntervals, IpNet.contains, ipToBits, BitVec.le_def]

lemma covered_iff (nets : List IpNet) (ip : IpAddr) :
    Covered (networkIntervals (ipToBits ip).1 nets) (ipToBits ip).2 ↔ allows nets ip = true := by
  induction nets with
  | nil => simp [Covered, networkIntervals, allows]
  | cons net nets ih =>
    have hsplit : networkIntervals (ipToBits ip).1 (net :: nets) =
        networkIntervals (ipToBits ip).1 [net] ++ networkIntervals (ipToBits ip).1 nets :=
      filterMap_append (l := [net])
    rw [hsplit, covered_append, covered_singleton, ih, allows, allows, any_cons, Bool.or_eq_true]

lemma find?_points {w : ℕ} {a b : BitVec w} (mk : BitVec w → IpAddr) {nets : List IpNet}
    {ivals : List (ℕ × ℕ)}
    (hcov : ∀ x : BitVec w, Covered ivals x.toNat ↔ allows nets (mk x) = true) :
    ((List.range' a.toNat (b.toNat + 1 - a.toNat)).find? fun x => decide ¬Covered ivals x).map
        (fun bits => mk (BitVec.ofNat w bits)) =
      ((List.range' a.toNat (b.toNat + 1 - a.toNat)).map fun bits => mk (BitVec.ofNat w bits)).find?
        fun ip => !allows nets ip := by
  rw [find?_map]
  congr 1
  refine find?_congr fun x hx => ?_
  have hran := mem_range'_1.mp hx
  have hbits : (BitVec.ofNat w x).toNat = x := by grind
  have hx' := hcov (BitVec.ofNat w x)
  rw [hbits] at hx'
  grind

/-- The first address of a block that no network contains. -/
theorem firstUncoveredIp_eq (b : Block) (nets : List IpNet) : firstUncoveredIp b.first b.last nets =
      (blockAddresses b.first b.last).find? fun ip => !allows nets ip := by
  obtain ⟨first, last, hfamily, hle⟩ := b
  rcases first with a | a <;> rcases last with c | c
  · have hac : a.toNat ≤ c.toNat := hle
    simp only [firstUncoveredIp, blockAddresses]
    rw [uncoveredPoint_eq hac]
    exact find?_points IpAddr.v4 fun x => covered_iff nets (.v4 x)
  · cases hfamily
  · cases hfamily
  · have hac : a.toNat ≤ c.toNat := hle
    simp only [firstUncoveredIp, blockAddresses]
    rw [uncoveredPoint_eq hac]
    exact find?_points IpAddr.v6 fun x => covered_iff nets (.v6 x)

/-! ## The allow-list -/

def notAllowed (ip : IpAddr) : RastreoError := .resolver (.targetNotAllowed ip)

lemma PlannedSpec.checkAllowed_eq (spec : PlannedSpec) (nets : List IpNet) :
    spec.checkAllowed nets = (spec.addresses.find? fun ip => !allows nets ip).elim (.ok ())
        fun ip => .error (notAllowed ip) := by
  cases spec with
  | block b original =>
    rw [PlannedSpec.checkAllowed, firstUncoveredIp_eq, PlannedSpec.addresses]
    cases (blockAddresses b.first b.last).find? fun ip => !allows nets ip <;> rfl
  | resolved ips original =>
    refine forM_eq_find? fun ip => ?_
    rw [allows]
    cases nets.any fun net => net.contains ip <;> rfl

/-- The addresses of a plan, in the order they are streamed. -/
def ResolvedPlan.addresses (self : ResolvedPlan) : List IpAddr :=
  self.specs.flatMap PlannedSpec.addresses

lemma ResolvedPlan.map_ip_intoStream (plan : ResolvedPlan) :
    plan.intoStream.map ResolvedTarget.ip = plan.addresses := by
  simp [ResolvedPlan.intoStream, ResolvedPlan.addresses, map_flatMap,
    PlannedSpec.intoStream, comp_def]

lemma ResolvedPlan.checkAllowed_eq (plan : ResolvedPlan) (nets : List IpNet) :
    plan.checkAllowed nets = (plan.addresses.find? fun ip => !allows nets ip).elim (.ok ())
        fun ip => .error (notAllowed ip) := by
  rw [ResolvedPlan.checkAllowed, ResolvedPlan.addresses, find?_flatMap]
  induction plan.specs with
  | nil => rfl
  | cons spec specs ih =>
    change (spec.checkAllowed nets >>= fun _ => specs.forM (PlannedSpec.checkAllowed nets)) = _
    rw [spec.checkAllowed_eq nets, findSome?_cons]
    cases spec.addresses.find? fun ip => !allows nets ip with
    | none => exact ih
    | some ip => rfl

/-! ## Counts -/

/-- A spec whose number of addresses is a `usize`. -/
def PlannedSpec.Fits (spec : PlannedSpec) : Prop := spec.addresses.length ≤ usizeMax

lemma length_blockAddresses (b : Block) :
    (blockAddresses b.first b.last).length = (ipToBits b.last).2 - (ipToBits b.first).2 + 1 := by
  obtain ⟨first, last, hfamily, hle⟩ := b
  rcases first with a | a <;> rcases last with c | c
  · grind [blockAddresses, length_map, length_range', ipToBits]
  · cases hfamily
  · cases hfamily
  · grind [blockAddresses, length_map, length_range', ipToBits]

variable {b : Block}

lemma blockSpan_eq (h : (blockAddresses b.first b.last).length ≤ usizeMax) :
    blockSpan b.first b.last = (blockAddresses b.first b.last).length := by
  rw [length_blockAddresses] at h ⊢
  obtain ⟨first, last, hfamily, hle⟩ := b
  rw [usizeMax] at h
  rcases first with a | a <;> rcases last with c | c
  · simp only [blockSpan, ipToBits] at h ⊢
    omega
  · cases hfamily
  · cases hfamily
  · simp only [blockSpan, ipToBits] at h ⊢
    omega

lemma PlannedSpec.Fits.hosts_eq {spec : PlannedSpec} (h : spec.Fits) :
    spec.hosts = spec.addresses.length := by
  cases spec with
  | block b original => exact blockSpan_eq h
  | resolved ips original => rfl

def ResolvedPlan.Fits (plan : ResolvedPlan) : Prop := ∀ spec ∈ plan.specs, spec.Fits

variable {plan : ResolvedPlan}

/-- The length of the stream, up to saturation. -/
lemma ResolvedPlan.Fits.totalHosts_eq (h : plan.Fits) :
    plan.totalHosts = min plan.intoStream.length usizeMax := by
  have hlen : plan.intoStream.length = plan.addresses.length := by
    rw [← plan.map_ip_intoStream, length_map]
  have hsum : ∀ (specs : List PlannedSpec) (n : ℕ), (∀ spec ∈ specs, spec.Fits) → n ≤ usizeMax →
      specs.foldl (fun sum spec => min (sum + spec.hosts) usizeMax) n =
        min (n + (specs.flatMap PlannedSpec.addresses).length) usizeMax := by
    intro specs
    induction specs with
    | nil =>
      intro n _ hn
      simp [hn]
    | cons spec specs ih =>
      intro n hfits hn
      have hhosts := (hfits spec mem_cons_self).hosts_eq
      rw [foldl_cons, ih _ (fun s hs => hfits s (mem_cons_of_mem spec hs)) (by omega),
        flatMap_cons, length_append, hhosts]
      omega
  rw [hlen, ResolvedPlan.addresses, ResolvedPlan.totalHosts, hsum plan.specs 0 h (by omega),
    Nat.zero_add]

lemma cidrBounds_hosts (net : IpNet) : (cidrBounds net).2 =
      min (blockAddresses (cidrBounds net).1.first (cidrBounds net).1.last).length
        (2 ^ 128 - 1) := by
  rw [length_blockAddresses]
  cases net with
  | v4 addr len =>
    rw [cidrBounds]
    split
    next => simp [ipToBits]
    next h32 =>
      split
      next h31 =>
        have hpair : (networkBits addr 31).toNat + 2 ^ (32 - 31) =
            (broadcastBits addr 31).toNat + 1 := networkBits_add addr (by omega)
        have hpairlt := (broadcastBits addr 31).isLt
        simp only [ipToBits]
        bv_omega
      next h31 =>
        obtain ⟨hfst, hlast, hroom⟩ := hosts_bounds addr len h32 h31
        simp only [ipToBits, hfst, hlast]
        omega
  | v6 addr len => simp [cidrBounds, ipToBits]

variable {hosts : ℕ}

lemma rangeBounds_hosts {start stop : IpAddr} (h : rangeBounds start stop = .ok (b, hosts)) :
    hosts = min (blockAddresses b.first b.last).length (2 ^ 128 - 1) := by
  rw [length_blockAddresses]
  rcases start with s | s <;> rcases stop with e | e
  · simp only [rangeBounds] at h
    split at h
    next hle =>
      obtain ⟨rfl, rfl⟩ := Prod.mk.inj (Except.ok.inj h)
      simp only [ipToBits]
      omega
    next => cases h
  · cases h
  · cases h
  · simp only [rangeBounds] at h
    split at h
    next hle =>
      obtain ⟨rfl, rfl⟩ := Prod.mk.inj (Except.ok.inj h)
      rfl
    next => cases h

lemma length_lookupDns {dns : Nameserver} {name : String} {ips : List IpAddr}
    (h : lookupDns dns name = .ok ips) : ips.length ≤ usizeMax := by
  obtain ⟨_, _, h⟩ := bind_eq_ok.mp h
  rw [usizeMax]
  unfold mergeFamilyLookups at h
  split at h
  next sixes fours _ _ =>
    obtain rfl := Except.ok.inj h
    have hle := length_eachAddressOnce_le (sixes.val ++ fours.val)
    rw [length_append] at hle
    have h6 := sixes.property
    have h4 := fours.property
    omega
  next answer _ _ _ =>
    obtain rfl := Except.ok.inj h
    have hle := length_eachAddressOnce_le answer.val
    have hlt := answer.property
    omega
  next _ answer _ _ =>
    obtain rfl := Except.ok.inj h
    have hle := length_eachAddressOnce_le answer.val
    have hlt := answer.property
    omega
  next => cases h

variable {self : HickoryResolver}

lemma fits_of_hosts_le (original : Target)
    (hhosts : hosts = min (blockAddresses b.first b.last).length (2 ^ 128 - 1))
    (hle : ¬self.hostLimit.toNat < hosts) : (PlannedSpec.block b original).Fits := by
  have hlimit := self.hostLimit.toNat_lt
  rw [PlannedSpec.Fits, usizeMax, PlannedSpec.addresses]
  omega

variable {target : Target}

lemma HickoryResolver.planTarget_fits {spec : PlannedSpec} (h : self.planTarget target = .ok spec) :
    spec.Fits := by
  cases target with
  | ip addr =>
    obtain rfl := Except.ok.inj h
    rw [PlannedSpec.Fits, PlannedSpec.addresses, length_blockAddresses, usizeMax,
      Block.single_first, Block.single_last]
    omega
  | cidr net =>
    simp only [HickoryResolver.planTarget, HickoryResolver.planCidr] at h
    split at h
    next => cases h
    next hle =>
      obtain rfl := Except.ok.inj h
      exact fits_of_hosts_le _ (cidrBounds_hosts net) hle
  | range start stop =>
    obtain ⟨⟨b, hosts⟩, hbounds, h⟩ := bind_eq_ok.mp h
    dsimp only at h
    split at h
    next => cases h
    next hle =>
      obtain rfl := Except.ok.inj h
      exact fits_of_hosts_le _ (rangeBounds_hosts hbounds) hle
  | dnsName name =>
    simp only [HickoryResolver.planTarget, dnsSpec] at h
    split at h
    next ips hips =>
      obtain rfl := Except.ok.inj h
      exact length_lookupDns hips
    next =>
      split at h
      next =>
        obtain rfl := Except.ok.inj h
        exact Nat.zero_le _
      next => cases h

variable {inner : Resolver} {allowlist : Option (List IpNet)} {cap : Option UInt64}
  {now : SystemTime} {targets : List Target}

lemma Resolver.inner_plan_of_guarded (h : (inner.guarded allowlist cap).plan now targets = .ok plan)
    :
    inner.plan now targets = .ok plan := by
  obtain ⟨plan', hplan', h⟩ := bind_eq_ok.mp h
  obtain ⟨_, _, h⟩ := bind_eq_ok.mp h
  obtain ⟨_, _, h⟩ := bind_eq_ok.mp h
  obtain rfl := Except.ok.inj h
  exact hplan'

variable {r : Resolver}

/-- What a resolver plans fits. -/
theorem Resolver.plan_fits (h : r.plan now targets = .ok plan) : plan.Fits := by
  induction r with
  | hickory self =>
    obtain ⟨specs, hspecs, h⟩ := bind_eq_ok.mp h
    obtain rfl := Except.ok.inj h
    intro spec hspec
    obtain ⟨target, _, htarget⟩ := exists_left_of_mem (forall₂_of_mapM_ok hspecs) hspec
    exact HickoryResolver.planTarget_fits htarget
  | eager answer =>
    obtain ⟨specs, hspecs, h⟩ := bind_eq_ok.mp h
    obtain rfl := Except.ok.inj h
    intro spec hspec
    obtain ⟨target, _, htarget⟩ := exists_left_of_mem (forall₂_of_mapM_ok hspecs) hspec
    obtain ⟨ips, _, h⟩ := bind_eq_ok.mp htarget
    obtain rfl := Except.ok.inj h
    have hlt := ips.property
    simp only [PlannedSpec.Fits, PlannedSpec.addresses, length_map, usizeMax]
    omega
  | guarded inner allowlist maxTotalHosts ih => exact ih (Resolver.inner_plan_of_guarded h)

/-! ## Verdicts -/

/-- The allow-list contains the address, if there is one. -/
def permits (allowlist : Option (List IpNet)) (ip : IpAddr) : Bool :=
  allowlist.all fun nets => allows nets ip

/-- The first address outside the allow-list is refused, then the count. -/
def verdict {α : Type} (allowlist : Option (List IpNet)) (cap : Option UInt64)
    (addresses : List IpAddr) (hosts : ℕ) (answer : α) : Result α :=
  (addresses.find? fun ip => !permits allowlist ip).elim
    ((Resolver.checkCap cap hosts).map fun _ => answer) fun ip => .error (notAllowed ip)

lemma guarded_plan_eq (h : inner.plan now targets = .ok plan) :
    (inner.guarded allowlist cap).plan now targets =
      verdict allowlist cap plan.addresses (min plan.intoStream.length usizeMax) plan := by
  have hall : Resolver.checkPlanAllowed allowlist plan =
      (plan.addresses.find? fun ip => !permits allowlist ip).elim (.ok ())
        fun ip => .error (notAllowed ip) := by
    cases allowlist with
    | none =>
      have hnone : (plan.addresses.find? fun ip => !permits none ip) = none := by simp [permits]
      rw [hnone]
      rfl
    | some nets => exact plan.checkAllowed_eq nets
  rw [Resolver.plan, h, ok_bind, hall, (Resolver.plan_fits h).totalHosts_eq, verdict]
  cases plan.addresses.find? fun ip => !permits allowlist ip with
  | none => cases Resolver.checkCap cap (min plan.intoStream.length usizeMax) <;> rfl
  | some ip => rfl

lemma guarded_resolve_eq {resolved : List ResolvedTarget}
    (h : inner.resolve now target = .ok resolved) :
    (inner.guarded allowlist cap).resolve now target =
      verdict allowlist cap (resolved.map ResolvedTarget.ip) resolved.length resolved := by
  have hall : resolved.forM (fun rt => Resolver.checkAllowed allowlist rt.ip) =
      (resolved.find? fun rt => !permits allowlist rt.ip).elim (.ok ())
        fun rt => .error (notAllowed rt.ip) := by
    refine forM_eq_find? fun rt => ?_
    cases allowlist with
    | none => rfl
    | some nets =>
      rw [Resolver.checkAllowed, permits, Option.all_some, allows]
      cases nets.any fun net => net.contains rt.ip <;> rfl
  rw [Resolver.resolve, h, ok_bind, hall, verdict, find?_map]
  simp only [comp_def]
  cases resolved.find? fun rt => !permits allowlist rt.ip with
  | none => cases Resolver.checkCap cap resolved.length <;> rfl
  | some rt => rfl

lemma Resolver.plan_singleton (h : r.plan now [target] = .ok plan) :
    ∃ spec, plan.specs = [spec] := by
  have hone : ∀ {f : Target → Result PlannedSpec} {specs : List PlannedSpec},
      [target].mapM f = .ok specs → ∃ spec, specs = [spec] := by
    intro f specs hspecs
    cases forall₂_of_mapM_ok hspecs with
    | cons _ hnil =>
      cases hnil
      exact ⟨_, rfl⟩
  induction r with
  | hickory self =>
    obtain ⟨specs, hspecs, h⟩ := bind_eq_ok.mp h
    obtain rfl := Except.ok.inj h
    exact hone hspecs
  | eager answer =>
    obtain ⟨specs, hspecs, h⟩ := bind_eq_ok.mp h
    obtain rfl := Except.ok.inj h
    exact hone hspecs
  | guarded inner allowlist maxTotalHosts ih => exact ih (Resolver.inner_plan_of_guarded h)

lemma Resolver.length_plan_singleton (h : r.plan now [target] = .ok plan) :
    plan.intoStream.length ≤ usizeMax := by
  obtain ⟨spec, hspecs⟩ := Resolver.plan_singleton h
  have hfits : spec.Fits := Resolver.plan_fits h spec (by rw [hspecs]; exact mem_cons_self)
  rw [PlannedSpec.Fits] at hfits
  simpa [ResolvedPlan.intoStream, hspecs, PlannedSpec.intoStream] using hfits

theorem plan_singleton_eq_resolve (r : Resolver) (now : SystemTime) (target : Target) :
    (r.plan now [target]).map ResolvedPlan.addresses =
      (r.resolve now target).map fun resolved => resolved.map ResolvedTarget.ip := by
  induction r with
  | hickory self =>
    rw [Resolver.plan, Resolver.resolve]
    cases self.plan now [target] with
    | error e => rfl
    | ok plan => exact congrArg Except.ok plan.map_ip_intoStream.symm
  | eager answer =>
    rw [Resolver.plan, Resolver.resolve, Resolver.defaultPlan]
    simp only [mapM_cons, mapM_nil]
    cases answer target with
    | error e => rfl
    | ok ips => simp [Except.map, ResolvedPlan.addresses, PlannedSpec.addresses]
  | guarded inner allowlist cap ih =>
    rcases hplan : inner.plan now [target] with e | plan
    · rw [hplan] at ih
      rcases hres : inner.resolve now target with e' | resolved
      · rw [hres] at ih
        obtain rfl := Except.error.inj ih
        rw [Resolver.plan, Resolver.resolve, hplan, hres]
        rfl
      · rw [hres] at ih
        cases ih
    · rw [hplan] at ih
      rcases hres : inner.resolve now target with e' | resolved
      · rw [hres] at ih
        cases ih
      · rw [hres] at ih
        have hips : plan.addresses = resolved.map ResolvedTarget.ip := Except.ok.inj ih
        have hlen : min plan.intoStream.length usizeMax = resolved.length := by
          rw [Nat.min_eq_left (Resolver.length_plan_singleton hplan),
            ← length_map ResolvedTarget.ip, plan.map_ip_intoStream, hips, length_map]
        rw [guarded_plan_eq hplan, guarded_resolve_eq hres, hips, hlen, verdict, verdict]
        cases (resolved.map ResolvedTarget.ip).find? fun ip => !permits allowlist ip with
        | none =>
          cases Resolver.checkCap cap resolved.length with
          | error e => rfl
          | ok _ => exact congrArg Except.ok hips
        | some ip => rfl

lemma checkCap_eq_ok :
    Resolver.checkCap cap hosts = .ok () ↔ ∀ limit ∈ cap, hosts ≤ limit.toNat := by
  cases cap with
  | none => simp [Resolver.checkCap]
  | some limit =>
    rw [Resolver.checkCap]
    split
    next h =>
      simp only [Option.mem_some_iff, forall_eq', reduceCtorEq, false_iff]
      omega
    grind

lemma checkCap_ne_notAllowed (cap : Option UInt64) (hosts : ℕ) (ip : IpAddr) :
    Resolver.checkCap cap hosts ≠ .error (notAllowed ip) := by
  cases cap with
  | none => exact fun h => by cases h
  | some limit =>
    rw [Resolver.checkCap]
    split
    · intro h
      cases h
    · intro h
      cases h

variable {addresses : List IpAddr} {α : Type}

lemma verdict_eq_ok {answer a : α} : verdict allowlist cap addresses hosts answer = .ok a ↔
      answer = a ∧ (∀ ip ∈ addresses, permits allowlist ip = true) ∧
        ∀ limit ∈ cap, hosts ≤ limit.toNat := by
  rw [verdict, ← checkCap_eq_ok]
  rcases hfind : addresses.find? fun ip => !permits allowlist ip with _ | ip
  · have hall : ∀ ip ∈ addresses, permits allowlist ip = true := fun ip hip => by grind
    rw [Option.elim_none, map_eq_ok]
    constructor
    · grind
    · grind
  · have hnot : permits allowlist ip = false := by simpa using find?_some hfind
    constructor
    · intro h
      cases h
    · grind

lemma verdict_eq_notAllowed {answer : α} {ip : IpAddr} :
    verdict allowlist cap addresses hosts answer = .error (notAllowed ip) ↔
      (addresses.find? fun ip => !permits allowlist ip) = some ip := by
  rw [verdict]
  cases addresses.find? fun ip => !permits allowlist ip with
  | none =>
    have hcap := checkCap_ne_notAllowed cap hosts ip
    cases hcheck : Resolver.checkCap cap hosts with
    | error e =>
      rw [hcheck] at hcap
      constructor
      · intro h
        exact absurd (congrArg Except.error (Except.error.inj h)) hcap
      · intro h
        cases h
    | ok u =>
      constructor
      · intro h
        cases h
      · intro h
        cases h
  | some ip' =>
    constructor
    · intro h
      injection h with h
      injection h with h
      injection h with h
      rw [h]
    · intro h
      rw [Option.some.inj h]
      rfl

lemma guarded_plan_eq_ok : (inner.guarded allowlist cap).plan now targets = .ok plan ↔
      inner.plan now targets = .ok plan ∧ (∀ rt ∈ plan.intoStream, permits allowlist rt.ip = true) ∧
        ∀ limit ∈ cap, min plan.intoStream.length usizeMax ≤ limit.toNat := by
  rcases hinner : inner.plan now targets with e | plan'
  · rw [Resolver.plan, hinner]
    constructor
    · intro h
      cases h
    · intro h
      cases h.1
  · have hmem : (∀ ip ∈ plan.addresses, permits allowlist ip = true) ↔
        ∀ rt ∈ plan.intoStream, permits allowlist rt.ip = true := by
      rw [← plan.map_ip_intoStream]
      simp
    rw [guarded_plan_eq hinner, verdict_eq_ok]
    constructor
    · grind
    · grind

/-- A plan is returned exactly if its stream stays within the allow-list and, counted up to
`usize::MAX`, the cap; a refused address is the first that no network contains; the sweep is the
search over the addresses; and for one target plan and answer agree. -/
theorem guarded_plan_exact (inner : Resolver) (allowlist : Option (List IpNet))
    (cap : Option UInt64) (now : SystemTime) :
    (∀ targets plan, (inner.guarded allowlist cap).plan now targets = .ok plan ↔
      inner.plan now targets = .ok plan ∧ (∀ rt ∈ plan.intoStream, permits allowlist rt.ip = true) ∧
        ∀ limit ∈ cap, min plan.intoStream.length usizeMax ≤ limit.toNat) ∧
    (∀ targets plan ip, inner.plan now targets = .ok plan →
      ((inner.guarded allowlist cap).plan now targets = .error (notAllowed ip) ↔
        (plan.intoStream.map ResolvedTarget.ip).find? (fun ip => !permits allowlist ip) =
          some ip)) ∧
    (∀ (b : Block) (nets : List IpNet), firstUncoveredIp b.first b.last nets =
      (blockAddresses b.first b.last).find? fun ip => !allows nets ip) ∧
    ∀ target, ((inner.guarded allowlist cap).plan now [target]).map
        (fun plan => plan.intoStream.map ResolvedTarget.ip) =
      ((inner.guarded allowlist cap).resolve now target).map
        fun resolved => resolved.map ResolvedTarget.ip := by
  refine ⟨?_, ?_, firstUncoveredIp_eq, ?_⟩
  · intro targets plan
    exact guarded_plan_eq_ok
  · intro targets plan ip hinner
    rw [guarded_plan_eq hinner, verdict_eq_notAllowed, plan.map_ip_intoStream]
  · intro target
    have h := plan_singleton_eq_resolve (inner.guarded allowlist cap) now target
    simpa only [ResolvedPlan.map_ip_intoStream] using h

def noNames : Nameserver := ⟨fun _ => false, fun _ => .ok ⟨[], by simp⟩, fun _ => .ok ⟨[], by simp⟩⟩

/-- A network of half as many hosts as a `usize` counts. -/
def halfNet : IpNet := .v6 0x20010db8000000000000000000000000#128 65

def halvesPlan : ResolvedPlan :=
  ⟨[.block (cidrBounds halfNet).1 (.cidr halfNet),
    .block (cidrBounds halfNet).1 (.cidr halfNet)], 0⟩

lemma halves_planned :
    (Resolver.hickory ⟨0xffffffffffffffff, noNames⟩).plan 0 [.cidr halfNet, .cidr halfNet] =
      .ok halvesPlan := rfl

lemma length_halvesPlan : halvesPlan.intoStream.length = 2 ^ 64 := by
  have hhalf : (blockAddresses (cidrBounds halfNet).1.first (cidrBounds halfNet).1.last).length =
      2 ^ 63 := by
    rw [length_blockAddresses]
    decide +kernel
  simp [halvesPlan, ResolvedPlan.intoStream, PlannedSpec.intoStream, PlannedSpec.addresses, hhalf]

/-- Two networks stream one address more than a cap of `usize::MAX`; the count saturates, and the
plan passes. -/
theorem saturated_count_passes_cap :
    ∃ plan, ((Resolver.hickory ⟨0xffffffffffffffff, noNames⟩).guarded none
        (some 0xffffffffffffffff)).plan 0 [.cidr halfNet, .cidr halfNet] = .ok plan ∧
      (0xffffffffffffffff : UInt64).toNat < plan.intoStream.length := by
  refine ⟨_, (guarded_plan_eq halves_planned).trans (verdict_eq_ok.mpr ⟨rfl, ?_, ?_⟩), ?_⟩
  · exact fun _ _ => rfl
  · rintro limit ⟨⟩
    rw [length_halvesPlan]
    decide
  · rw [length_halvesPlan]
    decide

/-- A network is refused for its first address outside the allow-list. -/
theorem guarded_plan_exact_refused : let nets := [IpNet.v4 0x0a000000#32 25, .v4 0x0a000080#32 26]
    ((Resolver.hickory ⟨65536, noNames⟩).guarded (some nets) none).plan 0
        [.cidr (.v4 0x0a000000#32 24)] = .error (notAllowed (.v4 0x0a0000c0#32)) := by
  intro nets
  refine ((guarded_plan_exact (.hickory ⟨65536, noNames⟩) (some nets) none 0).2.1 _
    ⟨[.block (cidrBounds (.v4 0x0a000000#32 24)).1 (.cidr (.v4 0x0a000000#32 24))], 0⟩ _ rfl).mpr ?_
  decide +kernel

end Rastreo
