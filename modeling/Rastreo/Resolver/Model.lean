import Rastreo.Model.AddrParse
import Rastreo.Resolver.Plan

/-!
# Resolvers

A resolver answers for a target with addresses, and for a list of targets with a plan.  The system
resolver plans blocks without expanding them; any other asks for every target in turn; a guard puts
an allow-list and a cap on the hosts around either.
-/

namespace Rastreo

/-! ## Names -/

/-- A vector holds at most `isize::MAX` bytes. -/
def Vec (α : Type) : Type := { l : List α // l.length < 2 ^ 63 }

/-- Which texts parse as a name, and the answers of either family. -/
structure Nameserver where
  parsesAsName : String → Bool
  lookupV6 : String → Except DnsFailure (Vec IpAddr)
  lookupV4 : String → Except DnsFailure (Vec IpAddr)

def answeredWithNoAddresses : ResolverError → Bool
  | .dnsLookupFailed _ source => source.isNoRecordsFound
  | .dnsNoRecords _ => true
  | _ => false

def skipsOnlyThisTarget : ResolverError → Bool
  | .dnsLookupFailed name source => answeredWithNoAddresses (.dnsLookupFailed name source)
  | .dnsNoRecords name => answeredWithNoAddresses (.dnsNoRecords name)
  | .unqueryableTargetName _ => true
  | _ => false

/-- `queried_name`: whether the written form can be looked up. -/
def queriedName (dns : Nameserver) (written : String) : Except ResolverError Unit :=
  if (IpAddr.parse written).isSome then .ok ()
  else if dns.parsesAsName written then .ok ()
  else .error (.unqueryableTargetName written)

def addressesOrNoRecords (name : String) (ips : Vec IpAddr) : Except ResolverError (Vec IpAddr) :=
  if ips.val.isEmpty then .error (.dnsNoRecords name) else .ok ips

def lookupOneFamily (lookup : String → Except DnsFailure (Vec IpAddr)) (name : String) :
    Except ResolverError (Vec IpAddr) :=
  match lookup name with
  | .error source => .error (.dnsLookupFailed name source)
  | .ok ips => addressesOrNoRecords name ips

/-- Over the positions from `index` on. -/
def eachAddressOnceLoop (ips : Array IpAddr) (kept : ℕ) : List ℕ → Array IpAddr × ℕ
  | [] => (ips, kept)
  | index :: rest =>
    match ips[index]? with
    | some ip =>
      if (ips.extract 0 kept).contains ip then eachAddressOnceLoop ips kept rest
      else eachAddressOnceLoop (ips.swapIfInBounds kept index) (kept + 1) rest
    | none => eachAddressOnceLoop ips kept rest

def eachAddressOnce (ips : List IpAddr) : List IpAddr :=
  let (kept, count) := eachAddressOnceLoop ips.toArray 0 (List.range ips.length)
  kept.toList.take count

def mergeFamilyLookups (v6 v4 : Except ResolverError (Vec IpAddr)) :
    Except ResolverError (List IpAddr) :=
  match v6, v4 with
  | .ok sixes, .ok fours => .ok (eachAddressOnce (sixes.val ++ fours.val))
  | .ok ips, .error _ => .ok (eachAddressOnce ips.val)
  | .error _, .ok ips => .ok (eachAddressOnce ips.val)
  | .error e6, .error e4 => .error (if answeredWithNoAddresses e6 then e4 else e6)

def lookupDns (dns : Nameserver) (name : String) : Except ResolverError (List IpAddr) := do
  queriedName dns name
  mergeFamilyLookups (lookupOneFamily dns.lookupV6 name) (lookupOneFamily dns.lookupV4 name)

def dnsSpec (target : Target) (lookedUp : Except ResolverError (List IpAddr)) :
    Result PlannedSpec :=
  match lookedUp with
  | .ok ips => .ok (.resolved ips target)
  | .error err =>
    if skipsOnlyThisTarget err then .ok (.resolved [] target) else .error (.resolver err)

/-! ## The system resolver -/

structure HickoryResolver where
  hostLimit : UInt64
  dns : Nameserver

namespace HickoryResolver

variable (self : HickoryResolver)

def planCidr (net : IpNet) (original : Target) : Result PlannedSpec :=
  let (b, hosts) := cidrBounds net
  if self.hostLimit.toNat < hosts then
    .error (.resolver (.cidrTooLarge net.display hosts self.hostLimit.toNat))
  else .ok (.block b original)

def planRange (start stop : IpAddr) (original : Target) : Result PlannedSpec := do
  let (b, hosts) ← rangeBounds start stop
  if self.hostLimit.toNat < hosts then
    .error (.resolver (.rangeTooLarge start.display stop.display hosts self.hostLimit.toNat))
  else .ok (.block b original)

def planTarget (target : Target) : Result PlannedSpec :=
  match target with
  | .ip addr => .ok (.block (.single addr) target)
  | .cidr net => self.planCidr net target
  | .range start stop => self.planRange start stop target
  | .dnsName name => dnsSpec target (lookupDns self.dns name)

def plan (now : SystemTime) (targets : List Target) : Result ResolvedPlan := do
  return ⟨← targets.mapM self.planTarget, now⟩

end HickoryResolver

/-! ## Resolvers -/

inductive Resolver where
  /-- the system resolver -/
  | hickory (self : HickoryResolver)
  /-- answers per target and keeps the default plan -/
  | eager (answer : Target → Result (Vec ResolvedTarget))
  /-- `GuardedResolver` -/
  | guarded (inner : Resolver) (allowlist : Option (List IpNet)) (maxTotalHosts : Option UInt64)

namespace Resolver

/-- The default `plan`. -/
def defaultPlan (answer : Target → Result (Vec ResolvedTarget)) (now : SystemTime)
    (targets : List Target) : Result ResolvedPlan := do
  let specs ← targets.mapM fun target => do
    return PlannedSpec.resolved ((← answer target).val.map ResolvedTarget.ip) target
  return ⟨specs, now⟩

def checkAllowed (allowlist : Option (List IpNet)) (ip : IpAddr) : Status :=
  match allowlist with
  | some nets =>
    if nets.any fun net => net.contains ip then .ok ()
    else .error (.resolver (.targetNotAllowed ip))
  | none => .ok ()

def checkPlanAllowed (allowlist : Option (List IpNet)) (plan : ResolvedPlan) :
    Status :=
  match allowlist with
  | some nets => plan.checkAllowed nets
  | none => .ok ()

def checkCap (maxTotalHosts : Option UInt64) (hosts : ℕ) : Status :=
  match maxTotalHosts with
  | some limit =>
    if limit.toNat < hosts then
      .error (.resolver (.aggregateHostCapExceeded hosts limit.toNat))
    else .ok ()
  | none => .ok ()

def plan (now : SystemTime) (targets : List Target) : Resolver → Result ResolvedPlan
  | .hickory self => self.plan now targets
  | .eager answer => defaultPlan answer now targets
  | .guarded inner allowlist maxTotalHosts => do
    let plan ← inner.plan now targets
    checkPlanAllowed allowlist plan
    checkCap maxTotalHosts plan.totalHosts
    return plan

def resolve (now : SystemTime) (target : Target) :
    Resolver → Result (List ResolvedTarget)
  | .hickory self => do return (← self.plan now [target]).intoStream
  | .eager answer => do return (← answer target).val
  | .guarded inner allowlist maxTotalHosts => do
    let resolved ← inner.resolve now target
    resolved.forM fun rt => checkAllowed allowlist rt.ip
    checkCap maxTotalHosts resolved.length
    return resolved

end Resolver

end Rastreo
