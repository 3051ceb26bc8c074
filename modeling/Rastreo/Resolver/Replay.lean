import Rastreo.Resolver.Scenario

/-!
# Replaying a plan

A resumed scan rebuilds its plan from the targets and the pinned answers of their names, consumed in
order.  What is rebuilt are specs that stand for the targets and whose pins begin the list
(`pinnedSpecs_eq_ok`), as those of the system resolver do (`replayed_plan_streams_same`).
-/

namespace Rastreo

open List

/-! ## Specs and their targets -/

def Target.isDnsName : Target → Bool
  | .dnsName _ => true
  | _ => false

/-- The block it spans, or some addresses of a name. -/
def PlannedSpec.StandsFor (spec : PlannedSpec) : Target → Prop
  | .ip addr => spec = .block (.single addr) (.ip addr)
  | .cidr net => spec = .block (cidrBounds net).1 (.cidr net)
  | .range start stop => ∃ bounds, rangeBounds start stop = .ok bounds ∧
      spec = .block bounds.1 (.range start stop)
  | .dnsName name => ∃ ips, spec = .resolved ips (.dnsName name)

def StandFor (targets : List Target) (specs : List PlannedSpec) : Prop :=
  List.Forall₂ (fun target spec => spec.StandsFor target) targets specs

def PlannedSpec.pin : PlannedSpec → Option (Target × List IpAddr)
  | .resolved ips (.dnsName name) => some (.dnsName name, ips)
  | _ => none

lemma ResolvedPlan.dnsPins_eq (plan : ResolvedPlan) :
    plan.dnsPins = plan.specs.filterMap PlannedSpec.pin := by
  refine filterMap_congr fun spec _ => ?_
  rcases spec with _ | ⟨ips, _ | _ | _ | _⟩ <;> rfl

variable {targets : List Target} {specs : List PlannedSpec}

lemma StandFor.map_fst_pins (h : StandFor targets specs) :
    (specs.filterMap PlannedSpec.pin).map Prod.fst = targets.filter Target.isDnsName := by
  induction h with
  | nil => rfl
  | @cons target spec _ _ hspec _ ih =>
    cases target with
    | ip addr =>
      obtain rfl := hspec
      exact ih
    | cidr net =>
      obtain rfl := hspec
      exact ih
    | range start stop =>
      obtain ⟨_, _, rfl⟩ := hspec
      exact ih
    | dnsName name =>
      obtain ⟨ips, rfl⟩ := hspec
      exact congrArg (Target.dnsName name :: ·) ih

/-! ## What is rebuilt -/

variable {pins : List (Target × List IpAddr)}

/-- Targets without a pin are passed over. -/
lemma pinned_cons_block {target : Target} {spec : PlannedSpec}
    {loop : Result (List PlannedSpec)} (hpin : spec.pin = none)
    (hstands : ∀ spec' : PlannedSpec, spec'.StandsFor target ↔ spec' = spec)
    (ih : ∀ {specs}, loop = .ok specs ↔
      StandFor targets specs ∧ specs.filterMap PlannedSpec.pin <+: pins) :
    (loop >>= fun rest => pure (spec :: rest)) = .ok specs ↔
      StandFor (target :: targets) specs ∧ specs.filterMap PlannedSpec.pin <+: pins := by
  rw [bind_eq_ok]
  constructor
  · rintro ⟨rest, hrest, hspecs⟩
    obtain rfl := Except.ok.inj hspecs
    obtain ⟨hfor, hpins⟩ := ih.mp hrest
    refine ⟨.cons ((hstands spec).mpr rfl) hfor, ?_⟩
    grind
  · rintro ⟨hfor, hpins⟩
    cases hfor with
    | cons hspec hfor =>
      obtain rfl := (hstands _).mp hspec
      rw [filterMap_cons_none hpin] at hpins
      exact ⟨_, ih.mpr ⟨hfor, hpins⟩, rfl⟩

open ResolvedPlan in
/-- Exactly the specs that stand for the targets, with their pins first. -/
lemma pinnedSpecs_eq_ok : pinnedSpecs targets pins = .ok specs ↔
      StandFor targets specs ∧ specs.filterMap PlannedSpec.pin <+: pins := by
  induction targets generalizing pins specs with
  | nil =>
    constructor
    · intro h
      obtain rfl := Except.ok.inj h
      exact ⟨.nil, nil_prefix⟩
    · rintro ⟨hfor, -⟩
      cases hfor
      rfl
  | cons target targets ih =>
    cases target with
    | ip addr => exact pinned_cons_block rfl (fun _ => Iff.rfl) ih
    | cidr net => exact pinned_cons_block rfl (fun _ => Iff.rfl) ih
    | range start stop =>
      rw [pinnedSpecs]
      cases hbounds : rangeBounds start stop with
      | error e =>
        constructor
        · intro h
          cases h
        · rintro ⟨hfor, -⟩
          cases hfor with
          | cons hspec _ =>
            obtain ⟨bounds, hok, -⟩ := hspec
            grind
      | ok bounds =>
        refine pinned_cons_block rfl (fun spec' => ?_) ih
        constructor
        · rintro ⟨bounds', hok, rfl⟩
          grind
        · rintro rfl
          exact ⟨bounds, hbounds, rfl⟩
    | dnsName name =>
      cases pins with
      | nil =>
        constructor
        · intro h
          cases h
        · rintro ⟨hfor, hpins⟩
          cases hfor with
          | cons hspec _ =>
            obtain ⟨ips, rfl⟩ := hspec
            cases prefix_nil.mp hpins
      | cons pin pins =>
        obtain ⟨pinnedTarget, ips⟩ := pin
        rw [pinnedSpecs]
        split
        next heq =>
          obtain rfl := heq
          rw [bind_eq_ok]
          constructor
          · rintro ⟨rest, hrest, hspecs⟩
            obtain rfl := Except.ok.inj hspecs
            obtain ⟨hfor, hpins⟩ := ih.mp hrest
            exact ⟨.cons ⟨ips, rfl⟩ hfor, cons_prefix_cons.mpr ⟨rfl, hpins⟩⟩
          · rintro ⟨hfor, hpins⟩
            cases hfor with
            | cons hspec hfor =>
              obtain ⟨ips', rfl⟩ := hspec
              obtain ⟨hpin, htail⟩ := cons_prefix_cons.mp hpins
              obtain ⟨-, rfl⟩ := Prod.mk.inj hpin
              exact ⟨_, ih.mpr ⟨hfor, htail⟩, rfl⟩
        next hne =>
          constructor
          · intro h
            cases h
          · rintro ⟨hfor, hpins⟩
            cases hfor with
            | cons hspec _ =>
              obtain ⟨ips', rfl⟩ := hspec
              obtain ⟨hpin, -⟩ := cons_prefix_cons.mp hpins
              grind

variable {plan : ResolvedPlan}

lemma ResolvedPlan.fromPinned_dnsPins (h : StandFor targets plan.specs) (later : SystemTime) :
    fromPinned later targets plan.dnsPins = .ok (plan.stamped later) := by
  have hspecs : pinnedSpecs targets plan.dnsPins = .ok plan.specs := by
    rw [pinnedSpecs_eq_ok, plan.dnsPins_eq]
    grind
  rw [fromPinned, hspecs]
  rfl

lemma ResolvedPlan.names_prefix_of_fromPinned {now : SystemTime}
    (h : fromPinned now targets pins = .ok plan) :
    targets.filter Target.isDnsName <+: pins.map Prod.fst := by
  obtain ⟨specs, hspecs, -⟩ := bind_eq_ok.mp h
  obtain ⟨hfor, hpins⟩ := pinnedSpecs_eq_ok.mp hspecs
  rw [← hfor.map_fst_pins]
  exact hpins.map Prod.fst

/-! ## Plans of the system resolver -/

/-- The system resolver, bare or behind guards. -/
def Resolver.IsSystem : Resolver → Prop
  | .hickory _ => True
  | .eager _ => False
  | .guarded inner _ _ => inner.IsSystem

lemma HickoryResolver.planTarget_standsFor {self : HickoryResolver} {target : Target}
    {spec : PlannedSpec} (h : self.planTarget target = .ok spec) : spec.StandsFor target := by
  cases target with
  | ip addr => exact (Except.ok.inj h).symm
  | cidr net =>
    simp only [HickoryResolver.planTarget, HickoryResolver.planCidr] at h
    split at h
    next => cases h
    next => exact (Except.ok.inj h).symm
  | range start stop =>
    obtain ⟨bounds, hbounds, h⟩ := bind_eq_ok.mp h
    dsimp only at h
    split at h
    next => cases h
    next => exact ⟨bounds, hbounds, (Except.ok.inj h).symm⟩
  | dnsName name =>
    simp only [HickoryResolver.planTarget, dnsSpec] at h
    split at h
    next ips _ => exact ⟨ips, (Except.ok.inj h).symm⟩
    next =>
      split at h
      next => exact ⟨[], (Except.ok.inj h).symm⟩
      next => cases h

lemma Resolver.IsSystem.standFor {r : Resolver} (hr : r.IsSystem) {now : SystemTime}
    (h : r.plan now targets = .ok plan) :
    StandFor targets plan.specs := by
  induction r with
  | hickory self =>
    obtain ⟨specs, hspecs, h⟩ := bind_eq_ok.mp h
    obtain rfl := Except.ok.inj h
    exact (forall₂_of_mapM_ok hspecs).imp fun _ _ h => HickoryResolver.planTarget_standsFor h
  | eager answer => exact hr.elim
  | guarded inner allowlist cap ih => exact ih hr (guarded_plan_eq_ok.mp h).1

/-- What a plan streams, apart from the time of its resolution. -/
def ResolvedPlan.pairs (plan : ResolvedPlan) : List (IpAddr × Target) :=
  plan.intoStream.map fun rt => (rt.ip, rt.original)

lemma ResolvedPlan.pairs_stamped (plan : ResolvedPlan) (now : SystemTime) :
    (plan.stamped now).pairs = plan.pairs := by
  simp only [pairs, intoStream, stamped, map_flatMap, PlannedSpec.intoStream, map_map,
    Function.comp_def]

/-- A plan of the system resolver, guarded or not, is rebuilt from its pins at any later time: the
same addresses with the same targets in order, the same count and targets without addresses. No plan
is rebuilt unless the name at each position has the pin there. -/
theorem replayed_plan_streams_same {r : Resolver} (hr : r.IsSystem) (now later : SystemTime)
    (targets : List Target) :
    (∀ plan, r.plan now targets = .ok plan →
      ∃ replayed, ResolvedPlan.fromPinned later targets plan.dnsPins = .ok replayed ∧
        replayed.pairs = plan.pairs ∧ replayed.totalHosts = plan.totalHosts ∧
        replayed.unresolvableTargets = plan.unresolvableTargets) ∧
    ∀ (pins : List (Target × List IpAddr)) (k : ℕ) (name : Target),
      (targets.filter Target.isDnsName)[k]? = some name →
      (pins[k]?).map Prod.fst ≠ some name →
      ∃ e, ResolvedPlan.fromPinned later targets pins = .error e := by
  constructor
  · intro plan hplan
    exact ⟨_, ResolvedPlan.fromPinned_dnsPins (hr.standFor hplan) later,
      plan.pairs_stamped later, rfl, rfl⟩
  · intro pins k name hname hpin
    cases hreplay : ResolvedPlan.fromPinned later targets pins with
    | error e => exact ⟨e, rfl⟩
    | ok plan =>
      obtain ⟨rest, hrest⟩ := ResolvedPlan.names_prefix_of_fromPinned hreplay
      have hk := (List.getElem?_eq_some_iff.mp hname).1
      refine absurd ?_ hpin
      rw [← getElem?_map, ← hrest, getElem?_append_left hk, hname]

/-- One name has an address, another has none. -/
def oneName : Nameserver where
  parsesAsName := fun _ => true
  lookupV6 := noNames.lookupV6
  lookupV4 := fun name =>
    if name = "edge" then .ok ⟨[.v4 0x0a000007#32], by simp⟩ else noNames.lookupV4 name

/-- Names that repeat, one without addresses, between a network and a range. -/
def mixedTargets : List Target :=
  [.dnsName "edge", .cidr (.v4 0x0a000000#32 30), .dnsName "gone", .dnsName "edge",
    .range (.v4 0x0a000006#32) (.v4 0x0a000007#32), .dnsName "gone"]

/-- They are replayed from their pins, and not without the last. -/
theorem replayed_plan_streams_same_mixed :
    let r := (Resolver.hickory ⟨4, oneName⟩).guarded none (some 6)
    ∃ plan, r.plan 0 mixedTargets = .ok plan ∧
      (∃ replayed, ResolvedPlan.fromPinned 1 mixedTargets plan.dnsPins = .ok replayed ∧
        replayed.pairs = plan.pairs ∧ replayed.totalHosts = plan.totalHosts ∧
        replayed.unresolvableTargets = plan.unresolvableTargets) ∧
      ∃ e, ResolvedPlan.fromPinned 1 mixedTargets (plan.dnsPins.take 3) = .error e := by
  intro r
  have hsome : (r.plan 0 mixedTargets).toOption.isSome = true := by decide +kernel
  cases hplan : r.plan 0 mixedTargets with
  | error e =>
    rw [hplan] at hsome
    cases hsome
  | ok plan =>
    have hreplay := replayed_plan_streams_same (r := r) trivial 0 1 mixedTargets
    have hlast : ((plan.dnsPins.take 3)[3]?).map Prod.fst ≠ some (.dnsName "gone") := by
      simp
    exact ⟨plan, rfl, hreplay.1 plan hplan, hreplay.2 _ 3 (.dnsName "gone") rfl hlast⟩

end Rastreo
