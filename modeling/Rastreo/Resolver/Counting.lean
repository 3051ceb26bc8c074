import Rastreo.Resolver.Replay
import Mathlib.Data.Set.Card

/-!
# Counting and expanding

A block is counted from its ends, and expanded from one end to the other: to the usable addresses of
a network, and to all between the ends of a range.  In the first section every operation on bounds
is checked, so that one outside its type is no result.
-/

namespace Rastreo

open List

/-! ## Checked arithmetic -/

def checkedAdd (width a b : ℕ) : Option ℕ := if a + b < 2 ^ width then some (a + b) else none

def checkedSub (a b : ℕ) : Option ℕ := if b ≤ a then some (a - b) else none

def checkedNarrow (width a : ℕ) : Option ℕ := if a < 2 ^ width then some a else none

lemma checkedAdd_eq {width a b : ℕ} (h : a + b < 2 ^ width) :
    checkedAdd width a b = some (a + b) := if_pos h

lemma checkedSub_eq {a b : ℕ} (h : b ≤ a) : checkedSub a b = some (a - b) := if_pos h

lemma checkedNarrow_eq {width a : ℕ} (h : a < 2 ^ width) : checkedNarrow width a = some a :=
  if_pos h

/-- Checked arithmetic, but for the sum that saturates. -/
def cidrBoundsChecked : IpNet → Option (IpAddr × IpAddr × ℕ)
  | .v4 addr len =>
    if len = 32 then some (.v4 (networkBits addr 32), .v4 (networkBits addr 32), 1)
    else if len = 31 then do
      let base := (networkBits addr 31).toNat
      let next ← checkedAdd 32 base 1
      return (.v4 (BitVec.ofNat 32 base), .v4 (BitVec.ofNat 32 next), 2)
    else do
      let network := (networkBits addr len).toNat
      let broadcast := (broadcastBits addr len).toNat
      let span ← checkedSub broadcast network
      let hosts ← checkedSub span 1
      let first ← checkedAdd 32 network 1
      let last ← checkedSub broadcast 1
      return (.v4 (BitVec.ofNat 32 first), .v4 (BitVec.ofNat 32 last), hosts)
  | .v6 addr len => do
    let span ← checkedSub (broadcastBits addr len).toNat (networkBits addr len).toNat
    return (.v6 (networkBits addr len), .v6 (broadcastBits addr len), min (span + 1) (2 ^ 128 - 1))

/-- Checked arithmetic, but for the sum that saturates. -/
def rangeBoundsChecked (start stop : IpAddr) : Option (Result (IpAddr × IpAddr × ℕ)) :=
  match start, stop with
  | .v4 s, .v4 e =>
    if s.toNat ≤ e.toNat then do
      let span ← checkedSub e.toNat s.toNat
      let hosts ← checkedAdd 128 span 1
      return .ok (start, stop, hosts)
    else some (.error (.resolver (.invalidRange start.display stop.display)))
  | .v6 s, .v6 e =>
    if s.toNat ≤ e.toNat then do
      let span ← checkedSub e.toNat s.toNat
      return .ok (start, stop, min (span + 1) (2 ^ 128 - 1))
    else some (.error (.resolver (.invalidRange start.display stop.display)))
  | s, e => some (.error (.resolver (.mixedFamilyRange s.display e.display)))

/-- `block_span` with its arithmetic and its narrowing checked. -/
def blockSpanChecked : IpAddr → IpAddr → Option ℕ
  | .v4 a, .v4 b => do
    let span ← checkedSub b.toNat a.toNat
    let hosts ← checkedAdd 128 span 1
    checkedNarrow 64 hosts
  | .v6 a, .v6 b => do
    let span ← checkedSub b.toNat a.toNat
    let hosts ← checkedAdd 128 span 1
    checkedNarrow 64 hosts
  | _, _ => some 0

variable (net : IpNet)

lemma cidrBoundsChecked_eq : cidrBoundsChecked net =
      some ((cidrBounds net).1.first, (cidrBounds net).1.last, (cidrBounds net).2) := by
  cases net with
  | v4 addr len =>
    rw [cidrBoundsChecked, cidrBounds]
    split
    next => rfl
    next h32 =>
      split
      next h31 =>
        have hadd : (networkBits addr 31).toNat + 2 ^ (32 - 31) =
            (broadcastBits addr 31).toNat + 1 := networkBits_add addr (by omega)
        have hlt := (broadcastBits addr 31).isLt
        have hnext : (networkBits addr 31).toNat + 1 < 2 ^ 32 := by omega
        have hlast : (networkBits addr 31 + 1).toNat = (networkBits addr 31).toNat + 1 := by
          bv_omega
        simp only [checkedAdd_eq hnext, Option.bind_eq_bind, Option.bind_some, ← hlast,
          BitVec.ofNat_toNat, BitVec.setWidth_eq]
        rfl
      next h31 =>
        obtain ⟨hfst, hlast, hroom⟩ := hosts_bounds addr len h32 h31
        have hlt := (broadcastBits addr len).isLt
        have hspan : (networkBits addr len).toNat ≤ (broadcastBits addr len).toNat := by omega
        have hone : 1 ≤ (broadcastBits addr len).toNat - (networkBits addr len).toNat := by omega
        have hnext : (networkBits addr len).toNat + 1 < 2 ^ 32 := by omega
        have hprev : 1 ≤ (broadcastBits addr len).toNat := by omega
        simp only [checkedSub_eq hspan, checkedSub_eq hone, checkedAdd_eq hnext,
          checkedSub_eq hprev, Option.bind_eq_bind, Option.bind_some, ← hfst, ← hlast,
          BitVec.ofNat_toNat, BitVec.setWidth_eq]
        rfl
  | v6 addr len =>
    have hle : (networkBits addr len).toNat ≤ (broadcastBits addr len).toNat :=
      networkBits_le addr (by omega)
    rw [cidrBoundsChecked, checkedSub_eq hle]
    rfl

lemma rangeBoundsChecked_eq (start stop : IpAddr) : rangeBoundsChecked start stop =
      some ((rangeBounds start stop).map fun b => (b.1.first, b.1.last, b.2)) := by
  rcases start with s | s <;> rcases stop with e | e
  · simp only [rangeBoundsChecked, rangeBounds]
    split
    next hle =>
      have hlt := e.isLt
      have hadd : e.toNat - s.toNat + 1 < 2 ^ 128 := by omega
      simp only [checkedSub_eq hle, Option.bind_eq_bind, Option.bind_some, checkedAdd_eq hadd]
      rfl
    next => rfl
  · rfl
  · rfl
  · simp only [rangeBoundsChecked, rangeBounds]
    split
    next hle =>
      rw [checkedSub_eq hle]
      rfl
    next => rfl

lemma blockSpanChecked_eq {b : Block} (h : (blockAddresses b.first b.last).length ≤ usizeMax) :
    blockSpanChecked b.first b.last = some (blockSpan b.first b.last) := by
  have hspan := blockSpan_eq h
  rw [length_blockAddresses] at h hspan
  rw [hspan]
  obtain ⟨first, last, hfamily, hle⟩ := b
  have hbits : ∀ {w : ℕ} {a c : BitVec w}, a.toNat ≤ c.toNat → c.toNat - a.toNat + 1 ≤ 2 ^ 64 - 1 →
      (do
        let span ← checkedSub c.toNat a.toNat
        let hosts ← checkedAdd 128 span 1
        checkedNarrow 64 hosts) = some (c.toNat - a.toNat + 1) := by
    intro w a c hac hfits
    simp only [checkedSub_eq hac, Option.bind_eq_bind, Option.bind_some]
    rw [checkedAdd_eq (by omega), Option.bind_some, checkedNarrow_eq (by omega)]
  rcases first with a | a <;> rcases last with c | c
  · exact hbits hle h
  · cases hfamily
  · cases hfamily
  · exact hbits hle h

/-! ## Expansions -/

def Ascending (ips : List IpAddr) : Prop :=
  ips.Pairwise fun a b => (ipToBits a).2 < (ipToBits b).2

/-- Of the family of both ends and between them. -/
def IpAddr.Between (ip start stop : IpAddr) : Prop := Ordered start ip ∧ Ordered ip stop

/-- IPv4 networks wider than two addresses keep their ends for themselves. -/
def IpNet.Usable (net : IpNet) (ip : IpAddr) : Prop :=
  net.contains ip = true ∧ match net with
    | .v4 addr len =>
      len < 31 → ip ≠ .v4 (networkBits addr len) ∧ ip ≠ .v4 (broadcastBits addr len)
    | .v6 .. => True

/-- Of a name this says nothing. -/
def Target.ExpandsTo (target : Target) (ips : List IpAddr) : Prop :=
  match target with
  | .ip addr => ips = [addr]
  | .cidr net => Ascending ips ∧ ∀ ip, ip ∈ ips ↔ net.Usable ip
  | .range start stop => Ascending ips ∧ ∀ ip, ip ∈ ips ↔ ip.Between start stop
  | .dnsName _ => True

lemma ascending_range' {w : ℕ} (mk : BitVec w → IpAddr)
    (hmk : ∀ x, (ipToBits (mk x)).2 = x.toNat) {a b : BitVec w} :
    Ascending ((List.range' a.toNat (b.toNat + 1 - a.toNat)).map fun bits =>
      mk (BitVec.ofNat w bits)) := by
  rw [Ascending, pairwise_map]
  refine List.Pairwise.imp_of_mem ?_ (pairwise_lt_range' (s := a.toNat))
  intro x y hx hy hxy
  have hyr := mem_range'_1.mp hy
  rw [hmk, hmk, BitVec.toNat_ofNat, BitVec.toNat_ofNat, Nat.mod_eq_of_lt (by omega),
    Nat.mod_eq_of_lt (by omega)]
  exact hxy

lemma mem_range'_bits {w : ℕ} {a b x : BitVec w} :
    x ∈ (List.range' a.toNat (b.toNat + 1 - a.toNat)).map (BitVec.ofNat w) ↔ a ≤ x ∧ x ≤ b := by
  rw [mem_map]
  constructor
  · rintro ⟨bits, hbits, rfl⟩
    have hran := mem_range'_1.mp hbits
    simp only [BitVec.le_def, BitVec.toNat_ofNat, Nat.mod_eq_of_lt (show bits < 2 ^ w by omega)]
    omega
  · rintro ⟨hax, hxb⟩
    rw [BitVec.le_def] at hax hxb
    exact ⟨x.toNat, mem_range'_1.mpr (by omega), by simp⟩

variable (b : Block)

lemma ascending_blockAddresses : Ascending (blockAddresses b.first b.last) := by
  obtain ⟨first, last, hfamily, hle⟩ := b
  rcases first with a | a <;> rcases last with c | c
  · exact ascending_range' IpAddr.v4 fun _ => rfl
  · cases hfamily
  · cases hfamily
  · exact ascending_range' IpAddr.v6 fun _ => rfl

/-- A block is expanded to the addresses between its ends. -/
lemma mem_blockAddresses (ip : IpAddr) :
    ip ∈ blockAddresses b.first b.last ↔ ip.Between b.first b.last := by
  have hbits : ∀ {w : ℕ} {mk : BitVec w → IpAddr}, Function.Injective mk → ∀ {a c x : BitVec w},
      (mk x ∈ (List.range' a.toNat (c.toNat + 1 - a.toNat)).map fun bits =>
        mk (BitVec.ofNat w bits)) ↔ a ≤ x ∧ x ≤ c := by
    intro w mk hmk a c x
    rw [← mem_range'_bits, ← mem_map_of_injective hmk, map_map]
    rfl
  obtain ⟨first, last, hfamily, hle⟩ := b
  rcases first with a | a <;> rcases last with c | c
  · rcases ip with x | x
    · refine (hbits fun _ _ h => IpAddr.v4.inj h).trans ?_
      simp [IpAddr.Between, Ordered, ipToBits, BitVec.le_def]
    · simp [blockAddresses, IpAddr.Between, Ordered, ipToBits]
  · cases hfamily
  · cases hfamily
  · rcases ip with x | x
    · simp [blockAddresses, IpAddr.Between, Ordered, ipToBits]
    · refine (hbits fun _ _ h => IpAddr.v6.inj h).trans ?_
      simp [IpAddr.Between, Ordered, ipToBits, BitVec.le_def]

lemma cidrBounds_v4 (addr : BitVec 32) (len : Fin 33) :
    ∃ first last, (cidrBounds (.v4 addr len)).1.first = .v4 first ∧
      (cidrBounds (.v4 addr len)).1.last = .v4 last ∧
      first.toNat = (networkBits addr len).toNat + (if len < 31 then 1 else 0) ∧
      last.toNat + (if len < 31 then 1 else 0) = (broadcastBits addr len).toNat := by
  have hadd : (networkBits addr len).toNat + 2 ^ (32 - len.val) =
      (broadcastBits addr len).toNat + 1 := networkBits_add addr (by omega)
  have hlt := (broadcastBits addr len).isLt
  rw [cidrBounds]
  split
  next h32 =>
    subst h32
    refine ⟨_, _, rfl, rfl, rfl, ?_⟩
    change (networkBits addr 32).toNat + 2 ^ (32 - 32) = (broadcastBits addr 32).toNat + 1 at hadd
    change (networkBits addr 32).toNat + 0 = (broadcastBits addr 32).toNat
    omega
  next h32 =>
    split
    next h31 =>
      subst h31
      refine ⟨_, _, rfl, rfl, rfl, ?_⟩
      change (networkBits addr 31).toNat + 2 ^ (32 - 31) = (broadcastBits addr 31).toNat + 1 at hadd
      change (broadcastBits addr 31).toNat < 2 ^ 32 at hlt
      change (networkBits addr 31 + 1).toNat + 0 = (broadcastBits addr 31).toNat
      bv_omega
    next h31 =>
      obtain ⟨hfst, hlast, hroom⟩ := hosts_bounds addr len h32 h31
      have hlen : len < 31 := by omega
      refine ⟨_, _, rfl, rfl, ?_, ?_⟩
      · grind
      · grind

/-- The bounds of a network are those of its usable addresses. -/
lemma between_cidrBounds (ip : IpAddr) :
    ip.Between (cidrBounds net).1.first (cidrBounds net).1.last ↔ net.Usable ip := by
  cases net with
  | v6 addr len =>
    rcases ip with x | x
    · simp [IpAddr.Between, Ordered, ipToBits, IpNet.Usable, IpNet.contains, cidrBounds]
    · simp [IpAddr.Between, Ordered, ipToBits, IpNet.Usable, IpNet.contains, cidrBounds,
        BitVec.le_def]
  | v4 addr len =>
    obtain ⟨first, last, hfst, hlast, hfir, hlas⟩ := cidrBounds_v4 addr len
    rw [hfst, hlast]
    rcases ip with x | x
    · simp only [IpAddr.Between, Ordered, ipToBits, IpNet.Usable, IpNet.contains, true_and,
        Bool.and_eq_true, decide_eq_true_eq, BitVec.le_def, ne_eq, IpAddr.v4.injEq,
        ← BitVec.toNat_inj]
      split at hfir
      next hlen =>
        simp only [hlen, if_true, forall_const] at hlas ⊢
        omega
      grind
    · simp [IpAddr.Between, Ordered, ipToBits, IpNet.Usable, IpNet.contains]

/-! ## Refusals -/

lemma ncard_of_ascending {P : IpAddr → Prop} {ips : List IpAddr} (hasc : Ascending ips)
    (hmem : ∀ ip, ip ∈ ips ↔ P ip) : {ip | P ip}.ncard = ips.length := by
  have hnd : ips.Nodup := hasc.imp fun hlt heq => by
    rw [heq] at hlt
    omega
  have hset : {ip | P ip} = (ips.toFinset : Set IpAddr) := by
    simp [hmem]
  rw [hset, Set.ncard_coe_finset, toFinset_card_of_nodup hnd]

lemma ncard_between :
    {ip : IpAddr | ip.Between b.first b.last}.ncard = (blockAddresses b.first b.last).length :=
  ncard_of_ascending (ascending_blockAddresses b) (mem_blockAddresses b)

lemma ncard_usable : {ip | net.Usable ip}.ncard =
      (blockAddresses (cidrBounds net).1.first (cidrBounds net).1.last).length :=
  ncard_of_ascending (ascending_blockAddresses _) fun ip =>
    (mem_blockAddresses _ ip).trans (between_cidrBounds net ip)

lemma rangeBounds_ends {start stop : IpAddr} {bounds : Block × ℕ}
    (h : rangeBounds start stop = .ok bounds) :
    bounds.1.first = start ∧ bounds.1.last = stop := by
  rcases start with s | s <;> rcases stop with e | e
  · simp only [rangeBounds] at h
    split at h
    next =>
      obtain rfl := Except.ok.inj h
      exact ⟨rfl, rfl⟩
    next => cases h
  · cases h
  · cases h
  · simp only [rangeBounds] at h
    split at h
    next =>
      obtain rfl := Except.ok.inj h
      exact ⟨rfl, rfl⟩
    next => cases h

lemma exists_rangeBounds_iff (start stop : IpAddr) :
    (∃ bounds, rangeBounds start stop = .ok bounds) ↔ Ordered start stop := by
  constructor
  · rintro ⟨bounds, h⟩
    obtain ⟨hfst, hlast⟩ := rangeBounds_ends h
    rw [← hfst, ← hlast]
    exact bounds.1.ordered
  · rintro ⟨hfamily, hle⟩
    rcases start with s | s <;> rcases stop with e | e
    · exact ⟨_, dif_pos hle⟩
    · cases hfamily
    · cases hfamily
    · exact ⟨_, dif_pos hle⟩

/-- Blocks of no more hosts, and names unless their lookup fails otherwise than without addresses.
-/
def HickoryResolver.Admits (self : HickoryResolver) : Target → Prop
  | .ip _ => True
  | .cidr net => {ip | net.Usable ip}.ncard ≤ self.hostLimit.toNat
  | .range start stop =>
    Ordered start stop ∧ {ip : IpAddr | ip.Between start stop}.ncard ≤ self.hostLimit.toNat
  | .dnsName name => ∀ err, lookupDns self.dns name = .error err → skipsOnlyThisTarget err = true

variable (self : HickoryResolver)

lemma limit_lt_iff (n : ℕ) :
    self.hostLimit.toNat < min n (2 ^ 128 - 1) ↔ ¬n ≤ self.hostLimit.toNat := by
  have hlimit := self.hostLimit.toNat_lt
  omega

lemma HickoryResolver.exists_planTarget_iff (target : Target) :
    (∃ spec, self.planTarget target = .ok spec) ↔ self.Admits target := by
  cases target with
  | ip addr => exact ⟨fun _ => trivial, fun _ => ⟨_, rfl⟩⟩
  | cidr net =>
    rw [HickoryResolver.Admits, ncard_usable]
    simp only [HickoryResolver.planTarget, HickoryResolver.planCidr, cidrBounds_hosts, limit_lt_iff]
    split
    next h => simp [h]
    next h => simpa using h
  | range start stop =>
    rw [HickoryResolver.Admits, ← exists_rangeBounds_iff]
    simp only [HickoryResolver.planTarget, HickoryResolver.planRange]
    cases hbounds : rangeBounds start stop with
    | error e => simp
    | ok bounds =>
      obtain ⟨hfst, hlast⟩ := rangeBounds_ends hbounds
      have hcount := ncard_between bounds.1
      rw [hfst, hlast] at hcount
      have hhosts := @rangeBounds_hosts bounds.1 bounds.2 _ _ hbounds
      rw [hfst, hlast, ← hcount] at hhosts
      simp only [ok_bind, hhosts, limit_lt_iff]
      split
      next h => simp [h]
      next h => simpa using h
  | dnsName name =>
    simp only [HickoryResolver.planTarget, HickoryResolver.Admits, dnsSpec]
    cases lookupDns self.dns name with
    | ok ips => simp
    | error err =>
      dsimp only
      split
      next h => simp [h]
      next h => simp [h]

lemma PlannedSpec.StandsFor.expands {spec : PlannedSpec} {target : Target}
    (h : spec.StandsFor target) : target.ExpandsTo spec.addresses ∧ spec.original = target := by
  cases target with
  | ip addr =>
    obtain rfl := h
    refine ⟨?_, rfl⟩
    have hlen := length_blockAddresses (.single addr)
    have hmem := mem_blockAddresses (.single addr) addr
    rw [Block.single_first, Block.single_last, Nat.sub_self] at hlen
    obtain ⟨ip, hip⟩ := length_eq_one_iff.mp hlen
    rw [Block.single_first, Block.single_last, hip, mem_singleton] at hmem
    have haddr : addr = ip := hmem.mpr ⟨⟨rfl, Nat.le_refl _⟩, rfl, Nat.le_refl _⟩
    rw [haddr] at hip ⊢
    exact hip
  | cidr net =>
    obtain rfl := h
    exact ⟨⟨ascending_blockAddresses _, fun ip =>
      (mem_blockAddresses _ ip).trans (between_cidrBounds net ip)⟩, rfl⟩
  | range start stop =>
    obtain ⟨bounds, hbounds, rfl⟩ := h
    obtain ⟨hfst, hlast⟩ := rangeBounds_ends hbounds
    refine ⟨⟨ascending_blockAddresses _, fun ip => ?_⟩, rfl⟩
    rw [PlannedSpec.addresses, mem_blockAddresses, hfst, hlast]
  | dnsName name =>
    obtain ⟨ips, rfl⟩ := h
    exact ⟨trivial, rfl⟩

lemma StandFor.pairs {targets : List Target} {plan : ResolvedPlan}
    (h : StandFor targets plan.specs) :
    List.Forall₂ Target.ExpandsTo targets (plan.specs.map PlannedSpec.addresses) ∧
      plan.pairs = (targets.zip (plan.specs.map PlannedSpec.addresses)).flatMap fun expansion =>
        expansion.2.map fun ip => (ip, expansion.1) := by
  obtain ⟨specs, now⟩ := plan
  simp only [ResolvedPlan.pairs, ResolvedPlan.intoStream, map_flatMap,
    PlannedSpec.intoStream, map_map, Function.comp_def]
  dsimp only at h
  induction h with
  | nil => exact ⟨.nil, rfl⟩
  | cons hspec _ ih =>
    obtain ⟨hexp, hori⟩ := hspec.expands
    simp_all

/-- A plan is refused exactly for a block with more hosts than the limit (or a range that is none,
or a failed lookup). No operation on bounds, nor on spans in a plan, leaves its type, and there
counts are exact. A plan streams the expansions of its targets, and its total is their number as far
as a `usize` counts. -/
theorem plan_counts_and_expands (self : HickoryResolver) (now : SystemTime)
    (targets : List Target) :
    ((∃ plan, self.plan now targets = .ok plan) ↔ ∀ target ∈ targets, self.Admits target) ∧
    (∀ net, cidrBoundsChecked net =
      some ((cidrBounds net).1.first, (cidrBounds net).1.last, (cidrBounds net).2)) ∧
    (∀ start stop, rangeBoundsChecked start stop =
      some ((rangeBounds start stop).map fun b => (b.1.first, b.1.last, b.2))) ∧
    ∀ plan, self.plan now targets = .ok plan →
      plan.totalHosts = min plan.intoStream.length usizeMax ∧
      (∀ net, .cidr net ∈ targets → (cidrBounds net).2 = {ip | net.Usable ip}.ncard) ∧
      (∀ start stop bounds, .range start stop ∈ targets → rangeBounds start stop = .ok bounds →
        bounds.2 = {ip : IpAddr | ip.Between start stop}.ncard) ∧
      (∀ bounds original, .block bounds original ∈ plan.specs →
        blockSpanChecked bounds.first bounds.last =
          some (blockAddresses bounds.first bounds.last).length) ∧
      ∃ expansions, List.Forall₂ Target.ExpandsTo targets expansions ∧
        plan.pairs = (targets.zip expansions).flatMap fun expansion =>
          expansion.2.map fun ip => (ip, expansion.1) := by
  have hpla : ∀ plan, self.plan now targets = .ok plan →
      ∀ target ∈ targets, self.Admits target := by
    intro plan hplan target htarget
    obtain ⟨specs, hspecs, -⟩ := bind_eq_ok.mp hplan
    obtain ⟨spec, -, hspec⟩ := exists_right_of_mem (forall₂_of_mapM_ok hspecs) htarget
    exact (self.exists_planTarget_iff target).mp ⟨spec, hspec⟩
  have hlimit := self.hostLimit.toNat_lt
  refine ⟨⟨fun ⟨plan, hplan⟩ => hpla plan hplan, fun hadmits => ?_⟩, cidrBoundsChecked_eq,
    rangeBoundsChecked_eq, fun plan hplan => ?_⟩
  · obtain ⟨specs, hspecs⟩ := mapM_ok fun target htarget =>
      (self.exists_planTarget_iff target).mpr (hadmits target htarget)
    rw [HickoryResolver.plan, hspecs]
    exact ⟨_, rfl⟩
  have hfits := Resolver.plan_fits (r := .hickory self) hplan
  have hfor := Resolver.IsSystem.standFor (r := .hickory self) trivial hplan
  refine ⟨hfits.totalHosts_eq, fun net hnet => ?_, fun start stop bounds hran hbounds => ?_,
    fun bounds original hspec => ?_, _, hfor.pairs⟩
  · -- An admitted count is far from where it would saturate.
    have hadmits : {ip | net.Usable ip}.ncard ≤ self.hostLimit.toNat := hpla plan hplan _ hnet
    rw [ncard_usable] at hadmits ⊢
    rw [cidrBounds_hosts]
    omega
  · obtain ⟨-, hadmits⟩ : self.Admits (.range start stop) := hpla plan hplan _ hran
    obtain ⟨hfst, hlast⟩ := rangeBounds_ends hbounds
    have hcount := ncard_between bounds.1
    have hhosts := @rangeBounds_hosts bounds.1 bounds.2 _ _ hbounds
    rw [hfst, hlast] at hcount hhosts
    rw [hcount] at hadmits ⊢
    omega
  · have hblock := hfits _ hspec
    rw [blockSpanChecked_eq hblock, blockSpan_eq hblock]

/-- A network and a range are planned at a limit of their size. -/
theorem plan_counts_and_expands_admitted : let self : HickoryResolver := ⟨2, noNames⟩
    let targets : List Target :=
      [.cidr (.v4 0x0a000000#32 30), .range (.v4 0x0a000006#32) (.v4 0x0a000007#32)]
    ∃ plan, self.plan 0 targets = .ok plan ∧
      plan.totalHosts = min plan.intoStream.length usizeMax := by
  intro self targets
  cases hplan : self.plan 0 targets with
  | error e => cases hplan
  | ok plan => exact ⟨plan, rfl, ((plan_counts_and_expands self 0 targets).2.2.2 plan hplan).1⟩

/-- Two networks, each within the largest limit, stream more than their plan counts. -/
theorem saturated_count_below_stream :
    ∃ plan, (HickoryResolver.mk 0xffffffffffffffff noNames).plan 0
        [.cidr halfNet, .cidr halfNet] = .ok plan ∧
      plan.totalHosts ≠ plan.intoStream.length := by
  refine ⟨halvesPlan, halves_planned, ?_⟩
  have hfits := Resolver.plan_fits halves_planned
  rw [hfits.totalHosts_eq, length_halvesPlan]
  decide

end Rastreo
