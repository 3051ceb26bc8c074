import Rastreo.Library.IntervalSweep
import Rastreo.Library.Results
import Rastreo.Model.Target

/-!
# Plans

A plan keeps a block of addresses, or the addresses a name was resolved to, for each target.  The
stream expands the specs in order; counts, samples and the allow-list check never expand a block.  A
block carries the proof that its ends are of one family and in order.
-/

namespace Rastreo

/-! ## Networks -/

/-- The address of a network: the host bits are zero. -/
def networkBits {w : ℕ} (addr : BitVec w) (len : ℕ) : BitVec w :=
  addr &&& (BitVec.allOnes w <<< (w - len))

/-- The last address of a network: the host bits are one. -/
def broadcastBits {w : ℕ} (addr : BitVec w) (len : ℕ) : BitVec w :=
  addr ||| (BitVec.allOnes w >>> len)

/-- A network has as many addresses as its host bits count. -/
lemma networkBits_add {w : ℕ} (addr : BitVec w) {len : ℕ} (hlen : len ≤ w) :
    (networkBits addr len).toNat + 2 ^ (w - len) = (broadcastBits addr len).toNat + 1 := by
  have hdis : networkBits addr len &&& (BitVec.allOnes w >>> len) = 0#w := by
    ext i hi
    simp [networkBits]
    omega
  have hor : broadcastBits addr len = networkBits addr len ||| (BitVec.allOnes w >>> len) := by
    ext i hi
    simp [networkBits, broadcastBits]
    by_cases hlow : i < w - len
    · simp [show len + i < w by omega]
    · simp [hlow]
  have hhost : (BitVec.allOnes w >>> len).toNat + 1 = 2 ^ (w - len) := by
    have hsplit : 2 ^ w = 2 ^ len * 2 ^ (w - len) := by rw [← Nat.pow_add]; congr 1; omega
    have hpos : 0 < 2 ^ (w - len) := Nat.two_pow_pos _
    have hdiv := Nat.mul_sub_div 0 (2 ^ len) (2 ^ (w - len)) (Nat.mul_pos (Nat.two_pow_pos _) hpos)
    rw [BitVec.toNat_ushiftRight, BitVec.toNat_allOnes, Nat.shiftRight_eq_div_pow, hsplit, hdiv,
      Nat.zero_div]
    omega
  rw [hor, ← BitVec.add_eq_or_of_and_eq_zero _ _ hdis, BitVec.toNat_add_of_and_eq_zero hdis]
  omega

lemma networkBits_le {w : ℕ} (addr : BitVec w) {len : ℕ} (hlen : len ≤ w) :
    (networkBits addr len).toNat ≤ (broadcastBits addr len).toNat := by
  have hadd := networkBits_add addr hlen
  grind

def IpNet.contains : IpNet → IpAddr → Bool
  | .v4 addr len, .v4 ip => networkBits addr len ≤ ip && ip ≤ broadcastBits addr len
  | .v6 addr len, .v6 ip => networkBits addr len ≤ ip && ip ≤ broadcastBits addr len
  | _, _ => false

/-! ## Blocks -/

def ipToBits : IpAddr → Bool × ℕ
  | .v4 a => (false, a.toNat)
  | .v6 a => (true, a.toNat)

def Ordered (first last : IpAddr) : Prop :=
  (ipToBits first).1 = (ipToBits last).1 ∧ (ipToBits first).2 ≤ (ipToBits last).2

structure Block where
  first : IpAddr
  last : IpAddr
  ordered : Ordered first last

def Block.single (addr : IpAddr) : Block := ⟨addr, addr, rfl, Nat.le_refl _⟩

@[simp]
lemma Block.single_first (addr : IpAddr) : (Block.single addr).first = addr := rfl

@[simp]
lemma Block.single_last (addr : IpAddr) : (Block.single addr).last = addr := rfl

variable (addr : BitVec 32) (len : Fin 33)

lemma hosts_bounds (h32 : len ≠ 32) (h31 : len ≠ 31) :
    (networkBits addr len + 1).toNat = (networkBits addr len).toNat + 1 ∧
      (broadcastBits addr len - 1).toNat = (broadcastBits addr len).toNat - 1 ∧
      (networkBits addr len).toNat + 3 ≤ (broadcastBits addr len).toNat := by
  have hadd : (networkBits addr len).toNat + 2 ^ (32 - len.val) =
      (broadcastBits addr len).toNat + 1 := networkBits_add addr (by omega)
  have hfour : 2 ^ 2 ≤ 2 ^ (32 - len.val) := Nat.pow_le_pow_right (by omega) (by omega)
  bv_omega

lemma hosts_ordered (h32 : len ≠ 32) (h31 : len ≠ 31) :
    Ordered (.v4 (networkBits addr len + 1)) (.v4 (broadcastBits addr len - 1)) := by
  obtain ⟨hfst, hlast, hroom⟩ := hosts_bounds addr len h32 h31
  refine ⟨rfl, ?_⟩
  simp only [ipToBits]
  omega

lemma pair_ordered : Ordered (.v4 (networkBits addr 31)) (.v4 (networkBits addr 31 + 1)) := by
  have hadd : (networkBits addr 31).toNat + 2 ^ (32 - 31) =
      (broadcastBits addr 31).toNat + 1 := networkBits_add addr (by omega)
  refine ⟨rfl, ?_⟩
  simp only [ipToBits]
  bv_omega

lemma network_ordered (addr : BitVec 128) (len : Fin 129) :
    Ordered (.v6 (networkBits addr len)) (.v6 (broadcastBits addr len)) :=
  ⟨rfl, networkBits_le addr (by omega)⟩

/-- `cidr_bounds`: a block and its number of hosts. -/
def cidrBounds : IpNet → Block × ℕ
  | .v4 addr len =>
    if h32 : len = 32 then
      (.single (.v4 (networkBits addr 32)), 1)
    else if h31 : len = 31 then
      (⟨.v4 (networkBits addr 31), .v4 (networkBits addr 31 + 1), pair_ordered addr⟩, 2)
    else
      (⟨.v4 (networkBits addr len + 1), .v4 (broadcastBits addr len - 1),
          hosts_ordered addr len h32 h31⟩,
        (broadcastBits addr len).toNat - (networkBits addr len).toNat - 1)
  | .v6 addr len =>
    let span := (broadcastBits addr len).toNat - (networkBits addr len).toNat
    (⟨.v6 (networkBits addr len), .v6 (broadcastBits addr len), network_ordered addr len⟩,
      min (span + 1) (2 ^ 128 - 1))

/-- `range_bounds`: a block and its number of hosts. -/
def rangeBounds (start stop : IpAddr) : Result (Block × ℕ) :=
  match start, stop with
  | .v4 s, .v4 e =>
    if h : s.toNat ≤ e.toNat then .ok (⟨.v4 s, .v4 e, rfl, h⟩, e.toNat - s.toNat + 1)
    else .error (.resolver (.invalidRange start.display stop.display))
  | .v6 s, .v6 e =>
    if h : s.toNat ≤ e.toNat then
      .ok (⟨.v6 s, .v6 e, rfl, h⟩, min (e.toNat - s.toNat + 1) (2 ^ 128 - 1))
    else .error (.resolver (.invalidRange start.display stop.display))
  | s, e => .error (.resolver (.mixedFamilyRange s.display e.display))

/-- A `usize` on the 64-bit targets. -/
def usizeMax : ℕ := 2 ^ 64 - 1

/-- `block_span`: computed in 128 bits and cut to a `usize`. -/
def blockSpan (first last : IpAddr) : ℕ :=
  match first, last with
  | .v4 a, .v4 b => (b.toNat - a.toNat + 1) % 2 ^ 128 % 2 ^ 64
  | .v6 a, .v6 b => (b.toNat - a.toNat + 1) % 2 ^ 128 % 2 ^ 64
  | _, _ => 0

def blockAddresses (first last : IpAddr) : List IpAddr :=
  match first, last with
  | .v4 a, .v4 b =>
    (List.range' a.toNat (b.toNat + 1 - a.toNat)).map fun bits => .v4 (BitVec.ofNat 32 bits)
  | .v6 a, .v6 b =>
    (List.range' a.toNat (b.toNat + 1 - a.toNat)).map fun bits => .v6 (BitVec.ofNat 128 bits)
  | _, _ => []

/-- The cursor moves to `end + 1` only where `end` is below `hi`, so it never overflows. -/
def uncoveredPoint (lo hi : ℕ) (ivals : List (ℕ × ℕ)) : Option ℕ :=
  sweep hi lo (ivals.mergeSort fun i j => decide (i.1 ≤ j.1))

def networkIntervals (v6 : Bool) (allowlist : List IpNet) : List (ℕ × ℕ) :=
  allowlist.filterMap fun net =>
    match net with
    | .v4 addr len =>
      if v6 then none else some ((networkBits addr len).toNat, (broadcastBits addr len).toNat)
    | .v6 addr len =>
      if v6 then some ((networkBits addr len).toNat, (broadcastBits addr len).toNat) else none

def firstUncoveredIp (first last : IpAddr) (allowlist : List IpNet) : Option IpAddr :=
  match first, last with
  | .v4 a, .v4 b =>
    (uncoveredPoint a.toNat b.toNat (networkIntervals false allowlist)).map fun bits =>
      .v4 (BitVec.ofNat 32 bits)
  | .v6 a, .v6 b =>
    (uncoveredPoint a.toNat b.toNat (networkIntervals true allowlist)).map fun bits =>
      .v6 (BitVec.ofNat 128 bits)
  | _, _ => some first

/-! ## Specs -/

structure ResolvedAddresses where
  total : ℕ
  sample : List IpAddr
  deriving DecidableEq

inductive SpecContribution where
  | addresses (a : ResolvedAddresses)
  | unresolvable
  deriving DecidableEq

def sampledAddresses : ℕ := 6

inductive PlannedSpec where
  | block (bounds : Block) (original : Target)
  | resolved (ips : List IpAddr) (original : Target)

namespace PlannedSpec

def hosts : PlannedSpec → ℕ
  | .block b _ => blockSpan b.first b.last
  | .resolved ips _ => ips.length

def original : PlannedSpec → Target
  | .block _ original => original
  | .resolved _ original => original

def isUnresolvable (self : PlannedSpec) : Bool := self.hosts == 0

def sample (self : PlannedSpec) : SpecContribution :=
  if self.isUnresolvable then .unresolvable
  else
    match self with
    | .block b _ =>
      .addresses ⟨blockSpan b.first b.last, (blockAddresses b.first b.last).take sampledAddresses⟩
    | .resolved ips _ => .addresses ⟨ips.length, ips.take sampledAddresses⟩

def checkAllowed (allowlist : List IpNet) : PlannedSpec → Status
  | .block b _ =>
    match firstUncoveredIp b.first b.last allowlist with
    | some ip => .error (.resolver (.targetNotAllowed ip))
    | none => .ok ()
  | .resolved ips _ =>
    ips.forM fun ip =>
      if allowlist.any fun net => net.contains ip then .ok ()
      else .error (.resolver (.targetNotAllowed ip))

/-- The addresses of a spec, in the order they are streamed. -/
def addresses : PlannedSpec → List IpAddr
  | .block b _ => blockAddresses b.first b.last
  | .resolved ips _ => ips

def intoStream (now : SystemTime) (self : PlannedSpec) : List ResolvedTarget :=
  self.addresses.map fun ip => ⟨ip, self.original, now⟩

end PlannedSpec

/-! ## Plans -/

structure ResolvedPlan where
  specs : List PlannedSpec
  resolvedAt : SystemTime

namespace ResolvedPlan

variable (self : ResolvedPlan)

/-- `total_hosts`: the sum saturates. -/
def totalHosts : ℕ :=
  self.specs.foldl (fun sum spec => min (sum + spec.hosts) usizeMax) 0

def perTargetSamples : List (Target × SpecContribution) :=
  self.specs.map fun spec => (spec.original, spec.sample)

def unresolvableTargets : List Target :=
  (self.specs.filter PlannedSpec.isUnresolvable).map PlannedSpec.original

def dnsPins : List (Target × List IpAddr) :=
  self.specs.filterMap fun spec =>
    match spec with
    | .resolved ips (.dnsName name) => some (.dnsName name, ips)
    | _ => none

def intoStream : List ResolvedTarget :=
  self.specs.flatMap (PlannedSpec.intoStream self.resolvedAt)

def checkAllowed (allowlist : List IpNet) : Status :=
  self.specs.forM (PlannedSpec.checkAllowed allowlist)

/-- The loop of `from_pinned`: the next pin belongs to the next name. -/
def pinnedSpecs : List Target → List (Target × List IpAddr) → Result (List PlannedSpec)
  | [], _ => .ok []
  | target :: targets, pins => do
    match target with
    | .ip addr =>
      return .block (.single addr) target :: (← pinnedSpecs targets pins)
    | .cidr net => return .block (cidrBounds net).1 target :: (← pinnedSpecs targets pins)
    | .range start stop =>
      let (b, _) ← rangeBounds start stop
      return .block b target :: (← pinnedSpecs targets pins)
    | .dnsName _ =>
      match pins with
      | [] => .error (.resume .fingerprintMismatch)
      | (pinnedTarget, ips) :: pins =>
        if pinnedTarget = target then
          return .resolved ips target :: (← pinnedSpecs targets pins)
        else .error (.resume .fingerprintMismatch)

def fromPinned (now : SystemTime) (targets : List Target) (dnsPins : List (Target × List IpAddr)) :
    Result ResolvedPlan := do
  return ⟨← pinnedSpecs targets dnsPins, now⟩

end ResolvedPlan

end Rastreo
