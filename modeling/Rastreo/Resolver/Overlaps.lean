import Rastreo.Library.ActiveSweep
import Rastreo.Resolver.Counting

/-!
# Overlaps between specs

A plan warns of targets that share addresses, found by a sweep over the intervals of blocks and of
single addresses, and names at most twenty pairs.  `find_overlaps_exact` compares it with looking at
every two specs.
-/

namespace Rastreo

open List

/-! ## Intervals -/

structure AddressInterval where
  v6 : Bool
  lo : ℕ
  hi : ℕ
  spec : ℕ
  deriving DecidableEq

/-- Ordered by the fields, as declared. -/
def AddressInterval.key (a : AddressInterval) : Bool ×ₗ ℕ ×ₗ ℕ ×ₗ ℕ :=
  toLex (a.v6, toLex (a.lo, toLex (a.hi, a.spec)))

def intervalLayout : Layout AddressInterval Bool ℕ ℕ :=
  ⟨AddressInterval.v6, AddressInterval.lo, AddressInterval.hi, AddressInterval.spec⟩

/-- `push_intervals`. -/
def PlannedSpec.intervals (spec : ℕ) : PlannedSpec → List AddressInterval
  | .block b _ => [⟨(ipToBits b.first).1, (ipToBits b.first).2, (ipToBits b.last).2, spec⟩]
  | .resolved ips _ => ips.map fun ip => ⟨(ipToBits ip).1, (ipToBits ip).2, (ipToBits ip).2, spec⟩

namespace ResolvedPlan

variable (self : ResolvedPlan)

def intervals : List AddressInterval :=
  self.specs.zipIdx.flatMap fun (planned, spec) => planned.intervals spec

def sweepIntervals : List AddressInterval :=
  (self.intervals.mergeSort fun a b => decide (a.key ≤ b.key)).destutter (· ≠ ·)

def reportedOverlaps : ℕ := 20

structure Overlaps where
  pairs : List (Target × Target)
  more : Bool
  deriving DecidableEq

/-- The targets of two specs; none if there are no such specs. -/
def originals (pair : ℕ × ℕ) : Option (Target × Target) := do
  return ((← self.specs[pair.1]?).original, (← self.specs[pair.2]?).original)

/-- The open intervals are kept themselves, not their positions. -/
def findOverlaps : Option Overlaps := do
  let (found, more) := intervalLayout.activeSweep reportedOverlaps self.sweepIntervals [] []
  let pairs ← (found.mergeSort fun a b => decide (toLex a ≤ toLex b)).mapM self.originals
  return ⟨pairs, more⟩

/-! ## Looking at the addresses -/

def shareAddress (i j : ℕ) : Bool :=
  match self.specs[i]?, self.specs[j]? with
  | some a, some b => a.addresses.any fun ip => decide (ip ∈ b.addresses)
  | _, _ => false

/-- They stream an address in common; in order. -/
def sharingPairs : List (ℕ × ℕ) :=
  (List.range self.specs.length).flatMap fun i =>
    ((List.range self.specs.length).filter fun j => decide (i < j) && self.shareAddress i j).map
      fun j => (i, j)

variable {self} {i j : ℕ}

lemma shareAddress_iff :
    self.shareAddress i j = true ↔ ∃ a b : PlannedSpec, self.specs[i]? = some a ∧
      self.specs[j]? = some b ∧ ∃ ip, ip ∈ a.addresses ∧ ip ∈ b.addresses := by
  unfold shareAddress
  split
  next a b ha hb => simp [ha, hb, any_eq_true]
  next hnone =>
    constructor
    · intro h
      cases h
    · grind

lemma shareAddress_symm (h : self.shareAddress i j = true) : self.shareAddress j i = true := by
  obtain ⟨a, b, ha, hb, ip, hipa, hipb⟩ := shareAddress_iff.mp h
  exact shareAddress_iff.mpr ⟨b, a, hb, ha, ip, hipb, hipa⟩

lemma mem_sharingPairs : (i, j) ∈ self.sharingPairs ↔ i < j ∧ self.shareAddress i j = true := by
  have hbd : self.shareAddress i j = true → i < self.specs.length ∧ j < self.specs.length := by
    intro h
    obtain ⟨a, b, ha, hb, -⟩ := shareAddress_iff.mp h
    grind
  simp only [sharingPairs, mem_flatMap, mem_range, mem_map, mem_filter,
    Bool.and_eq_true, decide_eq_true_eq, Prod.mk.injEq]
  constructor
  · simp
  · rintro ⟨hlt, hshare⟩
    grind

lemma sharingPairs_sorted : self.sharingPairs.Pairwise fun a b => toLex a < toLex b := by
  rw [sharingPairs, pairwise_flatMap]
  constructor
  · intro i _
    rw [pairwise_map]
    refine (pairwise_lt_range.filter _).imp fun h => ?_
    exact Prod.Lex.toLex_lt_toLex.mpr (.inr ⟨rfl, h⟩)
  · refine pairwise_lt_range.imp fun h x hx y hy => ?_
    obtain ⟨_, -, rfl⟩ := mem_map.mp hx
    obtain ⟨_, -, rfl⟩ := mem_map.mp hy
    exact Prod.Lex.toLex_lt_toLex.mpr (.inl h)

end ResolvedPlan

/-! ## Intervals and addresses -/

lemma PlannedSpec.intervals_proper {planned : PlannedSpec} {spec : ℕ} {x : AddressInterval}
    (h : x ∈ planned.intervals spec) :
    x.spec = spec ∧ x.lo ≤ x.hi ∧ ∃ ip : IpAddr, ipToBits ip = (x.v6, x.lo) := by
  cases planned with
  | block b original =>
    obtain rfl := mem_singleton.mp h
    exact ⟨rfl, b.ordered.2, b.first, rfl⟩
  | resolved ips original =>
    obtain ⟨ip, -, rfl⟩ := mem_map.mp h
    simp

lemma ipToBits_injective : Function.Injective ipToBits := by
  rintro (a | a) (b | b) h <;> simp [ipToBits, BitVec.toNat_inj] at h ⊢
  · exact h
  · exact h

lemma PlannedSpec.mem_addresses_iff {planned : PlannedSpec} (spec : ℕ) (ip : IpAddr) :
    ip ∈ planned.addresses ↔ ∃ x ∈ planned.intervals spec,
      x.v6 = (ipToBits ip).1 ∧ x.lo ≤ (ipToBits ip).2 ∧ (ipToBits ip).2 ≤ x.hi := by
  cases planned with
  | block b original =>
    have hfamily := b.ordered.1
    rw [PlannedSpec.addresses, mem_blockAddresses, IpAddr.Between, Ordered, Ordered, ← hfamily]
    simp only [PlannedSpec.intervals, mem_singleton, exists_eq_left]
    constructor
    · grind
    · rintro ⟨hfst, hlo, hhi⟩
      grind
  | resolved ips original =>
    constructor
    · intro hip
      exact ⟨_, mem_map_of_mem hip, rfl, Nat.le_refl _, Nat.le_refl _⟩
    · rintro ⟨x, hx, hfamily, hlo, hhi⟩
      obtain ⟨ip', hip', rfl⟩ := mem_map.mp hx
      have heq : ip' = ip := ipToBits_injective (Prod.ext hfamily (Nat.le_antisymm hlo hhi))
      rw [← heq]
      exact hip'

lemma PlannedSpec.exists_shared_iff (a b : PlannedSpec) (i j : ℕ) :
    (∃ ip, ip ∈ a.addresses ∧ ip ∈ b.addresses) ↔
      ∃ x ∈ a.intervals i, ∃ y ∈ b.intervals j, intervalLayout.Meet x y := by
  constructor
  · rintro ⟨ip, ha, hb⟩
    obtain ⟨x, hx, hxfa, hxlo, hxhi⟩ := (a.mem_addresses_iff i ip).mp ha
    obtain ⟨y, hy, hyfa, hylo, hyhi⟩ := (b.mem_addresses_iff j ip).mp hb
    exact ⟨x, hx, y, hy, hxfa.trans hyfa.symm, hxlo.trans hyhi, hylo.trans hxhi⟩
  · rintro ⟨x, hx, y, hy, hfamily, hxy, hyx⟩
    -- The later of the two starts is an address of both.
    obtain ⟨-, hxpr, ipx, hipx⟩ := PlannedSpec.intervals_proper hx
    obtain ⟨-, hypr, ipy, hipy⟩ := PlannedSpec.intervals_proper hy
    rcases Nat.le_total x.lo y.lo with hle | hle
    · refine ⟨ipy, (a.mem_addresses_iff i ipy).mpr ⟨x, hx, ?_⟩,
        (b.mem_addresses_iff j ipy).mpr ⟨y, hy, ?_⟩⟩
      · rw [hipy]
        exact ⟨hfamily, hle, hyx⟩
      · rw [hipy]
        exact ⟨rfl, Nat.le_refl _, hypr⟩
    · refine ⟨ipx, (a.mem_addresses_iff i ipx).mpr ⟨x, hx, ?_⟩,
        (b.mem_addresses_iff j ipx).mpr ⟨y, hy, ?_⟩⟩
      · rw [hipx]
        exact ⟨rfl, Nat.le_refl _, hxpr⟩
      · rw [hipx]
        exact ⟨hfamily.symm, hle, hxy⟩

namespace ResolvedPlan

variable {plan : ResolvedPlan}

lemma mem_sweepIntervals {x : AddressInterval} : x ∈ plan.sweepIntervals ↔
      ∃ (i : ℕ) (planned : PlannedSpec), plan.specs[i]? = some planned ∧
        x ∈ planned.intervals i := by
  rw [sweepIntervals, mem_destutter_ne, mem_mergeSort, intervals, mem_flatMap]
  constructor
  · rintro ⟨⟨planned, i⟩, hmem, hx⟩
    grind
  · rintro ⟨i, planned, hpla, hx⟩
    exact ⟨(planned, i), mk_mem_zipIdx_iff_getElem?.mpr hpla, hx⟩

lemma sweepIntervals_sorted : plan.sweepIntervals.Pairwise intervalLayout.Before := by
  refine ((pairwise_mergeSort_key AddressInterval.key plan.intervals).sublist
    (destutter_sublist _ _)).imp fun {a b} h => ?_
  rcases Prod.Lex.toLex_le_toLex.mp h with hlt | ⟨heq, hle⟩
  · exact .inl hlt
  · refine .inr ⟨heq, ?_⟩
    rcases Prod.Lex.toLex_le_toLex.mp hle with hlt | ⟨heq', -⟩
    · exact hlt.le
    · exact heq'.le

lemma overlap_iff (p : ℕ × ℕ) :
    intervalLayout.Overlap plan.sweepIntervals p ↔ p ∈ plan.sharingPairs := by
  constructor
  · rintro ⟨x, hx, y, hy, hne, hmeet, rfl⟩
    obtain ⟨i, a, ha, hxa⟩ := mem_sweepIntervals.mp hx
    obtain ⟨j, b, hb, hyb⟩ := mem_sweepIntervals.mp hy
    have hi : intervalLayout.owner x = i := (PlannedSpec.intervals_proper hxa).1
    have hj : intervalLayout.owner y = j := (PlannedSpec.intervals_proper hyb).1
    have hshare : plan.shareAddress i j = true :=
      shareAddress_iff.mpr ⟨a, b, ha, hb, (a.exists_shared_iff b i j).mpr ⟨x, hxa, y, hyb, hmeet⟩⟩
    rw [hi, hj] at hne
    rw [Layout.owners, hi, hj]
    rcases Nat.lt_or_gt_of_ne hne with hlt | hgt
    · rw [min_eq_left hlt.le, max_eq_right hlt.le]
      exact mem_sharingPairs.mpr ⟨hlt, hshare⟩
    · rw [min_eq_right (le_of_lt hgt), max_eq_left (le_of_lt hgt)]
      exact mem_sharingPairs.mpr ⟨hgt, shareAddress_symm hshare⟩
  · intro hp
    obtain ⟨i, j⟩ := p
    obtain ⟨hlt, hshare⟩ := mem_sharingPairs.mp hp
    obtain ⟨a, b, ha, hb, hip⟩ := shareAddress_iff.mp hshare
    obtain ⟨x, hxa, y, hyb, hmeet⟩ := (a.exists_shared_iff b i j).mp hip
    have hi : intervalLayout.owner x = i := (PlannedSpec.intervals_proper hxa).1
    have hj : intervalLayout.owner y = j := (PlannedSpec.intervals_proper hyb).1
    refine ⟨x, mem_sweepIntervals.mpr ⟨i, a, ha, hxa⟩, y, mem_sweepIntervals.mpr ⟨j, b, hb, hyb⟩,
      ?_, hmeet, ?_⟩
    · rw [hi, hj]
      exact hlt.ne
    · rw [Layout.owners, hi, hj, min_eq_left hlt.le, max_eq_right hlt.le]

lemma sweep_collects : Collects reportedOverlaps (· ∈ plan.sharingPairs)
      (intervalLayout.activeSweep reportedOverlaps plan.sweepIntervals [] []).1
      (intervalLayout.activeSweep reportedOverlaps plan.sweepIntervals [] []).2 := by
  refine (Layout.activeSweep_collects sweepIntervals_sorted fun x hx => ?_).congr overlap_iff
  obtain ⟨i, planned, -, hpla⟩ := mem_sweepIntervals.mp hx
  exact (PlannedSpec.intervals_proper hpla).2.1

lemma exists_originals {pairs : List (ℕ × ℕ)} (h : ∀ p ∈ pairs, p ∈ plan.sharingPairs) :
    ∃ named, pairs.mapM plan.originals = some named := by
  induction pairs with
  | nil => exact ⟨[], rfl⟩
  | cons p pairs ih =>
    obtain ⟨i, j⟩ := p
    obtain ⟨-, hshare⟩ := mem_sharingPairs.mp (h _ mem_cons_self)
    obtain ⟨a, b, ha, hb, -⟩ := shareAddress_iff.mp hshare
    obtain ⟨named, hnamed⟩ := ih fun p hp => h p (mem_cons_of_mem _ hp)
    have hone : plan.originals (i, j) = some (a.original, b.original) := by
      simp [originals, ha, hb]
    grind

/-- The pairs of specs that stream an address in common, in order, are named exactly if there are at
most twenty; otherwise twenty different ones, with a note that there are more. -/
theorem find_overlaps_exact (plan : ResolvedPlan) :
    (plan.sharingPairs.length ≤ 20 → ∃ named, plan.sharingPairs.mapM plan.originals = some named ∧
        plan.findOverlaps = some ⟨named, false⟩) ∧
    (20 < plan.sharingPairs.length →
      ∃ (pairs : List (ℕ × ℕ)) (named : List (Target × Target)), pairs.length = 20 ∧
        pairs.Pairwise (fun a b => toLex a < toLex b) ∧
        (∀ p ∈ pairs, p ∈ plan.sharingPairs) ∧ pairs.mapM plan.originals = some named ∧
        plan.findOverlaps = some ⟨named, true⟩) := by
  have hcol := @sweep_collects plan
  have hnd : plan.sharingPairs.Nodup :=
    sharingPairs_sorted.imp fun h heq => absurd (congrArg toLex heq) h.ne
  rw [findOverlaps]
  generalize intervalLayout.activeSweep reportedOverlaps plan.sweepIntervals [] [] = r at hcol ⊢
  obtain ⟨found, more⟩ := r
  dsimp only at hcol ⊢
  have hsorted := pairwise_mergeSort_key toLex found
  have hperm := mergeSort_perm found fun a b => decide (toLex a ≤ toLex b)
  constructor
  · intro hle
    obtain ⟨rfl, hall⟩ := hcol.perm_of_le (fun _ => Iff.rfl) hnd hle
    have heq : (found.mergeSort fun a b => decide (toLex a ≤ toLex b)) = plan.sharingPairs :=
      (hperm.trans hall).eq_of_pairwise (fun a b _ _ hab hba => toLex_inj.mp (hab.antisymm hba))
        hsorted (sharingPairs_sorted.imp fun h => h.le)
    obtain ⟨named, hnamed⟩ := @exists_originals plan plan.sharingPairs fun p hp => hp
    exact ⟨named, hnamed, by rw [heq, hnamed]; rfl⟩
  · intro hlt
    obtain ⟨rfl, hlen⟩ := hcol.full_of_lt (fun _ => Iff.rfl) hnd hlt
    have hmem : ∀ p ∈ found.mergeSort fun a b => decide (toLex a ≤ toLex b),
        p ∈ plan.sharingPairs := fun p hp => hcol.sound p (hperm.mem_iff.mp hp)
    obtain ⟨named, hnamed⟩ := exists_originals hmem
    refine ⟨_, named, ?_, ?_, hmem, hnamed, by rw [hnamed]; rfl⟩
    · rw [hperm.length_eq, hlen]
      rfl
    · have hdis := hperm.nodup_iff.mpr hcol.nodup
      exact hsorted.imp₂ (fun _ _ hle hne => lt_of_le_of_ne hle fun h => hne (toLex_inj.mp h)) hdis

/-- As many names of one address, and a block around it. -/
def wildcard (names : ℕ) : ResolvedPlan where
  specs := .block (cidrBounds (.v4 0x0a000000#32 29)).1 (.cidr (.v4 0x0a000000#32 29)) ::
    List.replicate names (.resolved [.v4 0x0a000002#32] (.dnsName "any"))
  resolvedAt := 0

/-- Five names make fifteen pairs with the block and each other, six one too many. -/
theorem find_overlaps_exact_wildcard : (∃ named, (wildcard 5).findOverlaps = some ⟨named, false⟩ ∧
      (wildcard 5).sharingPairs.length = 15) ∧
    ∃ named, (wildcard 6).findOverlaps = some ⟨named, true⟩ ∧
      (wildcard 6).sharingPairs.length = 21 := by
  have hfive : (wildcard 5).sharingPairs.length = 15 := by decide +kernel
  have hsix : (wildcard 6).sharingPairs.length = 21 := by decide +kernel
  obtain ⟨named, -, hnamed⟩ := (find_overlaps_exact (wildcard 5)).1 (by rw [hfive]; decide)
  obtain ⟨_, named', -, -, -, -, hnam'⟩ :=
    (find_overlaps_exact (wildcard 6)).2 (by rw [hsix]; decide)
  exact ⟨⟨named, hnamed, hfive⟩, named', hnam', hsix⟩

end ResolvedPlan

end Rastreo
