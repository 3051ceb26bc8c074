import Rastreo.Fuser.Partition

/-!
# Declared members and alias references

Declared members of a VRRP group stay separate exactly when no third record chains them together
(`declared_members_separate_iff`): the cap on their weight does not see other pairs.  Aliases are
meaningful exactly when no merged record takes part in a medium-band pair and no key is shared with
the best peer (`alias_references_iff`).
-/

namespace Rastreo

open List Option

section Bands

variable [CaseMapping] (hints : IdentityHints) (records : List DeviceRecord)

def WeightedPair (i j : ℕ) (w : ℚ) : Prop :=
  IsCandidate hints records i j ∧
    ∃ a b, records[i]? = some a ∧ records[j]? = some b ∧ w = pairWeight hints a b

/-- Two records whose pair, in list order, is in the high band. -/
def HighBand (i j : ℕ) : Prop :=
  ∃ w, (WeightedPair hints records i j w ∨ WeightedPair hints records j i w) ∧ highBandThreshold ≤ w

/-- Two records joined by a chain of high-band pairs. -/
def Chained : ℕ → ℕ → Prop := Relation.ReflTransGen (HighBand hints records)

variable {order : HashOrder} {hints records} {i j : ℕ} {w : ℚ}

lemma mem_computePairWeights_iff : (i, j, w) ∈ computePairWeights order hints records ↔
      WeightedPair hints records i j w ∧ 0 < w := by
  rw [mem_computePairWeights, WeightedPair]
  constructor
  · grind
  · grind

omit [CaseMapping] in
lemma pos_of_high (h : highBandThreshold ≤ w) : 0 < w :=
  lt_of_lt_of_le (by unfold highBandThreshold; norm_num) h

omit [CaseMapping] in
lemma pos_of_medium (h : InMediumBand w) : 0 < w :=
  lt_of_lt_of_le (by unfold mediumBandThreshold; norm_num) h.1

lemma linked_iff : Linked order hints records i j ↔
    ∃ w, WeightedPair hints records i j w ∧ highBandThreshold ≤ w := by
  refine exists_congr fun w => ?_
  rw [mem_computePairWeights_iff]
  grind [pos_of_high]

lemma HighBand.symm (h : HighBand hints records i j) : HighBand hints records j i := by
  obtain ⟨w, hw, hhigh⟩ := h
  exact ⟨w, hw.symm, hhigh⟩

lemma HighBand.ne (h : HighBand hints records i j) : i ≠ j := by
  obtain ⟨w, ⟨⟨hij, -⟩, -⟩ | ⟨⟨hij, -⟩, -⟩, -⟩ := h
  · exact hij.ne
  · exact hij.ne'

lemma Chained.symm (h : Chained hints records i j) : Chained hints records j i := by
  induction h with
  | refl => exact .refl
  | tail _ hstep ih => exact .head hstep.symm ih

lemma sameDevice_iff_chained : SameDevice order hints records i j ↔ Chained hints records i j := by
  constructor
  · intro h
    induction h with
    | rel i j hlink =>
      obtain ⟨w, hw, hhigh⟩ := linked_iff.mp hlink
      exact .single ⟨w, .inl hw, hhigh⟩
    | refl i => exact .refl
    | symm i j _ ih => exact ih.symm
    | trans i j k _ _ ih₁ ih₂ => exact ih₁.trans ih₂
  · intro h
    induction h with
    | refl => exact .refl i
    | tail _ hstep ih =>
      obtain ⟨w, hw | hw, hhigh⟩ := hstep
      · exact ih.trans _ _ _ (.rel _ _ (linked_iff.mpr ⟨w, hw, hhigh⟩))
      · exact ih.trans _ _ _ ((Relation.EqvGen.rel _ _ (linked_iff.mpr ⟨w, hw, hhigh⟩)).symm _ _)

lemma WeightedPair.lt_length (h : WeightedPair hints records i j w) :
    i < j ∧ j < records.length := by
  obtain ⟨⟨hij, -⟩, a, b, -, hb, -⟩ := h
  grind

/-! ## Positions and output records -/

/-- The record at `k` is that of the component of `i`. -/
def RepresentedBy (order : HashOrder) (hints : IdentityHints) (records : List DeviceRecord)
    (i k : ℕ) : Prop :=
  ∃ g, (deviceGroups order hints records)[k]? = some g ∧ i ∈ g

lemma exists_representedBy (hi : i < records.length) :
    ∃ k, RepresentedBy order hints records i k := by
  obtain ⟨g, hg, hig⟩ := exists_class (R := SameDevice order hints records)
    sameDevice_equivalence hi
  obtain ⟨k, hk⟩ := mem_iff_getElem?.mp hg
  exact ⟨k, g, hk, hig⟩

lemma representedBy_iff_chained {k : ℕ} (hi : RepresentedBy order hints records i k)
    (hj : j < records.length) :
    RepresentedBy order hints records j k ↔ Chained hints records i j := by
  obtain ⟨g, hg, hig⟩ := hi
  constructor
  · rintro ⟨g', hg', hjg⟩
    obtain rfl := Option.mem_unique hg hg'
    exact sameDevice_iff_chained.mp
      (rel_of_mem_class sameDevice_equivalence (mem_of_getElem? hg) hig hjg)
  · intro hchain
    have hrel : SameDevice order hints records i j := sameDevice_iff_chained.mpr hchain
    refine ⟨g, hg, ?_⟩
    obtain ⟨h, -, rfl⟩ := mem_classesBelow.mp (mem_of_getElem? hg)
    exact mem_classOf.mpr ⟨hj, sameDevice_equivalence.trans (mem_classOf.mp hig).2 hrel⟩

lemma representedBy_unique {k l : ℕ} (hk : RepresentedBy order hints records i k)
    (hl : RepresentedBy order hints records i l) : k = l := by
  obtain ⟨g, hg, hig⟩ := hk
  obtain ⟨h, hh, hih⟩ := hl
  have hdisj : (deviceGroups order hints records).Pairwise List.Disjoint :=
    classesBelow_disjoint sameDevice_equivalence
  obtain ⟨hklt, rfl⟩ := List.getElem?_eq_some_iff.mp hg
  obtain ⟨hllt, rfl⟩ := List.getElem?_eq_some_iff.mp hh
  rcases lt_trichotomy k l with hlt | heq | hlt
  · exact absurd hih (pairwise_iff_getElem.mp hdisj k l hklt hllt hlt hig)
  · exact heq
  · exact absurd hig (pairwise_iff_getElem.mp hdisj l k hllt hklt hlt hih)

/-! ## Declared members -/

omit [CaseMapping] in
lemma pairIsDeclaredVrrpMembers_comm (hints : IdentityHints) (a b : DeviceRecord) :
    pairIsDeclaredVrrpMembers hints a b = pairIsDeclaredVrrpMembers hints b a := by
  unfold pairIsDeclaredVrrpMembers
  cases a.mgmtIp <;> cases b.mgmtIp <;> simp [Bool.and_comm]

lemma pairWeight_lt_of_declared {a b : DeviceRecord}
    (h : pairIsDeclaredVrrpMembers hints a b = true) :
    pairWeight hints a b < highBandThreshold := by
  have hcap : vrrpMemberWeightCap < highBandThreshold := by
    unfold vrrpMemberWeightCap highBandThreshold; norm_num
  unfold pairWeight
  simp only [h, true_and]
  split_ifs with hw
  · exact hcap
  · grind

lemma not_highBand_of_declared {a b : DeviceRecord} (hi : records[i]? = some a)
    (hj : records[j]? = some b) (h : pairIsDeclaredVrrpMembers hints a b = true) :
    ¬ HighBand hints records i j := by
  rintro ⟨w, ⟨-, a', b', ha', hb', rfl⟩ | ⟨-, a', b', ha', hb', rfl⟩, hhigh⟩
  · obtain rfl := Option.mem_unique hi ha'
    obtain rfl := Option.mem_unique hj hb'
    exact absurd hhigh (not_le.mpr (pairWeight_lt_of_declared h))
  · obtain rfl := Option.mem_unique hj ha'
    obtain rfl := Option.mem_unique hi hb'
    rw [pairIsDeclaredVrrpMembers_comm] at h
    exact absurd hhigh (not_le.mpr (pairWeight_lt_of_declared h))

/-- Declared members end in different records exactly when no third record forms a high-band pair
with one and is chained to the other. -/
theorem declared_members_separate_iff (order : HashOrder) (hints : IdentityHints)
    (records : List DeviceRecord) {i j : ℕ} {a b : DeviceRecord} (hij : i ≠ j)
    (hi : records[i]? = some a) (hj : records[j]? = some b)
    (hdecl : pairIsDeclaredVrrpMembers hints a b = true) :
    (∃ out, correlate order hints records = .ok out ∧
      List.Forall₂ (IsOutputOf records) (deviceGroups order hints records) out ∧
      ∀ k, ¬ (RepresentedBy order hints records i k ∧ RepresentedBy order hints records j k)) ↔
    ¬ ∃ m, m ≠ i ∧ m ≠ j ∧ HighBand hints records i m ∧ Chained hints records m j := by
  have hjlt := (List.getElem?_eq_some_iff.mp hj).1
  -- A chain between declared members starts with a step to a third record.
  have hchain : Chained hints records i j ↔
      ∃ m, m ≠ i ∧ m ≠ j ∧ HighBand hints records i m ∧ Chained hints records m j := by
    constructor
    · intro h
      rcases h.cases_head with heq | ⟨m, hstep, hrest⟩
      · exact absurd heq hij
      · refine ⟨m, hstep.ne.symm, ?_, hstep, hrest⟩
        rintro rfl
        exact not_highBand_of_declared hi hj hdecl hstep
    · rintro ⟨m, -, -, hstep, hrest⟩
      exact .head hstep hrest
  rw [← hchain]
  constructor
  · rintro ⟨out, -, -, hsep⟩ hij'
    obtain ⟨k, hk⟩ : ∃ k, RepresentedBy order hints records i k :=
      exists_representedBy (List.getElem?_eq_some_iff.mp hi).1
    exact hsep k ⟨hk, (representedBy_iff_chained hk hjlt).mpr hij'⟩
  · intro hnot
    obtain ⟨out, hrun, hout⟩ := correlate_emitted order hints records
    refine ⟨out, hrun, hout.imp fun _ _ h => h.isOutputOf, ?_⟩
    rintro k ⟨hik, hjk⟩
    exact hnot ((representedBy_iff_chained hik hjlt).mp hjk)

end Bands

section Members

attribute [local instance] CaseMapping.ascii

def sampleRecord (key : IdentityKey) (ip : BitVec 32) (signals : List Signal)
    (confidence : Confidence) : DeviceRecord :=
  { identityKey := key, mgmtIp := some (.v4 ip), mac := none, manufacturer := none, model := none,
    productFamily := none, platform := none, osVersion := none, sshVersion := none,
    httpServer := none, httpVersion := none, role := none, confidence, lastSeen := 0, signals,
    probeKinds := [], schemaVersion := currentSchemaVersion, schemaId := currentSchemaId,
    altIps := [], possibleAliasOf := none, scanMetadata := .default }

/-- Records that show the same SSH host key. -/
def sharingHostKey (ips : List (BitVec 32)) : List DeviceRecord :=
  ips.map fun ip => sampleRecord ⟨"ip:" ++ (IpAddr.v4 ip).display, by simp⟩ ip [.sshHostKey "k"]
    ⟨2 / 10, by norm_num, by norm_num⟩

/-- Hints that declare the members of one VRRP group. -/
def hintsWithMembers (members : List IpAddr) : IdentityHints :=
  { vrrpGroups := [⟨.v4 1#32, "00:00:5e:00:01:0a", members⟩] }

/-- The condition at two declared members and nothing else. -/
theorem declared_members_separate_iff_two : let hints := hintsWithMembers [.v4 2#32, .v4 3#32]
    let records := sharingHostKey [2#32, 3#32]
    (∃ out, correlate .insertion hints records = .ok out ∧
      List.Forall₂ (IsOutputOf records) (deviceGroups .insertion hints records) out ∧
      ∀ k, ¬ (RepresentedBy .insertion hints records 0 k ∧
        RepresentedBy .insertion hints records 1 k)) ↔
    ¬ ∃ m, m ≠ 0 ∧ m ≠ 1 ∧ HighBand hints records 0 m ∧ Chained hints records m 1 :=
  declared_members_separate_iff .insertion _ _ (by decide) rfl rfl (by decide)

/-- Two declared members and a third record with their host key become one. -/
theorem declared_members_merged_by_third : let hints := hintsWithMembers [.v4 2#32, .v4 3#32]
    let records := sharingHostKey [2#32, 3#32, 9#32]
    (∃ a b, records[0]? = some a ∧ records[1]? = some b ∧
      pairIsDeclaredVrrpMembers hints a b = true) ∧
    ((correlate .insertion hints records).map fun out =>
        out.map fun r => (r.mgmtIp, r.altIps.map (·.address))) =
      .ok [(some (.v4 2#32), [.v4 3#32, .v4 9#32])] := by
  refine ⟨⟨_, _, rfl, rfl, by decide⟩, ?_⟩
  decide +kernel

end Members

/-! ## Alias references -/

section References

variable [CaseMapping] (order : HashOrder) (hints : IdentityHints) (records : List DeviceRecord)

def Unmerged (i : ℕ) : Prop := ∀ j, ¬ HighBand hints records i j

/-- The other end of a medium-band pair, not chained to `i`. -/
def IsMediumPeer (i : ℕ) (p : MediumPeer) : Prop :=
  InMediumBand p.weight ∧ ¬ Chained hints records i p.peerIndex ∧
    (WeightedPair hints records i p.peerIndex p.weight ∨
      WeightedPair hints records p.peerIndex i p.weight)

/-- By confidence, then weight, then smallest position. -/
def IsBestPeer (i : ℕ) (p : MediumPeer) : Prop :=
  IsMediumPeer hints records i p ∧
    ∀ q, IsMediumPeer hints records i q → peerRank records q ≤ peerRank records p

/-- The earliest of highest confidence in its chain. -/
def Leads (m : ℕ) : Prop :=
  m < records.length ∧ ∀ j < records.length, Chained hints records m j →
    confidenceAt records j ≤ confidenceAt records m ∧
      (confidenceAt records m ≤ confidenceAt records j → m ≤ j)

/-- Every alias is the key of another output record. -/
def AliasesNameOthers (out : List DeviceRecord) : Prop :=
  ∀ (k : ℕ) (r : DeviceRecord) (key : IdentityKey),
    out[k]? = some r → r.possibleAliasOf = some key → key ≠ r.identityKey ∧
      ∃ (l : ℕ) (s : DeviceRecord), l ≠ k ∧ out[l]? = some s ∧ s.identityKey = key

/-- Both output records of a split medium-band pair carry an alias. -/
def MediumPairsAnnotated (out : List DeviceRecord) : Prop :=
  ∀ i j w, (i, j, w) ∈ computePairWeights order hints records → InMediumBand w →
    ∀ (k l : ℕ) (r s : DeviceRecord),
      RepresentedBy order hints records i k → RepresentedBy order hints records j l → k ≠ l →
        out[k]? = some r → out[l]? = some s →
        r.possibleAliasOf.isSome ∧ s.possibleAliasOf.isSome

/-- The inputs on which alias references are meaningful. -/
structure AliasesSound : Prop where
  /-- A high-band pair excludes medium-band pairs outside the chain. -/
  unmerged : ∀ i p, IsMediumPeer hints records i p → Unmerged hints records i
  best_ne : ∀ i a p b, records[i]? = some a → IsBestPeer hints records i p →
    records[p.peerIndex]? = some b → b.identityKey ≠ a.identityKey
  /-- An alias the record came with and kept names the leader of another chain. -/
  incoming : ∀ i a key, records[i]? = some a → Unmerged hints records i →
    (∀ p, ¬ IsMediumPeer hints records i p) → a.possibleAliasOf = some key →
    key ≠ a.identityKey ∧ ∃ m b, Leads hints records m ∧ records[m]? = some b ∧ b.identityKey = key

variable {order hints records} {i : ℕ}

lemma IsMediumPeer.symm {j : ℕ} {w : ℚ} (h : IsMediumPeer hints records i ⟨j, w⟩) :
    IsMediumPeer hints records j ⟨i, w⟩ :=
  ⟨h.1, fun hc => h.2.1 hc.symm, h.2.2.symm⟩

variable {p : MediumPeer}

lemma IsMediumPeer.lt_length (h : IsMediumPeer hints records i p) :
    i < records.length ∧ p.peerIndex < records.length := by
  rcases h.2.2 with hw | hw
  · exact ⟨hw.lt_length.1.trans hw.lt_length.2, hw.lt_length.2⟩
  · exact ⟨hw.lt_length.2, hw.lt_length.1.trans hw.lt_length.2⟩

lemma mem_mediumPeersOf_iff (hi : i < records.length) :
    p ∈ (mediumPeersOf order hints records).getD i [] ↔ IsMediumPeer hints records i p := by
  rw [mem_mediumPeersOf hi, sameDevice_iff_chained, mem_computePairWeights_iff,
    mem_computePairWeights_iff, IsMediumPeer]
  refine and_congr_right fun hband => and_congr_right fun _ => ?_
  simp only [pos_of_medium hband, and_true]

lemma bestPeer_eq_some_iff_isBestPeer (hi : i < records.length) :
    bestPeer records ((mediumPeersOf order hints records).getD i []) = some p ↔
      IsBestPeer hints records i p := by
  simp only [bestPeer_eq_some_iff, mem_mediumPeersOf_iff hi, IsBestPeer]

variable {k : ℕ} {g : List ℕ}

lemma group_eq_singleton (hun : Unmerged hints records i)
    (hg : (deviceGroups order hints records)[k]? = some g) (hi : i ∈ g) : g = [i] := by
  have hall : ∀ j ∈ g, j = i := by
    intro j hj
    have hchain := sameDevice_iff_chained.mp
      (rel_of_mem_class sameDevice_equivalence (mem_of_getElem? hg) hi hj)
    rcases hchain.cases_head with heq | ⟨m, hstep, -⟩
    · exact heq.symm
    · exact absurd hstep (hun m)
  obtain ⟨-, hnd, -⟩ := mem_deviceGroups (mem_of_getElem? hg)
  have hrep := eq_replicate_of_mem hall
  rw [hrep] at hnd hi ⊢
  have hlen : g.length ≤ 1 := nodup_replicate.mp hnd
  have hpos : g.length ≠ 0 := fun h0 => by rw [h0] at hi; exact absurd hi not_mem_nil
  rw [show g.length = 1 by omega]
  rfl

lemma unmerged_of_group_singleton (hg : (deviceGroups order hints records)[k]? = some [i]) :
    Unmerged hints records i := by
  intro j hband
  have hi : RepresentedBy order hints records i k := ⟨[i], hg, mem_singleton_self i⟩
  have hj : j < records.length := by
    obtain ⟨w, hw | hw, -⟩ := hband
    · exact hw.lt_length.2
    · exact hw.lt_length.1.trans hw.lt_length.2
  obtain ⟨g, hg', hjg⟩ := (representedBy_iff_chained hi hj).mpr (.single hband)
  obtain rfl := Option.mem_unique hg hg'
  exact hband.ne (mem_singleton.mp hjg).symm

/-! ### The key an output record carries -/

omit [CaseMapping] in
lemma le_of_idxOf_le {l : List ℕ} (hl : l.Pairwise (· < ·)) {a b : ℕ} (ha : a ∈ l) (hb : b ∈ l)
    (h : l.idxOf a ≤ l.idxOf b) : a ≤ b := by
  have hia := idxOf_lt_length_of_mem ha
  have hib := idxOf_lt_length_of_mem hb
  rcases h.eq_or_lt with heq | hlt
  · exact le_of_eq ((idxOf_inj ha).mp heq)
  · have := pairwise_iff_getElem.mp hl _ _ hia hib hlt
    grind

/-- Every component has a leader. -/
lemma exists_leads (hg : (deviceGroups order hints records)[k]? = some g) :
    ∃ m ∈ g, Leads hints records m ∧ leader (recordsAt records g) = records[m]? := by
  have hmem := mem_of_getElem? hg
  obtain ⟨hne, -, hlt⟩ := mem_deviceGroups hmem
  have hsorted : g.Pairwise (· < ·) := by
    obtain ⟨h, -, rfl⟩ := mem_classesBelow.mp hmem
    exact classOf_sorted h
  obtain ⟨i₀, hi₀⟩ := exists_mem_of_ne_nil g hne
  obtain ⟨a₀, -⟩ := exists_record (hlt i₀ hi₀)
  have hrecord : ∀ i ∈ g, records[i]? = some ((records[i]?).getD a₀) ∧
      confidenceAt records i = ((records[i]?).getD a₀).confidence.value := by
    intro i hi
    obtain ⟨b, hb, hconf⟩ := exists_record (hlt i hi)
    exact ⟨by rw [hb]; rfl, by rw [hconf, hb]; rfl⟩
  have hat : recordsAt records g = g.map fun i => (records[i]?).getD a₀ := by
    rw [recordsAt, ← filterMap_eq_map]
    exact filterMap_congr fun i hi => (hrecord i hi).1
  obtain ⟨m, hm⟩ : ∃ m, g.argmax ((fun r : DeviceRecord => r.confidence.value) ∘
      fun i => (records[i]?).getD a₀) = some m :=
    ne_none_iff_exists'.mp fun hnone => hne (argmax_eq_none.mp hnone)
  have hmg : m ∈ g := argmax_mem hm
  have hrep : RepresentedBy order hints records m k := ⟨g, hg, hmg⟩
  refine ⟨m, hmg, ⟨hlt m hmg, fun j hj hchain => ?_⟩, ?_⟩
  · obtain ⟨g', hg', hjg⟩ := (representedBy_iff_chained hrep hj).mpr hchain
    obtain rfl := Option.mem_unique hg hg'
    have hmax := le_of_mem_argmax hjg hm
    have hfst := index_of_argmax hm hjg
    rw [(hrecord j hjg).2, (hrecord m hmg).2]
    grind [le_of_idxOf_le]
  · grind [leader, argmax_map]

lemma Leads.unique {m m' : ℕ} (h : Leads hints records m) (h' : Leads hints records m')
    (hchain : Chained hints records m m') : m = m' := by
  obtain ⟨hle, hmin⟩ := h.2 m' h'.1 hchain
  obtain ⟨hle', hmin'⟩ := h'.2 m h.1 hchain.symm
  grind

variable {r : DeviceRecord}

omit [CaseMapping] in
lemma IsOutputOf.identityKey_eq (h : IsOutputOf records g r) :
    ∃ b, leader (recordsAt records g) = some b ∧ r.identityKey = b.identityKey := by
  rcases h with ⟨i, a, rfl, ha, hr⟩ | ⟨-, hmerge⟩
  · refine ⟨a, ?_, by rw [hr]; rfl⟩
    simp [recordsAt, ha, leader]
  · obtain ⟨b, hb, hkey, -⟩ := hmerge.fromLeader
    exact ⟨b, hb, hkey⟩

lemma identityKey_of_leads {m : ℕ} {b : DeviceRecord} (hlead : Leads hints records m)
    (hb : records[m]? = some b) (hg : (deviceGroups order hints records)[k]? = some g) (hm : m ∈ g)
    (hr : IsOutputOf records g r) : r.identityKey = b.identityKey := by
  obtain ⟨m', hm', hlead', hleader⟩ := exists_leads hg
  have hchain := sameDevice_iff_chained.mp
    (rel_of_mem_class sameDevice_equivalence (mem_of_getElem? hg) hm hm')
  obtain rfl := hlead.unique hlead' hchain
  obtain ⟨b', hb', hkey⟩ := hr.identityKey_eq
  grind

/-! ### The references -/

lemma emitted_of_unmerged (hun : Unmerged hints records i)
    (hg : (deviceGroups order hints records)[k]? = some g) (hi : i ∈ g)
    (hr : IsEmitted records (mediumPeersOf order hints records) g r) :
    ∃ a, records[i]? = some a ∧ r.identityKey = a.identityKey ∧ r.possibleAliasOf =
      (bestPeerKey records ((mediumPeersOf order hints records).getD i [])).or
        a.possibleAliasOf := by
  obtain rfl := group_eq_singleton hun hg hi
  rcases hr with ⟨i', a, hi', ha, hr⟩ | ⟨hlen, -⟩
  · obtain rfl := singleton_inj.mp hi'
    exact ⟨a, ha, by rw [hr]; rfl, by rw [hr]; rfl⟩
  · exact absurd hlen (by simp)

lemma unmerged_of_alias (hg : (deviceGroups order hints records)[k]? = some g) (hi : i ∈ g)
    (hr : IsEmitted records (mediumPeersOf order hints records) g r)
    (halias : r.possibleAliasOf.isSome) : Unmerged hints records i := by
  rcases hr with ⟨i', a, rfl, -, -⟩ | ⟨-, hmerge⟩
  · obtain rfl := mem_singleton.mp hi
    exact unmerged_of_group_singleton hg
  · rw [hmerge.possibleAliasOf_eq] at halias
    exact absurd halias (by simp)

lemma bestPeerKey_of_isBestPeer {b : DeviceRecord} (h : IsBestPeer hints records i p)
    (hb : records[p.peerIndex]? = some b) :
    bestPeerKey records ((mediumPeersOf order hints records).getD i []) = some b.identityKey := by
  rw [bestPeerKey, (bestPeer_eq_some_iff_isBestPeer h.1.lt_length.1).mpr h, bind_some, hb]
  rfl

lemma bestPeerKey_eq_none (hi : i < records.length) (h : ∀ p, ¬ IsMediumPeer hints records i p) :
    bestPeerKey records ((mediumPeersOf order hints records).getD i []) = none := by
  have hnil : (mediumPeersOf order hints records).getD i [] = [] :=
    eq_nil_iff_forall_not_mem.mpr fun p hp => h p ((mem_mediumPeersOf_iff hi).mp hp)
  rw [hnil]
  rfl

lemma exists_isBestPeer (order : HashOrder) (h : IsMediumPeer hints records i p) :
    ∃ q, IsBestPeer hints records i q := by
  have hi := h.lt_length.1
  have hmem : p ∈ (mediumPeersOf order hints records).getD i [] := (mem_mediumPeersOf_iff hi).mpr h
  obtain ⟨q, hq⟩ : ∃ q, bestPeer records ((mediumPeersOf order hints records).getD i []) = some q :=
    ne_none_iff_exists'.mp fun hnone => by
      rw [bestPeer_eq_none_iff.mp hnone] at hmem
      grind
  exact ⟨q, (bestPeer_eq_some_iff_isBestPeer hi).mp hq⟩

lemma exists_emitted {out : List DeviceRecord}
    (hout : List.Forall₂ (IsEmitted records (mediumPeersOf order hints records))
      (deviceGroups order hints records) out) (hi : i < records.length) :
    ∃ (k : ℕ) (g : List ℕ) (r : DeviceRecord), (deviceGroups order hints records)[k]? = some g ∧
      i ∈ g ∧ out[k]? = some r ∧ IsEmitted records (mediumPeersOf order hints records) g r := by
  obtain ⟨g, hg, hig⟩ := exists_class (R := SameDevice order hints records)
    sameDevice_equivalence hi
  obtain ⟨k, hk⟩ := mem_iff_getElem?.mp hg
  obtain ⟨r, hr, hemit⟩ := getElem?_right_of_left hout hk
  exact ⟨k, g, r, hk, hig, hr, hemit⟩

lemma ne_of_not_chained {j l : ℕ} {h : List ℕ} (hnot : ¬ Chained hints records i j)
    (hg : (deviceGroups order hints records)[k]? = some g) (hi : i ∈ g)
    (hh : (deviceGroups order hints records)[l]? = some h) (hj : j ∈ h) : k ≠ l := by
  rintro rfl
  obtain rfl := Option.mem_unique hg hh
  exact hnot (sameDevice_iff_chained.mp
    (rel_of_mem_class sameDevice_equivalence (mem_of_getElem? hg) hi hj))

section Emitted

variable {out : List DeviceRecord}
  (hout : List.Forall₂ (IsEmitted records (mediumPeersOf order hints records))
    (deviceGroups order hints records) out)

include hout

lemma unmerged_of_annotated (hannot : MediumPairsAnnotated order hints records out) {i : ℕ}
    {p : MediumPeer} (hp : IsMediumPeer hints records i p) : Unmerged hints records i := by
  obtain ⟨hi, hj⟩ := hp.lt_length
  obtain ⟨k, g, r, hg, hig, hr, hemit⟩ := exists_emitted hout hi
  obtain ⟨l, h, s, hh, hjh, hs, -⟩ := exists_emitted hout hj
  have hkl : k ≠ l := ne_of_not_chained hp.2.1 hg hig hh hjh
  apply unmerged_of_alias hg hig hemit
  rcases hp.2.2 with hw | hw
  · exact (hannot _ _ _ (mem_computePairWeights_iff.mpr ⟨hw, pos_of_medium hp.1⟩) hp.1 k l r s
      ⟨g, hg, hig⟩ ⟨h, hh, hjh⟩ hkl hr hs).1
  · exact (hannot _ _ _ (mem_computePairWeights_iff.mpr ⟨hw, pos_of_medium hp.1⟩) hp.1 l k s r
      ⟨h, hh, hjh⟩ ⟨g, hg, hig⟩ hkl.symm hs hr).2

lemma aliasesSound_of_output (halias : AliasesNameOthers out)
    (hannot : MediumPairsAnnotated order hints records out) : AliasesSound hints records where
  unmerged _ _ hp := unmerged_of_annotated hout hannot hp
  best_ne i a p b ha hbest hb := by
    obtain ⟨k, g, r, hg, hig, hr, hemit⟩ := exists_emitted hout hbest.1.lt_length.1
    have hun := unmerged_of_annotated hout hannot hbest.1
    obtain ⟨a', ha', hown, hal⟩ := emitted_of_unmerged hun hg hig hemit
    obtain rfl := Option.mem_unique ha ha'
    rw [bestPeerKey_of_isBestPeer hbest hb, some_or] at hal
    rw [← hown]
    exact (halias k r _ hr hal).1
  incoming i a key ha hun hnone hkey := by
    have hi := (List.getElem?_eq_some_iff.mp ha).1
    obtain ⟨k, g, r, hg, hig, hr, hemit⟩ := exists_emitted hout hi
    obtain ⟨a', ha', hown, hal⟩ := emitted_of_unmerged hun hg hig hemit
    obtain rfl := Option.mem_unique ha ha'
    rw [bestPeerKey_eq_none hi hnone, none_or, hkey] at hal
    obtain ⟨hne, l, s, -, hs, hskey⟩ := halias k r key hr hal
    obtain ⟨h, hh, hemit'⟩ := getElem?_left_of_right hout hs
    obtain ⟨m, -, hlead, hleader⟩ := exists_leads hh
    obtain ⟨b, hb, hbkey⟩ := hemit'.isOutputOf.identityKey_eq
    grind

lemma aliasesNameOthers_of_sound (hsound : AliasesSound hints records) : AliasesNameOthers out := by
  intro k r key hr hal
  obtain ⟨g, hg, hemit⟩ := getElem?_left_of_right hout hr
  obtain ⟨hne, -, hlt⟩ := mem_deviceGroups (mem_of_getElem? hg)
  obtain ⟨i, hig⟩ := exists_mem_of_ne_nil g hne
  have hun := unmerged_of_alias hg hig hemit (by rw [hal]; rfl)
  obtain ⟨a, ha, hown, hval⟩ := emitted_of_unmerged hun hg hig hemit
  by_cases hpeer : ∃ p, IsMediumPeer hints records i p
  · -- The alias is the key of the best peer, which is itself unmerged and so keeps its key.
    obtain ⟨p, hp⟩ := hpeer
    obtain ⟨⟨j, w⟩, hbest⟩ := exists_isBestPeer order hp
    obtain ⟨l, h, s, hh, hjh, hs, hemit'⟩ := exists_emitted hout hbest.1.lt_length.2
    have hun' := hsound.unmerged j ⟨i, w⟩ hbest.1.symm
    obtain ⟨b, hb, hbkey, -⟩ := emitted_of_unmerged hun' hh hjh hemit'
    rw [bestPeerKey_of_isBestPeer hbest hb, some_or, hal] at hval
    obtain rfl := Option.some.inj hval
    have hkl : k ≠ l := ne_of_not_chained hbest.1.2.1 hg hig hh hjh
    exact ⟨hown ▸ hsound.best_ne i a ⟨j, w⟩ b ha hbest hb, l, s, hkl.symm, hs, hbkey⟩
  · -- The alias is the one the record came with.
    push Not at hpeer
    rw [bestPeerKey_eq_none (hlt i hig) hpeer, none_or, hal] at hval
    obtain ⟨hne, m, b, hlead, hb, hbkey⟩ := hsound.incoming i a key ha hun hpeer hval.symm
    obtain ⟨l, h, s, hh, hmh, hs, hemit'⟩ := exists_emitted hout hlead.1
    have hskey : s.identityKey = key :=
      (identityKey_of_leads hlead hb hh hmh hemit'.isOutputOf).trans hbkey
    refine ⟨hown ▸ hne, l, s, ?_, hs, hskey⟩
    rintro rfl
    obtain rfl := Option.mem_unique hr hs
    exact hne (hskey ▸ hown)

lemma isSome_alias_of_peer (hsound : AliasesSound hints records) {i k : ℕ} {p : MediumPeer}
    {r : DeviceRecord} (hp : IsMediumPeer hints records i p)
    (hk : RepresentedBy order hints records i k) (hr : out[k]? = some r) :
    r.possibleAliasOf.isSome := by
  obtain ⟨g, hg, hig⟩ := hk
  obtain ⟨r', hr', hemit⟩ := getElem?_right_of_left hout hg
  obtain rfl := Option.mem_unique hr hr'
  obtain ⟨a, -, -, hval⟩ := emitted_of_unmerged (hsound.unmerged i p hp) hg hig hemit
  obtain ⟨q, hbest⟩ := exists_isBestPeer order hp
  obtain ⟨b, hb, -⟩ := exists_record hbest.1.lt_length.2
  rw [hval, bestPeerKey_of_isBestPeer hbest hb]
  rfl

lemma mediumPairsAnnotated_of_sound (hsound : AliasesSound hints records) :
    MediumPairsAnnotated order hints records out := by
  intro i j w hw hband k l r s hik hjl hkl hr hs
  obtain ⟨hpair, -⟩ := mem_computePairWeights_iff.mp hw
  have hnot : ¬ Chained hints records i j := fun hchain =>
    hkl (representedBy_unique ((representedBy_iff_chained hik hpair.lt_length.2).mpr hchain) hjl)
  have hp : IsMediumPeer hints records i ⟨j, w⟩ := ⟨hband, hnot, .inl hpair⟩
  exact ⟨isSome_alias_of_peer hout hsound hp hik hr,
    isSome_alias_of_peer hout hsound hp.symm hjl hs⟩

end Emitted

/-- Aliases are meaningful, and medium-band pairs annotated, exactly on the sound inputs. -/
theorem alias_references_iff (order : HashOrder) (hints : IdentityHints)
    (records : List DeviceRecord) :
    (∃ out, correlate order hints records = .ok out ∧ AliasesNameOthers out ∧
      MediumPairsAnnotated order hints records out) ↔ AliasesSound hints records := by
  obtain ⟨out, hrun, hout⟩ := correlate_emitted order hints records
  constructor
  · rintro ⟨out', hrun', halias, hannot⟩
    obtain rfl : out = out' := Except.ok.inj (hrun.symm.trans hrun')
    exact aliasesSound_of_output hout halias hannot
  · intro hsound
    exact ⟨out, hrun, aliasesNameOthers_of_sound hout hsound,
      mediumPairsAnnotated_of_sound hout hsound⟩

end References

attribute [local instance] CaseMapping.ascii

/-- The first two share a host key and merge under the second key; the first and third share a
system name. -/
def chainedByName : List DeviceRecord :=
  [sampleRecord ⟨"ip:10.0.0.1", by decide⟩ 0x0a000001#32 [.snmpSysName "s", .sshHostKey "k"]
      ⟨3 / 10, by norm_num, by norm_num⟩,
    sampleRecord ⟨"ip:10.0.0.2", by decide⟩ 0x0a000002#32 [.sshHostKey "k"]
      ⟨5 / 10, by norm_num, by norm_num⟩,
    sampleRecord ⟨"ip:10.0.0.3", by decide⟩ 0x0a000003#32 [.snmpSysName "s"]
      ⟨2 / 10, by norm_num, by norm_num⟩]

/-- The keys and aliases of the records of a list. -/
def keysAndAliases (out : List DeviceRecord) : List (String × Option String) :=
  out.map fun r => (r.identityKey.asStr, r.possibleAliasOf.map (·.asStr))

/-- The third names the key of the first, which no output carries, and the merged record has no
alias. -/
theorem alias_of_merged_key : ∃ out,
    correlate .insertion {} chainedByName = .ok out ∧
      keysAndAliases out = [("ip:10.0.0.2", none), ("ip:10.0.0.3", some "ip:10.0.0.1")] ∧
      ¬ AliasesNameOthers out := by
  have hrun : (correlate .insertion {} chainedByName).map keysAndAliases =
      .ok [("ip:10.0.0.2", none), ("ip:10.0.0.3", some "ip:10.0.0.1")] := by
    decide +kernel
  cases hout : correlate .insertion {} chainedByName with
  | error e =>
    rw [hout] at hrun
    cases hrun
  | ok out =>
    rw [hout] at hrun
    have hkeys : keysAndAliases out = _ := Except.ok.inj hrun
    refine ⟨out, rfl, hkeys, fun halias => ?_⟩
    obtain ⟨r, s, rfl⟩ : ∃ r s, out = [r, s] :=
      length_eq_two.mp (by simpa [keysAndAliases] using congrArg List.length hkeys)
    simp only [keysAndAliases, map_cons, map_nil, List.cons.injEq, Prod.mk.injEq, and_true] at hkeys
    obtain ⟨⟨hr, -⟩, hs, hsalias⟩ := hkeys
    obtain ⟨key, hkey, htext⟩ := map_eq_some_iff.mp hsalias
    obtain ⟨-, l, t, hl, ht, rfl⟩ := halias 1 s key rfl hkey
    match l, hl, ht with
    | 0, _, ht =>
      obtain rfl : r = t := Option.some.inj ht
      rw [hr] at htext
      exact absurd htext (by decide)
    | 1, hl, _ => exact hl rfl
    | l + 2, _, ht => exact absurd ht (by simp)

end Rastreo
