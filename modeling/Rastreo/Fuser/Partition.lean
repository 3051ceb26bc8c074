import Rastreo.Fuser.Components

/-!
# Correlation partitions the records

Positions are `Linked` by weights of the high band and the `SameDevice` through chains of links.
`correlate` never panics and emits one record per class, by smallest position: an unmerged record
keeps all but the alias, a merged one is the `IsMergeOf` its members (`correlate_partition`),
whatever the enumeration of the hash containers (`correlate_order_irrelevant`).
-/

namespace Rastreo

open List

section Partition

variable [CaseMapping] (order : HashOrder) (hints : IdentityHints) (records : List DeviceRecord)

/-- In the high band. -/
def Linked (i j : ℕ) : Prop :=
  ∃ w, (i, j, w) ∈ computePairWeights order hints records ∧ highBandThreshold ≤ w

/-- Two positions joined by a chain of links. -/
def SameDevice : ℕ → ℕ → Prop := Relation.EqvGen (Linked order hints records)

/-- The components of the link graph, by smallest position. -/
noncomputable def deviceGroups : List (List ℕ) :=
  classesBelow records.length (SameDevice order hints records)

/-- The only record with at most the alias changed, or the merge. -/
def IsOutputOf (records : List DeviceRecord) (members : List ℕ) (r : DeviceRecord) : Prop :=
  (∃ i a, members = [i] ∧ records[i]? = some a ∧ r = a.withAlias r.possibleAliasOf) ∨
  (2 ≤ members.length ∧ IsMergeOf (recordsAt records members) r)

/-- The peer lists of `correlate`. -/
def mediumPeersOf : List (List MediumPeer) :=
  collectMediumPeers records.length (computePairWeights order hints records)
    ((UnionFind.new records.length).unionAll (highPairs (computePairWeights order hints records)))

/-- Every address a list of records reports. -/
def addresses (rs : List DeviceRecord) : List IpAddr :=
  rs.flatMap fun r => r.mgmtIp.toList ++ r.altIps.map (·.address)

/-! ## The weighted pairs and the components -/

variable {order hints records}

lemma pairsBelow_computePairWeights :
    PairsBelow records.length (computePairWeights order hints records) := by
  intro i j w h
  obtain ⟨⟨hij, -⟩, -, a, b, -, hb, -⟩ := mem_computePairWeights.mp h
  grind

lemma sameDevice_equivalence : Equivalence (SameDevice order hints records) :=
  joinedBy_equivalence

variable {members : List ℕ}

omit [CaseMapping] in
lemma IsEmitted.isOutputOf {mediumPeers : List (List MediumPeer)} {r : DeviceRecord}
    (h : IsEmitted records mediumPeers members r) :
    IsOutputOf records members r := by
  rcases h with ⟨i, a, hi, ha, hr⟩ | h
  · exact .inl ⟨i, a, hi, ha, by rw [hr]; rfl⟩
  · exact .inr h

lemma mem_mediumPeersOf {i : ℕ} (hi : i < records.length) {p : MediumPeer} :
    p ∈ (mediumPeersOf order hints records).getD i [] ↔
      InMediumBand p.weight ∧ ¬ SameDevice order hints records i p.peerIndex ∧
        ((i, p.peerIndex, p.weight) ∈ computePairWeights order hints records ∨
          (p.peerIndex, i, p.weight) ∈ computePairWeights order hints records) :=
  pairsBelow_computePairWeights.mem_peersBy hi

lemma mem_deviceGroups {g : List ℕ} (hg : g ∈ deviceGroups order hints records) :
    g ≠ [] ∧ g.Nodup ∧ ∀ i ∈ g, i < records.length :=
  mem_componentsBy hg

/-- It never panics and emits one record per component. -/
theorem correlate_emitted (order : HashOrder) (hints : IdentityHints)
    (records : List DeviceRecord) : ∃ out, correlate order hints records = .ok out ∧
      List.Forall₂ (IsEmitted records (mediumPeersOf order hints records))
        (deviceGroups order hints records) out :=
  correlatePairs_emitted pairsBelow_computePairWeights

omit [CaseMapping] in
lemma mem_of_mem_recordsAt {a : DeviceRecord} (h : a ∈ recordsAt records members) :
    a ∈ records := by
  obtain ⟨i, -, hi⟩ := mem_filterMap.mp h
  exact mem_of_getElem? hi

omit [CaseMapping] in
/-- The addresses of an output record are those of its component. -/
lemma address_iff_of_isOutputOf {r : DeviceRecord} (h : IsOutputOf records members r)
    (hbare : ∀ a ∈ records, a.altIps = []) (ip : IpAddr) :
    ip ∈ r.mgmtIp.toList ++ r.altIps.map (·.address) ↔
      ∃ a ∈ recordsAt records members, a.mgmtIp = some ip := by
  rw [mem_append, Option.mem_toList]
  rcases h with ⟨i, a, rfl, ha, hr⟩ | ⟨-, hmerge⟩
  · have hat : recordsAt records [i] = [a] := by simp [recordsAt, ha]
    have halt : r.altIps = [] := by rw [hr]; exact hbare a (mem_of_getElem? ha)
    have hmgmt : r.mgmtIp = a.mgmtIp := by rw [hr]; rfl
    simp [hat, halt, hmgmt]
  · rw [hmerge.altIps_address, mem_filter, mem_eraseDups, mem_filterMap, hmerge.mgmtIp_eq]
    cases recordsAt records members with
    | nil => simp
    | cons first rest =>
      simp only [head?_cons, Option.bind_some, tail_cons, mem_cons]
      constructor
      · grind
      · rintro ⟨a, rfl | ha, hip⟩
        · exact .inl hip
        · by_cases hfst : first.mgmtIp = some ip
          · exact .inl hfst
          · grind

/-- Correlation never panics; it has one record per component of the link graph, by smallest
positions; an unmerged record keeps all but the alias, a merged one is the merge of its members;
without additional addresses the output reports exactly the input addresses. -/
theorem correlate_partition (order : HashOrder) (hints : IdentityHints)
    (records : List DeviceRecord) : ∃ out, correlate order hints records = .ok out ∧
      List.Forall₂ (IsOutputOf records) (deviceGroups order hints records) out ∧
      ((∀ a ∈ records, a.altIps = []) →
        ∀ ip, ip ∈ addresses out ↔ ∃ a ∈ records, a.mgmtIp = some ip) := by
  obtain ⟨out, hrun, hemit⟩ := correlate_emitted order hints records
  have hout : List.Forall₂ (IsOutputOf records) (deviceGroups order hints records) out :=
    hemit.imp fun _ _ h => h.isOutputOf
  refine ⟨out, hrun, hout, fun hbare ip => ?_⟩
  rw [addresses, mem_flatMap]
  constructor
  · rintro ⟨r, hr, hip⟩
    obtain ⟨g, -, hg⟩ := exists_left_of_mem hout hr
    obtain ⟨a, ha, haip⟩ := (address_iff_of_isOutputOf hg hbare ip).mp hip
    exact ⟨a, mem_of_mem_recordsAt ha, haip⟩
  · rintro ⟨a, ha, haip⟩
    obtain ⟨i, hi⟩ := mem_iff_getElem?.mp ha
    obtain ⟨g, hg, hig⟩ :=
      exists_class (R := SameDevice order hints records) sameDevice_equivalence
        (List.getElem?_eq_some_iff.mp hi).1
    obtain ⟨r, hr, hgr⟩ := exists_right_of_mem hout hg
    refine ⟨r, hr, (address_iff_of_isOutputOf hgr hbare ip).mpr ⟨a, ?_, haip⟩⟩
    exact mem_filterMap.mpr ⟨i, hig, hi⟩

/-! ## Independence of the enumeration order -/

lemma mem_computePairWeights_congr (order order' : HashOrder) (p : ℕ × ℕ × ℚ) :
    p ∈ computePairWeights order hints records ↔ p ∈ computePairWeights order' hints records := by
  rw [mem_computePairWeights, mem_computePairWeights]

/-- The order in which hash containers enumerate does not matter to `correlate`. -/
theorem correlate_order_irrelevant (order order' : HashOrder) (hints : IdentityHints)
    (records : List DeviceRecord) :
    correlate order hints records = correlate order' hints records :=
  correlatePairs_congr pairsBelow_computePairWeights (mem_computePairWeights_congr order order')

end Partition

end Rastreo
