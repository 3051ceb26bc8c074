import Rastreo.Library.Classes
import Rastreo.Fuser.Peers

/-!
# Components of weighted pairs

The second half of `correlate`, from any weighted pairs.  Pairs of the high band join their records;
each component yields one output record, and an unmerged record gets the key of its best peer of the
medium band (`correlatePairs_emitted`).  Only the set of pairs matters (`correlatePairs_congr`), and
of pairs with lower weights only which records they join and what unmerged records alias
(`correlatePairs_bare_eq_iff`).
-/

namespace Rastreo

open List

/-! ## Pairs and components -/

/-- The output of `correlate` for a list of weighted pairs. -/
def correlatePairs (records : List DeviceRecord) (weights : List (ℕ × ℕ × ℚ)) :
    Except Panic (List DeviceRecord) :=
  if records.length ≤ 1 then .ok records
  else
    let uf := (UnionFind.new records.length).unionAll (highPairs weights)
    let mediumPeers := collectMediumPeers records.length weights uf
    mergeComponents records uf.components mediumPeers

def LinkedBy (weights : List (ℕ × ℕ × ℚ)) (i j : ℕ) : Prop :=
  ∃ w, (i, j, w) ∈ weights ∧ highBandThreshold ≤ w

/-- Two positions joined by a chain of such pairs. -/
def JoinedBy (weights : List (ℕ × ℕ × ℚ)) : ℕ → ℕ → Prop := Relation.EqvGen (LinkedBy weights)

/-- By smallest position. -/
noncomputable def componentsBy (n : ℕ) (weights : List (ℕ × ℕ × ℚ)) : List (List ℕ) :=
  classesBelow n (JoinedBy weights)

def peersBy (n : ℕ) (weights : List (ℕ × ℕ × ℚ)) : List (List MediumPeer) :=
  collectMediumPeers n weights ((UnionFind.new n).unionAll (highPairs weights))

def PairsBelow (n : ℕ) (weights : List (ℕ × ℕ × ℚ)) : Prop :=
  ∀ i j w, (i, j, w) ∈ weights → i < j ∧ j < n

def recordsAt (records : List DeviceRecord) (members : List ℕ) : List DeviceRecord :=
  members.filterMap fun i => records[i]?

def DeviceRecord.withAlias (r : DeviceRecord) (key : Option IdentityKey) : DeviceRecord :=
  { r with possibleAliasOf := key }

variable {records : List DeviceRecord} {n : ℕ} {weights weights' : List (ℕ × ℕ × ℚ)}

lemma joinedBy_equivalence : Equivalence (JoinedBy weights) := Relation.EqvGen.is_equivalence _

variable {i : ℕ}

lemma mem_highPairs {j : ℕ} : (i, j) ∈ highPairs weights ↔ LinkedBy weights i j := by
  simp only [highPairs, mem_map, mem_filter, decide_eq_true_eq, Prod.mk.injEq, LinkedBy]
  constructor
  · simp
  · rintro ⟨w, hmem, hw⟩
    grind

lemma PairsBelow.represents (h : PairsBelow n weights) :
    ((UnionFind.new n).unionAll (highPairs weights)).Represents n (JoinedBy weights) := by
  have hlt : ∀ p ∈ highPairs weights, p.1 < n ∧ p.2 < n := by
    rintro ⟨i, j⟩ hp
    obtain ⟨w, hw, -⟩ := mem_highPairs.mp hp
    obtain ⟨hij, hj⟩ := h i j w hw
    omega
  have hrel : (fun i j => (i, j) ∈ highPairs weights) = LinkedBy weights := by
    funext i j
    exact propext mem_highPairs
  have hun := UnionFind.represents_unionAll _ hlt
  rwa [hrel] at hun

lemma groupByKey_components {uf : UnionFind} {n : ℕ} {R : ℕ → ℕ → Prop} (h : uf.Represents n R) :
    groupByKey (uf.components.zipIdx.take n) = classesBelow n R := by
  have hzip : uf.components.zipIdx.take n = (List.range n).map fun i => (uf.find i, i) := by
    have hlen : uf.components.zipIdx.length = n := by simp [UnionFind.components, h.size]
    refine ext_getElem? fun i => ?_
    grind [UnionFind.components]
  rw [hzip]
  exact groupByKey_range uf.find fun i _ j _ => h.find_eq_iff i j

lemma mem_componentsBy {g : List ℕ} (hg : g ∈ componentsBy n weights) :
    g ≠ [] ∧ g.Nodup ∧ ∀ i ∈ g, i < n := by
  obtain ⟨h, hh, rfl⟩ := mem_classesBelow.mp hg
  refine ⟨?_, (classOf_sorted h).imp fun hlt => hlt.ne, fun i hi => (mem_classOf.mp hi).1⟩
  intro hnil
  have := head?_classOf joinedBy_equivalence hh
  rw [hnil] at this
  exact absurd this (by simp)

lemma componentsBy_one : componentsBy 1 weights = [[0]] := by
  have hheads : classHeads 1 (JoinedBy weights) = [0] := by
    simp [classHeads, range_succ]
  have hclass : classOf 1 (JoinedBy weights) 0 = [0] := by
    simp [classOf, range_succ, joinedBy_equivalence.refl]
  rw [componentsBy, classesBelow, hheads, map_singleton, hclass]

/-! ## Peers -/

lemma PairsBelow.mem_peersBy (h : PairsBelow n weights) (hi : i < n) {p : MediumPeer} :
    p ∈ (peersBy n weights).getD i [] ↔ InMediumBand p.weight ∧ ¬ JoinedBy weights i p.peerIndex ∧
        ((i, p.peerIndex, p.weight) ∈ weights ∨ (p.peerIndex, i, p.weight) ∈ weights) := by
  have hlen : i < (peersBy n weights).length := by
    rw [peersBy, length_collectMediumPeers]
    exact hi
  have hget : (peersBy n weights)[i]? = some ((peersBy n weights).getD i []) := by grind
  rw [mem_collectMediumPeers hget, ← h.represents.find_eq_iff]

lemma PairsBelow.peerIndex_lt (h : PairsBelow n weights) {l : List MediumPeer}
    (hl : l ∈ peersBy n weights) {p : MediumPeer} (hp : p ∈ l) : p.peerIndex < n := by
  obtain ⟨i, hi⟩ := mem_iff_getElem?.mp hl
  obtain ⟨-, -, hmem | hmem⟩ := (mem_collectMediumPeers hi).mp hp
  · exact (h _ _ _ hmem).2
  · exact (h _ _ _ hmem).1.trans (h _ _ _ hmem).2

lemma PairsBelow.peersBy_one (h : PairsBelow 1 weights) : (peersBy 1 weights).getD 0 [] = [] := by
  refine eq_nil_iff_forall_not_mem.mpr fun p hp => ?_
  obtain ⟨-, -, hmem | hmem⟩ := (h.mem_peersBy Nat.zero_lt_one).mp hp
  · obtain ⟨hpos, hlt⟩ := h _ _ _ hmem
    omega
  · exact absurd (h _ _ _ hmem).1 (Nat.not_lt_zero _)

/-! ## The output loop -/

/-- The alias of an unmerged record is the key of its best peer, or what it was. -/
def IsEmitted (records : List DeviceRecord) (mediumPeers : List (List MediumPeer))
    (members : List ℕ) (r : DeviceRecord) : Prop :=
  (∃ i a, members = [i] ∧ records[i]? = some a ∧
    r = a.withAlias ((bestPeerKey records (mediumPeers.getD i [])).or a.possibleAliasOf)) ∨
  (2 ≤ members.length ∧ IsMergeOf (recordsAt records members) r)

variable {mediumPeers : List (List MediumPeer)}

lemma isEmitted_rightUnique : Relator.RightUnique (IsEmitted records mediumPeers) := by
  rintro g r r' (⟨i, a, rfl, ha, hr⟩ | ⟨hlen, hmerge⟩) (⟨i', a', hi', ha', hr'⟩ | ⟨hlen', hmer'⟩)
  · grind
  · exact absurd hlen' (by simp)
  · rw [hi'] at hlen
    exact absurd hlen (by simp)
  · exact hmerge.unique hmer'

variable {slots : List (Option DeviceRecord)}

/-- A round emits the component's record and empties the slot of a member. -/
lemma mergeStep_spec (hlen : mediumPeers.length = records.length)
    (hpeers : ∀ l ∈ mediumPeers, ∀ p ∈ l, p.peerIndex < records.length) {members : List ℕ}
    (hne : members ≠ []) (hnd : members.Nodup) (hlt : ∀ i ∈ members, i < records.length)
    (hfull : ∀ i ∈ members, slots[i]? = some records[i]?) (out : List DeviceRecord) :
    ∃ b ∈ members, ∃ r, mergeStep mediumPeers (snapshotOf records) (slots, out) members =
        .ok (slots.set b none, out ++ [r]) ∧ IsEmitted records mediumPeers members r := by
  by_cases hone : members.length = 1
  · obtain ⟨i, rfl⟩ := length_eq_one_iff.mp hone
    obtain ⟨a, ha, -⟩ := exists_record (hlt i (mem_singleton_self i))
    have hpl : mediumPeers[i]? = some (mediumPeers.getD i []) := by grind
    have hslot : slots[i]? = some (some a) := ha ▸ hfull i (mem_singleton_self i)
    have hpick := pickBestMediumPeer_eq (hpeers _ (mem_of_getElem? hpl))
    refine ⟨i, mem_singleton_self i, _, ?_, .inl ⟨i, a, rfl, ha, rfl⟩⟩
    simp only [mergeStep, hone, if_true, index_of_getElem? (show [i][0]? = some i from rfl),
      index_of_getElem? hslot, index_of_getElem? hpl, ok_bind, expectRecord, hpick]
    cases bestPeerKey records (mediumPeers.getD i []) <;> rfl
  · have htwo : 2 ≤ members.length := by
      have := length_pos_iff.mpr hne
      omega
    obtain ⟨i₀, hi₀⟩ := exists_mem_of_ne_nil members hne
    obtain ⟨r₀, -⟩ := exists_record (hlt i₀ hi₀)
    have hfull' : ∀ i ∈ members, slots[i]? = some (some ((records[i]?).getD r₀)) := by
      intro i hi
      grind
    have hat : members.map (fun i => (records[i]?).getD r₀) = recordsAt records members := by
      rw [recordsAt, ← filterMap_eq_map]
      refine filterMap_congr fun i hi => ?_
      grind
    obtain ⟨b, hb, r, hrun, hmerge⟩ := mergeGroup_spec hne hnd hfull'
    refine ⟨b, hb, r, ?_, .inr ⟨htwo, hat ▸ hmerge⟩⟩
    simp only [mergeStep, hone, if_false, hrun, ok_bind]
    rfl

/-- Disjoint components give one record each. -/
lemma foldlM_mergeStep (hlen : mediumPeers.length = records.length)
    (hpeers : ∀ l ∈ mediumPeers, ∀ p ∈ l, p.peerIndex < records.length) {groups : List (List ℕ)}
    (hdisj : groups.Pairwise List.Disjoint)
    (hgroups : ∀ g ∈ groups, g ≠ [] ∧ g.Nodup ∧ ∀ i ∈ g, i < records.length)
    (hfull : ∀ g ∈ groups, ∀ i ∈ g, slots[i]? = some records[i]?) (out : List DeviceRecord) :
    ∃ slots' rs, groups.foldlM (mergeStep mediumPeers (snapshotOf records)) (slots, out) =
        .ok (slots', out ++ rs) ∧ List.Forall₂ (IsEmitted records mediumPeers) groups rs := by
  induction groups generalizing slots out with
  | nil => exact ⟨slots, [], by rw [append_nil]; rfl, List.Forall₂.nil⟩
  | cons g groups ih =>
    obtain ⟨hg, hrest⟩ := pairwise_cons.mp hdisj
    obtain ⟨hne, hnd, hlt⟩ := hgroups g mem_cons_self
    obtain ⟨b, hb, r, hstep, hemit⟩ :=
      mergeStep_spec hlen hpeers hne hnd hlt (hfull g mem_cons_self) out
    have hfull' : ∀ g' ∈ groups, ∀ i ∈ g', (slots.set b none)[i]? = some records[i]? := by
      intro g' hg' i hi
      have hbi : b ≠ i := fun h => hg g' hg' hb (h ▸ hi)
      rw [getElem?_set_ne hbi]
      grind
    obtain ⟨slots', rs, hrun, hrs⟩ :=
      ih hrest (fun g' hg' => hgroups g' (mem_cons_of_mem g hg')) hfull' (out ++ [r])
    refine ⟨slots', r :: rs, ?_, List.Forall₂.cons hemit hrs⟩
    rw [foldlM_cons, hstep, ok_bind, hrun, append_assoc]
    rfl

/-- Correlation never panics and emits one record per component. -/
theorem correlatePairs_emitted (h : PairsBelow records.length weights) :
    ∃ out, correlatePairs records weights = .ok out ∧
      List.Forall₂ (IsEmitted records (peersBy records.length weights))
        (componentsBy records.length weights) out := by
  by_cases hsmall : records.length ≤ 1
  · refine ⟨records, by rw [correlatePairs, if_pos hsmall], ?_⟩
    rcases Nat.le_one_iff_eq_zero_or_eq_one.mp hsmall with hzero | hone
    · rw [eq_nil_of_length_eq_zero hzero]
      exact List.Forall₂.nil
    · obtain ⟨a, rfl⟩ := length_eq_one_iff.mp hone
      rw [length_singleton, componentsBy_one]
      refine List.Forall₂.cons (.inl ⟨0, a, rfl, rfl, ?_⟩) List.Forall₂.nil
      rw [PairsBelow.peersBy_one h]
      rfl
  · have hlen : (peersBy records.length weights).length = records.length :=
      length_collectMediumPeers _ _ _
    have hfull : ∀ g ∈ componentsBy records.length weights, ∀ i ∈ g,
        (records.map some)[i]? = some records[i]? := by
      intro g hg i hi
      rw [getElem?_map, getElem?_eq_getElem ((mem_componentsBy hg).2.2 i hi)]
      rfl
    obtain ⟨slots, out, hrun, hout⟩ := foldlM_mergeStep hlen (fun l hl p hp => h.peerIndex_lt hl hp)
      (classesBelow_disjoint joinedBy_equivalence) (fun g hg => mem_componentsBy hg) hfull []
    refine ⟨out, ?_, hout⟩
    rw [correlatePairs, if_neg hsmall]
    simp only [mergeComponents, groupByKey_components h.represents]
    change (List.foldlM (mergeStep (peersBy records.length weights) (snapshotOf records))
      (records.map some, []) (classesBelow records.length (JoinedBy weights)) >>=
        fun result => pure result.2) = _
    rw [hrun, ok_bind]
    rfl

/-! ## The set of pairs -/

lemma joinedBy_congr (hsame : ∀ p, p ∈ weights ↔ p ∈ weights') :
    JoinedBy weights = JoinedBy weights' := by
  have hlinked : LinkedBy weights = LinkedBy weights' := by
    funext i j
    exact propext (exists_congr fun w => and_congr_left fun _ => hsame (i, j, w))
  rw [JoinedBy, hlinked, JoinedBy]

lemma PairsBelow.bestPeerKey_congr (h : PairsBelow n weights)
    (hsame : ∀ p, p ∈ weights ↔ p ∈ weights') (hi : i < n) :
    bestPeerKey records ((peersBy n weights).getD i []) =
      bestPeerKey records ((peersBy n weights').getD i []) := by
  have h' : PairsBelow n weights' := fun i j w hw => h i j w ((hsame _).mpr hw)
  have hbest : bestPeer records ((peersBy n weights).getD i []) =
      bestPeer records ((peersBy n weights').getD i []) := by
    refine bestPeer_congr fun p => ?_
    rw [h.mem_peersBy hi, h'.mem_peersBy hi, joinedBy_congr hsame, hsame, hsame]
  rw [bestPeerKey, hbest, bestPeerKey]

/-- What an unmerged record is said to be an alias of. -/
def aliasBy (records : List DeviceRecord) (weights : List (ℕ × ℕ × ℚ)) (i : ℕ) :
    Option IdentityKey :=
  (bestPeerKey records ((peersBy records.length weights).getD i [])).or
    (records[i]?.bind (·.possibleAliasOf))

lemma emitted_congr (hjoined : JoinedBy weights = JoinedBy weights')
    (halias : ∀ i, [i] ∈ componentsBy records.length weights →
      aliasBy records weights i = aliasBy records weights' i) {out : List DeviceRecord}
    (hout : List.Forall₂ (IsEmitted records (peersBy records.length weights))
      (componentsBy records.length weights) out) :
    List.Forall₂ (IsEmitted records (peersBy records.length weights'))
      (componentsBy records.length weights') out := by
  have hgroups : componentsBy records.length weights' = componentsBy records.length weights := by
    rw [componentsBy, ← hjoined, componentsBy]
  rw [hgroups]
  refine List.Forall₂.imp ?_ ((forall₂_and_left _ _).mpr ⟨fun g hg => hg, hout⟩)
  rintro g r ⟨hg, ⟨i, a, rfl, ha, hr⟩ | hmerge⟩
  · have hkey := halias i hg
    simp only [aliasBy, ha, Option.bind_some] at hkey
    exact .inl ⟨i, a, rfl, ha, by rw [hr, hkey]⟩
  · exact .inr hmerge

/-- The output depends on which records are joined and on what the others alias. -/
lemma correlatePairs_eq_of_alias (h : PairsBelow records.length weights)
    (h' : PairsBelow records.length weights') (hjoined : JoinedBy weights = JoinedBy weights')
    (halias : ∀ i, [i] ∈ componentsBy records.length weights →
      aliasBy records weights i = aliasBy records weights' i) :
    correlatePairs records weights = correlatePairs records weights' := by
  obtain ⟨out, hrun, hout⟩ := correlatePairs_emitted h
  obtain ⟨out', hrun', hout'⟩ := correlatePairs_emitted h'
  have hemit := emitted_congr hjoined halias hout
  rw [hrun, hrun', right_unique_forall₂' isEmitted_rightUnique hemit hout']

/-- The output depends on the set of weighted pairs only. -/
theorem correlatePairs_congr (h : PairsBelow records.length weights)
    (hsame : ∀ p, p ∈ weights ↔ p ∈ weights') :
    correlatePairs records weights = correlatePairs records weights' := by
  have h' : PairsBelow records.length weights' := fun i j w hw => h i j w ((hsame _).mpr hw)
  refine correlatePairs_eq_of_alias h h' (joinedBy_congr hsame) fun i hi => ?_
  have hlt := (mem_componentsBy hi).2.2 i (mem_singleton_self i)
  rw [aliasBy, h.bestPeerKey_congr hsame hlt, aliasBy]

/-! ## Lower weights -/

lemma joinedBy_of_linkedBy (h : ∀ i j, LinkedBy weights i j → JoinedBy weights' i j) {j : ℕ}
    (hij : JoinedBy weights i j) : JoinedBy weights' i j :=
  joinedBy_equivalence.eqvGen_iff.mp (hij.mono h)

/-- If fewer pairs are in the high band, the output tells apart whether they join as many records
and leave the aliases as they were. -/
theorem correlatePairs_bare_eq_iff (h : PairsBelow records.length weights)
    (h' : PairsBelow records.length weights')
    (hfewer : ∀ i j, LinkedBy weights' i j → LinkedBy weights i j) :
    (correlatePairs records weights).map (List.map DeviceRecord.bare) =
        (correlatePairs records weights').map (List.map DeviceRecord.bare) ↔
      (∀ i j, LinkedBy weights i j → JoinedBy weights' i j) ∧
      ∀ i, [i] ∈ componentsBy records.length weights →
        aliasBy records weights i = aliasBy records weights' i := by
  have hmono : ∀ i j, JoinedBy weights' i j → JoinedBy weights i j := fun i j hij =>
    hij.mono hfewer
  have heq (hlinks : ∀ i j, LinkedBy weights i j → JoinedBy weights' i j) :
      JoinedBy weights = JoinedBy weights' := by
    funext i j
    exact propext ⟨joinedBy_of_linkedBy hlinks, hmono i j⟩
  constructor
  · intro hbare
    obtain ⟨out, hrun, hout⟩ := correlatePairs_emitted h
    obtain ⟨out', hrun', hout'⟩ := correlatePairs_emitted h'
    rw [hrun, hrun'] at hbare
    replace hbare : out.map DeviceRecord.bare = out'.map DeviceRecord.bare := Except.ok.inj hbare
    -- As many records were emitted, so there are as many components.
    have hlen : (componentsBy records.length weights).length =
        (componentsBy records.length weights').length := by
      rw [hout.length_eq, hout'.length_eq]
      simpa using congrArg List.length hbare
    have hlinks : ∀ i j, LinkedBy weights i j → JoinedBy weights' i j := by
      intro i j hij
      have ⟨w, hw, _⟩ := hij
      obtain ⟨hlt, hj⟩ := h i j w hw
      exact rel_of_length_eq joinedBy_equivalence joinedBy_equivalence hmono hlen (hlt.trans hj) hj
        (.rel _ _ hij)
    refine ⟨hlinks, fun i hi => ?_⟩
    have hgroups : componentsBy records.length weights' = componentsBy records.length weights := by
      rw [componentsBy, ← heq hlinks, componentsBy]
    rw [hgroups] at hout'
    obtain ⟨k, hk⟩ := mem_iff_getElem?.mp hi
    obtain ⟨r, hr, hemit⟩ := getElem?_right_of_left hout hk
    obtain ⟨r', hr', hemit'⟩ := getElem?_right_of_left hout' hk
    have hsame : r.bare = r'.bare := by
      have := congrArg (·[k]?) hbare
      simpa [hr, hr'] using this
    rcases hemit with ⟨i₁, a, hi₁, ha, rfl⟩ | ⟨htwo, -⟩
    · rcases hemit' with ⟨i₂, b, hi₂, hb, rfl⟩ | ⟨htwo, -⟩
      · obtain rfl := singleton_inj.mp hi₁
        obtain rfl := singleton_inj.mp hi₂
        obtain rfl := Option.mem_unique ha hb
        simp only [aliasBy, ha, Option.bind_some]
        exact congrArg DeviceRecord.possibleAliasOf hsame
      · exact absurd htwo (by simp)
    · exact absurd htwo (by simp)
  · rintro ⟨hlinks, halias⟩
    rw [correlatePairs_eq_of_alias h h' (heq hlinks) halias]

end Rastreo
