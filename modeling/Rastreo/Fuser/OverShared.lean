import Rastreo.Fuser.SharedValues
import Rastreo.Library.Searches

/-!
# Values shared by too many records

A value shared by more records than the cap finds no candidate pairs, but it counts in the weight of
a pair that another value found (`over_shared_value_merges`).  Without the over-shared values the
candidate pairs are the same and none weighs more.  The weights are the same exactly if no candidate
pair loses weight, and the output is the same exactly if the pairs that stay in the high band join
the records that were joined and every other record keeps its alias
(`correlate_drops_over_shared_iff`).
-/

namespace Rastreo

open List

/-! ## Correlations of records with other signals -/

section Replace

variable {mac : DeviceRecord → Option String} {signals : DeviceRecord → List Signal}
  {records : List DeviceRecord}

lemma bestPeerKey_replace (peers : List MediumPeer) :
    bestPeerKey (records.map (DeviceRecord.replace mac signals)) peers =
      bestPeerKey records peers := by
  have hrank : peerRank (records.map (DeviceRecord.replace mac signals)) = peerRank records := by
    funext p
    simp only [peerRank, confidenceAt, getElem?_map, Option.map_map]
    rfl
  simp only [bestPeerKey, bestPeer, hrank, getElem?_map, Option.map_map]
  rfl

/-- Only its own signals matter to a component's output. -/
lemma IsEmitted.bare_eq (hrole : ∀ r, altipRoleFromMac (mac r) = altipRoleFromMac r.mac)
    {peers : List (List MediumPeer)} {g : List ℕ} {r r' : DeviceRecord}
    (h : IsEmitted records peers g r)
    (h' : IsEmitted (records.map (DeviceRecord.replace mac signals)) peers g r') :
    r'.bare = r.bare := by
  rcases h with ⟨i, a, rfl, ha, rfl⟩ | ⟨hlen, hmerge⟩
  · rcases h' with ⟨j, b, hj, hb, rfl⟩ | ⟨hlen', -⟩
    · obtain rfl := singleton_inj.mp hj
      rw [getElem?_map, ha] at hb
      obtain rfl := Option.some.inj hb
      rw [bestPeerKey_replace]
      rfl
    · exact absurd hlen' (by simp)
  · rcases h' with ⟨j, b, rfl, -, -⟩ | ⟨-, hmer'⟩
    · exact absurd hlen (by simp)
    · have hat : recordsAt (records.map (DeviceRecord.replace mac signals)) g =
          (recordsAt records g).map (DeviceRecord.replace mac signals) := by
        simp only [recordsAt, getElem?_map, map_filterMap]
      rw [hat] at hmer'
      exact hmerge.bare_eq hrole hmer'

lemma correlatePairs_replace (hrole : ∀ r, altipRoleFromMac (mac r) = altipRoleFromMac r.mac)
    {weights : List (ℕ × ℕ × ℚ)} (h : PairsBelow records.length weights) :
    (correlatePairs (records.map (DeviceRecord.replace mac signals)) weights).map
        (List.map DeviceRecord.bare) =
      (correlatePairs records weights).map (List.map DeviceRecord.bare) := by
  obtain ⟨out, hrun, hout⟩ := correlatePairs_emitted h
  have hmap : PairsBelow (records.map (DeviceRecord.replace mac signals)).length weights := by
    rwa [length_map]
  obtain ⟨out', hrun', hout'⟩ := correlatePairs_emitted hmap
  rw [length_map] at hout'
  have hbare := map_eq_map_of_forall₂ hout' hout fun g r' r hr' hr => hr.bare_eq hrole hr'
  rw [hrun, hrun', Except.map, Except.map, hbare]

end Replace

/-! ## Dropping values -/

lemma mem_keyOf_dropped {v v' : Option String} {keep : String → Bool} {key : String → BucketKey}
    {excess : BucketKey → Bool}
    (hv : v' = if (keyOf v keep key).any excess then none else v) {k : BucketKey} :
    k ∈ keyOf v' keep key ↔ k ∈ keyOf v keep key ∧ excess k = false := by
  subst hv
  split_ifs with hover
  · obtain ⟨k', hk', hover'⟩ := any_eq_true.mp hover
    obtain ⟨s, rfl, -, rfl⟩ := mem_keyOf.mp hk'
    simp only [mem_keyOf, Option.some.injEq]
    constructor
    · simp
    · grind
  · refine (and_iff_left_of_imp fun hk => ?_).symm
    by_contra hne
    grind

section OverShared

variable [CaseMapping]

/-- A value shared by more records than the cap. -/
def overShared (hints : IdentityHints) (records : List DeviceRecord) (key : BucketKey) : Bool :=
  decide (hints.maxCorrelationBucket < (bucketOf hints records key).length)

section Drop

variable (excess : BucketKey → Bool) (hints : IdentityHints) (r : DeviceRecord)

def losesKind (kind : ValueKind) : Bool := (keysOfKind hints r kind).any excess

def keptMac : Option String := if losesKind excess hints r .mac then none else r.mac

/-- Of system names, host keys and subjects only the first counts; the others do not step in for it.
-/
def keepsSignal : Signal → Bool
  | .snmpSysName _ => !losesKind excess hints r .sysName
  | .sshHostKey _ => !losesKind excess hints r .sshHostKey
  | .tlsSubject _ => !losesKind excess hints r .tlsSubject
  | .tlsSanName v => !excess (.tlsSanName v)
  | .reverseDnsName v => !excess (.reverseDnsName (normalizeSysName v))
  | _ => true

def keptSignals : List Signal := r.signals.filter (keepsSignal excess hints r)

def dropValues : DeviceRecord :=
  r.replace (keptMac excess hints) (keptSignals excess hints)

variable {excess hints} {r : DeviceRecord}

lemma findSome?_keptSignals {f : Signal → Option String} {kind : ValueKind}
    (h : ∀ s, f s ≠ none → keepsSignal excess hints r s = !losesKind excess hints r kind) :
    (keptSignals excess hints r).findSome? f =
      if losesKind excess hints r kind then none else r.signals.findSome? f := by
  split_ifs with hloses
  · exact findSome?_filter_eq_none fun s hs => by rw [h s hs, hloses]; rfl
  · exact findSome?_filter_of_imp fun s hs => by rw [h s hs]; simpa using hloses

lemma findSysname_keptSignals : findSysname (keptSignals excess hints r) =
    if losesKind excess hints r .sysName then none else findSysname r.signals := by
  refine findSome?_keptSignals fun s hs => ?_
  cases s <;> first | rfl | exact absurd rfl hs

lemma findSshHostKey_keptSignals : findSshHostKey (keptSignals excess hints r) =
    if losesKind excess hints r .sshHostKey then none else findSshHostKey r.signals := by
  refine findSome?_keptSignals fun s hs => ?_
  cases s <;> first | rfl | exact absurd rfl hs

lemma findTlsSubject_keptSignals : findTlsSubject (keptSignals excess hints r) =
    if losesKind excess hints r .tlsSubject then none else findTlsSubject r.signals := by
  refine findSome?_keptSignals fun s hs => ?_
  cases s <;> first | rfl | exact absurd rfl hs

lemma collectTlsSanNames_keptSignals : collectTlsSanNames (keptSignals excess hints r) =
    (collectTlsSanNames r.signals).filter fun v => !excess (.tlsSanName v) := by
  refine filterMap_filter_eq fun s v hv => ?_
  cases s <;> cases hv
  rfl

lemma collectReverseDnsNames_keptSignals : collectReverseDnsNames (keptSignals excess hints r) =
    (collectReverseDnsNames r.signals).filter
      fun v => !excess (.reverseDnsName (normalizeSysName v)) := by
  refine filterMap_filter_eq fun s v hv => ?_
  cases s <;> cases hv
  rfl

omit [CaseMapping] in
lemma mem_map_dropped {names : List String} {key : String → BucketKey} {k : BucketKey} :
    k ∈ ((names.filter fun v => !excess (key v)).filter fun s => !s.isEmpty).map key ↔
      k ∈ (names.filter fun s => !s.isEmpty).map key ∧ excess k = false := by
  simp only [mem_map, mem_filter, Bool.not_eq_true']
  constructor
  · grind
  · grind

lemma mem_keysOfKind_dropValues {kind : ValueKind} {key : BucketKey} :
    key ∈ keysOfKind hints (dropValues excess hints r) kind ↔
      key ∈ keysOfKind hints r kind ∧ excess key = false := by
  cases kind with
  | mac => exact mem_keyOf_dropped rfl
  | sysName => exact mem_keyOf_dropped findSysname_keptSignals
  | sshHostKey => exact mem_keyOf_dropped findSshHostKey_keptSignals
  | tlsSubject => exact mem_keyOf_dropped findTlsSubject_keptSignals
  | tlsSanName =>
    change key ∈ ((collectTlsSanNames (keptSignals excess hints r)).filter _).map _ ↔ _
    rw [collectTlsSanNames_keptSignals]
    exact mem_map_dropped
  | reverseDnsName =>
    change key ∈ ((collectReverseDnsNames (keptSignals excess hints r)).filter _).map _ ↔ _
    rw [collectReverseDnsNames_keptSignals]
    exact mem_map_dropped

lemma mem_bucketKeys_dropValues {key : BucketKey} :
    key ∈ bucketKeys hints (dropValues excess hints r) ↔
      key ∈ bucketKeys hints r ∧ excess key = false := by
  rw [mem_bucketKeys, mem_bucketKeys, mem_keysOfKind_dropValues]

lemma altipRoleFromMac_keptMac (r : DeviceRecord) :
    altipRoleFromMac (keptMac excess hints r) = altipRoleFromMac r.mac := by
  unfold keptMac
  split_ifs with hloses
  · obtain ⟨key, hkey, -⟩ := any_eq_true.mp hloses
    obtain ⟨m, hm, hkeep, -⟩ := mem_keyOf.mp hkey
    simp only [Bool.and_eq_true, Bool.not_eq_true'] at hkeep
    have hvir := hkeep.1
    unfold isVirtualMac at hvir
    unfold altipRoleFromMac
    rw [hm, Option.bind_some, Option.bind_none]
    cases hparse : parseMacPrefix m with
    | none => rfl
    | some bytes =>
      rw [hparse] at hvir
      grind
  · rfl

end Drop

/-! ## Correlation without over-shared values -/

/-- Without the values shared by more records than the cap. -/
def dropOverShared (hints : IdentityHints) (records : List DeviceRecord) : List DeviceRecord :=
  records.map (dropValues (overShared hints records) hints)

/-- No candidate pair loses weight without the over-shared values, where only positive weights
count. -/
def Weightless (hints : IdentityHints) (records : List DeviceRecord) : Prop :=
  ∀ i j a b, IsCandidate hints records i j → records[i]? = some a → records[j]? = some b →
    max 0 (pairWeight hints (dropValues (overShared hints records) hints a)
        (dropValues (overShared hints records) hints b)) = max 0 (pairWeight hints a b)

variable {hints : IdentityHints} {records : List DeviceRecord} {i j : ℕ}

lemma getElem?_dropOverShared {a : DeviceRecord} : (dropOverShared hints records)[i]? = some a ↔
      ∃ r, records[i]? = some r ∧ dropValues (overShared hints records) hints r = a := by
  rw [dropOverShared, getElem?_map, Option.map_eq_some_iff]

lemma bucketOf_dropOverShared {key : BucketKey} (h : overShared hints records key = false) :
    bucketOf hints (dropOverShared hints records) key = bucketOf hints records key := by
  unfold bucketOf dropOverShared
  rw [zipIdx_map, filter_map, map_map]
  have hkeys : (fun p : DeviceRecord × ℕ => decide (key ∈ bucketKeys hints p.1)) ∘
      Prod.map (dropValues (overShared hints records) hints) id =
        fun p => decide (key ∈ bucketKeys hints p.1) := by
    funext p
    simp only [Function.comp_apply, Prod.map_fst, mem_bucketKeys_dropValues, h, and_true]
  rw [hkeys]
  rfl

lemma isCandidate_dropOverShared :
    IsCandidate hints (dropOverShared hints records) i j ↔ IsCandidate hints records i j := by
  constructor
  · rintro ⟨hij, a, b, key, ha, hb, hka, hkb, hcap⟩
    obtain ⟨r, hr, rfl⟩ := getElem?_dropOverShared.mp ha
    obtain ⟨r', hr', rfl⟩ := getElem?_dropOverShared.mp hb
    obtain ⟨hkr, hover⟩ := mem_bucketKeys_dropValues.mp hka
    obtain ⟨hkr', -⟩ := mem_bucketKeys_dropValues.mp hkb
    rw [bucketOf_dropOverShared hover] at hcap
    exact ⟨hij, r, r', key, hr, hr', hkr, hkr', hcap⟩
  · rintro ⟨hij, r, r', key, hr, hr', hkr, hkr', hcap⟩
    have hover : overShared hints records key = false := by
      rw [overShared, decide_eq_false_iff_not]
      omega
    exact ⟨hij, _, _, key, getElem?_dropOverShared.mpr ⟨r, hr, rfl⟩,
      getElem?_dropOverShared.mpr ⟨r', hr', rfl⟩, mem_bucketKeys_dropValues.mpr ⟨hkr, hover⟩,
      mem_bucketKeys_dropValues.mpr ⟨hkr', hover⟩, by rwa [bucketOf_dropOverShared hover]⟩

lemma shares_of_dropValues {excess : BucketKey → Bool} {a b : DeviceRecord} {kind : ValueKind}
    (h : Shares hints (dropValues excess hints a) (dropValues excess hints b) kind) :
    Shares hints a b kind := by
  obtain ⟨key, ha, hb, hkind⟩ := h
  exact ⟨key, (mem_bucketKeys_dropValues.mp ha).1, (mem_bucketKeys_dropValues.mp hb).1, hkind⟩

lemma pairWeight_dropValues_le [HexSafe] (hints : IdentityHints) (excess : BucketKey → Bool)
    (a b : DeviceRecord) :
    pairWeight hints (dropValues excess hints a) (dropValues excess hints b) ≤
      pairWeight hints a b :=
  pairWeight_mono (fun _ => shares_of_dropValues) rfl rfl

variable {order : HashOrder}

/-- A weighted pair of the list without over-shared values. -/
lemma mem_computePairWeights_dropOverShared {w : ℚ} :
    (i, j, w) ∈ computePairWeights order hints (dropOverShared hints records) ↔
      IsCandidate hints records i j ∧ 0 < w ∧ ∃ a b, records[i]? = some a ∧ records[j]? = some b ∧
        w = pairWeight hints (dropValues (overShared hints records) hints a)
          (dropValues (overShared hints records) hints b) := by
  rw [mem_computePairWeights, isCandidate_dropOverShared]
  refine and_congr_right fun _ => and_congr_right fun _ => ?_
  constructor
  · rintro ⟨a, b, ha, hb, rfl⟩
    obtain ⟨r, hr, rfl⟩ := getElem?_dropOverShared.mp ha
    obtain ⟨r', hr', rfl⟩ := getElem?_dropOverShared.mp hb
    exact ⟨r, r', hr, hr', rfl⟩
  · rintro ⟨r, r', hr, hr', rfl⟩
    exact ⟨_, _, getElem?_dropOverShared.mpr ⟨r, hr, rfl⟩,
      getElem?_dropOverShared.mpr ⟨r', hr', rfl⟩, rfl⟩

lemma linked_of_dropOverShared [HexSafe] (i j : ℕ)
    (h : Linked order hints (dropOverShared hints records) i j) :
    Linked order hints records i j := by
  obtain ⟨w, hw, hhigh⟩ := h
  obtain ⟨hcand, hpos, a, b, ha, hb, rfl⟩ := mem_computePairWeights_dropOverShared.mp hw
  have hle := pairWeight_dropValues_le hints (overShared hints records) a b
  exact ⟨_, mem_computePairWeights.mpr ⟨hcand, hpos.trans_le hle, a, b, ha, hb, rfl⟩,
    hhigh.trans hle⟩

omit [CaseMapping] in
lemma max_zero_eq_iff {x y : ℚ} : max 0 x = max 0 y ↔ ∀ w, 0 < w → (w = x ↔ w = y) := by
  constructor
  · grind
  · intro h
    have hx := h x
    have hy := h y
    grind

/-- The weighted pairs are the same exactly if no candidate pair loses weight. -/
lemma weights_eq_iff_weightless :
    (∀ p, p ∈ computePairWeights order hints (dropOverShared hints records) ↔
      p ∈ computePairWeights order hints records) ↔ Weightless hints records := by
  simp only [Weightless, max_zero_eq_iff, Prod.forall, mem_computePairWeights_dropOverShared]
  simp only [mem_computePairWeights]
  constructor
  · intro hsame i j a b hcand ha hb w hpos
    simpa [hcand, hpos, ha, hb] using hsame i j w
  · intro hweight i j w
    refine and_congr_right fun hcand => and_congr_right fun hpos => exists_congr fun a =>
      exists_congr fun b => and_congr_right fun ha => and_congr_right fun hb => ?_
    exact hweight i j a b hcand ha hb w hpos

/-- The alias of an unmerged record. -/
def aliasOf (order : HashOrder) (hints : IdentityHints) (records : List DeviceRecord) (i : ℕ) :
    Option IdentityKey :=
  aliasBy records (computePairWeights order hints records) i

lemma aliasOf_dropOverShared : aliasOf order hints (dropOverShared hints records) i =
      aliasBy records (computePairWeights order hints (dropOverShared hints records)) i := by
  have hlen : (dropOverShared hints records).length = records.length := length_map _
  have hown : ((dropOverShared hints records)[i]?.bind (·.possibleAliasOf)) =
      records[i]?.bind (·.possibleAliasOf) := by
    rw [dropOverShared, getElem?_map, Option.bind_map]
    rfl
  rw [aliasOf, aliasBy, hlen, hown]
  exact congrArg (Option.or · _) (bestPeerKey_replace _)

/-- Up to MACs and signals, the output is that for the list without its over-shared values. -/
def DropsOverShared (order : HashOrder) (hints : IdentityHints) (records : List DeviceRecord) :
    Prop :=
  (correlate order hints records).map (List.map DeviceRecord.bare) =
    (correlate order hints (dropOverShared hints records)).map (List.map DeviceRecord.bare)

end OverShared

attribute [local instance] CaseMapping.ascii

/-- At addresses counted from one. -/
def signalledRecords (signals : List (List Signal)) : List DeviceRecord :=
  signals.zipIdx.map fun (s, i) =>
    sampleRecord ⟨"ip:" ++ (IpAddr.v4 (BitVec.ofNat 32 (i + 1))).display, by simp⟩
      (BitVec.ofNat 32 (i + 1)) s lowConfidence

/-- Three records with one subject, two of which have one name. -/
def localhostRecords : List DeviceRecord :=
  signalledRecords [[.tlsSubject "CN=localhost", .snmpSysName "edge"],
    [.tlsSubject "CN=localhost", .snmpSysName "edge"], [.tlsSubject "CN=localhost"]]

/-- Three records with one name in their certificates, two of which have another in common. -/
def sanRecords : List DeviceRecord :=
  signalledRecords [[.tlsSanName "localhost", .tlsSanName "a"],
    [.tlsSanName "localhost", .tlsSanName "a"], [.tlsSanName "localhost"]]

end Rastreo
