import Rastreo.Library.FirstOccurrence
import Rastreo.Model.Device
import Mathlib.Algebra.BigOperators.Group.List.Basic
import Mathlib.Data.List.Perm.Basic

/-!
# Pair weights

`pairWeight` adds the contributions of shared signals, subtracts a penalty for conflicting
manufacturers and caps declared members of one VRRP group.  Only candidate pairs are weighed, which
share a value of a bucket not over the cap.  The enumeration of the hash containers is the parameter
`HashOrder`, without which `mem_computePairWeights` describes the result.
-/

namespace Rastreo

open List

/-! ## Thresholds and weights -/

def highBandThreshold : ℚ := 8 / 10

/-- From here up to the high band, pairs are possible aliases. -/
def mediumBandThreshold : ℚ := 4 / 10

/-- Added to the best member's confidence when records merge. -/
def mergeConfidenceBonus : ℚ := 1 / 10

def weightSharedMac : ℚ := 5 / 10
def weightSharedSysname : ℚ := 5 / 10
def weightSharedHostKey : ℚ := 8 / 10
def weightSharedTlsSubject : ℚ := 3 / 10
def weightSharedTlsSan : ℚ := 5 / 10
def weightSharedReverseDns : ℚ := 5 / 10
def penaltyConflictingManufacturer : ℚ := 3 / 10
def vrrpMemberWeightCap : ℚ := 4 / 10

def vrrpV2Ipv4Prefix : List ℕ := [0x00, 0x00, 0x5E, 0x00, 0x01]

def vrrpV3Ipv6Prefix : List ℕ := [0x00, 0x00, 0x5E, 0x00, 0x02]

/-- First five bytes of the MAC addresses reserved for HSRP. -/
def hsrpPrefix : List ℕ := [0x00, 0x00, 0x0C, 0x07, 0xAC]

/-! ## Hints -/

structure VrrpGroup where
  virtualIp : IpAddr
  virtualMac : String
  members : List IpAddr
  deriving DecidableEq

/-- Operator hints for the identity fuser. -/
structure IdentityHints where
  vrrpGroups : List VrrpGroup := []
  maxCorrelationBucket : ℕ := 256
  deriving DecidableEq

/-! ## MAC addresses -/

/-- `:` and `-` separate the bytes of a MAC. -/
def isMacSeparator (c : Char) : Bool := c == ':' || c == '-'

/-- `char::to_digit(16)`. -/
def toDigit16 (c : Char) : Option ℕ :=
  if 48 ≤ c.toNat ∧ c.toNat ≤ 57 then some (c.toNat - 48)
  else if 97 ≤ c.toNat ∧ c.toNat ≤ 102 then some (c.toNat - 87)
  else if 65 ≤ c.toNat ∧ c.toNat ≤ 70 then some (c.toNat - 55)
  else none

/-- The loop of `parse_mac_prefix`: `hi` is the pending high nibble. -/
def parseMacBytes : List Char → List ℕ → Option ℕ → Option (List ℕ)
  | [], bytes, hi => if bytes.length ≠ 5 ∨ hi.isSome then none else some bytes
  | c :: cs, bytes, hi =>
    if isMacSeparator c then parseMacBytes cs bytes hi
    else
      match toDigit16 c, hi with
      | none, _ => none
      | some nibble, none => parseMacBytes cs bytes (some nibble)
      | some nibble, some h =>
        if bytes.length = 5 then some bytes
        else parseMacBytes cs (bytes ++ [(h <<< 4) ||| nibble]) none

/-- The first five bytes of a MAC of twelve hex digits. -/
def parseMacPrefix (mac : String) : Option (List ℕ) :=
  if (mac.toList.filter fun c => !isMacSeparator c).length ≠ 12 then none
  else parseMacBytes mac.toList [] none

/-- `is_virtual_mac`: a MAC reserved for virtual routers. -/
def isVirtualMac (mac : String) : Bool :=
  match parseMacPrefix mac with
  | none => false
  | some bytes => bytes == vrrpV2Ipv4Prefix || bytes == vrrpV3Ipv6Prefix || bytes == hsrpPrefix

def altipRoleFromMac (mac : Option String) : Option AltIpRole :=
  match mac.bind parseMacPrefix with
  | none => some .secondary
  | some bytes =>
    if bytes = vrrpV2Ipv4Prefix ∨ bytes = vrrpV3Ipv6Prefix then some .vrrp
    else if bytes = hsrpPrefix then some .hsrp
    else some .secondary

section Correlation

variable [CaseMapping]

/-- `normalize_mac`: separators dropped, lowercased. -/
def normalizeMac (mac : String) : String :=
  String.ofList ((mac.toList.filter fun c => !isMacSeparator c).flatMap CaseMapping.charLower)

/-- `canonical_mac_str`: dots and white space are dropped too. -/
def canonicalMacStr (s : String) : String :=
  String.ofList ((s.toList.filter fun c =>
    !(isMacSeparator c || c == '.' || isWhitespace c)).flatMap CaseMapping.charLower)

def normalizeSysName (name : String) : String := toAsciiLowercase name

def macEqual (a b : String) : Bool := normalizeMac a == normalizeMac b

variable (hints : IdentityHints)

/-- `hint_says_virtual`: the MAC of a declared VRRP group. -/
def hintSaysVirtual (mac : String) : Bool :=
  hints.vrrpGroups.any fun g => macEqual g.virtualMac mac

/-! ## Signals -/

variable (signals : List Signal)

def findSysname : Option String :=
  signals.findSome? fun | .snmpSysName n => some n | _ => none

def findSshHostKey : Option String :=
  signals.findSome? fun | .sshHostKey k => some k | _ => none

def findTlsSubject : Option String :=
  signals.findSome? fun | .tlsSubject v => some v | _ => none

def collectTlsSanNames : List String :=
  signals.filterMap fun | .tlsSanName v => some v | _ => none

def collectReverseDnsNames : List String :=
  signals.filterMap fun | .reverseDnsName v => some v | _ => none

/-- A non-empty name occurs in both lists. -/
def anyTlsSanOverlap (a b : List String) : Bool :=
  a.any fun name => !name.isEmpty && b.contains name

/-- A non-empty name occurs in both lists, up to ASCII case. -/
def anyReverseDnsOverlap (a b : List String) : Bool :=
  a.any fun name => !name.isEmpty && b.any fun other => eqIgnoreAsciiCase name other

/-! ## Contributions -/

/-- Both records show a value and the values agree. -/
def contributeShared (find : DeviceRecord → Option String) (agree : String → String → Bool)
    (weight : ℚ) (a b : DeviceRecord) : ℚ :=
  match find a, find b with
  | some x, some y => if agree x y then weight else 0
  | _, _ => 0

/-- The weight when both records show names and some overlap. -/
def contributeOverlap (collect : DeviceRecord → List String)
    (overlap : List String → List String → Bool) (weight : ℚ) (a b : DeviceRecord) : ℚ :=
  if !(collect a).isEmpty && !(collect b).isEmpty && overlap (collect a) (collect b) then weight
  else 0

def contributeMac : DeviceRecord → DeviceRecord → ℚ :=
  contributeShared (·.mac)
    (fun ma mb => macEqual ma mb && !isVirtualMac ma && !hintSaysVirtual hints ma) weightSharedMac

def contributeSysname (_hints : IdentityHints) : DeviceRecord → DeviceRecord → ℚ :=
  contributeShared (fun r => findSysname r.signals)
    (fun sa sb => !sa.isEmpty && eqIgnoreAsciiCase sa sb) weightSharedSysname

def contributeSshHostKey (_hints : IdentityHints) : DeviceRecord → DeviceRecord → ℚ :=
  contributeShared (fun r => findSshHostKey r.signals)
    (fun ka kb => !ka.isEmpty && ka == kb) weightSharedHostKey

def contributeTlsSubject (_hints : IdentityHints) : DeviceRecord → DeviceRecord → ℚ :=
  contributeShared (fun r => findTlsSubject r.signals)
    (fun sa sb => !sa.isEmpty && sa == sb) weightSharedTlsSubject

def contributeTlsSan (_hints : IdentityHints) : DeviceRecord → DeviceRecord → ℚ :=
  contributeOverlap (fun r => collectTlsSanNames r.signals) anyTlsSanOverlap weightSharedTlsSan

def contributeReverseDns (_hints : IdentityHints) : DeviceRecord → DeviceRecord → ℚ :=
  contributeOverlap (fun r => collectReverseDnsNames r.signals) anyReverseDnsOverlap
    weightSharedReverseDns

def contributions : List (IdentityHints → DeviceRecord → DeviceRecord → ℚ) :=
  [contributeMac, contributeSysname, contributeSshHostKey, contributeTlsSubject, contributeTlsSan,
    contributeReverseDns]

/-- Both management addresses belong to one group. -/
def pairIsDeclaredVrrpMembers (a b : DeviceRecord) : Bool :=
  match a.mgmtIp, b.mgmtIp with
  | some ipA, some ipB =>
    hints.vrrpGroups.any fun g => g.members.contains ipA && g.members.contains ipB
  | _, _ => false

/-- None when either is unknown. -/
def manufacturerPenalty (a b : DeviceRecord) : ℚ :=
  match a.manufacturer, b.manufacturer with
  | some mfa, some mfb => if !eqIgnoreAsciiCase mfa mfb then penaltyConflictingManufacturer else 0
  | _, _ => 0

def pairWeight (a b : DeviceRecord) : ℚ :=
  let w := (contributions.map fun f => f hints a b).sum - manufacturerPenalty a b
  if pairIsDeclaredVrrpMembers hints a b ∧ vrrpMemberWeightCap < w then vrrpMemberWeightCap else w

/-! ## Buckets -/

inductive BucketKey where
  | mac (v : String)
  | sysName (v : String)
  | sshHostKey (v : String)
  | tlsSubject (v : String)
  | tlsSanName (v : String)
  | reverseDnsName (v : String)
  deriving DecidableEq

def keyOf (v : Option String) (keep : String → Bool) (key : String → BucketKey) : List BucketKey :=
  match v with
  | some s => if keep s then [key s] else []
  | none => []

def bucketKeys (record : DeviceRecord) : List BucketKey :=
  let nonempty : String → Bool := fun s => !s.isEmpty
  (keyOf record.mac (fun mac => !isVirtualMac mac && !hintSaysVirtual hints mac)
      (fun mac => .mac (normalizeMac mac)) ++
    keyOf (findSysname record.signals) nonempty (fun n => .sysName (normalizeSysName n)) ++
    keyOf (findSshHostKey record.signals) nonempty .sshHostKey ++
    keyOf (findTlsSubject record.signals) nonempty .tlsSubject ++
    ((collectTlsSanNames record.signals).filter nonempty).map BucketKey.tlsSanName ++
    ((collectReverseDnsNames record.signals).filter nonempty).map
      fun n => BucketKey.reverseDnsName (normalizeSysName n)).eraseDups

abbrev Buckets := AList fun _ : BucketKey => List ℕ

/-- How the hash containers enumerate their elements. -/
structure HashOrder where
  keys : ℕ → List BucketKey → List BucketKey
  buckets : List (List ℕ) → List (List ℕ)
  candidates : List (ℕ × ℕ) → List (ℕ × ℕ)
  keys_perm : ∀ i l, (keys i l).Perm l
  buckets_perm : ∀ l, (buckets l).Perm l
  candidates_perm : ∀ l, (candidates l).Perm l

/-- The enumeration that keeps insertion order. -/
def HashOrder.insertion : HashOrder where
  keys _ l := l
  buckets l := l
  candidates l := l
  keys_perm _ _ := .refl _
  buckets_perm _ := .refl _
  candidates_perm _ := .refl _

/-- The enumeration that lists everything backwards. -/
def HashOrder.reversed : HashOrder where
  keys _ l := l.reverse
  buckets l := l.reverse
  candidates l := l.reverse
  keys_perm _ l := l.reverse_perm
  buckets_perm l := l.reverse_perm
  candidates_perm l := l.reverse_perm

/-- `buckets.entry(key).or_default().push(idx)`. -/
def pushBucket (idx : ℕ) (m : Buckets) (key : BucketKey) : Buckets :=
  m.insert key ((m.lookup key).getD [] ++ [idx])

/-- The first loop: file every record under its keys. -/
def fillBuckets (order : HashOrder) (hints : IdentityHints) (records : List DeviceRecord) :
    Buckets :=
  records.zipIdx.foldl
    (fun m p => (order.keys p.2 (bucketKeys hints p.1)).foldl (pushBucket p.2) m) ∅

/-- The pairs of a list of positions, earlier position first. -/
def pairsOf : List ℕ → List (ℕ × ℕ)
  | [] => []
  | a :: rest => rest.map (fun b => (a, b)) ++ pairsOf rest

/-- The second loop: the pairs that share a bucket not over the cap. -/
def collectCandidates (cap : ℕ) (buckets : List (List ℕ)) : List (ℕ × ℕ) :=
  buckets.foldl
    (fun c indices => if cap < indices.length then c else (pairsOf indices).foldl pushNew c) []

/-- The candidate pairs of positive weight. -/
def computePairWeights (order : HashOrder) (hints : IdentityHints)
    (records : List DeviceRecord) : List (ℕ × ℕ × ℚ) :=
  let buckets := fillBuckets order hints records
  let candidates := collectCandidates hints.maxCorrelationBucket
    (order.buckets (buckets.entries.map Sigma.snd))
  (order.candidates candidates).filterMap fun p =>
    match records[p.1]?, records[p.2]? with
    | some a, some b =>
      let w := pairWeight hints a b
      if 0 < w then some (p.1, p.2, w) else none
    | _, _ => none

/-! ## What the search finds -/

variable (hints : IdentityHints) (records : List DeviceRecord)

/-- Positions with a key, ascending. -/
def bucketOf (key : BucketKey) : List ℕ :=
  (records.zipIdx.filter fun p => key ∈ bucketKeys hints p.1).map Prod.snd

/-- The earlier first, sharing a key of a bucket within the cap. -/
def IsCandidate (i j : ℕ) : Prop :=
  i < j ∧ ∃ a b key, records[i]? = some a ∧ records[j]? = some b ∧
    key ∈ bucketKeys hints a ∧ key ∈ bucketKeys hints b ∧
    (bucketOf hints records key).length ≤ hints.maxCorrelationBucket

variable {hints records} {i : ℕ}

lemma mem_bucketOf {key : BucketKey} : i ∈ bucketOf hints records key ↔
      ∃ a, records[i]? = some a ∧ key ∈ bucketKeys hints a := by
  simp only [bucketOf, mem_map, mem_filter, decide_eq_true_eq, Prod.exists,
    mem_zipIdx_iff_getElem?]
  constructor
  · simp
  · simp

lemma bucketOf_sorted (hints : IdentityHints) (records : List DeviceRecord) (key : BucketKey) :
    (bucketOf hints records key).Pairwise (· < ·) := by
  have hidx : (records.zipIdx.map Prod.snd).Pairwise (· < ·) := by
    rw [zipIdx_map_snd]
    exact pairwise_lt_range'
  exact hidx.sublist ((filter_sublist).map Prod.snd)

omit [CaseMapping] in
lemma lookup_foldl_pushBucket (idx : ℕ) {ks : List BucketKey} (hks : ks.Nodup) (m : Buckets)
    (key : BucketKey) : (ks.foldl (pushBucket idx) m).lookup key =
      if key ∈ ks then some ((m.lookup key).getD [] ++ [idx]) else m.lookup key := by
  induction ks generalizing m with
  | nil => simp
  | cons k ks ih =>
    obtain ⟨hk, hks'⟩ := nodup_cons.mp hks
    rw [foldl_cons, ih hks']
    by_cases hkey : key = k
    · subst hkey
      rw [if_neg hk, if_pos mem_cons_self, pushBucket, AList.lookup_insert]
    · have hlookup : (pushBucket idx m k).lookup key = m.lookup key :=
        AList.lookup_insert_ne hkey
      grind

lemma lookup_fillBuckets (order : HashOrder) (hints : IdentityHints)
    (records : List DeviceRecord) (key : BucketKey) (l : List ℕ) :
    (fillBuckets order hints records).lookup key = some l ↔
      l = bucketOf hints records key ∧ l ≠ [] := by
  have hval : ∀ rs : List DeviceRecord, (fillBuckets order hints rs).lookup key =
      if bucketOf hints rs key = [] then none else some (bucketOf hints rs key) := by
    intro rs
    induction rs using List.reverseRecOn with
    | nil => rfl
    | append_singleton rs r ih =>
      have hstep : fillBuckets order hints (rs ++ [r]) =
          (order.keys rs.length (bucketKeys hints r)).foldl (pushBucket rs.length)
            (fillBuckets order hints rs) := by
        simp [fillBuckets, zipIdx_append]
      have hbucket : bucketOf hints (rs ++ [r]) key = bucketOf hints rs key ++
          if key ∈ bucketKeys hints r then [rs.length] else [] := by
        by_cases hkey : key ∈ bucketKeys hints r <;>
          simp [bucketOf, zipIdx_append, filter_append, hkey]
      have hperm := order.keys_perm rs.length (bucketKeys hints r)
      rw [hstep, lookup_foldl_pushBucket _ (hperm.nodup_iff.mpr (nodup_eraseDups _)), hbucket, ih]
      by_cases hkey : key ∈ bucketKeys hints r
      · have hne : bucketOf hints rs key ++ [rs.length] ≠ [] := by simp
        rw [if_pos (hperm.mem_iff.mpr hkey), if_pos hkey, if_neg hne]
        split_ifs with hnil
        · rw [hnil]; rfl
        · rfl
      · rw [if_neg (fun h => hkey (hperm.mem_iff.mp h)), if_neg hkey, append_nil]
  rw [hval]
  split_ifs with hnil
  · simp only [false_iff, not_and, not_not]
    exact fun h => h.trans hnil
  · rw [Option.some.injEq]
    exact ⟨fun h => ⟨h.symm, h ▸ hnil⟩, fun h => h.1.symm⟩

variable {j : ℕ}

omit [CaseMapping] in
lemma mem_pairsOf {l : List ℕ} (hl : l.Pairwise (· < ·)) :
    (i, j) ∈ pairsOf l ↔ i ∈ l ∧ j ∈ l ∧ i < j := by
  induction l with
  | nil => simp [pairsOf]
  | cons a rest ih =>
    obtain ⟨ha, hrest⟩ := pairwise_cons.mp hl
    rw [pairsOf, mem_append, ih hrest]
    simp only [mem_map, Prod.mk.injEq, mem_cons]
    constructor
    · grind
    · rintro ⟨rfl | hi, rfl | hj, hij⟩
      · omega
      · grind
      · grind
      · grind

omit [CaseMapping] in
/-- The candidates are the pairs of the buckets within the cap. -/
lemma mem_collectCandidates {cap : ℕ} {buckets : List (List ℕ)} {p : ℕ × ℕ} :
    p ∈ collectCandidates cap buckets ↔ ∃ l ∈ buckets, l.length ≤ cap ∧ p ∈ pairsOf l := by
  induction buckets using List.reverseRecOn with
  | nil => simp [collectCandidates]
  | append_singleton buckets l ih =>
    have hstep : collectCandidates cap (buckets ++ [l]) = if cap < l.length
        then collectCandidates cap buckets
        else (pairsOf l).foldl pushNew (collectCandidates cap buckets) := by
      rw [collectCandidates, foldl_append]; rfl
    rw [hstep]
    split_ifs with hcap
    · rw [ih]
      constructor
      · rintro ⟨l', hl', h⟩
        grind
      · rintro ⟨l', hl', hlen, h⟩
        rcases mem_append.mp hl' with hl' | hl'
        · grind
        · grind
    · rw [mem_foldl_pushNew, ih]
      constructor
      · rintro (⟨l', hl', h⟩ | h)
        · grind
        · grind
      · rintro ⟨l', hl', hlen, h⟩
        grind

/-- The candidates of the filled buckets, in any enumeration. -/
lemma mem_candidates (order : HashOrder) (hints : IdentityHints) (records : List DeviceRecord) :
    (i, j) ∈ collectCandidates hints.maxCorrelationBucket
        (order.buckets ((fillBuckets order hints records).entries.map Sigma.snd)) ↔
      IsCandidate hints records i j := by
  rw [mem_collectCandidates]
  constructor
  · rintro ⟨l, hl, hlen, hp⟩
    rw [(order.buckets_perm _).mem_iff, mem_map] at hl
    obtain ⟨⟨key, l'⟩, hentry, rfl⟩ := hl
    obtain ⟨rfl, -⟩ := (lookup_fillBuckets order hints records key l').mp
      (AList.mem_lookup_iff.mpr hentry)
    obtain ⟨hi, hj, hij⟩ := (mem_pairsOf (bucketOf_sorted hints records key)).mp hp
    obtain ⟨a, ha, hka⟩ := mem_bucketOf.mp hi
    obtain ⟨b, hb, hkb⟩ := mem_bucketOf.mp hj
    exact ⟨hij, a, b, key, ha, hb, hka, hkb, hlen⟩
  · rintro ⟨hij, a, b, key, ha, hb, hka, hkb, hlen⟩
    have hi : i ∈ bucketOf hints records key := mem_bucketOf.mpr ⟨a, ha, hka⟩
    have hj : j ∈ bucketOf hints records key := mem_bucketOf.mpr ⟨b, hb, hkb⟩
    refine ⟨bucketOf hints records key, ?_, hlen,
      (mem_pairsOf (bucketOf_sorted hints records key)).mpr ⟨hi, hj, hij⟩⟩
    rw [(order.buckets_perm _).mem_iff, mem_map]
    have hlookup := (lookup_fillBuckets order hints records key _).mpr ⟨rfl, ne_nil_of_mem hi⟩
    exact ⟨⟨key, _⟩, AList.mem_lookup_iff.mp hlookup, rfl⟩

/-- The candidates of positive weight, whatever the enumeration. -/
theorem mem_computePairWeights {order : HashOrder} {w : ℚ} :
    (i, j, w) ∈ computePairWeights order hints records ↔ IsCandidate hints records i j ∧ 0 < w ∧
        ∃ a b, records[i]? = some a ∧ records[j]? = some b ∧ w = pairWeight hints a b := by
  simp only [computePairWeights, mem_filterMap, (order.candidates_perm _).mem_iff,
    Prod.exists, mem_candidates]
  constructor
  · rintro ⟨i', j', hcand, hw⟩
    cases ha : records[i']? with
    | none => simp [ha] at hw
    | some a =>
      cases hb : records[j']? with
      | none => simp [ha, hb] at hw
      | some b => grind
  · grind

end Correlation

end Rastreo
