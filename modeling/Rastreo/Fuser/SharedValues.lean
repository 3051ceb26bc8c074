import Rastreo.Fuser.Aliases
import Mathlib.Algebra.Order.BigOperators.Group.List

/-!
# Weights are made of shared values

What two records contribute to their weight is decided by the bucket keys they share
(`sum_contributions`), though contributions compare otherwise than keys: a MAC up to separators and
case but tested for being virtual as spelled, names up to ASCII case.  So the search over buckets
finds all pairs of positive weight if no bucket is over the cap (`bucketed_pairs_complete`).
-/

namespace Rastreo

open List

/-! ## Spellings of a MAC -/

/-- Outside ASCII nothing is lowercased to hexadecimal digits only. -/
class HexSafe [CaseMapping] : Prop where
  exists_not_digit : ∀ c : Char, ¬ isAscii c → ∃ d ∈ CaseMapping.charLower c, toDigit16 d = none

lemma toNat_toLower (c : Char) :
    c.toLower.toNat = if 65 ≤ c.toNat ∧ c.toNat ≤ 90 then c.toNat + 32 else c.toNat := by
  have hran : (c.val ≥ 'A'.val ∧ c.val ≤ 'Z'.val) ↔ (65 ≤ c.toNat ∧ c.toNat ≤ 90) := by
    rfl
  unfold Char.toLower
  split
  · rename_i h
    rw [if_pos (hran.mp h)]
    have hle := (hran.mp h).2
    change (c.val + 32).toNat = c.val.toNat + 32
    change c.val.toNat ≤ 90 at hle
    change (c.val.toNat + 32) % 2 ^ 32 = _
    omega
  · rename_i h
    grind

lemma toDigit16_toLower (c : Char) : toDigit16 c.toLower = toDigit16 c := by
  unfold toDigit16
  rw [toNat_toLower]
  grind

variable {c : Char}

lemma isAscii_of_toDigit16 (h : toDigit16 c ≠ none) : isAscii c := by
  unfold toDigit16 at h
  unfold isAscii
  split_ifs at h
  · omega
  · omega
  · omega
  · exact absurd rfl h

def macDigits (mac : String) : List Char := mac.toList.filter fun c => !isMacSeparator c

lemma parseMacBytes_separator (hsep : isMacSeparator c = true) (cs : List Char) (bytes : List ℕ)
    (hi : Option ℕ) :
    parseMacBytes (c :: cs) bytes hi = parseMacBytes cs bytes hi := by
  change (if isMacSeparator c = true then _ else _) = _
  rw [if_pos hsep]

lemma parseMacBytes_digit (hsep : isMacSeparator c = false) (cs : List Char) (bytes : List ℕ)
    (hi : Option ℕ) :
    parseMacBytes (c :: cs) bytes hi = (toDigit16 c).bind fun nibble =>
      hi.elim (parseMacBytes cs bytes (some nibble)) fun high =>
        if bytes.length = 5 then some bytes
        else parseMacBytes cs (bytes ++ [(high <<< 4) ||| nibble]) none := by
  change (if isMacSeparator c = true then _ else _) = _
  rw [if_neg (by simp [hsep])]
  cases toDigit16 c with
  | none => rfl
  | some nibble => grind

lemma parseMacBytes_filter (cs : List Char) (bytes : List ℕ) (hi : Option ℕ) :
    parseMacBytes cs bytes hi = parseMacBytes (cs.filter fun c => !isMacSeparator c) bytes hi := by
  induction cs generalizing bytes hi with
  | nil => rfl
  | cons c cs ih =>
    cases hsep : isMacSeparator c with
    | true =>
      rw [filter_cons_of_neg (by simp [hsep]), parseMacBytes_separator hsep]
      exact ih bytes hi
    | false => grind [filter_cons_of_pos, parseMacBytes_digit]

lemma parseMacBytes_congr {cs cs' : List Char} (hsep : ∀ c ∈ cs, isMacSeparator c = false)
    (hsep' : ∀ c ∈ cs', isMacSeparator c = false)
    (hdigits : cs.map toDigit16 = cs'.map toDigit16) (bytes : List ℕ) (hi : Option ℕ) :
    parseMacBytes cs bytes hi = parseMacBytes cs' bytes hi := by
  induction cs generalizing cs' bytes hi with
  | nil => simp_all
  | cons c cs ih =>
    cases cs' with
    | nil => simp at hdigits
    | cons c' cs' =>
      obtain ⟨hc, hrest⟩ := List.cons.inj hdigits
      have hskip : isMacSeparator c = false := hsep c mem_cons_self
      have hskip' : isMacSeparator c' = false := hsep' c' mem_cons_self
      have hcs := fun bytes hi => ih (fun d hd => hsep d (mem_cons_of_mem c hd))
        (fun d hd => hsep' d (mem_cons_of_mem c' hd)) hrest bytes hi
      grind [parseMacBytes_digit]

/-- A MAC of twelve characters that is read has digits only. -/
lemma toDigit16_ne_none_of_parse {cs : List Char} {bytes : List ℕ} {hi : Option ℕ} {r : List ℕ}
    (hsep : ∀ c ∈ cs, isMacSeparator c = false)
    (hlen : 2 * bytes.length + hi.toList.length + cs.length ≤ 12)
    (h : parseMacBytes cs bytes hi = some r) : ∀ c ∈ cs, toDigit16 c ≠ none := by
  induction cs generalizing bytes hi with
  | nil => exact forall_mem_nil _
  | cons c cs ih =>
    have hrest : ∀ d ∈ cs, isMacSeparator d = false := fun d hd => hsep d (mem_cons_of_mem c hd)
    rw [parseMacBytes_digit (hsep c mem_cons_self)] at h
    cases hdigit : toDigit16 c with
    | none =>
      rw [hdigit] at h
      cases h
    | some nibble =>
      have hcs : ∀ d ∈ cs, toDigit16 d ≠ none := by
        rw [hdigit] at h
        cases hi with
        | none =>
          refine ih hrest ?_ h
          grind
        | some high =>
          simp only [Option.toList_some, length_cons, length_nil] at hlen
          split_ifs at h with hfive
          · -- The last character of the sixth byte is the last of all.
            have hnil : cs = [] := eq_nil_of_length_eq_zero (by omega)
            rw [hnil]
            exact forall_mem_nil _
          · refine ih hrest ?_ h
            grind
      intro d hd
      grind

section Spelling

variable [CaseMapping]

lemma flatMap_charLower {cs : List Char} (h : ∀ c ∈ cs, isAscii c) :
    cs.flatMap CaseMapping.charLower = cs.map Char.toLower := by
  rw [map_eq_flatMap]
  exact flatMap_congr fun c hc => CaseMapping.charLower_ascii c (h c hc)

variable [HexSafe]

/-- A MAC that is read has the same bytes in every spelling. -/
lemma parseMacPrefix_of_eq {a b : String} (h : normalizeMac a = normalizeMac b) {bytes : List ℕ}
    (ha : parseMacPrefix a = some bytes) : parseMacPrefix b = some bytes := by
  have hsep : ∀ mac : String, ∀ c ∈ macDigits mac, isMacSeparator c = false := by
    intro mac c hc
    simpa using (mem_filter.mp hc).2
  have hlow : (macDigits a).flatMap CaseMapping.charLower =
      (macDigits b).flatMap CaseMapping.charLower := by
    simpa [normalizeMac, macDigits] using congrArg String.toList h
  unfold parseMacPrefix at ha
  split_ifs at ha with hlen
  rw [parseMacBytes_filter] at ha
  have hlen : (macDigits a).length = 12 := not_ne_iff.mp hlen
  have hdigits : ∀ c ∈ macDigits a, toDigit16 c ≠ none :=
    toDigit16_ne_none_of_parse (hsep a) (by simp [hlen]) ha
  rw [flatMap_charLower fun c hc => isAscii_of_toDigit16 (hdigits c hc)] at hlow
  -- A character of the other spelling outside ASCII would leave something that is no digit.
  have hascii : ∀ c ∈ macDigits b, isAscii c := by
    intro c hc
    by_contra hnot
    obtain ⟨d, hd, hnone⟩ := HexSafe.exists_not_digit c hnot
    have hmem : d ∈ (macDigits a).map Char.toLower := hlow ▸ mem_flatMap.mpr ⟨c, hc, hd⟩
    obtain ⟨e, he, rfl⟩ := mem_map.mp hmem
    exact hdigits e he (toDigit16_toLower e ▸ hnone)
  rw [flatMap_charLower hascii] at hlow
  have hval : (macDigits a).map toDigit16 = (macDigits b).map toDigit16 := by
    have := congrArg (List.map toDigit16) hlow
    simpa only [map_map, Function.comp_def, toDigit16_toLower] using this
  have hlen' : (macDigits b).length = 12 := by
    rw [← hlen]
    simpa using (congrArg List.length hlow).symm
  have hread : parseMacPrefix b = parseMacBytes b.toList [] none :=
    if_neg (not_ne_iff.mpr hlen')
  rw [hread, parseMacBytes_filter, ← ha]
  exact (parseMacBytes_congr (hsep a) (hsep b) hval [] none).symm

lemma isVirtualMac_congr {a b : String} (h : normalizeMac a = normalizeMac b) :
    isVirtualMac a = isVirtualMac b := by
  have hparse : parseMacPrefix a = parseMacPrefix b := by
    refine Option.ext fun bytes => ⟨parseMacPrefix_of_eq h, parseMacPrefix_of_eq h.symm⟩
  rw [isVirtualMac, hparse, isVirtualMac]

end Spelling

/-! ## Kinds of values -/

inductive ValueKind where
  | mac
  | sysName
  | sshHostKey
  | tlsSubject
  | tlsSanName
  | reverseDnsName
  deriving DecidableEq

def BucketKey.kind : BucketKey → ValueKind
  | .mac _ => .mac
  | .sysName _ => .sysName
  | .sshHostKey _ => .sshHostKey
  | .tlsSubject _ => .tlsSubject
  | .tlsSanName _ => .tlsSanName
  | .reverseDnsName _ => .reverseDnsName

namespace ValueKind

/-- All kinds, in the order of the contributions. -/
def all : List ValueKind := [mac, sysName, sshHostKey, tlsSubject, tlsSanName, reverseDnsName]

def weight : ValueKind → ℚ
  | mac => weightSharedMac
  | sysName => weightSharedSysname
  | sshHostKey => weightSharedHostKey
  | tlsSubject => weightSharedTlsSubject
  | tlsSanName => weightSharedTlsSan
  | reverseDnsName => weightSharedReverseDns

end ValueKind

lemma mem_keyOf {v : Option String} {keep : String → Bool} {key : String → BucketKey}
    {k : BucketKey} : k ∈ keyOf v keep key ↔ ∃ s, v = some s ∧ keep s = true ∧ k = key s := by
  cases v with
  | none => simp [keyOf]
  | some s => cases hkeep : keep s <;> simp [keyOf, hkeep]

section Shared

variable [CaseMapping] {hints : IdentityHints} {a b : DeviceRecord}

def keysOfKind (hints : IdentityHints) (record : DeviceRecord) : ValueKind → List BucketKey
  | .mac => keyOf record.mac (fun mac => !isVirtualMac mac && !hintSaysVirtual hints mac)
      fun mac => .mac (normalizeMac mac)
  | .sysName => keyOf (findSysname record.signals) (fun s => !s.isEmpty)
      fun n => .sysName (normalizeSysName n)
  | .sshHostKey => keyOf (findSshHostKey record.signals) (fun s => !s.isEmpty) .sshHostKey
  | .tlsSubject => keyOf (findTlsSubject record.signals) (fun s => !s.isEmpty) .tlsSubject
  | .tlsSanName =>
    ((collectTlsSanNames record.signals).filter fun s => !s.isEmpty).map BucketKey.tlsSanName
  | .reverseDnsName =>
    ((collectReverseDnsNames record.signals).filter fun s => !s.isEmpty).map
      fun n => BucketKey.reverseDnsName (normalizeSysName n)

variable {kind : ValueKind}

lemma kind_of_mem_keysOfKind {key : BucketKey} (h : key ∈ keysOfKind hints a kind) :
    key.kind = kind := by
  cases kind with
  | tlsSanName =>
    obtain ⟨s, -, rfl⟩ := mem_map.mp h
    rfl
  | reverseDnsName =>
    obtain ⟨s, -, rfl⟩ := mem_map.mp h
    rfl
  | _ =>
    obtain ⟨s, -, -, rfl⟩ := mem_keyOf.mp h
    rfl

lemma mem_bucketKeys {key : BucketKey} :
    key ∈ bucketKeys hints a ↔ key ∈ keysOfKind hints a key.kind := by
  have hall : key ∈ bucketKeys hints a ↔ ∃ kind, key ∈ keysOfKind hints a kind := by
    rw [bucketKeys, mem_eraseDups]
    simp only [mem_append]
    constructor
    · rintro (((((h | h) | h) | h) | h) | h)
      · exact ⟨.mac, h⟩
      · exact ⟨.sysName, h⟩
      · exact ⟨.sshHostKey, h⟩
      · exact ⟨.tlsSubject, h⟩
      · exact ⟨.tlsSanName, h⟩
      · exact ⟨.reverseDnsName, h⟩
    · rintro ⟨kind, h⟩
      cases kind with
      | mac => exact .inl (.inl (.inl (.inl (.inl h))))
      | sysName => exact .inl (.inl (.inl (.inl (.inr h))))
      | sshHostKey => exact .inl (.inl (.inl (.inr h)))
      | tlsSubject => exact .inl (.inl (.inr h))
      | tlsSanName => exact .inl (.inr h)
      | reverseDnsName => exact .inr h
  rw [hall]
  constructor
  · rintro ⟨kind, h⟩
    rwa [kind_of_mem_keysOfKind h]
  · grind

def Shares (hints : IdentityHints) (a b : DeviceRecord) (kind : ValueKind) : Prop :=
  ∃ key ∈ bucketKeys hints a, key ∈ bucketKeys hints b ∧ key.kind = kind

instance decidableShares (hints : IdentityHints) (a b : DeviceRecord) (kind : ValueKind) :
    Decidable (Shares hints a b kind) :=
  inferInstanceAs (Decidable (∃ key ∈ bucketKeys hints a, _))

lemma shares_comm : Shares hints a b kind ↔ Shares hints b a kind := by
  constructor
  · rintro ⟨key, ha, hb, hkind⟩
    exact ⟨key, hb, ha, hkind⟩
  · rintro ⟨key, hb, ha, hkind⟩
    exact ⟨key, ha, hb, hkind⟩

lemma shares_iff : Shares hints a b kind ↔
    ∃ key ∈ keysOfKind hints a kind, key ∈ keysOfKind hints b kind := by
  constructor
  · rintro ⟨key, ha, hb, rfl⟩
    exact ⟨key, mem_bucketKeys.mp ha, mem_bucketKeys.mp hb⟩
  · rintro ⟨key, ha, hb⟩
    obtain rfl := kind_of_mem_keysOfKind ha
    exact ⟨key, mem_bucketKeys.mpr ha, mem_bucketKeys.mpr hb, rfl⟩

def sharedWeight (hints : IdentityHints) (a b : DeviceRecord) (kind : ValueKind) : ℚ :=
  if Shares hints a b kind then kind.weight else 0

lemma sharedWeight_eq : sharedWeight hints a b kind =
    if ∃ key ∈ keysOfKind hints a kind, key ∈ keysOfKind hints b kind then kind.weight else 0 :=
  if_congr shares_iff rfl rfl

/-! ## The contributions -/

variable {key : String → BucketKey}

omit [CaseMapping] in
lemma contributeShared_eq {find : DeviceRecord → Option String} {agree : String → String → Bool}
    {weight : ℚ} {keep : String → Bool}
    (hagree : ∀ x y, agree x y = true ↔ keep x = true ∧ keep y = true ∧ key x = key y) :
    contributeShared find agree weight a b =
      if ∃ k ∈ keyOf (find a) keep key, k ∈ keyOf (find b) keep key then weight else 0 := by
  unfold contributeShared
  cases ha : find a with
  | none => simp [keyOf]
  | some x =>
    cases hb : find b with
    | none => simp [keyOf]
    | some y =>
      refine if_congr ?_ rfl rfl
      simp only [mem_keyOf, Option.some.injEq, hagree]
      constructor
      · rintro ⟨hx, hy, hkey⟩
        grind
      · simp

omit [CaseMapping] in
lemma contributeOverlap_eq {collect : DeviceRecord → List String}
    {overlap : List String → List String → Bool} {weight : ℚ}
    (hoverlap : ∀ l m, overlap l m = true ↔
      ∃ x ∈ l, ∃ y ∈ m, x.isEmpty = false ∧ y.isEmpty = false ∧ key x = key y) :
    contributeOverlap collect overlap weight a b =
      if ∃ k ∈ ((collect a).filter fun s : String => !s.isEmpty).map key,
        k ∈ ((collect b).filter fun s : String => !s.isEmpty).map key then weight else 0 := by
  refine if_congr ?_ rfl rfl
  simp only [Bool.and_eq_true, hoverlap, mem_map, mem_filter, Bool.not_eq_true']
  constructor
  · rintro ⟨-, x, hx, y, hy, hxe, hye, hkey⟩
    exact ⟨key x, ⟨x, ⟨hx, hxe⟩, rfl⟩, y, ⟨hy, hye⟩, hkey.symm⟩
  · rintro ⟨k, ⟨x, ⟨hx, hxe⟩, rfl⟩, y, ⟨hy, hye⟩, hkey⟩
    grind

omit [CaseMapping] in
lemma isEmpty_of_toAsciiLowercase_eq {x y : String}
    (h : toAsciiLowercase x = toAsciiLowercase y) : x.isEmpty = y.isEmpty := by
  have hlen : x.toList.length = y.toList.length := by
    have := congrArg (fun s : String => s.toList.length) h
    simpa [toAsciiLowercase] using this
  rw [Bool.eq_iff_iff, String.isEmpty_iff, String.isEmpty_iff, ← String.toList_eq_nil_iff,
    ← String.toList_eq_nil_iff, ← length_eq_zero_iff, ← length_eq_zero_iff, hlen]

lemma contributeMac_eq [HexSafe] : contributeMac hints a b = sharedWeight hints a b .mac := by
  rw [sharedWeight_eq]
  refine contributeShared_eq fun x y => ?_
  simp only [Bool.and_eq_true, macEqual, beq_iff_eq, Bool.not_eq_true', BucketKey.mac.injEq]
  constructor
  · rintro ⟨⟨hmac, hvir⟩, hhint⟩
    grind [isVirtualMac_congr, hintSaysVirtual, macEqual]
  · grind

lemma contributeSysname_eq : contributeSysname hints a b = sharedWeight hints a b .sysName := by
  rw [sharedWeight_eq]
  refine contributeShared_eq fun x y => ?_
  simp only [Bool.and_eq_true, eqIgnoreAsciiCase, beq_iff_eq, Bool.not_eq_true', normalizeSysName,
    BucketKey.sysName.injEq]
  constructor
  · grind [isEmpty_of_toAsciiLowercase_eq]
  · grind

omit [CaseMapping] in
lemma nonempty_eq_iff (hkey : Function.Injective key) (x y : String) :
    (!x.isEmpty && x == y) = true ↔ (!x.isEmpty) = true ∧ (!y.isEmpty) = true ∧ key x = key y := by
  rw [Bool.and_eq_true, beq_iff_eq, hkey.eq_iff]
  constructor
  · grind
  · grind

lemma contributeSshHostKey_eq :
    contributeSshHostKey hints a b = sharedWeight hints a b .sshHostKey := by
  rw [sharedWeight_eq]
  exact contributeShared_eq (nonempty_eq_iff fun _ _ => BucketKey.sshHostKey.inj)

lemma contributeTlsSubject_eq :
    contributeTlsSubject hints a b = sharedWeight hints a b .tlsSubject := by
  rw [sharedWeight_eq]
  exact contributeShared_eq (nonempty_eq_iff fun _ _ => BucketKey.tlsSubject.inj)

lemma contributeTlsSan_eq : contributeTlsSan hints a b = sharedWeight hints a b .tlsSanName := by
  rw [sharedWeight_eq]
  refine contributeOverlap_eq fun l m => ?_
  simp only [anyTlsSanOverlap, any_eq_true, Bool.and_eq_true, Bool.not_eq_true',
    contains_iff_mem, BucketKey.tlsSanName.injEq]
  constructor
  · rintro ⟨x, hx, hne, hm⟩
    grind
  · grind

lemma contributeReverseDns_eq :
    contributeReverseDns hints a b = sharedWeight hints a b .reverseDnsName := by
  rw [sharedWeight_eq]
  refine contributeOverlap_eq fun l m => ?_
  simp only [anyReverseDnsOverlap, any_eq_true, Bool.and_eq_true, Bool.not_eq_true',
    eqIgnoreAsciiCase, beq_iff_eq, normalizeSysName, BucketKey.reverseDnsName.injEq]
  constructor
  · grind [isEmpty_of_toAsciiLowercase_eq]
  · grind

/-- The contributions of a pair are the weights of what it shares. -/
theorem sum_contributions [HexSafe] (hints : IdentityHints) (a b : DeviceRecord) :
    (contributions.map fun f => f hints a b).sum =
      (ValueKind.all.map (sharedWeight hints a b)).sum := by
  simp only [contributions, ValueKind.all, map_cons, map_nil, contributeMac_eq,
    contributeSysname_eq, contributeSshHostKey_eq, contributeTlsSubject_eq, contributeTlsSan_eq,
    contributeReverseDns_eq]

/-! ## Pair weights -/

/-- A pair that shares more kinds of values weighs no less. -/
lemma pairWeight_mono [HexSafe] {a' b' : DeviceRecord}
    (hshares : ∀ kind, Shares hints a b kind → Shares hints a' b' kind)
    (hpenalty : manufacturerPenalty a b = manufacturerPenalty a' b')
    (hdeclared : pairIsDeclaredVrrpMembers hints a b = pairIsDeclaredVrrpMembers hints a' b') :
    pairWeight hints a b ≤ pairWeight hints a' b' := by
  have hsum : (contributions.map fun f => f hints a b).sum ≤
      (contributions.map fun f => f hints a' b').sum := by
    rw [sum_contributions, sum_contributions]
    refine sum_le_sum fun kind _ => ?_
    have hpos : 0 ≤ kind.weight := by cases kind <;> decide +kernel
    unfold sharedWeight
    grind
  unfold pairWeight
  grind

lemma pairWeight_congr [HexSafe] {a' b' : DeviceRecord}
    (hshares : ∀ kind, Shares hints a b kind ↔ Shares hints a' b' kind)
    (hpenalty : manufacturerPenalty a b = manufacturerPenalty a' b')
    (hdeclared : pairIsDeclaredVrrpMembers hints a b = pairIsDeclaredVrrpMembers hints a' b') :
    pairWeight hints a b = pairWeight hints a' b' :=
  (pairWeight_mono (fun kind => (hshares kind).mp) hpenalty hdeclared).antisymm
    (pairWeight_mono (fun kind => (hshares kind).mpr) hpenalty.symm hdeclared.symm)

omit [CaseMapping] in
lemma manufacturerPenalty_comm (a b : DeviceRecord) :
    manufacturerPenalty a b = manufacturerPenalty b a := by
  have hcomm : ∀ x y, eqIgnoreAsciiCase x y = eqIgnoreAsciiCase y x := by
    intro x y
    rw [eqIgnoreAsciiCase, BEq.comm, eqIgnoreAsciiCase]
  unfold manufacturerPenalty
  cases a.manufacturer with
  | none => cases b.manufacturer <;> rfl
  | some x => grind

omit [CaseMapping] in
lemma manufacturerPenalty_nonneg (a b : DeviceRecord) : 0 ≤ manufacturerPenalty a b := by
  unfold manufacturerPenalty penaltyConflictingManufacturer
  split
  · split_ifs <;> norm_num
  · exact le_rfl

lemma exists_shares_of_pos [HexSafe] (h : 0 < pairWeight hints a b) :
    ∃ kind, Shares hints a b kind := by
  by_contra hnone
  have hzero : sharedWeight hints a b = fun _ => 0 :=
    funext fun kind => if_neg fun hkind => hnone ⟨kind, hkind⟩
  have hsum : (contributions.map fun f => f hints a b).sum = 0 := by
    rw [sum_contributions, hzero]
    simp
  have hpen := manufacturerPenalty_nonneg a b
  rw [pairWeight, hsum] at h
  grind

variable (hints : IdentityHints)

lemma pairWeight_comm [HexSafe] (a b : DeviceRecord) :
    pairWeight hints a b = pairWeight hints b a :=
  pairWeight_congr (fun _ => shares_comm) (manufacturerPenalty_comm a b)
    (pairIsDeclaredVrrpMembers_comm hints a b)

/-! ## All pairs -/

def computePairWeightsBruteforce (records : List DeviceRecord) : List (ℕ × ℕ × ℚ) :=
  (List.range records.length).flatMap fun i =>
    (List.range' (i + 1) (records.length - (i + 1))).filterMap fun j =>
      match records[i]?, records[j]? with
      | some a, some b =>
        let w := pairWeight hints a b
        if 0 < w then some (i, j, w) else none
      | _, _ => none

def correlateBruteforce (records : List DeviceRecord) : Except Panic (List DeviceRecord) :=
  correlatePairs records (computePairWeightsBruteforce hints records)

/-- Comparing all pairs finds those of positive weight. -/
lemma mem_computePairWeightsBruteforce {records : List DeviceRecord} {i j : ℕ} {w : ℚ} :
    (i, j, w) ∈ computePairWeightsBruteforce hints records ↔ i < j ∧ 0 < w ∧
      ∃ a b, records[i]? = some a ∧ records[j]? = some b ∧ w = pairWeight hints a b := by
  simp only [computePairWeightsBruteforce, mem_flatMap, mem_filterMap, mem_range, mem_range'_1]
  constructor
  · rintro ⟨i', hi', j', ⟨hij, hj'⟩, hw⟩
    cases ha : records[i']? with
    | none => simp [ha] at hw
    | some a =>
      cases hb : records[j']? with
      | none => simp [ha, hb] at hw
      | some b =>
        simp only [ha, hb, Option.ite_none_right_eq_some, Option.some.injEq, Prod.mk.injEq] at hw
        grind
  · rintro ⟨hij, hpos, a, b, ha, hb, rfl⟩
    have hj : j < records.length := (List.getElem?_eq_some_iff.mp hb).1
    exact ⟨i, by omega, j, ⟨by omega, by omega⟩, by simp [ha, hb, hpos]⟩

/-- Weights have no direction; if no value is shared by more records than the cap, buckets find the
pairs of positive weight, and `correlate` is the correlation of all pairs. -/
theorem bucketed_pairs_complete [HexSafe] (order : HashOrder) (hints : IdentityHints)
    (records : List DeviceRecord) :
    (∀ a b, pairWeight hints a b = pairWeight hints b a) ∧
    ((∀ key, (bucketOf hints records key).length ≤ hints.maxCorrelationBucket) →
      (∀ p, p ∈ computePairWeights order hints records ↔
        p ∈ computePairWeightsBruteforce hints records) ∧
      correlate order hints records = correlateBruteforce hints records) := by
  refine ⟨pairWeight_comm hints, fun hcap => ?_⟩
  have hpairs : ∀ p, p ∈ computePairWeights order hints records ↔
      p ∈ computePairWeightsBruteforce hints records := by
    rintro ⟨i, j, w⟩
    rw [mem_computePairWeights, mem_computePairWeightsBruteforce]
    constructor
    · rintro ⟨⟨hij, -⟩, hpos, hw⟩
      exact ⟨hij, hpos, hw⟩
    · rintro ⟨hij, hpos, a, b, ha, hb, rfl⟩
      obtain ⟨kind, key, hka, hkb, -⟩ := exists_shares_of_pos hpos
      exact ⟨⟨hij, a, b, key, ha, hb, hka, hkb, hcap key⟩, hpos, a, b, ha, hb, rfl⟩
  exact ⟨hpairs, correlatePairs_congr pairsBelow_computePairWeights hpairs⟩

lemma length_bucketOf_le (records : List DeviceRecord) (key : BucketKey) :
    (bucketOf hints records key).length ≤ records.length := by
  rw [bucketOf, length_map]
  exact (length_filter_le _ _).trans (length_zipIdx).le

end Shared

attribute [local instance] CaseMapping.ascii

instance hexSafe_ascii : HexSafe := by
  refine ⟨fun c hc => ⟨c.toLower, mem_singleton_self _, ?_⟩⟩
  rw [toDigit16_toLower]
  by_contra hdig
  exact hc (isAscii_of_toDigit16 hdig)

def lowConfidence : Confidence := ⟨1 / 4, by norm_num, by norm_num⟩

/-- Two spellings of one MAC, and a record of its own. -/
def spelledRecords : List DeviceRecord :=
  [{ sampleRecord ⟨"ip:0.0.0.1", by simp⟩ 1#32 [] lowConfidence with
      mac := some "AA:BB:CC:00:00:01" },
    sampleRecord ⟨"ip:0.0.0.2", by simp⟩ 2#32 [.snmpSysName ""] lowConfidence,
    { sampleRecord ⟨"ip:0.0.0.3", by simp⟩ 3#32 [] lowConfidence with
      mac := some "aabb-cc00-0001" }]

/-- The search finds the two spellings. -/
theorem bucketed_pairs_complete_spellings :
    (0, 2, 5 / 10) ∈ computePairWeights .insertion {} spelledRecords ∧
    correlate .insertion {} spelledRecords = correlateBruteforce {} spelledRecords := by
  have hcom := (bucketed_pairs_complete .insertion {} spelledRecords).2 fun key =>
    (length_bucketOf_le _ _ key).trans (by decide)
  refine ⟨(hcom.1 _).mpr ?_, hcom.2⟩
  decide +kernel

end Rastreo
