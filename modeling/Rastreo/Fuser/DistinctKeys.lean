import Rastreo.Fuser.Aliases
import Rastreo.Fuser.Chain

/-!
# Distinct keys

Chains of high-band pairs are keyed as their leading records.  Address keys of different targets
never clash, nor with MAC keys; but the direct fuser keys a record by its first MAC, and two chains
may both show that MAC (`separate_keys_iff`).
-/

namespace Rastreo

open List

section Keys

variable [CaseMapping] {hints : IdentityHints}

lemma nodup_keys_iff {order : HashOrder} {records out : List DeviceRecord}
    (hout : List.Forall₂ (IsEmitted records (mediumPeersOf order hints records))
      (deviceGroups order hints records) out) :
    (out.map (·.identityKey)).Nodup ↔
      ∀ (m m' : ℕ) (a b : DeviceRecord), Leads hints records m → Leads hints records m' → m ≠ m' →
        records[m]? = some a → records[m']? = some b → a.identityKey ≠ b.identityKey := by
  rw [List.Nodup, pairwise_map, pairwise_iff_getElem]
  constructor
  · intro hnd m m' a b hm hm' hne ha hb hkey
    obtain ⟨k, g, r, hg, hmg, hr, hemit⟩ := exists_emitted hout hm.1
    obtain ⟨l, h, s, hh, hmh, hs, hemit'⟩ := exists_emitted hout hm'.1
    have hkl : k ≠ l := ne_of_not_chained (fun hchain => hne (hm.unique hm' hchain)) hg hmg hh hmh
    have hrs : r.identityKey = s.identityKey := by
      rw [identityKey_of_leads hm ha hg hmg hemit.isOutputOf,
        identityKey_of_leads hm' hb hh hmh hemit'.isOutputOf, hkey]
    obtain ⟨hk, rfl⟩ := List.getElem?_eq_some_iff.mp hr
    obtain ⟨hl, rfl⟩ := List.getElem?_eq_some_iff.mp hs
    grind
  · intro hlead k l hk hl hlt hkey
    obtain ⟨g, hg, hemit⟩ := getElem?_left_of_right hout (getElem?_eq_getElem hk)
    obtain ⟨h, hh, hemit'⟩ := getElem?_left_of_right hout (getElem?_eq_getElem hl)
    obtain ⟨m, hmg, hm, hmr⟩ := exists_leads hg
    obtain ⟨m', hmh, hm', hmr'⟩ := exists_leads hh
    obtain ⟨a, ha, hak⟩ := hemit.isOutputOf.identityKey_eq
    obtain ⟨b, hb, hbk⟩ := hemit'.isOutputOf.identityKey_eq
    have hne : m ≠ m' := by
      rintro rfl
      exact hlt.ne (representedBy_unique ⟨g, hg, hmg⟩ ⟨h, hh, hmh⟩)
    grind

/-! ## Records of the direct fuser -/

/-- Equal up to letter case and trailing blanks. -/
def SameMacKey (x y : String) : Prop :=
  IdentityKey.new ("mac:" ++ x) = IdentityKey.new ("mac:" ++ y)

lemma identityKey_eq_iff {os os' : List ProbeOutcome} {a b : DeviceRecord}
    (ha : IsFusedFrom os a) (hb : IsFusedFrom os' b) (hne : a.mgmtIp ≠ b.mgmtIp) :
    a.identityKey = b.identityKey ↔ ∃ x y, a.mac = some x ∧ b.mac = some y ∧ SameMacKey x y := by
  obtain ⟨o, -, -, haip, hakey⟩ := ha.keyed
  obtain ⟨o', -, -, hbip, hbkey⟩ := hb.keyed
  have hip : o.targetIp ≠ o'.targetIp := fun h => hne (by rw [haip, hbip, h])
  obtain ⟨ka, hka, hta⟩ := identityKey_ip o.targetIp
  obtain ⟨kb, hkb, htb⟩ := identityKey_ip o'.targetIp
  cases hma : a.mac with
  | none =>
    rw [hma, identityValue, hka] at hakey
    obtain rfl := Except.ok.inj hakey
    simp only [reduceCtorEq, false_and, exists_false, iff_false]
    intro hkey
    cases hmb : b.mac with
    | none =>
      rw [hmb, identityValue, hkb] at hbkey
      rw [← Except.ok.inj hbkey, IdentityKey.ext'_iff, hta, htb, String.append_right_inj] at hkey
      exact hip (IpAddr.display_injective hkey)
    | some y =>
      obtain ⟨k, t, hk, ht⟩ := identityKey_mac y
      rw [hmb, identityValue, hk] at hbkey
      rw [← Except.ok.inj hbkey, IdentityKey.ext'_iff, hta, ht] at hkey
      exact absurd (congrArg (·.toList.head?) hkey) (by simp)
  | some x =>
    obtain ⟨k, t, hk, ht⟩ := identityKey_mac x
    rw [hma, identityValue] at hakey
    cases hmb : b.mac with
    | none =>
      rw [hmb, identityValue, hkb] at hbkey
      rw [hk] at hakey
      rw [← Except.ok.inj hbkey, ← Except.ok.inj hakey, IdentityKey.ext'_iff, htb, ht]
      simp only [reduceCtorEq, false_and, and_false, exists_false, iff_false]
      exact fun hkey => absurd (congrArg (·.toList.head?) hkey) (by simp)
    | some y =>
      rw [hmb, identityValue] at hbkey
      simp only [Option.some.injEq, exists_and_left, exists_eq_left', SameMacKey, hakey, hbkey,
        Except.ok.injEq]

/-- The records of the targets that yield one, in order. -/
def fusedRecords (f : DirectFuser) (targets : List (List ProbeOutcome)) : List DeviceRecord :=
  targets.filterMap fun outcomes => (f.fuseOne outcomes).toOption.join

/-- Outcome lists of targets with pairwise distinct addresses. -/
def DistinctAddresses (targets : List (List ProbeOutcome)) : Prop :=
  targets.Pairwise fun os os' => ∀ o ∈ os, ∀ o' ∈ os', o.targetIp ≠ o'.targetIp

variable {f : DirectFuser} {targets : List (List ProbeOutcome)}

lemma exists_isFusedFrom {a : DeviceRecord} (h : a ∈ fusedRecords f targets) :
    ∃ os, IsFusedFrom os a := by
  obtain ⟨os, -, hos⟩ := mem_filterMap.mp h
  exact ⟨os, DirectFuser.isFusedFrom_of_fuseOne (toOption_join_eq_some.mp hos)⟩

lemma pairwise_mgmtIp_fusedRecords (h : DistinctAddresses targets) :
    (fusedRecords f targets).Pairwise fun a b => a.mgmtIp ≠ b.mgmtIp := by
  unfold fusedRecords
  rw [pairwise_filterMap]
  refine h.imp fun {os os'} hdisj a ha b hb hip => ?_
  obtain ⟨o, rest, rfl, haip, -⟩ :=
    (DirectFuser.isFusedFrom_of_fuseOne (toOption_join_eq_some.mp ha)).keyed
  obtain ⟨o', rest', rfl, hbip, -⟩ :=
    (DirectFuser.isFusedFrom_of_fuseOne (toOption_join_eq_some.mp hb)).keyed
  rw [haip, hbip] at hip
  grind

/-- Two leading records of different chains show the same MAC. -/
def LeadersShareMac (hints : IdentityHints) (records : List DeviceRecord) : Prop :=
  ∃ (m m' : ℕ) (a b : DeviceRecord) (x y : String), m ≠ m' ∧
    Leads hints records m ∧ records[m]? = some a ∧ a.mac = some x ∧
    Leads hints records m' ∧ records[m']? = some b ∧ b.mac = some y ∧ SameMacKey x y

lemma nodup_keys_fused_iff {order : HashOrder} {out : List DeviceRecord}
    (h : DistinctAddresses targets) (hout : List.Forall₂
      (IsEmitted (fusedRecords f targets) (mediumPeersOf order hints (fusedRecords f targets)))
      (deviceGroups order hints (fusedRecords f targets)) out) :
    (out.map (·.identityKey)).Nodup ↔ ¬ LeadersShareMac hints (fusedRecords f targets) := by
  have hpair := pairwise_iff_getElem.mp (pairwise_mgmtIp_fusedRecords (f := f) h)
  have hkey : ∀ {m m' : ℕ} {a b : DeviceRecord}, m ≠ m' →
      (fusedRecords f targets)[m]? = some a → (fusedRecords f targets)[m']? = some b →
      (a.identityKey = b.identityKey ↔
        ∃ x y, a.mac = some x ∧ b.mac = some y ∧ SameMacKey x y) := by
    intro m m' a b hne ha hb
    obtain ⟨os, hos⟩ := exists_isFusedFrom (mem_of_getElem? ha)
    obtain ⟨os', hos'⟩ := exists_isFusedFrom (mem_of_getElem? hb)
    apply identityKey_eq_iff hos hos'
    obtain ⟨hm, rfl⟩ := List.getElem?_eq_some_iff.mp ha
    obtain ⟨hm', rfl⟩ := List.getElem?_eq_some_iff.mp hb
    grind
  rw [nodup_keys_iff hout]
  constructor
  · rintro hdis ⟨m, m', a, b, x, y, hne, hm, ha, hx, hm', hb, hy, hxy⟩
    grind
  · intro hshare m m' a b hm hm' hne ha hb heq
    obtain ⟨x, y, hx, hy, hxy⟩ := (hkey hne ha hb).mp heq
    exact hshare ⟨m, m', a, b, x, y, hne, hm, ha, hx, hm', hb, hy, hxy⟩

/-! ## The identity fuser over the direct fuser -/

/-- Of an identity fuser over a direct one, after all targets. -/
def finishOverDirect (order : HashOrder) (f : DirectFuser) (hints : IdentityHints)
    (targets : List (List ProbeOutcome)) : Except FuserFault (List DeviceRecord) := do
  let (_, fuser) ←
    ((Fuser.identity (.direct f) hints []).ingestAll targets).mapError FuserFault.error
  let (records, _) ← fuser.finish order
  pure records

lemma ingestAll_identity_direct (targets : List (List ProbeOutcome)) (buffer : List DeviceRecord)
    (hok : ∀ os ∈ targets, ∃ r, f.fuseOne os = .ok r) :
    (Fuser.identity (.direct f) hints buffer).ingestAll targets =
      .ok ([], .identity (.direct f) hints (buffer ++ fusedRecords f targets)) := by
  induction targets generalizing buffer with
  | nil => simp [Fuser.ingestAll, fusedRecords, pure, Except.pure]
  | cons os targets ih =>
    obtain ⟨r, hr⟩ := hok os mem_cons_self
    have hstep : (Fuser.identity (.direct f) hints buffer).ingest os =
        .ok ([], .identity (.direct f) hints (buffer ++ r.toList)) := by
      cases r <;> simp [Fuser.ingest, hr, pure, Except.pure]
    have hrest := ih (buffer ++ r.toList) fun os' hos' => hok os' (mem_cons_of_mem _ hos')
    have hfused : fusedRecords f (os :: targets) = r.toList ++ fusedRecords f targets := by
      cases r <;> simp [fusedRecords, hr, Except.toOption]
    grind [Fuser.ingestAll, ok_bind]

lemma fuseOne_ok_of_ingestAll {buffer : List DeviceRecord} {st : List DeviceRecord × Fuser}
    (h : (Fuser.identity (.direct f) hints buffer).ingestAll targets = .ok st) :
    ∀ os ∈ targets, ∃ r, f.fuseOne os = .ok r := by
  induction targets generalizing buffer with
  | nil => simp
  | cons os targets ih =>
    unfold Fuser.ingestAll at h ih
    obtain ⟨st', hst', hrest⟩ := bind_eq_ok.mp h
    obtain ⟨⟨records, fuser⟩, hstep, hst''⟩ := bind_eq_ok.mp hst'
    obtain ⟨⟨rs, inner⟩, hinner, heq⟩ := bind_eq_ok.mp hstep
    obtain ⟨r, hr, hr'⟩ := bind_eq_ok.mp hinner
    obtain ⟨rfl, rfl⟩ := Prod.mk.inj (Except.ok.inj heq)
    obtain rfl := Except.ok.inj hst''
    have hinn' : inner = .direct f := by
      cases r with
      | none => exact (Prod.mk.inj (Except.ok.inj hr')).2.symm
      | some a => exact (Prod.mk.inj (Except.ok.inj hr')).2.symm
    subst hinn'
    intro os' hos'
    grind

lemma finishOverDirect_eq (order : HashOrder) (hints : IdentityHints)
    (hok : ∀ os ∈ targets, ∃ r, f.fuseOne os = .ok r) :
    ∃ out, finishOverDirect order f hints targets = .ok out ∧ List.Forall₂
        (IsEmitted (fusedRecords f targets) (mediumPeersOf order hints (fusedRecords f targets)))
        (deviceGroups order hints (fusedRecords f targets)) out := by
  obtain ⟨out, hrun, hout⟩ := correlate_emitted order hints (fusedRecords f targets)
  refine ⟨out, ?_, hout⟩
  unfold finishOverDirect
  rw [ingestAll_identity_direct targets [] hok]
  simp [Except.mapError, Fuser.finish, hrun, pure, Except.pure]

/-- With non-negative parameters records are returned; and whenever they are, their keys are
distinct exactly when no two leaders show the same MAC. -/
theorem separate_keys_iff (order : HashOrder) (f : DirectFuser) (hints : IdentityHints)
    (targets : List (List ProbeOutcome)) (hips : DistinctAddresses targets) :
    (0 ≤ f.confidenceBaseline → 0 ≤ f.confidencePerSignal →
      ∃ out, finishOverDirect order f hints targets = .ok out) ∧
    ∀ out, finishOverDirect order f hints targets = .ok out →
      ((out.map (·.identityKey)).Nodup ↔ ¬ LeadersShareMac hints (fusedRecords f targets)) := by
  constructor
  · intro hb hs
    obtain ⟨out, hrun, -⟩ := finishOverDirect_eq (f := f) order hints
      fun (os : List ProbeOutcome) (_ : os ∈ targets) => DirectFuser.fuseOne_ok hb hs os
    exact ⟨out, hrun⟩
  · intro out hrun
    obtain ⟨st, hst, -⟩ := bind_eq_ok.mp hrun
    obtain ⟨out', hrun', hout⟩ := finishOverDirect_eq order hints
      (fuseOne_ok_of_ingestAll (mapError_eq_ok.mp hst))
    obtain rfl := Except.ok.inj (hrun.symm.trans hrun')
    exact nodup_keys_fused_iff hips hout

end Keys

attribute [local instance] CaseMapping.ascii

/-- One outcome of a target that answered with a MAC. -/
def arpOutcome (ip : BitVec 32) (mac : String) : List ProbeOutcome :=
  [{ kind := .arp, targetIp := .v4 ip, timestamp := 0, reachable := true, signals := [.mac mac] }]

/-- The condition at two targets with two MACs. -/
theorem separate_keys_iff_two :
    let targets := [arpOutcome 1#32 "00:11:22:33:44:55", arpOutcome 2#32 "00:11:22:33:44:66"]
    (∃ out, finishOverDirect .insertion {} {} targets = .ok out) ∧
    ∀ out, finishOverDirect .insertion {} {} targets = .ok out →
      ((out.map (·.identityKey)).Nodup ↔ ¬ LeadersShareMac {} (fusedRecords {} targets)) := by
  have hips : DistinctAddresses
      [arpOutcome 1#32 "00:11:22:33:44:55", arpOutcome 2#32 "00:11:22:33:44:66"] := by
    simp [DistinctAddresses, arpOutcome]
  obtain ⟨hrun, hiff⟩ := separate_keys_iff .insertion {} {} _ hips
  exact ⟨hrun (by norm_num) (by norm_num), hiff⟩

/-- Two targets with one virtual-router MAC stay apart under the same key. -/
theorem shared_virtual_mac_same_key :
    let targets := [arpOutcome 1#32 "00:00:5e:00:01:0a", arpOutcome 2#32 "00:00:5e:00:01:0a"]
    DistinctAddresses targets ∧
      (finishOverDirect .insertion {} {} targets).map
          (fun out => out.map fun r => (r.mgmtIp, r.identityKey.asStr)) =
        .ok [(some (.v4 1#32), "mac:00:00:5e:00:01:0a"),
          (some (.v4 2#32), "mac:00:00:5e:00:01:0a")] := by
  refine ⟨by simp [DistinctAddresses, arpOutcome], ?_⟩
  decide +kernel

end Rastreo
