import Rastreo.Library.Results
import Rastreo.Fuser.Correlate
import Mathlib.Data.List.MinMax
import Mathlib.Tactic.Linarith

/-!
# What a merged record is

`IsMergeOf rs r`: scalar fields come from the earliest member of highest confidence, or else from
the first member with a value; lists are the members' at first occurrences; additional addresses are
those of the other members.  `mergeGroup` produces such a record from members whose slots are full.
-/

namespace Rastreo

open List

/-! ## The specification -/

/-- The earliest of the records of highest confidence. -/
def leader (rs : List DeviceRecord) : Option DeviceRecord :=
  rs.argmax fun r => r.confidence.value

/-- The scalar fields that fall back to another member. -/
def scalarFields : List (DeviceRecord → Option String) :=
  [(·.mac), (·.manufacturer), (·.model), (·.productFamily), (·.platform), (·.osVersion),
    (·.sshVersion), (·.httpServer), (·.httpVersion), (·.role)]

/-- What merging `rs` should give. -/
structure IsMergeOf (rs : List DeviceRecord) (r : DeviceRecord) : Prop where
  /-- Key, schema tags and provenance are the leader's; other scalars the leader's or else the first
  there is. -/
  fromLeader : ∃ best, leader rs = some best ∧ r.identityKey = best.identityKey ∧
    r.schemaVersion = best.schemaVersion ∧ r.schemaId = best.schemaId ∧
    r.scanMetadata = best.scanMetadata ∧
    (∀ f ∈ scalarFields, f r = (f best).or (rs.findSome? f)) ∧
    r.confidence.value = min (best.confidence.value + mergeConfidenceBonus) 1
  mgmtIp_eq : r.mgmtIp = rs.head?.bind (·.mgmtIp)
  /-- Those of the other members, in order, without repeats and the management address. -/
  altIps_address : r.altIps.map (·.address) =
    (rs.tail.filterMap (·.mgmtIp)).eraseDups.filter fun ip => r.mgmtIp ≠ some ip
  altIps_origin : ∀ alt ∈ r.altIps, ∃ m,
    (rs.tail.find? fun m => m.mgmtIp = some alt.address) = some m ∧
      alt.role = altipRoleFromMac m.mac ∧ alt.respondedVia = m.probeKinds
  lastSeen_max : (∀ m ∈ rs, m.lastSeen ≤ r.lastSeen) ∧ ∃ m ∈ rs, m.lastSeen = r.lastSeen
  signals_eq : r.signals = (rs.flatMap (·.signals)).eraseDups
  probeKinds_eq : r.probeKinds = (rs.flatMap (·.probeKinds)).eraseDups
  possibleAliasOf_eq : r.possibleAliasOf = none

/-! ## Records with other signals -/

namespace DeviceRecord

def replace (mac : DeviceRecord → Option String) (signals : DeviceRecord → List Signal)
    (r : DeviceRecord) : DeviceRecord :=
  { r with mac := mac r, signals := signals r }

def bare (r : DeviceRecord) : DeviceRecord := r.replace (fun _ => none) fun _ => []

lemma eq_of_bare_eq {r r' : DeviceRecord} (h : r.bare = r'.bare) (hmac : r.mac = r'.mac)
    (hsignals : r.signals = r'.signals) : r = r' := by
  cases r
  cases r'
  simp only [bare, replace, DeviceRecord.mk.injEq, true_and] at h hmac hsignals ⊢
  grind

end DeviceRecord

variable {rs : List DeviceRecord} {r : DeviceRecord}

lemma IsMergeOf.altIps_eq (h : IsMergeOf rs r) : r.altIps = (r.altIps.map (·.address)).map fun ip =>
      ⟨ip, ((rs.tail.find? fun m => m.mgmtIp = some ip).map fun m => altipRoleFromMac m.mac).join,
        ((rs.tail.find? fun m => m.mgmtIp = some ip).map (·.probeKinds)).getD []⟩ := by
  rw [map_map]
  refine (map_id _).symm.trans (map_congr_left fun alt halt => ?_)
  obtain ⟨m, hm, hrole, hvia⟩ := h.altIps_origin alt halt
  simp only [Function.comp_apply, hm, Option.map_some, Option.join_some, Option.getD_some, ← hrole,
    ← hvia]
  rfl

lemma argmax_map {α β γ : Type*} [LinearOrder γ] (f : β → γ) (g : α → β) (l : List α) :
    (l.map g).argmax f = (l.argmax (f ∘ g)).map g := by
  induction l using List.reverseRecOn with
  | nil => rfl
  | append_singleton l a ih =>
    rw [map_append, map_singleton, argmax_concat, argmax_concat, ih]
    cases l.argmax (f ∘ g) with
    | none => rfl
    | some c =>
      simp only [Option.map_some, Function.comp_apply]
      split_ifs <;> rfl

/-- Signals do not change the rest of the merge. -/
lemma IsMergeOf.bare_eq {mac : DeviceRecord → Option String} {signals : DeviceRecord → List Signal}
    (hrole : ∀ r, altipRoleFromMac (mac r) = altipRoleFromMac r.mac) {r' : DeviceRecord}
    (h : IsMergeOf rs r) (h' : IsMergeOf (rs.map (DeviceRecord.replace mac signals)) r') :
    r'.bare = r.bare := by
  obtain ⟨best, hbest, hkey, hver, hid, hmeta, hfields, hconf⟩ := h.fromLeader
  obtain ⟨best', hbest', hkey', hver', hid', hmeta', hfie', hconf'⟩ := h'.fromLeader
  obtain rfl : best.replace mac signals = best' := by
    have hleader : leader (rs.map (DeviceRecord.replace mac signals)) =
        (leader rs).map (DeviceRecord.replace mac signals) := argmax_map _ _ _
    grind
  -- The fields other than the MAC are those of the members as they were.
  have hfield : ∀ f ∈ scalarFields, (∀ a, f (DeviceRecord.replace mac signals a) = f a) →
      f r' = f r := by
    intro f hf hkeep
    rw [hfields f hf, hfie' f hf, findSome?_map, hkeep]
    congr 2
    funext a
    exact hkeep a
  have hmgmt : r'.mgmtIp = r.mgmtIp := by
    rw [h.mgmtIp_eq, h'.mgmtIp_eq, head?_map]
    cases rs.head? <;> rfl
  have hadd : r'.altIps.map (·.address) = r.altIps.map (·.address) := by
    rw [h.altIps_address, h'.altIps_address, hmgmt, ← map_tail, filterMap_map]
    rfl
  have halt : r'.altIps = r.altIps := by
    rw [h.altIps_eq, h'.altIps_eq, hadd]
    refine map_congr_left fun ip _ => ?_
    rw [← map_tail, find?_map]
    have hfind : ((fun m : DeviceRecord => decide (m.mgmtIp = some ip)) ∘
        DeviceRecord.replace mac signals) = fun m => decide (m.mgmtIp = some ip) := rfl
    rw [hfind]
    cases rs.tail.find? fun m => decide (m.mgmtIp = some ip) with
    | none => rfl
    | some m =>
      simp only [Option.map_some, Option.join_some]
      rw [show (DeviceRecord.replace mac signals m).mac = mac m from rfl, hrole]
      rfl
  have hseen : r'.lastSeen = r.lastSeen := by
    obtain ⟨hle, m, hm, hmax⟩ := h.lastSeen_max
    obtain ⟨hle', m', hm', hmax'⟩ := h'.lastSeen_max
    obtain ⟨a, ha, rfl⟩ := mem_map.mp hm'
    have hother := hle' _ (mem_map_of_mem hm)
    exact le_antisymm (hmax' ▸ hle a ha) (hmax ▸ hother)
  have hkinds : r'.probeKinds = r.probeKinds := by
    rw [h.probeKinds_eq, h'.probeKinds_eq, flatMap_map]
    rfl
  have hcon : r'.confidence = r.confidence := by
    have hval : r'.confidence.value = r.confidence.value := hconf'.trans hconf.symm
    cases hc : r.confidence
    cases hc' : r'.confidence
    grind
  simp only [scalarFields, forall_mem_cons, not_mem_nil, false_implies, implies_true,
    and_true] at hfield
  obtain ⟨-, hman, hmod, hfamily, hpla, hos, hssh, hserver, hhttp, hrec⟩ :=
    hfield
  simp only [DeviceRecord.bare, DeviceRecord.replace, DeviceRecord.mk.injEq]
  exact ⟨hkey'.trans hkey.symm, hmgmt, trivial, hman fun _ => rfl, hmod fun _ => rfl,
    hfamily fun _ => rfl, hpla fun _ => rfl, hos fun _ => rfl, hssh fun _ => rfl,
    hserver fun _ => rfl, hhttp fun _ => rfl, hrec fun _ => rfl, hcon, hseen, trivial,
    hkinds, hver'.trans hver.symm, hid'.trans hid.symm, halt,
    h'.possibleAliasOf_eq.trans h.possibleAliasOf_eq.symm, hmeta'.trans hmeta.symm⟩

/-- The members determine the merged record. -/
theorem IsMergeOf.unique {r' : DeviceRecord} (h : IsMergeOf rs r) (h' : IsMergeOf rs r') :
    r = r' := by
  have hsame := map_id rs
  have hbare : r'.bare = r.bare := h.bare_eq (fun _ => rfl) (hsame.symm ▸ h')
  obtain ⟨best, hbest, -, -, -, -, hfields, -⟩ := h.fromLeader
  obtain ⟨best', hbest', -, -, -, -, hfie', -⟩ := h'.fromLeader
  obtain rfl := Option.mem_unique hbest hbest'
  have hmac : r.mac = r'.mac :=
    (hfields _ mem_cons_self).trans (hfie' _ mem_cons_self).symm
  exact DeviceRecord.eq_of_bare_eq hbare.symm hmac (h.signals_eq.trans h'.signals_eq.symm)

/-! ## Slots that are present -/

lemma index_of_getElem? {α : Type} {l : List α} {i : ℕ} {a : α} (h : l[i]? = some a) :
    index l i = .ok a := by
  rw [index, h]

section Slots

variable {slots : List (Option DeviceRecord)} {record : ℕ → DeviceRecord} {members : List ℕ}

lemma foldlM_members {σ : Type} {step : σ → ℕ → Except Panic σ} {pureStep : σ → DeviceRecord → σ}
    (hstep : ∀ s i r, slots[i]? = some (some r) → step s i = .ok (pureStep s r))
    (hfull : ∀ i ∈ members, slots[i]? = some (some (record i))) (s : σ) :
    members.foldlM step s = .ok ((members.map record).foldl pureStep s) := by
  rw [foldl_map]
  grind [foldlM_ok]

lemma bestMember_spec {first : ℕ} {rest : List ℕ}
    (hfull : ∀ i ∈ first :: rest, slots[i]? = some (some (record i))) :
    ∃ b, (first :: rest).argmax (fun i => (record i).confidence.value) = some b ∧
      bestMember slots first rest = .ok (b, (record b).confidence.value) := by
  have hloop : bestMember slots first rest = .ok (rest.foldl (fun best i =>
      if best.2 < (record i).confidence.value then (i, (record i).confidence.value) else best)
      (first, (record first).confidence.value)) := by
    rw [bestMember, index_of_getElem? (hfull first mem_cons_self)]
    refine foldlM_ok (fun s i hi => ?_) _
    rw [index_of_getElem? (hfull i (mem_cons_of_mem first hi))]
    rfl
  rw [hloop]
  clear hloop hfull
  induction rest using List.reverseRecOn with
  | nil => exact ⟨first, rfl, rfl⟩
  | append_singleton rest i ih =>
    obtain ⟨b, hb, hfold⟩ := ih
    have hfold := Except.ok.inj hfold
    rw [← cons_append, argmax_concat, hb, foldl_append, hfold]
    simp only [foldl_cons, foldl_nil]
    grind

lemma mergeField_spec (hfull : ∀ i ∈ members, slots[i]? = some (some (record i)))
    (best : DeviceRecord) (f : DeviceRecord → Option String) :
    mergeField slots members best f = .ok ((f best).or ((members.map record).findSome? f)) := by
  have hfst : firstNonNone slots f members = .ok ((members.map record).findSome? f) := by
    induction members with
    | nil => rfl
    | cons i rest ih =>
      rw [firstNonNone, index_of_getElem? (hfull i mem_cons_self), ok_bind, map_cons,
        findSome?_cons]
      cases hf : f (record i) with
      | some v => simp [hf, pure, Except.pure]
      | none =>
        simp only [Option.bind_some, hf]
        grind
  rw [mergeField]
  cases hf : f best with
  | some v => rfl
  | none => simpa using hfst

lemma mergeList_spec {α : Type} [DecidableEq α]
    (hfull : ∀ i ∈ members, slots[i]? = some (some (record i))) (f : DeviceRecord → List α) :
    mergeList slots members f = .ok ((members.map record).flatMap f).eraseDups := by
  have hpure : ∀ (rs : List DeviceRecord) (l : List α),
      rs.foldl (fun acc r => (f r).foldl pushNew acc) l.eraseDups =
        (l ++ rs.flatMap f).eraseDups := by
    intro rs
    induction rs with
    | nil => simp
    | cons r rs ih =>
      intro l
      rw [foldl_cons, foldl_pushNew_eraseDups, ih, flatMap_cons, append_assoc]
  have hloop : mergeList slots members f =
      .ok ((members.map record).foldl (fun acc r => (f r).foldl pushNew acc) []) :=
    foldlM_members (fun acc i r hr => by rw [index_of_getElem? hr]; rfl) hfull []
  rw [hloop]
  exact congrArg Except.ok (hpure (members.map record) [])

/-- The latest of the members and the start. -/
lemma mergeLastSeen_spec (hfull : ∀ i ∈ members, slots[i]? = some (some (record i)))
    (start : SystemTime) : ∃ t, mergeLastSeen slots members start = .ok t ∧
      (start ≤ t ∧ ∀ m ∈ members.map record, m.lastSeen ≤ t) ∧
      (start = t ∨ ∃ m ∈ members.map record, m.lastSeen = t) := by
  have hloop : mergeLastSeen slots members start = .ok ((members.map record).foldl
      (fun lastSeen r => if lastSeen < r.lastSeen then r.lastSeen else lastSeen) start) :=
    foldlM_members (fun lastSeen i r hr => by rw [index_of_getElem? hr]; rfl) hfull start
  refine ⟨_, hloop, ?_⟩
  clear hloop hfull
  induction members.map record generalizing start with
  | nil => exact ⟨⟨le_rfl, forall_mem_nil _⟩, .inl rfl⟩
  | cons m rs ih =>
    rw [foldl_cons]
    obtain ⟨⟨hst, hle⟩, hatt⟩ := ih (if start < m.lastSeen then m.lastSeen else start)
    refine ⟨⟨le_trans ?_ hst, ?_⟩, ?_⟩
    · grind
    · intro m' hm'
      rcases mem_cons.mp hm' with rfl | hm'
      · refine le_trans ?_ hst
        grind
      · exact hle m' hm'
    · rcases hatt with hatt | ⟨m', hm', heq⟩
      · split_ifs at hatt with hlt
        · grind
        · exact .inl (by rw [if_neg hlt]; exact hatt)
      · grind

/-- The body of the address loop on a member's record. -/
def altIpStep (st : List AltIp × List IpAddr) (r : DeviceRecord) : List AltIp × List IpAddr :=
  match r.mgmtIp with
  | none => st
  | some ip =>
    if ip ∈ st.2 then st
    else (st.1 ++ [⟨ip, altipRoleFromMac r.mac, r.probeKinds⟩], ip :: st.2)

/-- Kept by the address loop after `rs`. -/
structure AltIpsOf (mgmtIp : Option IpAddr) (rs : List DeviceRecord)
    (st : List AltIp × List IpAddr) : Prop where
  /-- The addresses collected so far. -/
  address : st.1.map (·.address) =
    (rs.filterMap (·.mgmtIp)).eraseDups.filter fun ip => mgmtIp ≠ some ip
  /-- Each comes from the first member with that address. -/
  origin : ∀ alt ∈ st.1, ∃ m, (rs.find? fun m => m.mgmtIp = some alt.address) = some m ∧
    alt.role = altipRoleFromMac m.mac ∧ alt.respondedVia = m.probeKinds
  /-- The addresses seen so far. -/
  seen : ∀ ip, ip ∈ st.2 ↔ mgmtIp = some ip ∨ ip ∈ rs.filterMap (·.mgmtIp)

/-- One more member keeps the address loop's description. -/
lemma AltIpsOf.step {mgmtIp : Option IpAddr} {rs : List DeviceRecord}
    {st : List AltIp × List IpAddr} (h : AltIpsOf mgmtIp rs st) (r : DeviceRecord) :
    AltIpsOf mgmtIp (rs ++ [r]) (altIpStep st r) := by
  have hfind : ∀ alt ∈ st.1, ∃ m,
      ((rs ++ [r]).find? fun m => m.mgmtIp = some alt.address) = some m ∧
        alt.role = altipRoleFromMac m.mac ∧ alt.respondedVia = m.probeKinds := by
    intro alt halt
    obtain ⟨m, hm, hrest⟩ := h.origin alt halt
    exact ⟨m, by rw [find?_append, hm]; rfl, hrest⟩
  unfold altIpStep
  cases hip : r.mgmtIp with
  | none =>
    have hmap : (rs ++ [r]).filterMap (·.mgmtIp) = rs.filterMap (·.mgmtIp) := by grind
    exact ⟨by rw [hmap]; exact h.address, hfind, fun ip => by rw [hmap]; exact h.seen ip⟩
  | some ip =>
    have hmap : (rs ++ [r]).filterMap (·.mgmtIp) = rs.filterMap (·.mgmtIp) ++ [ip] := by grind
    have hmem : ip ∈ (rs.filterMap (·.mgmtIp)).eraseDups ↔ ip ∈ rs.filterMap (·.mgmtIp) :=
      mem_eraseDups
    have haddr := h.address
    by_cases hseen : ip ∈ st.2
    · simp only [if_pos hseen]
      refine ⟨?_, hfind, fun ip' => ?_⟩
      · rw [hmap, eraseDups_concat, pushNew, haddr]
        split_ifs with hold
        · rfl
        · have hmgmt := ((h.seen ip).mp hseen).resolve_right (fun hh => hold (hmem.mpr hh))
          simp [filter_append, hmgmt]
      · rw [hmap, h.seen ip', mem_append, mem_singleton, ← or_assoc]
        refine ⟨.inl, ?_⟩
        rintro (hh | rfl)
        · exact hh
        · exact (h.seen ip').mp hseen
    · simp only [if_neg hseen]
      have hnew : ip ∉ rs.filterMap (·.mgmtIp) := fun hh => hseen ((h.seen ip).mpr (.inr hh))
      have hmgmt : mgmtIp ≠ some ip := fun hh => hseen ((h.seen ip).mpr (.inl hh))
      refine ⟨?_, ?_, fun ip' => ?_⟩
      · rw [hmap, eraseDups_concat, pushNew, if_neg (fun hh => hnew (hmem.mp hh)),
          filter_append, map_append, haddr]
        simp [hmgmt]
      · intro alt halt
        rcases mem_append.mp halt with halt | halt
        · exact hfind alt halt
        · rw [mem_singleton.mp halt]
          have hnone : (rs.find? fun m => m.mgmtIp = some ip) = none := by
            rw [find?_eq_none]
            intro m hm hmip
            grind
          grind
      · rw [hmap, mem_cons, h.seen ip', mem_append, mem_singleton]
        tauto

lemma mergeAltIps_spec {first : ℕ} {rest : List ℕ} (hnd : (first :: rest).Nodup)
    (hfull : ∀ i ∈ first :: rest, slots[i]? = some (some (record i))) (mgmtIp : Option IpAddr) :
    ∃ st, mergeAltIps slots first mgmtIp (first :: rest) = .ok st.1 ∧
      AltIpsOf mgmtIp (rest.map record) st := by
  obtain ⟨hfst, -⟩ := nodup_cons.mp hnd
  have hloop : mergeAltIps slots first mgmtIp (first :: rest) =
      .ok ((rest.map record).foldl altIpStep ([], mgmtIp.toList)).1 := by
    rw [mergeAltIps, foldlM_cons, if_pos rfl, foldl_map]
    rw [show ((pure ([], mgmtIp.toList) : Except Panic (List AltIp × List IpAddr))) =
      .ok ([], mgmtIp.toList) from rfl, ok_bind,
      foldlM_ok (g := fun st i => altIpStep st (record i))]
    · rfl
    · intro st i hi
      have hne : i ≠ first := fun h => hfst (h ▸ hi)
      rw [if_neg hne, index_of_getElem? (hfull i (mem_cons_of_mem first hi)), ok_bind]
      unfold altIpStep
      cases hip : (record i).mgmtIp with
      | none => simp only [hip]; rfl
      | some ip => simp only [hip]; split_ifs <;> rfl
  refine ⟨_, hloop, ?_⟩
  induction rest.map record using List.reverseRecOn with
  | nil => exact ⟨rfl, forall_mem_nil _, fun ip => by simp⟩
  | append_singleton rs r ih =>
    rw [foldl_append]
    exact ih.step r

/-- With the parts the loops compute. -/
def assembleMerged (rs : List DeviceRecord) (best : DeviceRecord) (altIps : List AltIp)
    (confidence : Confidence) (lastSeen : SystemTime) : DeviceRecord :=
  let field := fun (f : DeviceRecord → Option String) => (f best).or (rs.findSome? f)
  { identityKey := best.identityKey, mgmtIp := rs.head?.bind (·.mgmtIp), mac := field (·.mac),
    manufacturer := field (·.manufacturer), model := field (·.model),
    productFamily := field (·.productFamily), platform := field (·.platform),
    osVersion := field (·.osVersion), sshVersion := field (·.sshVersion),
    httpServer := field (·.httpServer), httpVersion := field (·.httpVersion),
    role := field (·.role), confidence, lastSeen,
    signals := (rs.flatMap (·.signals)).eraseDups,
    probeKinds := (rs.flatMap (·.probeKinds)).eraseDups,
    schemaVersion := best.schemaVersion, schemaId := best.schemaId, altIps,
    possibleAliasOf := none, scanMetadata := best.scanMetadata }

/-- Full slots are merged, and that of one member is emptied. -/
theorem mergeGroup_spec (hne : members ≠ []) (hnd : members.Nodup)
    (hfull : ∀ i ∈ members, slots[i]? = some (some (record i))) :
    ∃ b ∈ members, ∃ r, mergeGroup slots members = .ok (r, slots.set b none) ∧
      IsMergeOf (members.map record) r := by
  obtain ⟨first, rest, rfl⟩ := exists_cons_of_ne_nil hne
  obtain ⟨b, hb, hbest⟩ := bestMember_spec hfull
  have hbmem : b ∈ first :: rest := argmax_mem hb
  obtain ⟨st, halt, haltIps⟩ := mergeAltIps_spec hnd hfull (record first).mgmtIp
  obtain ⟨t, ht, ⟨hst, hle⟩, hatt⟩ := mergeLastSeen_spec hfull (record b).lastSeen
  have hbonus : 0 ≤ (record b).confidence.value + mergeConfidenceBonus :=
    add_nonneg (record b).confidence.nonneg (by unfold mergeConfidenceBonus; norm_num)
  have hclamp : clampUnit ((record b).confidence.value + mergeConfidenceBonus) =
      min ((record b).confidence.value + mergeConfidenceBonus) 1 := by
    unfold clampUnit
    rw [if_neg (not_lt.mpr hbonus)]
    split_ifs with h
    · grind
    · grind
  have hunit : 0 ≤ min ((record b).confidence.value + mergeConfidenceBonus) 1 ∧
      min ((record b).confidence.value + mergeConfidenceBonus) 1 ≤ 1 :=
    ⟨le_min hbonus zero_le_one, min_le_right _ _⟩
  have hleader : leader ((first :: rest).map record) = some (record b) := by
    rw [leader, argmax_map]
    exact congrArg (Option.map record) hb
  refine ⟨b, hbmem, assembleMerged ((first :: rest).map record) (record b) st.1
    ⟨_, hunit.1, hunit.2⟩ t, ?_, ?_⟩
  · simp only [mergeGroup, index_of_getElem? (show (first :: rest)[0]? = some first from rfl),
      index_of_getElem? (hfull first mem_cons_self), index_of_getElem? (hfull b hbmem),
      ok_bind, tail_cons, hbest, Option.bind_some, halt, expectRecord,
      mergeField_spec hfull, hclamp, Confidence.new_of_mem hunit, Except.mapError, ht,
      mergeList_spec hfull]
    rfl
  · exact {
      fromLeader := ⟨record b, hleader, rfl, rfl, rfl, rfl, by simp [scalarFields, assembleMerged],
        rfl⟩
      mgmtIp_eq := rfl
      altIps_address := haltIps.address
      altIps_origin := haltIps.origin
      lastSeen_max := ⟨hle, hatt.elim (fun h => ⟨record b, mem_map_of_mem hbmem, h⟩) id⟩
      signals_eq := rfl
      probeKinds_eq := rfl
      possibleAliasOf_eq := rfl }

end Slots

end Rastreo
