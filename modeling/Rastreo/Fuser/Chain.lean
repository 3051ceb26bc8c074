import Rastreo.Fuser.Correlate
import Rastreo.Library.Results

/-!
# Fuser chains

The direct fuser turns the outcomes of one target into at most one record, the MIB enrichment fills
record fields from a table, and the identity fuser holds records back until the end and correlates
them.  Wrappers hold their inner fuser; `ingest` and `finish` return the fuser as it is after the
call.
-/

namespace Rastreo

open List

inductive FuserFault where
  | error (e : RastreoError)
  | panic (p : Panic)
  deriving DecidableEq

/-! ## The direct fuser -/

/-- The parameters of the direct fuser. -/
structure DirectFuser where
  confidencePerSignal : ℚ := 1 / 10
  confidenceBaseline : ℚ := 1 / 10
  includeUnreachable : Bool := false
  deriving DecidableEq

def firstMac (outcomes : List ProbeOutcome) : Option String :=
  (outcomes.flatMap (·.signals)).findSome? fun s =>
    match s with
    | .mac m => some m
    | _ => none

/-- The MAC, or else the address scanned. -/
def identityValue (mac : Option String) (mgmtIp : IpAddr) : String :=
  match mac with
  | some m => "mac:" ++ m
  | none => "ip:" ++ mgmtIp.display

section Direct

variable [CaseMapping]

/-- The record of a target that answered, or of any if unreachable ones are kept. -/
def DirectFuser.fuseOne (f : DirectFuser) (outcomes : List ProbeOutcome) :
    Result (Option DeviceRecord) :=
  match outcomes with
  | [] => .ok none
  | first :: _ =>
    if !outcomes.any (·.reachable) && !f.includeUnreachable then .ok none
    else do
      let mgmtIp := first.targetIp
      let mac := firstMac outcomes
      let identityKey ← (IdentityKey.new (identityValue mac mgmtIp)).mapError .config
      let signals := outcomes.foldl (fun acc o => o.signals.foldl pushNew acc) []
      let probeKinds := outcomes.foldl
        (fun acc o => if !o.reachable then acc else pushNew acc o.kind) []
      let raw := f.confidenceBaseline + signals.length * f.confidencePerSignal
      let confidence ← (Confidence.new (min raw 1)).mapError .config
      let lastSeen := (outcomes.map (·.timestamp)).max?.getD 0
      pure (some
        { identityKey, mgmtIp := some mgmtIp, mac, manufacturer := none, model := none,
          productFamily := none, platform := none, osVersion := none, sshVersion := none,
          httpServer := none, httpVersion := none, role := none, confidence, lastSeen, signals,
          probeKinds, schemaVersion := currentSchemaVersion, schemaId := currentSchemaId,
          altIps := [], possibleAliasOf := none, scanMetadata := .default })

lemma identityKey_mac (m : String) : ∃ (k : IdentityKey) (t : String),
      IdentityKey.new ("mac:" ++ m) = .ok k ∧ k.asStr = "mac:" ++ t := by
  have htrim : trim ("mac:" ++ m) = "mac:" ++ String.ofList (m.toList.rdropWhile isWhitespace) :=
    trim_append_of_head (p := "mac:") (c := 'm') (by rfl) (forall_mem_of_all (by decide))
  obtain ⟨k, hk, htext⟩ := IdentityKey.new_of_ne (v := "mac:" ++ m) (by simp [htrim])
  obtain ⟨t, ht⟩ := CaseMapping.strLower_append "mac:"
    (String.ofList (m.toList.rdropWhile isWhitespace)) (forall_mem_of_all (by decide))
  refine ⟨k, t, hk, ?_⟩
  rw [htext, htrim, ht]
  rfl

lemma identityKey_ip (ip : IpAddr) :
    ∃ k : IdentityKey, IdentityKey.new ("ip:" ++ ip.display) = .ok k ∧
      k.asStr = "ip:" ++ ip.display := by
  have hchar : ∀ c ∈ ("ip:" ++ ip.display).toList,
      isWhitespace c = false ∧ isAscii c ∧ c.toLower = c := by
    intro c hc
    rw [String.toList_append, mem_append] at hc
    rcases hc with hc | hc
    · have htag : ∀ c ∈ "ip:".toList, isWhitespace c = false ∧ isAscii c ∧ c.toLower = c :=
        forall_mem_of_all (by decide)
      exact htag c hc
    · exact IpAddr.mem_display_props hc
  have htrim : trim ("ip:" ++ ip.display) = "ip:" ++ ip.display :=
    trim_eq_self fun c hc => (hchar c hc).1
  obtain ⟨k, hk, htext⟩ := IdentityKey.new_of_ne (v := "ip:" ++ ip.display) (by simp [htrim])
  refine ⟨k, hk, ?_⟩
  rw [htext, htrim, CaseMapping.strLower_ascii _ fun c hc => (hchar c hc).2.1, toAsciiLowercase,
    map_congr_left fun c hc => (hchar c hc).2.2, map_id', String.ofList_toList]

lemma identityKey_value (mac : Option String) (ip : IpAddr) :
    ∃ k, IdentityKey.new (identityValue mac ip) = .ok k := by
  cases mac with
  | none =>
    obtain ⟨k, hk, -⟩ := identityKey_ip ip
    exact ⟨k, hk⟩
  | some m =>
    obtain ⟨k, -, hk, -⟩ := identityKey_mac m
    exact ⟨k, hk⟩

omit [CaseMapping] in
lemma foldl_pushNew_signals (outcomes : List ProbeOutcome) :
    outcomes.foldl (fun acc o => o.signals.foldl pushNew acc) [] =
      (outcomes.flatMap (·.signals)).eraseDups := by
  rw [← foldl_pushNew, foldl_flatMap]

structure IsFusedFrom (outcomes : List ProbeOutcome) (r : DeviceRecord) : Prop where
  /-- By the target and its first MAC. -/
  keyed : ∃ first rest, outcomes = first :: rest ∧ r.mgmtIp = some first.targetIp ∧
    IdentityKey.new (identityValue r.mac first.targetIp) = .ok r.identityKey
  mac_eq : r.mac = firstMac outcomes
  signals_eq : r.signals = (outcomes.flatMap (·.signals)).eraseDups
  altIps_eq : r.altIps = []
  possibleAliasOf_eq : r.possibleAliasOf = none

lemma DirectFuser.isFusedFrom_of_fuseOne {f : DirectFuser} {outcomes : List ProbeOutcome}
    {r : DeviceRecord} (h : f.fuseOne outcomes = .ok (some r)) : IsFusedFrom outcomes r := by
  cases outcomes with
  | nil => cases h
  | cons first rest =>
    rw [fuseOne] at h
    split_ifs at h with hskip
    · cases h
    · obtain ⟨key, hkey, h⟩ := bind_eq_ok.mp h
      obtain ⟨conf, -, h⟩ := bind_eq_ok.mp h
      obtain rfl := Option.some.inj (Except.ok.inj h)
      refine ⟨⟨first, rest, rfl, rfl, ?_⟩, rfl, ?_, rfl, rfl⟩
      · exact mapError_eq_ok.mp hkey
      · exact foldl_pushNew_signals _

lemma DirectFuser.fuseOne_ok {f : DirectFuser} (hb : 0 ≤ f.confidenceBaseline)
    (hs : 0 ≤ f.confidencePerSignal) (outcomes : List ProbeOutcome) :
    ∃ r, f.fuseOne outcomes = .ok r := by
  cases outcomes with
  | nil => exact ⟨none, rfl⟩
  | cons first rest =>
    rw [fuseOne]
    split_ifs with hskip
    · exact ⟨none, rfl⟩
    · obtain ⟨key, hkey⟩ := identityKey_value (firstMac (first :: rest)) first.targetIp
      have hraw : ∀ n : ℕ, 0 ≤ min (f.confidenceBaseline + n * f.confidencePerSignal) 1 ∧
          min (f.confidenceBaseline + n * f.confidencePerSignal) 1 ≤ 1 := fun n =>
        ⟨le_min (add_nonneg hb (mul_nonneg n.cast_nonneg hs)) zero_le_one, min_le_right _ _⟩
      simp only [hkey, Confidence.new_of_mem (hraw _)]
      exact ⟨_, rfl⟩

end Direct

/-! ## MIB enrichment -/

structure MibEntry where
  manufacturer : Option String
  model : Option String
  productFamily : Option String
  deriving DecidableEq

abbrev MibTable := AList fun _ : String => MibEntry

def fillIfEmpty (field value : Option String) : Option String :=
  match field with
  | none => value
  | some v => some v

def firstSysObjectId (record : DeviceRecord) : Option String :=
  record.signals.findSome? fun s =>
    match s with
    | .snmpSysObjectId oid => some oid
    | _ => none

/-- Fill the empty fields from the entry of the object identifier. -/
def enrich (table : MibTable) (record : DeviceRecord) : DeviceRecord :=
  match firstSysObjectId record with
  | none => record
  | some oid =>
    match table.lookup oid with
    | none => record
    | some entry =>
      { record with
        model := fillIfEmpty record.model entry.model
        productFamily := fillIfEmpty record.productFamily entry.productFamily
        manufacturer := fillIfEmpty record.manufacturer entry.manufacturer }

/-! ## Chains -/

/-- A fuser with the fusers it wraps. -/
inductive Fuser where
  | direct (f : DirectFuser)
  | mibEnrichment (inner : Fuser) (table : MibTable)
  | identity (inner : Fuser) (hints : IdentityHints) (buffer : List DeviceRecord)

section Chain

variable [CaseMapping]

def Fuser.ingest : Fuser → List ProbeOutcome → Result (List DeviceRecord × Fuser)
  | .direct f, outcomes => do
    match (← f.fuseOne outcomes) with
    | some record => pure ([record], .direct f)
    | none => pure ([], .direct f)
  | .mibEnrichment inner table, outcomes => do
    let (records, inner) ← inner.ingest outcomes
    pure (records.map (enrich table), .mibEnrichment inner table)
  | .identity inner hints buffer, outcomes => do
    let (records, inner) ← inner.ingest outcomes
    pure ([], .identity inner hints (buffer ++ records))

/-- `Fuser::finish`: the records held back. -/
def Fuser.finish (order : HashOrder) : Fuser → Except FuserFault (List DeviceRecord × Fuser)
  | .direct f => pure ([], .direct f)
  | .mibEnrichment inner table => do
    let (records, inner) ← inner.finish order
    pure (records.map (enrich table), .mibEnrichment inner table)
  | .identity inner hints buffer => do
    let (tail, inner) ← inner.finish order
    let records ← (correlate order hints (buffer ++ tail)).mapError FuserFault.panic
    pure (records, .identity inner hints [])

/-- Ingest the outcome lists of several targets in turn. -/
def Fuser.ingestAll (fuser : Fuser) (targets : List (List ProbeOutcome)) :
    Result (List DeviceRecord × Fuser) :=
  targets.foldlM (fun st outcomes => do
      let (records, fuser) ← st.2.ingest outcomes
      pure (st.1 ++ records, fuser))
    ([], fuser)

variable (fuser : Fuser)

lemma Fuser.ingest_nil : fuser.ingest [] = .ok ([], fuser) := by
  induction fuser with
  | direct f => rfl
  | mibEnrichment inner table ih => rw [ingest, ih]; rfl
  | identity inner hints buffer ih =>
    simp [ingest, ih, pure, Except.pure]

variable (targets : List (List ProbeOutcome))

lemma foldlM_ingest (records : List DeviceRecord) (fuser : Fuser) : targets.foldlM
        (fun st outcomes => do
          let (records, fuser) ← Fuser.ingest st.2 outcomes
          pure (st.1 ++ records, fuser))
        (records, fuser) =
      (fuser.ingestAll targets).map fun st => (records ++ st.1, st.2) := by
  induction targets generalizing records fuser with
  | nil =>
    change Except.ok (records, fuser) = .ok (records ++ [], fuser)
    rw [append_nil]
  | cons outcomes targets ih =>
    rw [Fuser.ingestAll, foldlM_cons, foldlM_cons]
    cases fuser.ingest outcomes with
    | error e => rfl
    | ok r =>
      simp only [ok_bind, pure, Except.pure, nil_append] at ih ⊢
      rw [ih, ih]
      cases r.2.ingestAll targets with
      | error e => rfl
      | ok r' => simp [Except.map]

lemma Fuser.ingestAll_cons (outcomes : List ProbeOutcome) (targets : List (List ProbeOutcome)) :
    fuser.ingestAll (outcomes :: targets) = (do
      let (records, fuser) ← fuser.ingest outcomes
      (fuser.ingestAll targets).map fun st => (records ++ st.1, st.2)) := by
  rw [Fuser.ingestAll, foldlM_cons]
  cases fuser.ingest outcomes with
  | error e => rfl
  | ok r => exact foldlM_ingest targets r.1 r.2

lemma Fuser.ingestAll_filter :
    fuser.ingestAll (targets.filter (!·.isEmpty)) = fuser.ingestAll targets := by
  induction targets generalizing fuser with
  | nil => rfl
  | cons outcomes targets ih =>
    cases outcomes with
    | nil =>
      rw [filter_cons_of_neg (by simp), ih, Fuser.ingestAll_cons, Fuser.ingest_nil, ok_bind]
      cases h : fuser.ingestAll targets <;> simp [h, Except.map]
    | cons o outcomes => grind [filter_cons_of_pos, Fuser.ingestAll_cons]

end Chain

/-! ## Configuration -/

inductive FuserConfig where
  | direct (includeUnreachable : Option Bool) (confidenceBaseline confidencePerSignal : Option ℚ)
  | mibEnrichment (dataPath : Option String) (inner : FuserConfig)
  | identity (identityHints : IdentityHints) (inner : FuserConfig)

def subtreeContainsIdentity : FuserConfig → Bool
  | .direct .. => false
  | .mibEnrichment _ inner => subtreeContainsIdentity inner
  | .identity .. => true

def rejectNestedIdentity (inner : FuserConfig) : Except ConfigError Unit :=
  if subtreeContainsIdentity inner then
    .error (.invalidValue
      "identity fuser must be the outermost fuser; it cannot be nested inside another fuser")
  else .ok ()

/-- Made by the configuration and again by the fuser. -/
def checkVirtualMac (group : VrrpGroup) : Except ConfigError Unit :=
  if (parseMacPrefix group.virtualMac).isNone then
    .error (.invalidValue
      ("vrrp_groups virtual_mac '" ++ group.virtualMac ++ "' is not a valid MAC address"))
  else .ok ()

def FuserConfig.validate : FuserConfig → Except ConfigError Unit
  | .direct _ confidenceBaseline confidencePerSignal => do
    if let some v := confidenceBaseline then
      if ¬ (0 ≤ v ∧ v ≤ 1) then
        throw (.invalidValue
          ("confidence_baseline must be finite and in [0.0, 1.0], got " ++ toString v))
    if let some v := confidencePerSignal then
      if v < 0 then
        throw (.invalidValue
          ("confidence_per_signal must be finite and non-negative, got " ++ toString v))
    pure ()
  | .mibEnrichment _ inner => do
    rejectNestedIdentity inner
    inner.validate
  | .identity identityHints inner => do
    rejectNestedIdentity inner
    inner.validate
    identityHints.vrrpGroups.forM checkVirtualMac

structure MibSource where
  fromBundled : Result MibTable
  fromPath : String → Result MibTable

def createFuser (mib : MibSource) : FuserConfig → Result Fuser
  | config@(.direct includeUnreachable confidenceBaseline confidencePerSignal) => do
    config.validate.mapError .config
    let f : DirectFuser := {}
    pure (.direct
      { includeUnreachable := includeUnreachable.getD f.includeUnreachable
        confidenceBaseline := confidenceBaseline.getD f.confidenceBaseline
        confidencePerSignal := confidencePerSignal.getD f.confidencePerSignal })
  | config@(.mibEnrichment dataPath inner) => do
    config.validate.mapError .config
    let innerFuser ← createFuser mib inner
    let table ← match dataPath with
      | some path => if path ≠ "" then mib.fromPath path else mib.fromBundled
      | none => mib.fromBundled
    pure (.mibEnrichment innerFuser table)
  | config@(.identity identityHints inner) => do
    config.validate.mapError .config
    let innerFuser ← createFuser mib inner
    (identityHints.vrrpGroups.forM checkVirtualMac).mapError .config
    pure (.identity innerFuser identityHints [])

lemma createFuser_mibEnrichment {mib : MibSource} {dataPath : Option String} {inner : FuserConfig}
    {fuser : Fuser} (h : createFuser mib (.mibEnrichment dataPath inner) = .ok fuser) :
    ∃ innerFuser table, createFuser mib inner = .ok innerFuser ∧
      fuser = .mibEnrichment innerFuser table := by
  obtain ⟨u, -, h⟩ := bind_eq_ok.mp h
  obtain ⟨innerFuser, hinner, h⟩ := bind_eq_ok.mp h
  refine ⟨innerFuser, ?_⟩
  split at h
  · split at h
    all_goals
      obtain ⟨table, -, h⟩ := bind_eq_ok.mp h
      exact ⟨table, hinner, (Except.ok.inj h).symm⟩
  · obtain ⟨table, -, h⟩ := bind_eq_ok.mp h
    exact ⟨table, hinner, (Except.ok.inj h).symm⟩

lemma createFuser_identity {mib : MibSource} {hints : IdentityHints} {inner : FuserConfig}
    {fuser : Fuser} (h : createFuser mib (.identity hints inner) = .ok fuser) :
    ∃ innerFuser, createFuser mib inner = .ok innerFuser ∧
      fuser = .identity innerFuser hints [] := by
  obtain ⟨u, -, h⟩ := bind_eq_ok.mp h
  obtain ⟨innerFuser, hinner, h⟩ := bind_eq_ok.mp h
  obtain ⟨u, -, h⟩ := bind_eq_ok.mp h
  exact ⟨innerFuser, hinner, (Except.ok.inj h).symm⟩

end Rastreo
