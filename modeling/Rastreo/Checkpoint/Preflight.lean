import Rastreo.Checkpoint.Writer
import Rastreo.Fuser.Chain
import Rastreo.Library.Words

/-!
# Preflight of a checkpoint request

Which scenarios may be resumed, and the checks of the checkpoint file before a run starts.  The
digest and the JSON text of the targets are parameters.
-/

namespace Rastreo

/-! ## Scenarios -/

inductive SinkConfig where
  | stdout
  | file (path : String)
  | memory
  | kafka (brokers : List String) (topic : String)
  | nats (servers : List String) (subject stream : String)
  deriving DecidableEq

def SinkConfig.supportsResume : SinkConfig → Bool
  | .file _ => true
  | .kafka .. => true
  | .nats .. => true
  | .stdout => false
  | .memory => false

/-- The checks of parts left out here, in the order made. -/
structure OtherChecks where
  fields : Status
  parts : Status
  classifier : Status

/-- A prober's configuration appears as the kind of its probes. -/
structure DiscoverScenarioConfig where
  name : Option String
  targets : List Target
  probers : List ProbeKind
  fuser : Option FuserConfig
  sink : Option SinkConfig
  configHash : Option String
  otherChecks : OtherChecks

def defaultFuserConfig : FuserConfig := .direct none none none

def DiscoverScenarioConfig.effectiveFuserConfig (self : DiscoverScenarioConfig) : FuserConfig :=
  self.fuser.getD defaultFuserConfig

def DiscoverScenarioConfig.validate (self : DiscoverScenarioConfig) (mib : MibSource) :
    Status := do
  self.otherChecks.fields
  if self.targets.isEmpty then throw (.invalid "scenario.targets must not be empty")
  if self.probers.isEmpty then throw (.invalid "scenario.probers must not be empty")
  self.otherChecks.parts
  discard (createFuser mib self.effectiveFuserConfig)
  self.otherChecks.classifier

/-- A new scan differs in a fresh id and time only. -/
def ScanMetadata.resumed (scenario : DiscoverScenarioConfig) (scanId : String)
    (initiatedAt : SystemTime) : ScanMetadata where
  scanId := scanId
  scenarioName := scenario.name
  initiatedAt := initiatedAt
  sourceConfigHash := scenario.configHash

/-! ## Eligibility -/

def fuserSupportsResume (config : FuserConfig) : Bool := !subtreeContainsIdentity config

def secondStreamKind : ProbeKind → Option String
  | .lldp => some "lldp"
  | .gnmi => some "gnmi"
  | _ => none

def sinkLabel : Option SinkConfig → String
  | none => "none"
  | some .stdout => "stdout"
  | some (.file _) => "file"
  | some .memory => "memory"
  | some (.kafka ..) => "kafka"
  | some (.nats ..) => "nats"

def resumeEligibility (scenario : DiscoverScenarioConfig) : Except ResumeError Unit := do
  if let some fuser := scenario.fuser then
    if !fuserSupportsResume fuser then throw .identityFuserNotResumable
  if let some kind := scenario.probers.findSome? secondStreamKind then
    throw (.secondStreamProberNotResumable kind)
  match scenario.sink with
  | some sink => if sink.supportsResume then pure () else throw (.sinkNotResumable (sinkLabel sink))
  | none => throw (.sinkNotResumable (sinkLabel none))

/-! ## The fingerprint -/

/-- The serializer and the digest a fingerprint is made with. -/
structure Digest where
  targetsJson : List Target → Bytes
  sha256 : Bytes → Bytes

/-- A digest that is good enough for one scenario. -/
def trivialDigest : Digest := ⟨fun _ => [], fun _ => []⟩

def fingerprintDomain : String := "rastreo.resume.fingerprint.v1"

def sinkDestinationDescriptor : Option SinkConfig → String
  | none => "sink:none"
  | some .stdout => "sink:stdout"
  | some .memory => "sink:memory"
  | some (.file path) => "sink:file:" ++ path
  | some (.kafka brokers topic) => "sink:kafka:" ++ ",".intercalate brokers ++ ":" ++ topic
  | some (.nats servers subject stream) =>
    "sink:nats:" ++ ",".intercalate servers ++ ":" ++ subject ++ ":" ++ stream

def hexLower (bytes : Bytes) : String :=
  String.ofList (bytes.flatMap fun b => [(b.toNat / 16).digitChar, (b.toNat % 16).digitChar])

def resumeFingerprint (digest : Digest) (scenario : DiscoverScenarioConfig) : String :=
  let targets := digest.targetsJson scenario.targets
  let destination := (sinkDestinationDescriptor scenario.sink).toUTF8.toList
  "sha256:" ++ hexLower (digest.sha256
    (fingerprintDomain.toUTF8.toList ++ toLeBytes targets.length ++ targets ++
      toLeBytes destination.length ++ destination))

/-! ## Preflight -/

section Preflight

variable (digest : Digest) (scenario : DiscoverScenarioConfig) (path : String) (readable : Bool)

/-- Reading the file may fail. -/
def Checkpoint.load (file : Checkpoint) : Except ResumeError Checkpoint :=
  if !readable then .error (.corruptCheckpoint path)
  else if file.checkpointVersion ≠ Rastreo.checkpointVersion then
    .error (.unknownVersion file.checkpointVersion.toNat Rastreo.checkpointVersion.toNat)
  else .ok file

/-- `checkpoint_preflight`: only a free path proceeds. -/
def checkpointPreflight (file : Option Checkpoint) : Except ResumeError Unit := do
  resumeEligibility scenario
  if let some file := file then
    discard (file.load path readable)
    throw (.checkpointExists path)

def resumePreflight (file : Option Checkpoint) : Except ResumeError Checkpoint := do
  let some file := file | throw (.noCheckpointToResume path)
  let checkpoint ← file.load path readable
  resumeEligibility scenario
  if resumeFingerprint digest scenario ≠ checkpoint.resumeFingerprint then
    throw .fingerprintMismatch
  pure checkpoint

def preflightCheckpointRequest (config : CheckpointConfig) (file : Option Checkpoint) :
    Except ResumeError (Option Checkpoint) :=
  if config.resume then (resumePreflight digest scenario config.path readable file).map some
  else do
    checkpointPreflight scenario config.path readable file
    pure none

variable {digest scenario path readable}

lemma Checkpoint.load_eq_ok {file checkpoint : Checkpoint}
    (h : file.load path readable = .ok checkpoint) : checkpoint = file := by
  unfold Checkpoint.load at h
  split at h
  · contradiction
  · split at h
    · contradiction
    · grind

lemma subtreeContainsIdentity_of_eligible (h : resumeEligibility scenario = .ok ()) :
    subtreeContainsIdentity scenario.effectiveFuserConfig = false := by
  unfold DiscoverScenarioConfig.effectiveFuserConfig
  cases hfuser : scenario.fuser with
  | none => rfl
  | some fuser =>
    cases hid : subtreeContainsIdentity fuser with
    | false => exact hid
    | true =>
      unfold resumeEligibility fuserSupportsResume at h
      rw [hfuser] at h
      simp only [hid, Bool.not_true] at h
      contradiction

variable {file : Option Checkpoint}

lemma resumePreflight_eq_ok {checkpoint : Checkpoint}
    (h : resumePreflight digest scenario path readable file = .ok checkpoint) :
    file = some checkpoint ∧ resumeEligibility scenario = .ok () := by
  cases file with
  | none => contradiction
  | some file =>
    obtain ⟨loaded, hload, h⟩ := bind_eq_ok.mp h
    obtain ⟨u, heli, h⟩ := bind_eq_ok.mp h
    rw [Checkpoint.load_eq_ok hload] at h
    split at h
    · contradiction
    · exact ⟨congrArg some (Except.ok.inj h), heli⟩

lemma checkpointPreflight_eq_ok (h : checkpointPreflight scenario path readable file = .ok ()) :
    file = none ∧ resumeEligibility scenario = .ok () := by
  obtain ⟨u, heli, h⟩ := bind_eq_ok.mp h
  cases file with
  | none => exact ⟨rfl, heli⟩
  | some file =>
    obtain ⟨u, hload, h⟩ := bind_eq_ok.mp h
    contradiction

lemma preflightCheckpointRequest_eq_ok {config : CheckpointConfig} {r : Option Checkpoint}
    (h : preflightCheckpointRequest digest scenario readable config file = .ok r) :
    r = file ∧ config.resume = file.isSome ∧ resumeEligibility scenario = .ok () := by
  unfold preflightCheckpointRequest at h
  split at h
  · rename_i hconfig
    obtain ⟨checkpoint, hresume, rfl⟩ := map_eq_ok.mp h
    obtain ⟨rfl, heli⟩ := resumePreflight_eq_ok hresume
    grind
  · rename_i hconfig
    obtain ⟨u, hfresh, hr⟩ := bind_eq_ok.mp h
    obtain ⟨rfl, heli⟩ := checkpointPreflight_eq_ok hfresh
    exact ⟨(Except.ok.inj hr).symm, Bool.eq_false_iff.mpr hconfig, heli⟩

end Preflight

/-! ## Fusers of eligible scenarios -/

/-- A fuser that holds no records back. -/
def Fuser.Immediate : Fuser → Prop
  | .direct _ => True
  | .mibEnrichment inner _ => inner.Immediate
  | .identity .. => False

lemma createFuser_immediate {mib : MibSource} {config : FuserConfig} {fuser : Fuser}
    (hid : subtreeContainsIdentity config = false) (h : createFuser mib config = .ok fuser) :
    fuser.Immediate := by
  induction config generalizing fuser with
  | direct includeUnreachable baseline perSignal =>
    obtain ⟨u, -, h⟩ := bind_eq_ok.mp h
    rw [← Except.ok.inj h]
    trivial
  | mibEnrichment dataPath inner ih =>
    obtain ⟨innerFuser, table, hinner, rfl⟩ := createFuser_mibEnrichment h
    have himm : innerFuser.Immediate := ih hid hinner
    exact himm
  | identity hints inner ih => contradiction

section Immediate

variable [CaseMapping]

lemma Fuser.Immediate.ingest {fuser fuser' : Fuser} (himm : fuser.Immediate)
    {outcomes : List ProbeOutcome} {records : List DeviceRecord}
    (h : fuser.ingest outcomes = .ok (records, fuser')) : fuser' = fuser := by
  induction fuser generalizing fuser' records with
  | direct f =>
    obtain ⟨r, -, h⟩ := bind_eq_ok.mp h
    cases r <;> exact (congrArg Prod.snd (Except.ok.inj h)).symm
  | mibEnrichment inner table ih =>
    obtain ⟨⟨_, inner'⟩, hinner, h⟩ := bind_eq_ok.mp h
    have hfuser : .mibEnrichment inner' table = fuser' := congrArg Prod.snd (Except.ok.inj h)
    rw [← hfuser, ih himm hinner]
  | identity inner hints buffer ih => exact himm.elim

lemma Fuser.Immediate.finish {fuser : Fuser} (himm : fuser.Immediate) (order : HashOrder) :
    fuser.finish order = .ok ([], fuser) := by
  induction fuser with
  | direct f => rfl
  | mibEnrichment inner table ih => rw [Fuser.finish, ih himm]; rfl
  | identity inner hints buffer ih => exact himm.elim

end Immediate

end Rastreo
