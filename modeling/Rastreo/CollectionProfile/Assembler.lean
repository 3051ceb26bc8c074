import Rastreo.Topology.Assembler

/-!
# Collection profiles

What gNMI endpoints report about their capabilities, and an index of the emitted device records,
become one advisory record per device and address, with telemetry paths for the models supported.
-/

namespace Rastreo

/-! ## Profile records -/

structure Subscription where
  name : String
  origin : String
  path : String
  mode : String
  sampleIntervalNs : Option UInt64
  matchedModel : String
  deriving DecidableEq

structure ProfileEndpoint where
  address : String
  port : UInt16
  transport : Transport
  deriving DecidableEq

inductive ProfileConfidence where
  | advertisedOnly
  | verifiedOnDevice
  deriving DecidableEq

inductive Collection where
  | gnmi (gnmiVersion : Option String) (encoding : String) (supportedModels : List String)
      (suggestedSubscriptions : List Subscription)
  deriving DecidableEq

def collectionProfileCurrentSchemaVersion : String := "v1"

def collectionProfileSchemaId : String :=
  "https://davidban77.github.io/rastreo/schemas/collection-profile-record-v1.json"

structure CollectionProfileRecord where
  schemaVersion : String
  schemaId : String
  identityKey : String
  endpoint : ProfileEndpoint
  confidence : ProfileConfidence
  note : Option String
  collection : Collection
  observedAt : SystemTime
  scanMetadata : ScanMetadata
  deriving DecidableEq

/-! ## Suggested subscriptions -/

structure CuratedPath where
  modelKey : String
  name : String
  origin : String
  path : String
  mode : String
  sampleIntervalNs : Option UInt64

def bgpNeighborState : String :=
  "/network-instances/network-instance/protocols/protocol/bgp/neighbors/neighbor/state"

def openconfigPaths : List CuratedPath :=
  [⟨"openconfig-interfaces", "if_counters", "openconfig",
      "/interfaces/interface/state/counters", "sample", some 10000000000⟩,
    ⟨"openconfig-interfaces", "if_oper_status", "openconfig",
      "/interfaces/interface/state/oper-status", "on_change", none⟩,
    ⟨"openconfig-interfaces", "if_admin_status", "openconfig",
      "/interfaces/interface/state/admin-status", "on_change", none⟩,
    ⟨"openconfig-system", "system_cpu_utilization", "openconfig",
      "/system/cpus/cpu/state/total/instant", "sample", some 10000000000⟩,
    ⟨"openconfig-system", "system_memory", "openconfig",
      "/system/memory/state", "sample", some 30000000000⟩,
    ⟨"openconfig-platform", "component_state", "openconfig",
      "/components/component/state", "sample", some 30000000000⟩,
    ⟨"openconfig-network-instance", "bgp_neighbor_session_state", "openconfig",
      bgpNeighborState ++ "/session-state", "on_change", none⟩,
    ⟨"openconfig-network-instance", "bgp_neighbor_established_transitions", "openconfig",
      bgpNeighborState ++ "/established-transitions", "sample", some 30000000000⟩]

def modelKey (renderedModel : String) : String :=
  let word := (renderedModel.toList.dropWhile isWhitespace).takeWhile (!isWhitespace ·)
  let name := if word.isEmpty then renderedModel.toList else word
  String.ofList (name.reverse.takeWhile (· ≠ ':')).reverse

def suggestedSubscriptions (supportedModels : List String) : List Subscription :=
  supportedModels.flatMap fun advertised =>
    (openconfigPaths.filter (·.modelKey = modelKey advertised)).map fun entry =>
      { name := entry.name, origin := entry.origin, path := entry.path, mode := entry.mode,
        sampleIntervalNs := entry.sampleIntervalNs, matchedModel := advertised }

def recommendedEncodingFallback : String := "JSON_IETF"

def isRenderable (encoding : String) : Bool :=
  encoding == "JSON" || encoding == "PROTO" || encoding == "ASCII" || encoding == "JSON_IETF"

def recommendedEncoding (advertised : List String) : String :=
  if advertised.isEmpty || advertised.any (· == recommendedEncodingFallback) then
    recommendedEncodingFallback
  else (advertised.find? isRenderable).getD recommendedEncodingFallback

/-! ## The assembler -/

structure GnmiObservation where
  targetIp : IpAddr
  endpoint : GnmiEndpoint
  gnmiVersion : Option String
  supportedModels : List String
  observedAt : SystemTime
  deriving DecidableEq

structure CollectionProfileAssembler where
  scanMetadata : ScanMetadata
  observations : List GnmiObservation
  addrIndex : AList fun _ : IpAddr => String

namespace CollectionProfileAssembler

def new (scanMetadata : ScanMetadata) : CollectionProfileAssembler := ⟨scanMetadata, [], ∅⟩

/-- What a gNMI outcome with capability data carries. -/
def observe (outcome : ProbeOutcome) : Option GnmiObservation :=
  if outcome.kind ≠ .gnmi then none
  else
    outcome.gnmiEndpoint.bind fun endpoint =>
      let gnmiVersion := outcome.signals.findSome? fun
        | .gnmiVersion v => some v
        | _ => none
      let supportedModels := outcome.signals.filterMap fun
        | .gnmiSupportedModel m => some m
        | _ => none
      let hasCapability := gnmiVersion.isSome || !supportedModels.isEmpty ||
        !endpoint.advertisedEncodings.isEmpty
      if hasCapability then
        some
          { targetIp := outcome.targetIp, endpoint, gnmiVersion, supportedModels,
            observedAt := outcome.timestamp }
      else none

variable (self : CollectionProfileAssembler)

def observeOutcomes (outcomes : List ProbeOutcome) : CollectionProfileAssembler :=
  { self with observations := self.observations ++ outcomes.filterMap observe }

def observeRecord (record : DeviceRecord) : CollectionProfileAssembler :=
  { self with addrIndex := indexAddrs self.addrIndex record }

def profileRecord (identity : String) (obs : GnmiObservation) : CollectionProfileRecord where
  schemaVersion := collectionProfileCurrentSchemaVersion
  schemaId := collectionProfileSchemaId
  identityKey := identity
  endpoint := ⟨obs.targetIp.display, obs.endpoint.port, obs.endpoint.transport⟩
  confidence := .advertisedOnly
  note := none
  collection := .gnmi obs.gnmiVersion (recommendedEncoding obs.endpoint.advertisedEncodings)
    obs.supportedModels (suggestedSubscriptions obs.supportedModels)
  observedAt := obs.observedAt
  scanMetadata := self.scanMetadata

/-- The loop of `finish`: the first observation of a device at an address counts. -/
def addProfile
    (st : List (String × IpAddr) × List CollectionProfileRecord) (obs : GnmiObservation) :
    List (String × IpAddr) × List CollectionProfileRecord :=
  match self.addrIndex.lookup obs.targetIp with
  | none => st
  | some identity =>
    if (identity, obs.targetIp) ∈ st.1 then st
    else ((identity, obs.targetIp) :: st.1, st.2 ++ [self.profileRecord identity obs])

/-- By device, then by address. -/
def profileOrder (record : CollectionProfileRecord) : String ×ₗ String :=
  toLex (record.identityKey, record.endpoint.address)

/-- In ascending order of device and address. -/
def finish : List CollectionProfileRecord :=
  sortBy profileOrder (self.observations.foldl self.addProfile ([], [])).2

/-! ## Observing -/

variable (self : CollectionProfileAssembler)

@[simp] lemma observeOutcomes_nil : self.observeOutcomes [] = self := by
  simp [observeOutcomes]

lemma observeOutcomes_append (l m : List ProbeOutcome) :
    self.observeOutcomes (l ++ m) = (self.observeOutcomes l).observeOutcomes m := by
  simp [observeOutcomes, List.append_assoc]

end CollectionProfileAssembler

end Rastreo
