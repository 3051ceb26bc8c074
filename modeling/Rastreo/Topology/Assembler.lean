import Rastreo.Fuser.Correlate
import Rastreo.Library.Results
import Rastreo.Library.SortedEntries
import Rastreo.Model.AddrParse
import Mathlib.Data.String.Basic

/-!
# Links between devices

LLDP observations and an index of the emitted device records become one record per pair of chassis
identifiers.  Hash maps are association lists; the enumeration of edges is the parameter
`EdgeOrder`, which does not matter (`TopologyAssembler.finish_order_irrelevant`).
-/

namespace Rastreo

open List Option Bool

/-! ## Link records -/

structure LinkEndpoint where
  identityKey : Option String
  chassisId : String
  sysName : Option String
  port : String
  deriving DecidableEq

def linkCurrentSchemaVersion : String := "v1"

def linkSchemaId : String :=
  "https://davidban77.github.io/rastreo/schemas/link-record-v1.json"

structure LinkRecord where
  schemaVersion : String
  schemaId : String
  a : LinkEndpoint
  b : LinkEndpoint
  discoveredVia : String
  observedAt : SystemTime
  scanMetadata : ScanMetadata
  deriving DecidableEq

/-! ## Edges -/

structure EndpointInfo where
  chassisId : String
  subtype : UInt32
  port : Option String
  portAuthoritative : Bool
  sysName : Option String
  deriving DecidableEq

structure EndpointObservation where
  chassisNorm : String
  chassisId : String
  subtype : UInt32
  port : Option String
  portAuthoritative : Bool
  sysName : Option String
  deriving DecidableEq

/-- The sources are sorted and without repetition. -/
structure Edge where
  observedAt : SystemTime
  sources : List String
  endpoints : AList fun _ : String => EndpointInfo

/-- `entry(key).or_insert(value)`: a value that is there stays. -/
def orInsert {κ ν : Type} [DecidableEq κ] (m : AList fun _ : κ => ν) (key : κ) (value : ν) :
    AList fun _ : κ => ν :=
  if key ∈ m then m else m.insert key value

section OrInsert

variable {κ ν : Type} [DecidableEq κ] {m : AList fun _ : κ => ν} {key k : κ} {value v : ν}

lemma lookup_orInsert (h : (orInsert m key value).lookup k = some v) :
    v = value ∨ m.lookup k = some v := by
  unfold orInsert at h
  split_ifs at h with hmem
  · exact .inr h
  · by_cases hk : k = key
    · rw [hk, AList.lookup_insert] at h
      grind
    · rw [AList.lookup_insert_ne hk] at h
      exact .inr h

lemma mem_orInsert : k ∈ orInsert m key value ↔ k = key ∨ k ∈ m := by
  unfold orInsert
  split_ifs with hmem
  · constructor
    · exact .inr
    · grind
  · exact AList.mem_insert _

/-- One value for many keys. -/
lemma foldl_orInsert (value : ν) (keys : List κ) (m : AList fun _ : κ => ν) :
    (∀ k, k ∈ keys.foldl (orInsert · · value) m ↔ k ∈ keys ∨ k ∈ m) ∧
      ∀ k v, (keys.foldl (orInsert · · value) m).lookup k = some v →
        v = value ∨ m.lookup k = some v := by
  induction keys generalizing m with
  | nil => exact ⟨by simp, fun _ _ => .inr⟩
  | cons key keys ih =>
    obtain ⟨hmem, hlookup⟩ := ih (orInsert m key value)
    refine ⟨fun k => (hmem k).trans ?_, fun k v h => (hlookup k v h).elim .inl lookup_orInsert⟩
    rw [mem_orInsert, mem_cons]
    tauto

end OrInsert

def Edge.new (observedAt : SystemTime) : Edge := ⟨observedAt, [], ∅⟩

/-- The update `Edge::merge` makes to an endpoint. -/
def EndpointInfo.absorb (entry : EndpointInfo) (obs : EndpointObservation) : EndpointInfo :=
  let entry :=
    match obs.port with
    | none => entry
    | some port =>
      let upgrade := obs.portAuthoritative && !entry.portAuthoritative
      if upgrade || entry.port.isNone then
        { entry with port := some port, portAuthoritative := obs.portAuthoritative }
      else entry
  match entry.sysName with
  | some _ => entry
  | none => { entry with sysName := obs.sysName }

def Edge.merge (edge : Edge) (obs : EndpointObservation) : Edge :=
  let entry := (edge.endpoints.lookup obs.chassisNorm).getD
    { chassisId := obs.chassisId, subtype := obs.subtype, port := none,
      portAuthoritative := false, sysName := none }
  { edge with endpoints := edge.endpoints.insert obs.chassisNorm (entry.absorb obs) }

/-- `BTreeSet::insert` on the sources of an edge. -/
def insertSource (source : String) (sources : List String) : List String :=
  if source ∈ sources then sources else sources.orderedInsert (· ≤ ·) source

def joinSources (sources : List String) : String := ",".intercalate sources

/-- `edge_key`: the two chassis in ascending order. -/
def edgeKey (a b : String) : String × String := if a ≤ b then (a, b) else (b, a)

def normalizeChassis [CaseMapping] (subtype : UInt32) (id : String) : String :=
  if subtype = chassisSubtypeMac then normalizeMac id else toAsciiLowercase (trim id)

def nonEmpty (s : String) : Option String := if trim s = "" then none else some s

abbrev Edges := AList fun _ : String × String => Edge

/-- The order in which the hash map of edges is enumerated. -/
structure EdgeOrder where
  enumerate : List ((String × String) × Edge) → List ((String × String) × Edge)
  perm : ∀ l, (enumerate l).Perm l

/-- The enumeration that keeps the order of the list. -/
def EdgeOrder.insertion : EdgeOrder := ⟨id, fun _ => .refl _⟩

/-! ## The assembler -/

def DeviceRecord.addresses (record : DeviceRecord) : List IpAddr :=
  record.mgmtIp.toList ++ record.altIps.map (·.address)

/-- The two address loops of `observe_record`. -/
def indexAddrs (addrIndex : AList fun _ : IpAddr => String) (record : DeviceRecord) :
    AList fun _ : IpAddr => String :=
  record.addresses.foldl (orInsert · · record.identityKey.asStr) addrIndex

structure DeviceObservation where
  localIp : IpAddr
  localChassisId : String
  localChassisSubtype : UInt32
  observedAt : SystemTime
  discoveredVia : String
  neighbors : List LldpNeighbor
  deriving DecidableEq

/-- The chassis of a device, as that of a neighbour is compared with it. -/
abbrev DeviceObservation.localNorm [CaseMapping] (obs : DeviceObservation) : String :=
  normalizeChassis obs.localChassisSubtype obs.localChassisId

/-- What is known of the devices emitted. -/
structure IdentityIndex where
  macIndex : AList fun _ : String => String
  sysNameIndex : AList fun _ : String => String
  addrIndex : AList fun _ : IpAddr => String

/-- The observations of a scan and the index of its records. -/
structure TopologyAssembler extends IdentityIndex where
  scanMetadata : ScanMetadata
  observations : List DeviceObservation

namespace IdentityIndex

variable [CaseMapping]

def indexMac (self : IdentityIndex) (mac identity : String) : IdentityIndex :=
  let key := normalizeMac mac
  if key = "" then self else { self with macIndex := orInsert self.macIndex key identity }

def indexSysName (self : IdentityIndex) (name identity : String) : IdentityIndex :=
  let key := normalizeSysName name
  if key = "" then self else { self with sysNameIndex := orInsert self.sysNameIndex key identity }

/-- The signal loop of `observe_record`. -/
def indexSignal (identity : String) (self : IdentityIndex) (signal : Signal) : IdentityIndex :=
  match signal with
  | .mac mac => self.indexMac mac identity
  | .snmpSysName name => self.indexSysName name identity
  | .reverseDnsName name => self.indexSysName name identity
  | _ => self

def observeRecord (self : IdentityIndex) (record : DeviceRecord) : IdentityIndex :=
  let identity := record.identityKey.asStr
  let self := record.mac.elim self fun mac => self.indexMac mac identity
  let self := record.signals.foldl (indexSignal identity) self
  { self with addrIndex := indexAddrs self.addrIndex record }

end IdentityIndex

namespace TopologyAssembler

def new (scanMetadata : ScanMetadata) : TopologyAssembler := ⟨⟨∅, ∅, ∅⟩, scanMetadata, []⟩

def observe (outcome : ProbeOutcome) : Option DeviceObservation :=
  outcome.lldp.map fun lldp =>
    { localIp := outcome.targetIp
      localChassisId := lldp.localChassisId
      localChassisSubtype := lldp.localChassisSubtype
      observedAt := outcome.timestamp
      discoveredVia := lldp.discoveredVia
      neighbors := lldp.neighbors }

def observeOutcomes (self : TopologyAssembler) (outcomes : List ProbeOutcome) :
    TopologyAssembler :=
  { self with observations := self.observations ++ outcomes.filterMap observe }

section

variable [CaseMapping] (self : TopologyAssembler)

def observeRecord (record : DeviceRecord) : TopologyAssembler :=
  { self with toIdentityIndex := self.toIdentityIndex.observeRecord record }

def identifyChassis (m : AList fun _ : String => String)
    (obs : DeviceObservation) : AList fun _ : String => String :=
  match self.addrIndex.lookup obs.localIp with
  | none => m
  | some identity =>
    let key := obs.localNorm
    if key = "" then m else orInsert m key identity

/-- By their own chassis, through the address probed. -/
def chassisToIdentity : AList fun _ : String => String :=
  self.observations.foldl self.identifyChassis ∅

/-- The body of the neighbour loop of `finish`. -/
def addNeighbor (obs : DeviceObservation) (localNorm : String) (edges : Edges)
    (neighbor : LldpNeighbor) : Edges :=
  let remoteNorm := normalizeChassis neighbor.remoteChassisSubtype neighbor.remoteChassisId
  if remoteNorm = "" ∨ remoteNorm = localNorm then edges
  else
    let key := edgeKey localNorm remoteNorm
    let edge := (edges.lookup key).getD (Edge.new obs.observedAt)
    let edge := { edge with
      observedAt := max edge.observedAt obs.observedAt
      sources := insertSource obs.discoveredVia edge.sources }
    let edge := edge.merge
      { chassisNorm := localNorm, chassisId := obs.localChassisId,
        subtype := obs.localChassisSubtype, port := nonEmpty neighbor.localPort,
        portAuthoritative := true, sysName := none }
    let edge := edge.merge
      { chassisNorm := remoteNorm, chassisId := neighbor.remoteChassisId,
        subtype := neighbor.remoteChassisSubtype, port := nonEmpty neighbor.remotePortId,
        portAuthoritative := false, sysName := neighbor.remoteSysName }
    edges.insert key edge

/-- The body of the observation loop of `finish`. -/
def addObservation (edges : Edges) (obs : DeviceObservation) : Edges :=
  let localNorm := obs.localNorm
  if localNorm = "" then edges
  else obs.neighbors.foldl (addNeighbor obs localNorm) edges

/-- Through the chassis, then what its subtype says it is, then the system name. -/
def resolveIdentity (chassisNorm : String) (subtype : UInt32)
    (sysName : Option String) (chassisToIdentity : AList fun _ : String => String) :
    Option String :=
  let bySubtype :=
    if subtype = chassisSubtypeMac then self.macIndex.lookup chassisNorm
    else if subtype = chassisSubtypeNetworkAddress then
      (IpAddr.parse chassisNorm).bind self.addrIndex.lookup
    else none
  let bySysName := sysName.bind fun name =>
    let key := normalizeSysName name
    if key = "" then none else self.sysNameIndex.lookup key
  (chassisToIdentity.lookup chassisNorm).or (bySubtype.or bySysName)

def finalizeEndpoint (chassisNorm : String) (edge : Edge)
    (chassisToIdentity : AList fun _ : String => String) : Except Panic LinkEndpoint :=
  match edge.endpoints.lookup chassisNorm with
  | none => .error (.expect "edge key names an endpoint the edge holds")
  | some info =>
    .ok
      { identityKey :=
          self.resolveIdentity chassisNorm info.subtype info.sysName chassisToIdentity
        chassisId := info.chassisId
        sysName := info.sysName
        port := info.port.getD "" }

def linkRecord (keyed : (String × String) × Edge) : Except Panic LinkRecord := do
  let a ← self.finalizeEndpoint keyed.1.1 keyed.2 self.chassisToIdentity
  let b ← self.finalizeEndpoint keyed.1.2 keyed.2 self.chassisToIdentity
  pure
    { schemaVersion := linkCurrentSchemaVersion, schemaId := linkSchemaId, a, b,
      discoveredVia := joinSources keyed.2.sources, observedAt := keyed.2.observedAt,
      scanMetadata := self.scanMetadata }

def edges : Edges := self.observations.foldl addObservation ∅

/-- `finish`: the links in ascending order of their chassis. -/
def finish (order : EdgeOrder) (self : TopologyAssembler) : Except Panic (List LinkRecord) :=
  if self.observations.isEmpty then .ok []
  else
    let keyed := order.enumerate (self.edges.entries.map fun e => (e.1, e.2))
    (sortBy keyOrder keyed).mapM self.linkRecord

/-! ## Observing -/

variable (self : TopologyAssembler)

omit [CaseMapping] in
@[simp] lemma observeOutcomes_nil : self.observeOutcomes [] = self := by
  simp [observeOutcomes]

omit [CaseMapping] in
lemma observeOutcomes_append (l m : List ProbeOutcome) :
    self.observeOutcomes (l ++ m) = (self.observeOutcomes l).observeOutcomes m := by
  simp [observeOutcomes, append_assoc]

/-! ## Finishing -/

omit [CaseMapping] in
lemma mem_merge {edge : Edge} {obs : EndpointObservation} {chassis : String} :
    chassis ∈ (edge.merge obs).endpoints ↔ chassis = obs.chassisNorm ∨ chassis ∈ edge.endpoints :=
  AList.mem_insert _

def EdgesOk (edges : Edges) : Prop :=
  ∀ key edge, edges.lookup key = some edge → key.1 ∈ edge.endpoints ∧ key.2 ∈ edge.endpoints

lemma EdgesOk.addNeighbor {edges : Edges} (h : EdgesOk edges) (obs : DeviceObservation)
    (localNorm : String) (neighbor : LldpNeighbor) :
    EdgesOk (addNeighbor obs localNorm edges neighbor) := by
  unfold TopologyAssembler.addNeighbor
  simp only
  split_ifs with hskip
  · exact h
  · intro key edge hedge
    set remoteNorm := normalizeChassis neighbor.remoteChassisSubtype neighbor.remoteChassisId
    by_cases hkey : key = edgeKey localNorm remoteNorm
    · subst hkey
      rw [AList.lookup_insert, Option.some.injEq] at hedge
      subst hedge
      unfold edgeKey
      split_ifs <;> simp [mem_merge]
    · rw [AList.lookup_insert_ne hkey] at hedge
      exact h key edge hedge

lemma edgesOk_edges : EdgesOk self.edges := by
  refine List.foldlRecOn _ _ (fun key edge hedge => ?_) fun edges h obs _ => ?_
  · cases hedge
  · unfold addObservation
    simp only
    split_ifs
    · exact h
    · exact List.foldlRecOn _ _ h fun edges h neighbor _ => h.addNeighbor obs _ neighbor

omit [CaseMapping] in
lemma finalizeEndpoint_ok {self : TopologyAssembler} {chassis : String} {edge : Edge}
    {identities : AList fun _ : String => String} (h : chassis ∈ edge.endpoints) :
    ∃ endpoint, self.finalizeEndpoint chassis edge identities = .ok endpoint := by
  obtain ⟨info, hinfo⟩ := isSome_iff_exists.mp (AList.lookup_isSome.mpr h)
  unfold finalizeEndpoint
  rw [hinfo]
  exact ⟨_, rfl⟩

lemma mem_enumerate {order : EdgeOrder} {self : TopologyAssembler}
    {keyed : (String × String) × Edge} :
    keyed ∈ order.enumerate (self.edges.entries.map fun e => (e.1, e.2)) ↔
      self.edges.lookup keyed.1 = some keyed.2 := by
  rw [(order.perm _).mem_iff, List.mem_map, ← mem_def, AList.mem_lookup_iff]
  constructor
  · rintro ⟨⟨k, e⟩, he, heq⟩
    cases heq
    exact he
  · intro he
    exact ⟨_, he, rfl⟩

lemma nodup_keyOrder (order : EdgeOrder) :
    ((order.enumerate (self.edges.entries.map fun e => (e.1, e.2))).map keyOrder).Nodup := by
  rw [((order.perm _).map keyOrder).nodup_iff, List.map_map]
  exact self.edges.keys_nodup

/-- The map of edges may be enumerated in any order. -/
theorem finish_order_irrelevant (order order' : EdgeOrder) (self : TopologyAssembler) :
    self.finish order = self.finish order' := by
  unfold finish
  dsimp only
  rw [sortBy_eq_of_perm keyOrder ((order.perm _).trans (order'.perm _).symm)
    (self.nodup_keyOrder order)]

/-- Assembling the links never panics. -/
theorem finish_ok (order : EdgeOrder) (self : TopologyAssembler) :
    ∃ links, self.finish order = .ok links := by
  unfold finish
  split_ifs
  · exact ⟨[], rfl⟩
  · apply mapM_ok
    intro keyed hkeyed
    rw [(perm_sortBy _ _).mem_iff, mem_enumerate] at hkeyed
    obtain ⟨ha, hb⟩ := edgesOk_edges self _ _ hkeyed
    obtain ⟨a, ha⟩ := finalizeEndpoint_ok ha
    obtain ⟨b, hb⟩ := finalizeEndpoint_ok hb
    unfold linkRecord
    rw [ha, hb]
    exact ⟨_, rfl⟩

end

end TopologyAssembler

end Rastreo
