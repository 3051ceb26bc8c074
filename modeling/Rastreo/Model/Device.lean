import Rastreo.Model.Error
import Mathlib.Algebra.Order.Ring.Rat
import Mathlib.Tactic.NormNum

/-!
# Probe outcomes and device records

What a prober reports about one address and what the engine emits about one device.  Identity keys
and confidences carry what their constructors check.  Times are integers from the Unix epoch;
confidences are exact rationals.
-/

namespace Rastreo

/-- A point in time, counted from the Unix epoch. -/
abbrev SystemTime := ℤ

/-! ## Outcomes -/

/-- The prober an outcome comes from. -/
inductive ProbeKind where
  | tcpConnect | udp | http | dns | snmp | arp | ndp | ssh | icmp | tls | reverseDns | gnmi | lldp
  deriving DecidableEq

inductive Signal where
  | openPort (port : UInt16)
  | httpBanner (v : String)
  | snmpSysObjectId (v : String)
  | snmpSysDescr (v : String)
  | mac (v : String)
  | dnsHost (v : String)
  | ntpBanner (v : String)
  | sipUserAgent (v : String)
  | memcachedVersion (v : String)
  | stunMappedAddress (v : String)
  | snmpSysName (v : String)
  | sshBanner (v : String)
  | sshHostKey (v : String)
  | icmpEchoRttMicros (v : UInt64)
  | tlsSubject (v : String)
  | tlsSanName (v : String)
  | tlsProtocolVersion (v : String)
  | tlsCipherSuite (v : String)
  | tlsAlpn (v : String)
  | reverseDnsName (v : String)
  | gnmiVersion (v : String)
  | gnmiSupportedModel (v : String)
  | gnmiSupportedEncoding (v : String)
  | gnmiState (path value : String)
  deriving DecidableEq

structure ProbeFault where
  kind : ProbeErrorKind
  detail : String
  deriving DecidableEq

def chassisSubtypeMac : UInt32 := 4

def chassisSubtypeNetworkAddress : UInt32 := 5

def portSubtypeMac : UInt32 := 3

def portSubtypeNetworkAddress : UInt32 := 4

/-- A neighbour a device reports over LLDP. -/
structure LldpNeighbor where
  localPort : String
  remoteChassisId : String
  remoteChassisSubtype : UInt32
  remotePortId : String
  remotePortSubtype : UInt32
  remotePortDesc : Option String
  remoteSysName : Option String
  deriving DecidableEq

/-- A device's own chassis and the neighbours it reports. -/
structure LldpObservation where
  localChassisId : String
  localChassisSubtype : UInt32
  neighbors : List LldpNeighbor
  discoveredVia : String
  deriving DecidableEq

inductive Transport where
  | tls
  | plaintext
  deriving DecidableEq

structure GnmiEndpoint where
  port : UInt16
  transport : Transport
  advertisedEncodings : List String
  deriving DecidableEq

/-- What one prober learned about one address. -/
structure ProbeOutcome where
  kind : ProbeKind
  targetIp : IpAddr
  timestamp : SystemTime
  reachable : Bool
  signals : List Signal
  fault : Option ProbeFault := none
  lldp : Option LldpObservation := none
  gnmiEndpoint : Option GnmiEndpoint := none
  deriving DecidableEq

/-! ## Records -/

/-- The identifier a device is keyed by; never empty. -/
structure IdentityKey where
  asStr : String
  ne_empty : asStr ≠ ""
  deriving DecidableEq

/-- `IdentityKey::new`: trim, reject the empty text, lowercase. -/
def IdentityKey.new [CaseMapping] (value : String) : Except ConfigError IdentityKey :=
  if h : trim value = "" then .error (.invalidValue "identity key cannot be empty")
  else .ok ⟨CaseMapping.strLower (trim value), CaseMapping.strLower_ne_empty _ h⟩

structure Confidence where
  value : ℚ
  nonneg : 0 ≤ value
  le_one : value ≤ 1
  deriving DecidableEq

/-- Nothing outside the unit interval. -/
def Confidence.new (v : ℚ) : Except ConfigError Confidence :=
  if h : 0 ≤ v ∧ v ≤ 1 then .ok ⟨v, h.1, h.2⟩
  else .error (.invalidValue ("confidence must be finite and in [0.0, 1.0], got " ++ toString v))

inductive AltIpRole where
  | secondary | loopback | vrrp | hsrp | carp | anycast | vip
  deriving DecidableEq

structure AltIp where
  address : IpAddr
  role : Option AltIpRole
  respondedVia : List ProbeKind
  deriving DecidableEq

structure ScanMetadata where
  scanId : String
  scenarioName : Option String
  initiatedAt : SystemTime
  sourceConfigHash : Option String
  deriving DecidableEq

def ScanMetadata.default : ScanMetadata := ⟨"", none, 0, none⟩

def currentSchemaVersion : String := "v1"

def currentSchemaId : String :=
  "https://davidban77.github.io/rastreo/schemas/device-record-v1.json"

structure DeviceRecord where
  identityKey : IdentityKey
  mgmtIp : Option IpAddr
  mac : Option String
  manufacturer : Option String
  model : Option String
  productFamily : Option String
  platform : Option String
  osVersion : Option String
  sshVersion : Option String
  httpServer : Option String
  httpVersion : Option String
  role : Option String
  confidence : Confidence
  lastSeen : SystemTime
  signals : List Signal
  probeKinds : List ProbeKind
  schemaVersion : String
  schemaId : String
  altIps : List AltIp
  possibleAliasOf : Option IdentityKey
  scanMetadata : ScanMetadata
  deriving DecidableEq

/-! ## Keys and confidences -/

@[ext] lemma IdentityKey.ext' {a b : IdentityKey} (h : a.asStr = b.asStr) : a = b := by
  cases a
  cases b
  simpa using h

lemma IdentityKey.new_of_ne [CaseMapping] {v : String} (h : trim v ≠ "") :
    ∃ k, IdentityKey.new v = .ok k ∧ k.asStr = CaseMapping.strLower (trim v) :=
  ⟨_, dif_neg h, rfl⟩

lemma Confidence.new_of_mem {v : ℚ} (h : 0 ≤ v ∧ v ≤ 1) : Confidence.new v = .ok ⟨v, h.1, h.2⟩ := by
  rw [Confidence.new, dif_pos h]

/-! ## Streams and sinks -/

inductive RecordKind where
  | device
  | link
  | collectionProfile
  deriving DecidableEq

inductive SinkType where
  | stdout | file | memory | kafka | nats | tee
  deriving DecidableEq

end Rastreo
