import Rastreo.Model.Device
import Mathlib.Data.List.Destutter

/-!
# Probers

The settings that say where a prober sends packets, the checks of its constructor, and the addresses
it contacts.  Credentials, names, transports and interfaces are left out; their checks are a
parameter.
-/

namespace Rastreo

inductive HttpScheme where
  | auto
  | http
  | https
  deriving DecidableEq

inductive ProberConfig where
  | tcpConnect (ports : List UInt16)
  | http (ports : List UInt16) (scheme : HttpScheme) (path : String)
  | dns (ports : List UInt16) (queryNames : List String)
  | udp (ports : List UInt16)
  | snmp (ports : List UInt16)
  | lldp (ports : List UInt16)
  | arp (interface : String)
  | ndp (interface : String)
  | ssh (ports : List UInt16)
  | icmp (count : UInt32) (intervalMs : UInt64)
  | tls (ports : List UInt16)
  | gnmi (ports : List UInt16)
  | reverseDns (resolvers : List IpAddr)
  deriving DecidableEq

def ProberConfig.kind : ProberConfig → ProbeKind
  | .tcpConnect _ => .tcpConnect
  | .http .. => .http
  | .dns .. => .dns
  | .udp _ => .udp
  | .snmp _ => .snmp
  | .lldp _ => .lldp
  | .arp _ => .arp
  | .ndp _ => .ndp
  | .ssh _ => .ssh
  | .icmp .. => .icmp
  | .tls _ => .tls
  | .gnmi _ => .gnmi
  | .reverseDns _ => .reverseDns

/-! ## Construction -/

def require (holds : Bool) (msg : String) : Status :=
  if holds then .ok () else .error (.invalid msg)

section Create

variable (otherChecks : ProberConfig → Status)

/-- A path starts with a slash, so that it cannot extend the authority of the URL; an LLDP prober is
checked as an SNMP prober is. -/
def ProberConfig.check (config : ProberConfig) : Status :=
  match config with
  | .tcpConnect ports => require (!ports.isEmpty) "TcpConnectProber requires at least one port"
  | .http ports _ path => do
    require (!ports.isEmpty) "http prober requires at least one port"
    require (path.startsWith "/") "http prober path must start with /"
    otherChecks config
  | .dns ports queryNames => do
    require (!ports.isEmpty) "dns prober requires at least one port"
    require (!queryNames.isEmpty) "dns prober requires at least one query_name"
    otherChecks config
  | .udp ports => require (!ports.isEmpty) "udp prober requires at least one port"
  | .snmp ports | .lldp ports => do
    require (!ports.isEmpty) "snmp prober requires at least one port"
    otherChecks config
  | .ssh ports => require (!ports.isEmpty) "ssh prober requires at least one port"
  | .icmp count _ => do
    require (count != 0) "icmp prober requires count >= 1"
    require (count ≤ 1024) "icmp prober count must be <= 1024"
  | .tls ports => require (!ports.isEmpty) "tls prober requires at least one port"
  | .gnmi ports => do
    require (!ports.isEmpty) "gnmi prober requires at least one port"
    otherChecks config
  | .arp _ | .ndp _ | .reverseDns _ => otherChecks config

/-- `sort_unstable` and `dedup`. -/
def sortedPorts (ports : List UInt16) : List UInt16 :=
  (ports.mergeSort fun a b => decide (a ≤ b)).destutter (· ≠ ·)

/-- As far as it says where it sends. -/
inductive Prober where
  /-- contacts ports of the target -/
  | onPorts (kind : ProbeKind) (ports : List UInt16)
  /-- contacts the target as such -/
  | onHost (kind : ProbeKind)
  /-- asks name servers about the target -/
  | reverseDns (resolvers : List IpAddr)
  deriving DecidableEq

def ProberConfig.prober (config : ProberConfig) : Prober :=
  match config with
  | .tcpConnect ports | .http ports _ _ | .dns ports _ | .udp ports | .snmp ports | .lldp ports
  | .ssh ports | .tls ports | .gnmi ports => .onPorts config.kind (sortedPorts ports)
  | .arp _ | .ndp _ | .icmp _ _ => .onHost config.kind
  | .reverseDns resolvers => .reverseDns resolvers

def createProber (config : ProberConfig) : Result Prober := do
  config.check otherChecks
  return config.prober

end Create

/-! ## Destinations -/

structure Destination where
  ip : IpAddr
  port : Option UInt16
  deriving DecidableEq

/-- Those its settings or target name. Reverse lookups ask the system's resolvers by default; a
link-layer request is aimed at the target, whatever group it is sent to. -/
def Prober.destinations (target : IpAddr) : Prober → List Destination
  | .onPorts _ ports => ports.map fun port => ⟨target, some port⟩
  | .onHost _ => [⟨target, none⟩]
  | .reverseDns resolvers => resolvers.map fun ip => ⟨ip, some 53⟩

lemma ProberConfig.ip_of_mem_destinations {config : ProberConfig} {target : IpAddr}
    {d : Destination} (h : d ∈ config.prober.destinations target) :
    d.ip = target ∨ ∃ resolvers, config = .reverseDns resolvers ∧ d.ip ∈ resolvers := by
  cases config with
  | reverseDns resolvers =>
    obtain ⟨ip, hip, rfl⟩ := List.mem_map.mp h
    grind
  | arp _ | ndp _ | icmp _ _ =>
    obtain rfl := List.mem_singleton.mp h
    exact .inl rfl
  | _ =>
    obtain ⟨port, -, rfl⟩ := List.mem_map.mp h
    exact .inl rfl

lemma mem_destinations_reverseDns {resolvers : List IpAddr} {ip : IpAddr} (h : ip ∈ resolvers)
    (target : IpAddr) :
    ⟨ip, some 53⟩ ∈ (ProberConfig.reverseDns resolvers).prober.destinations target :=
  List.mem_map.mpr ⟨ip, h, rfl⟩

end Rastreo
