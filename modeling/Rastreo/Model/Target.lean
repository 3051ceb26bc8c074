import Rastreo.Model.Device

/-!
# Targets

What a scenario names to be scanned, and the addresses a plan makes of it.
-/

namespace Rastreo

/-- An address and the length of its network part. -/
inductive IpNet where
  | v4 (addr : BitVec 32) (prefixLen : Fin 33)
  | v6 (addr : BitVec 128) (prefixLen : Fin 129)
  deriving DecidableEq

-- Literals are lengths of network parts.
instance neZero_lengthsV4 : NeZero 33 := ⟨by decide⟩

instance neZero_lengthsV6 : NeZero 129 := ⟨by decide⟩

/-- `Display` for `IpNet`. -/
def IpNet.display : IpNet → String
  | .v4 addr prefixLen => (IpAddr.v4 addr).display ++ "/" ++ toString prefixLen.val
  | .v6 addr prefixLen => (IpAddr.v6 addr).display ++ "/" ++ toString prefixLen.val

/-- A target as the scenario names it. -/
inductive Target where
  | ip (addr : IpAddr)
  | cidr (net : IpNet)
  | range (start stop : IpAddr)
  | dnsName (name : String)
  deriving DecidableEq

/-- `Display` for `Target`. -/
def Target.display : Target → String
  | .ip addr => addr.display
  | .cidr net => net.display
  | .range start stop => start.display ++ "-" ++ stop.display
  | .dnsName name => name

/-- An address to be scanned and the target it comes from. -/
structure ResolvedTarget where
  ip : IpAddr
  original : Target
  resolvedAt : SystemTime
  deriving DecidableEq

end Rastreo
