import Rastreo.Fuser.Weights
import Rastreo.Library.SortedEntries
import Rastreo.Model.AddrParse
import Rastreo.Model.Json
import Rastreo.Prober.Gnmi
import Mathlib.Data.List.AList
import Mathlib.Data.Prod.Lex
import Mathlib.Data.String.Basic

/-!
# The LLDP subtree of a gNMI response

An update is one leaf, under the path of its interface and neighbour, or JSON: the leaves of a
neighbour, or the whole subtree.  All fold into one table of neighbours by interface and id, from
which the observation is made.  The reader of JSON is the parameter `fromSlice`.
-/

namespace Rastreo

/-! ## Names and values -/

/-- `strip_module`: what follows the last colon. -/
def stripModule (name : String) : String := (splitChar ':' name).getLastD name

def strippedGet (value : Json) (key : String) : Option Json :=
  match value with
  | .object map => (map.find? fun kv => stripModule kv.1 = key).map Prod.snd
  | _ => none

def strippedStr (value : Json) (key : String) : Option String :=
  match strippedGet value key with
  | some (.string s) => if trim s = "" then none else some (trim s)
  | some (.number text) => some text
  | _ => none

def descendLldpWrapper (json : Json) : Json :=
  match json with
  | .object [(k, v)] => if stripModule k = "lldp" then v else json
  | _ => json

def joinedElems (pathPrefix path : Option GnmiPath) : List PathElem :=
  pathPrefix.elim [] GnmiPath.elem ++ path.elim [] GnmiPath.elem

/-- The key of the first element of this name, unless it is the wildcard. -/
def elemKey (elems : List PathElem) (elemName keyName : String) : Option String :=
  ((elems.find? fun e => stripModule e.name = elemName).bind fun e => e.key.lookup keyName).filter
    fun v => v ≠ "" && v ≠ "*"

/-- The end of `scalar_value`: blank text is no value. -/
def scalarText (rendered : String) : Option String :=
  if trim rendered = "" then none else some (trim rendered)

def scalarValue : TypedValue → Option String
  | .string s => scalarText s
  | .ascii s => scalarText s
  | .int i => scalarText (toString i.toInt)
  | .uint u => scalarText (toString u.toNat)
  | _ => none

def jsonBlob (fromSlice : String → Option Json) : TypedValue → Option Json
  | .json text => fromSlice text
  | .jsonIetf text => fromSlice text
  | _ => none

/-! ## Canonical identifiers -/

def enumSuffix (raw : String) : String := toAsciiUppercase (trim (stripModule raw))

def chassisSubtypeFromType (raw : String) : UInt32 :=
  match enumSuffix raw with
  | "CHASSIS_COMPONENT" => 1
  | "INTERFACE_ALIAS" => 2
  | "PORT_COMPONENT" => 3
  | "MAC_ADDRESS" => chassisSubtypeMac
  | "NETWORK_ADDRESS" => chassisSubtypeNetworkAddress
  | "INTERFACE_NAME" => 6
  | "LOCAL" => 7
  | _ => 0

def portSubtypeFromType (raw : String) : UInt32 :=
  match enumSuffix raw with
  | "INTERFACE_ALIAS" => 1
  | "PORT_COMPONENT" => 2
  | "MAC_ADDRESS" => portSubtypeMac
  | "NETWORK_ADDRESS" => portSubtypeNetworkAddress
  | "INTERFACE_NAME" => 5
  | "AGENT_CIRCUIT_ID" => 6
  | "LOCAL" => 7
  | _ => 0

def canonicalNetworkAddress (raw : String) : String :=
  match IpAddr.parse (trim raw) with
  | some ip => ip.display
  | none => trim raw

variable [CaseMapping]

def canonicalId (mac networkAddress subtype : UInt32) (id : String) : String :=
  if subtype = mac then canonicalMacStr id
  else if subtype = networkAddress then canonicalNetworkAddress id
  else trim id

def canonicalChassis : UInt32 → String → String :=
  canonicalId chassisSubtypeMac chassisSubtypeNetworkAddress

def canonicalPort : UInt32 → String → String :=
  canonicalId portSubtypeMac portSubtypeNetworkAddress

/-! ## The table -/

structure NeighborBuilder where
  chassisId : Option String := none
  chassisType : Option String := none
  portId : Option String := none
  portType : Option String := none
  systemName : Option String := none
  portDescription : Option String := none
  deriving DecidableEq

/-- Neighbours by interface and id, enumerated in this order. -/
structure LldpBuilder where
  localChassisId : Option String := none
  localChassisType : Option String := none
  neighbors : AList fun _ : String × String => NeighborBuilder := ∅

def setNeighborLeaf (entry : NeighborBuilder) (leaf value : String) : NeighborBuilder :=
  match leaf with
  | "chassis-id" => { entry with chassisId := some value }
  | "chassis-id-type" => { entry with chassisType := some value }
  | "port-id" => { entry with portId := some value }
  | "port-id-type" => { entry with portType := some value }
  | "system-name" => { entry with systemName := some value }
  | "port-description" => { entry with portDescription := some value }
  | _ => entry

/-- `apply_neighbor_state`: every leaf that is there is set. -/
def applyNeighborState (entry : NeighborBuilder) (state : Json) : NeighborBuilder where
  chassisId := (strippedStr state "chassis-id").or entry.chassisId
  chassisType := (strippedStr state "chassis-id-type").or entry.chassisType
  portId := (strippedStr state "port-id").or entry.portId
  portType := (strippedStr state "port-id-type").or entry.portType
  systemName := (strippedStr state "system-name").or entry.systemName
  portDescription := (strippedStr state "port-description").or entry.portDescription

def finishNeighbor (key : String × String) (nbr : NeighborBuilder) : LldpNeighbor :=
  let chassisSubtype := chassisSubtypeFromType (nbr.chassisType.getD "")
  let portSubtype := portSubtypeFromType (nbr.portType.getD "")
  { localPort := key.1
    remoteChassisId := canonicalChassis chassisSubtype (nbr.chassisId.getD "")
    remoteChassisSubtype := chassisSubtype
    remotePortId := canonicalPort portSubtype (nbr.portId.getD "")
    remotePortSubtype := portSubtype
    remotePortDesc := nbr.portDescription.filter (· ≠ "")
    remoteSysName := nbr.systemName.filter (· ≠ "") }

namespace LldpBuilder

variable (self : LldpBuilder)

/-- `neighbors.entry(key).or_default()`, changed. -/
def atNeighbor (key : String × String) (f : NeighborBuilder → NeighborBuilder) : LldpBuilder :=
  { self with neighbors := self.neighbors.insert key (f ((self.neighbors.lookup key).getD {})) }

def ingestLeaf (elems : List PathElem) (value : String) : LldpBuilder :=
  let leaf := elems.getLast?.elim "" fun e => stripModule e.name
  match elemKey elems "interface" "name", elemKey elems "neighbor" "id" with
  | some interface, some id => self.atNeighbor (interface, id) (setNeighborLeaf · leaf value)
  | _, _ =>
    match leaf with
    | "chassis-id" => { self with localChassisId := some value }
    | "chassis-id-type" => { self with localChassisType := some value }
    | _ => self

def ingestNeighborJson (name : String) (self : LldpBuilder) (nbr : Json) : LldpBuilder :=
  match strippedStr nbr "id" with
  | none => self
  | some id =>
    let state := (strippedGet nbr "state").getD nbr
    self.atNeighbor (name, id) (applyNeighborState · state)

def ingestInterfaceJson (intf : Json) : LldpBuilder :=
  match strippedStr intf "name" with
  | none => self
  | some name =>
    let neighbors := (strippedGet intf "neighbors").getD intf
    match (strippedGet neighbors "neighbor").bind Json.asArray with
    | none => self
    | some nlist => nlist.foldl (ingestNeighborJson name) self

def ingestChassisJson (state : Json) : LldpBuilder :=
  { self with
    localChassisId := (strippedStr state "chassis-id").or self.localChassisId
    localChassisType := (strippedStr state "chassis-id-type").or self.localChassisType }

def ingestContainerJson (json : Json) : LldpBuilder :=
  let root := descendLldpWrapper json
  let self := (strippedGet root "state").elim self self.ingestChassisJson
  let interfaces := (strippedGet root "interfaces").getD root
  match (strippedGet interfaces "interface").bind Json.asArray with
  | none => self
  | some list => list.foldl ingestInterfaceJson self

def ingestJson (elems : List PathElem) (json : Json) : LldpBuilder :=
  match elemKey elems "interface" "name", elemKey elems "neighbor" "id" with
  | some interface, some id =>
    let state := (strippedGet json "state").getD json
    self.atNeighbor (interface, id) (applyNeighborState · state)
  | _, _ => self.ingestContainerJson json

def ingestUpdate (fromSlice : String → Option Json) (self : LldpBuilder)
    (pathPrefix : Option GnmiPath) (update : GnmiUpdate) : LldpBuilder :=
  let elems := joinedElems pathPrefix update.path
  match update.val with
  | none => self
  | some value =>
    match jsonBlob fromSlice value with
    | some json => self.ingestJson elems json
    | none => (scalarValue value).elim self (self.ingestLeaf elems)

def sortedNeighbors : List ((String × String) × NeighborBuilder) :=
  sortBy keyOrder (self.neighbors.entries.map fun e => (e.1, e.2))

def finish : LldpObservation :=
  let localSubtype := chassisSubtypeFromType (self.localChassisType.getD "")
  { localChassisId := canonicalChassis localSubtype (self.localChassisId.getD "")
    localChassisSubtype := localSubtype
    neighbors := self.sortedNeighbors.map fun e => finishNeighbor e.1 e.2
    discoveredVia := "gnmi" }

end LldpBuilder

def GetResponse.updates (response : GetResponse) : List (Option GnmiPath × GnmiUpdate) :=
  response.notification.flatMap fun n => n.update.map fun u => (n.pathPrefix, u)

def parseLldpResponse (fromSlice : String → Option Json) (response : GetResponse) :
    LldpObservation :=
  (response.updates.foldl (fun builder u => builder.ingestUpdate fromSlice u.1 u.2)
    ({} : LldpBuilder)).finish

end Rastreo
