import Rastreo.Fuser.Weights
import Rastreo.Library.KeyedFold
import Rastreo.Library.SortedEntries
import Rastreo.Library.Words
import Rastreo.Model.Slices
import Rastreo.Prober.Snmp.Message
import Mathlib.Data.List.Lex

/-!
# The LLDP tables over SNMP

`lldp` reads the chassis of a device from a response and its neighbours from the rows of two tables,
each row one cell with column and index at the end of its name.  Identifiers are octets, written by
what their subtype says they are.
-/

namespace Rastreo

/-! ## Rendering octets -/

/-- `{b:02x}`. -/
def hexDigits (b : UInt8) : List Char := [(b.toNat / 16).digitChar, (b.toNat % 16).digitChar]

def hexString (bytes : Bytes) : String := String.ofList (bytes.flatMap hexDigits)

def maxStringBytes : ℕ := 256

def sanitizeOctets (bytes : Bytes) : String :=
  let trimmed := trim (fromUtf8Lossy bytes)
  if trimmed.utf8ByteSize ≤ maxStringBytes then trimmed
  else String.ofList (takeBytes maxStringBytes trimmed.toList)

def bytesToOptString (bytes : Bytes) : Option String :=
  let s := sanitizeOctets bytes
  if s = "" then none else some s

def ipv4OfOctets (octets : Bytes) : IpAddr := .v4 (BitVec.ofNat 32 (beNat octets))

def ipv6OfOctets (octets : Bytes) : IpAddr := .v6 (BitVec.ofNat 128 (beNat octets))

def renderNetworkAddress (bytes : Bytes) : String :=
  match bytes with
  | [] => hexString bytes
  | family :: rest =>
    if family = 1 ∧ rest.length = 4 then (ipv4OfOctets rest).display
    else if family = 2 ∧ rest.length = 16 then (ipv6OfOctets rest).display
    else hexString bytes

section Render

variable [CaseMapping]

def macOrHex (bytes : Bytes) : String :=
  if bytes.length = 6 then normalizeMac (String.ofList ([':'].intercalate (bytes.map hexDigits)))
  else hexString bytes

def renderId (mac networkAddress subtype : UInt32) (bytes : Bytes) : String :=
  if subtype = mac then macOrHex bytes
  else if subtype = networkAddress then renderNetworkAddress bytes
  else sanitizeOctets bytes

def renderChassisId : UInt32 → Bytes → String :=
  renderId chassisSubtypeMac chassisSubtypeNetworkAddress

def renderPortId : UInt32 → Bytes → String :=
  renderId portSubtypeMac portSubtypeNetworkAddress

end Render

/-! ## Names of cells -/

def oidLldpLocChassisIdSubtype : Oid := [1, 0, 8802, 1, 1, 2, 1, 3, 1, 0]

def oidLldpLocChassisId : Oid := [1, 0, 8802, 1, 1, 2, 1, 3, 2, 0]

def oidLldpRemEntry : Oid := [1, 0, 8802, 1, 1, 2, 1, 4, 1, 1]

def oidLldpLocPortEntry : Oid := [1, 0, 8802, 1, 1, 2, 1, 3, 7, 1]

/-- `rem_cell`: the column and the index. -/
def remCell (oid : Oid) : Option (UInt32 × List UInt32) :=
  if oid.take oidLldpRemEntry.length = oidLldpRemEntry then
    match oid.drop oidLldpRemEntry.length with
    | col :: index => if index = [] then none else some (col, index)
    | [] => none
  else none

/-- `loc_cell`: the column and the number of the port. -/
def locCell (oid : Oid) : Option (UInt32 × UInt32) :=
  if oid.take oidLldpLocPortEntry.length = oidLldpLocPortEntry then
    match oid.drop oidLldpLocPortEntry.length with
    | [col, port] => some (col, port)
    | _ => none
  else none

/-- `u32::try_from`. -/
def u32TryFrom (i : Int64) : Option UInt32 :=
  if 0 ≤ i.toInt ∧ i.toInt < 2 ^ 32 then some (UInt32.ofNat i.toInt.toNat) else none

def asU32 : VarValue → Option UInt32
  | .int i => u32TryFrom i
  | _ => none

def asBytes : VarValue → Option Bytes
  | .bytes b => some b
  | _ => none

/-! ## The observation -/

structure LocalChassis where
  id : String
  subtype : UInt32
  deriving DecidableEq

/-- The loop of `parse_local_chassis`. -/
def readLocalChassis (st : UInt32 × Option Bytes) (vb : VarBind) : UInt32 × Option Bytes :=
  if vb.name = oidLldpLocChassisIdSubtype then
    match vb.value with
    | .int i => ((u32TryFrom i).getD 0, st.2)
    | _ => st
  else if vb.name = oidLldpLocChassisId then
    match vb.value with
    | .bytes b => (st.1, some b)
    | _ => st
  else st

structure NeighborColumns where
  chassisSubtype : Option UInt32 := none
  chassisId : Option Bytes := none
  portSubtype : Option UInt32 := none
  portId : Option Bytes := none
  portDesc : Option Bytes := none
  sysName : Option Bytes := none
  deriving DecidableEq

structure RemCell where
  col : UInt32
  index : List UInt32
  value : VarValue

def remCells (remRows : List (Oid × VarValue)) : List RemCell :=
  remRows.filterMap fun row => (remCell row.1).map fun cell => ⟨cell.1, cell.2, row.2⟩

def NeighborColumns.set (entry : NeighborColumns) (cell : RemCell) : NeighborColumns :=
  if cell.col = 4 then { entry with chassisSubtype := asU32 cell.value }
  else if cell.col = 5 then { entry with chassisId := asBytes cell.value }
  else if cell.col = 6 then { entry with portSubtype := asU32 cell.value }
  else if cell.col = 7 then { entry with portId := asBytes cell.value }
  else if cell.col = 8 then { entry with portDesc := asBytes cell.value }
  else if cell.col = 9 then { entry with sysName := asBytes cell.value }
  else entry

def neighborGroups (remRows : List (Oid × VarValue)) :
    AList fun _ : List UInt32 => NeighborColumns :=
  (remCells remRows).foldl (upsert RemCell.index (fun _ => {}) NeighborColumns.set) ∅

def portColumn (col : UInt32) (locRows : List (Oid × VarValue)) : AList fun _ : UInt32 => String :=
  locRows.foldl (fun names row =>
      match locCell row.1, row.2 with
      | some (c, port), .bytes b => if c = col then names.insert port (sanitizeOctets b) else names
      | _, _ => names)
    ∅

/-- The identifier of a port before its description. -/
def localPortName (locRows : List (Oid × VarValue)) (port : UInt32) : Option String :=
  ((portColumn 3 locRows).lookup port).or ((portColumn 4 locRows).lookup port)

def indexOrder (e : List UInt32 × NeighborColumns) : List ℕ := e.1.map UInt32.toNat

section Observation

variable [CaseMapping]

def parseLocalChassis (resp : SnmpResponse) : LocalChassis :=
  let st := resp.varBinds.foldl readLocalChassis (0, none)
  ⟨st.2.elim "" (renderChassisId st.1), st.1⟩

def groupNeighbor (locRows : List (Oid × VarValue)) (index : List UInt32) (cols : NeighborColumns) :
    LldpNeighbor :=
  let chassisSubtype := cols.chassisSubtype.getD 0
  let portSubtype := cols.portSubtype.getD 0
  { localPort := (index[1]?).elim "" fun n => (localPortName locRows n).getD (toString n.toNat)
    remoteChassisId := cols.chassisId.elim "" (renderChassisId chassisSubtype)
    remoteChassisSubtype := chassisSubtype
    remotePortId := cols.portId.elim "" (renderPortId portSubtype)
    remotePortSubtype := portSubtype
    remotePortDesc := cols.portDesc.bind bytesToOptString
    remoteSysName := cols.sysName.bind bytesToOptString }

def assembleObservation (chassis : LocalChassis) (remRows locRows : List (Oid × VarValue)) :
    LldpObservation where
  localChassisId := chassis.id
  localChassisSubtype := chassis.subtype
  neighbors :=
    (sortBy indexOrder ((neighborGroups remRows).entries.map fun e => (e.1, e.2))).map
      fun e => groupNeighbor locRows e.1 e.2
  discoveredVia := "lldp"

end Observation

end Rastreo
