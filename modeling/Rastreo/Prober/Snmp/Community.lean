import Rastreo.Prober.Snmp.V3

/-!
# Community sessions

A request of SNMPv1 or SNMPv2c is sent again until a reply with its identifier comes or the deadline
passes.  `snmpRequest` sends a request on a session of any version.
-/

namespace Rastreo

inductive SnmpVersion where
  | v1
  | v2c
  | v3
  deriving DecidableEq

/-! ## Messages of SNMPv1 -/

/-- `smi_v1::ObjectSyntax`, application-wide types not told apart. -/
inductive V1Value where
  | number (i : ℤ)
  | string (s : Bytes)
  | object (o : Oid)
  | empty
  | applicationWide
  deriving DecidableEq

/-- `snmp_v1::VarBind`. -/
structure V1VarBind where
  name : Oid
  value : V1Value
  deriving DecidableEq

/-- An integer that is no `i32` is read as zero. -/
def normalizeV1Varbind (vb : V1VarBind) : VarBind where
  name := vb.name
  value :=
    match vb.value with
    | .number i => .int (if -2 ^ 31 ≤ i ∧ i < 2 ^ 31 then Int64.ofInt i else 0)
    | .string s => .bytes s
    | .object o => .oid o
    | .empty => .unspecified
    | .applicationWide => .other

/-- `snmp_v1::Pdu`. -/
structure V1Pdu where
  requestId : ℤ
  errorStatus : ℤ
  errorIndex : ℤ
  variableBindings : List V1VarBind
  deriving DecidableEq

/-- `snmp_v1::Pdus`; what a trap carries is not read. -/
inductive V1Pdus where
  | getRequest (pdu : V1Pdu)
  | getNextRequest (pdu : V1Pdu)
  | getResponse (pdu : V1Pdu)
  | setRequest (pdu : V1Pdu)
  | trap
  deriving DecidableEq

structure CommunityMessage (Pdus : Type) where
  version : ℤ
  community : Bytes
  data : Pdus

structure CommunityCodec where
  encodeV1 : CommunityMessage V1Pdus → Except String Bytes
  decodeV1 : Bytes → Option (CommunityMessage V1Pdus)
  encodeV2c : CommunityMessage V2Pdus → Except String Bytes
  decodeV2c : Bytes → Option (CommunityMessage V2Pdus)

/-! ## Requests -/

def simpleV2Pdu (requestId : Int32) (names : List Oid) : V2Pdu :=
  ⟨requestId, 0, 0, unspecifiedV2Varbinds names⟩

def v1Pdu (requestId : Int32) (names : List Oid) : V1Pdu :=
  ⟨requestId.toInt, 0, 0, names.map fun name => ⟨name, .empty⟩⟩

def encodeCommunityMessage (codec : CommunityCodec) (version : SnmpVersion) (community : String)
    (pdu : RequestPdu) (requestId : Int32) : Except String Bytes :=
  match version with
  | .v1 => do
    let data ← match pdu with
      | .get names => .ok (.getRequest (v1Pdu requestId names))
      | .getNext names => .ok (.getNextRequest (v1Pdu requestId names))
      | .getBulk _ _ _ => .error "snmp v1 has no GetBulkRequest"
    (codec.encodeV1 ⟨0, community.toUTF8.toList, data⟩).mapError fun e =>
      "snmp v1 encode failed: " ++ e
  | .v2c =>
    let data := match pdu with
      | .get names => .getRequest (simpleV2Pdu requestId names)
      | .getNext names => .getNextRequest (simpleV2Pdu requestId names)
      | .getBulk nonRepeaters maxRepetitions names =>
        .getBulkRequest ⟨requestId, nonRepeaters, maxRepetitions, unspecifiedV2Varbinds names⟩
    (codec.encodeV2c ⟨1, community.toUTF8.toList, data⟩).mapError fun e =>
      "snmp v2c encode failed: " ++ e
  | .v3 => .error "encode_community_message called for v3"

/-! ## Replies -/

inductive CommunityVerdict where
  | response (resp : SnmpResponse)
  | unexpectedPdu
  | wrongRequestId
  | malformed
  deriving DecidableEq

/-- `decode_v1_pdu`; a status that is no `i32` is read as one. -/
def decodeV1Pdu (msg : CommunityMessage V1Pdus) (expectedRequestId : Int32) : CommunityVerdict :=
  match msg.data with
  | .getResponse pdu =>
    if pdu.requestId ≠ expectedRequestId.toInt then .wrongRequestId
    else
      let errorStatus :=
        if -2 ^ 31 ≤ pdu.errorStatus ∧ pdu.errorStatus < 2 ^ 31 then UInt32.ofInt pdu.errorStatus
        else 1
      .response ⟨errorStatus, pdu.variableBindings.map normalizeV1Varbind⟩
  | _ => .unexpectedPdu

def decodeV2cPdu (msg : CommunityMessage V2Pdus) (expectedRequestId : Int32) : CommunityVerdict :=
  match msg.data with
  | .response pdu =>
    if pdu.requestId ≠ expectedRequestId then .wrongRequestId
    else .response ⟨pdu.errorStatus, pdu.variableBindings.map normalizeV2Varbind⟩
  | _ => .unexpectedPdu

def decodeCommunityResponse (codec : CommunityCodec) (version : SnmpVersion) (bytes : Bytes)
    (expectedRequestId : Int32) : CommunityVerdict :=
  match version with
  | .v1 =>
    match codec.decodeV1 bytes with
    | some msg => decodeV1Pdu msg expectedRequestId
    | none => .malformed
  | .v2c =>
    match codec.decodeV2c bytes with
    | some msg => decodeV2cPdu msg expectedRequestId
    | none => .malformed
  | .v3 => .malformed

/-! ## Exchanges -/

section Exchanges

variable (codec : CommunityCodec)

/-- `none` is the deadline of the attempt, with whether that of the exchange has passed. -/
def awaitResponse (version : SnmpVersion) (target : SocketAddr) (requestId : Int32) :
    List RecvEvent → Option (Except SnmpError SnmpResponse) × Bool × List RecvEvent
  | [] => (none, true, [])
  | .timeout overall :: rest => (none, overall, rest)
  | .ioError err :: rest => (some (.error (snmpIoError err)), false, rest)
  | .datagram peer bytes :: rest =>
    if peer.ip ≠ target.ip then awaitResponse version target requestId rest
    else
      match decodeCommunityResponse codec version bytes requestId with
      | .response resp => (some (.ok resp), false, rest)
      | .unexpectedPdu | .wrongRequestId => awaitResponse version target requestId rest
      | .malformed => (some (.error .decode), false, rest)

/-- Each sends the request again. -/
def communityAttempts (version : SnmpVersion) (target : SocketAddr) (requestId : Int32)
    (sendError : ℕ → Option IoError) : ℕ → List RecvEvent → Except SnmpError SnmpResponse
  | 0, _ => .error .absent
  | attempts + 1, events =>
    match sendError attempts with
    | some err => .error (snmpIoError err)
    | none =>
      match awaitResponse codec version target requestId events with
      | (some result, _, _) => result
      | (none, true, _) => .error .absent
      | (none, false, rest) =>
        communityAttempts version target requestId sendError attempts rest

structure RequestNet where
  requestNanos : UInt64
  sendError : ℕ → Option IoError
  /-- the rounds of a request of SNMPv3 -/
  nets : ℕ → RoundNet
  events : List RecvEvent

def communityExchange (target : SocketAddr) (version : SnmpVersion) (community : String)
    (pdu : RequestPdu) (retries : ℕ) (net : RequestNet) : Except SnmpError SnmpResponse :=
  let requestId := newRequestId net.requestNanos target.port
  match encodeCommunityMessage codec version community pdu requestId with
  | .error e => .error (.other ("snmp encode failed: " ++ e))
  | .ok _ => communityAttempts codec version target requestId net.sendError (retries + 1) net.events

variable {codec}

lemma communityExchange_of_reply {target peer : SocketAddr} {version : SnmpVersion}
    {community : String} {pdu : RequestPdu} {retries : ℕ} {net : RequestNet} {payload bytes : Bytes}
    {rest : List RecvEvent} {resp : SnmpResponse}
    (hencode : encodeCommunityMessage codec version community pdu
      (newRequestId net.requestNanos target.port) = .ok payload)
    (hsend : net.sendError retries = none) (hevents : net.events = .datagram peer bytes :: rest)
    (hpeer : peer.ip = target.ip)
    (hreply : decodeCommunityResponse codec version bytes
      (newRequestId net.requestNanos target.port) = .response resp) :
    communityExchange codec target version community pdu retries net = .ok resp := by
  rw [communityExchange, hencode]
  rw [communityAttempts, hsend, hevents]
  rw [awaitResponse, if_neg (not_not.mpr hpeer), hreply]

end Exchanges

/-! ## Sessions -/

inductive SessionAuth where
  | community (version : SnmpVersion) (community : String)
  | v3 (session : V3Session)
  deriving DecidableEq

structure SnmpSession where
  targetAddr : SocketAddr
  auth : SessionAuth
  deriving DecidableEq

/-- `supports_getbulk`: every version but the first. -/
def SnmpSession.supportsGetbulk (self : SnmpSession) : Bool :=
  match self.auth with
  | .community .v1 _ => false
  | _ => true

/-- The wire encodings and the cryptographic functions. -/
structure SnmpStack where
  community : CommunityCodec
  v3 : BerCodec
  crypto : SnmpCrypto

/-- `snmp_request`, with the session after it. -/
def snmpRequest (stack : SnmpStack) (session : SnmpSession) (pdu : RequestPdu) (retries : ℕ)
    (net : RequestNet) : Except SnmpError SnmpResponse × SnmpSession :=
  match session.auth with
  | .community version community =>
    (communityExchange stack.community session.targetAddr version community pdu retries net,
      session)
  | .v3 state =>
    let exchange := authenticatedExchange stack.v3 stack.crypto state session.targetAddr
      ⟨pdu, net.nets, net.events⟩
    (exchange.result, { session with auth := .v3 exchange.session })

end Rastreo
