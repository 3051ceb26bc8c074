import Rastreo.Prober.Snmp.Message

/-!
# SNMPv3 sessions

A session finds the engine of the target once and derives its keys.  A request is sent, and its
reply judged, at most twice: a report that the clock is elsewhere is answered with the clock of the
report. Datagrams are a list of events consumed from the front; when it is used up the deadline has
passed.
-/

namespace Rastreo

structure SocketAddr where
  ip : IpAddr
  port : UInt16
  deriving DecidableEq

inductive RecvEvent where
  | datagram (peer : SocketAddr) (bytes : Bytes)
  | ioError (err : IoError)
  /-- the deadline of the attempt, or that of the whole discovery -/
  | timeout (overall : Bool)
  deriving DecidableEq

structure EngineSnapshot where
  engineId : Bytes
  engineBoots : UInt32
  engineTime : UInt32
  deriving DecidableEq

/-- The engine that security parameters name. -/
def UsmSecurityParameters.engine (params : UsmSecurityParameters) : EngineSnapshot where
  engineId := params.authoritativeEngineId
  engineBoots := integerToU32 params.authoritativeEngineBoots
  engineTime := integerToU32 params.authoritativeEngineTime

structure V3Session where
  username : String
  securityLevel : SecurityLevel
  auth : ResolvedAuth
  privacy : ResolvedPriv
  authKey : Bytes
  privKey : Bytes
  engine : EngineSnapshot
  deriving DecidableEq

/-! ## Identifiers -/

structure RoundClock where
  msgNanos : UInt64
  msgSeq : UInt64
  requestNanos : UInt64
  saltSeq : UInt64
  saltNanos : UInt64

def nextMsgId (nanos seq : UInt64) : Int32 :=
  let mixed := (nanos ^^^ seq) &&& 0x7fffffff
  if mixed = 0 then 1 else mixed.toUInt32.toInt32

def newRequestId (nanos : UInt64) (port : UInt16) : Int32 :=
  (nanos ^^^ (port.toUInt64 <<< 32)).toUInt32.toInt32

/-- The eight bytes of a word, most significant first. -/
def toBeBytes (w : UInt64) : Bytes :=
  [(w >>> 56).toUInt8, (w >>> 48).toUInt8, (w >>> 40).toUInt8, (w >>> 32).toUInt8,
    (w >>> 24).toUInt8, (w >>> 16).toUInt8, (w >>> 8).toUInt8, w.toUInt8]

def nextSalt (seq nanos : UInt64) : Bytes := toBeBytes (seq ^^^ nanos)

section Sessions

variable (codec : BerCodec) (crypto : SnmpCrypto)

/-! ## Discovery -/

def deriveKeys (engine : EngineSnapshot) (auth : ResolvedAuth) (privacy : ResolvedPriv) :
    Bytes × Bytes :=
  let authKey :=
    match auth with
    | .none => []
    | .some algo password => crypto.localizeKey password engine.engineId algo
  let privKey :=
    match auth, privacy with
    | .none, _ | _, .none => []
    | .some authAlgo _, .some privAlgo privPw =>
      crypto.derivePrivKey authKey privPw engine.engineId authAlgo privAlgo
  (authKey, privKey)

def v3Message (msgId : Int32) (flags : UInt8) (scopedData : ScopedPduData) : V3Message where
  version := 3
  globalData :=
    { messageId := msgId.toInt, maxSize := 65507, flags := [flags], securityModel := 3 }
  securityParameters := []
  scopedData := scopedData

def reportableFlag : UInt8 := 0b100

/-- `build_message` and the encoding of the discovery request. -/
def discoveryRequest (username : String) (msgId requestId : Int32) : Except SnmpError Bytes := do
  let scopedPdu : ScopedPdu := ⟨[], [], .getRequest ⟨requestId, 0, 0, []⟩⟩
  let usmParams : UsmSecurityParameters := ⟨[], 0, 0, username.toUTF8.toList, [], []⟩
  let msg ← (codec.encodeSecurityParameters
    (v3Message msgId reportableFlag (.cleartext scopedPdu)) usmParams).mapError fun e =>
      .other ("snmp v3 security parameters encode failed: " ++ e)
  (codec.encodeMessage msg).mapError fun e => .other ("snmp v3 discovery encode failed: " ++ e)

def discoveredEngine (bytes : Bytes) : Except SnmpError EngineSnapshot :=
  match (codec.decodeMessage bytes).bind fun reply =>
    codec.decodeParams reply.securityParameters with
  | none => .error .decode
  | some params =>
    if params.authoritativeEngineId.isEmpty then
      .error (.other "snmp v3 discovery response missing engine id")
    else .ok params.engine

/-- `none` is the deadline of the attempt, with whether that of the discovery has passed. -/
def awaitDiscovery (target : SocketAddr) :
    List RecvEvent → Option (Except SnmpError EngineSnapshot) × Bool × List RecvEvent
  | [] => (none, true, [])
  | .timeout overall :: rest => (none, overall, rest)
  | .ioError err :: rest => (some (.error (snmpIoError err)), false, rest)
  | .datagram peer bytes :: rest =>
    if peer.ip ≠ target.ip then awaitDiscovery target rest
    else (some (discoveredEngine codec bytes), false, rest)

/-- Each sends the request again. -/
def discoverAttempts (target : SocketAddr) (sendError : ℕ → Option IoError) :
    ℕ → List RecvEvent → Except SnmpError EngineSnapshot
  | 0, _ => .error .absent
  | attempts + 1, events =>
    match sendError attempts with
    | some err => .error (snmpIoError err)
    | none =>
      match awaitDiscovery codec target events with
      | (some result, _, _) => result
      | (none, true, _) => .error .absent
      | (none, false, rest) => discoverAttempts target sendError attempts rest

/-- Clock readings, failures of sends and datagrams. -/
structure DiscoveryNet where
  clock : RoundClock
  sendError : ℕ → Option IoError
  events : List RecvEvent

def discoverEngine (target : SocketAddr) (username : String) (retries : ℕ) (net : DiscoveryNet) :
    Except SnmpError EngineSnapshot := do
  let _ ← discoveryRequest codec username (nextMsgId net.clock.msgNanos net.clock.msgSeq)
    (newRequestId net.clock.requestNanos target.port)
  discoverAttempts codec target net.sendError (retries + 1) net.events

def discoverAndDerive (target : SocketAddr) (credentials : UsmCredentials) (retries : ℕ)
    (net : DiscoveryNet) : Except SnmpError V3Session := do
  let securityLevel ←
    (deriveSecurityLevel credentials.auth credentials.privacy).mapError SnmpError.other
  let engine ← discoverEngine codec target credentials.username retries net
  let keys := deriveKeys crypto engine credentials.auth credentials.privacy
  return {
    username := credentials.username, securityLevel, auth := credentials.auth,
    privacy := credentials.privacy, authKey := keys.1, privKey := keys.2, engine }

/-! ## Requests -/

def buildScopedPdu (engine : EngineSnapshot) (pdu : RequestPdu) (requestId : Int32) :
    ScopedPdu where
  engineId := engine.engineId
  name := []
  data :=
    match pdu with
    | .get names => .getRequest ⟨requestId, 0, 0, unspecifiedV2Varbinds names⟩
    | .getNext names => .getNextRequest ⟨requestId, 0, 0, unspecifiedV2Varbinds names⟩
    | .getBulk nonRepeaters maxRepetitions names =>
      .getBulkRequest ⟨requestId, nonRepeaters, maxRepetitions, unspecifiedV2Varbinds names⟩

/-- As sent, with its privacy parameters. -/
def protectScopedPdu (session : V3Session) (engine : EngineSnapshot) (salt : Bytes)
    (scopedPdu : ScopedPdu) (plaintext : Bytes) : Except String (ScopedPduData × Bytes) :=
  match session.securityLevel, session.privacy with
  | .authPriv, .some algo _ =>
    ((crypto.encryptScopedPdu algo session.privKey engine.engineBoots engine.engineTime salt
      plaintext).mapError ("snmp v3 encrypt failed: " ++ ·)).map fun enc =>
        (.encrypted enc.ciphertext, enc.privacyParameters)
  | _, _ => .ok (.cleartext scopedPdu, [])

def authPlaceholderLen (session : V3Session) : ℕ :=
  match session.securityLevel, session.auth with
  | .noAuthNoPriv, _ => 0
  | _, .some algo _ => algo.hmacTruncLen
  | _, .none => 0

/-- Authenticated over its encoding with zeroed parameters. -/
def authenticateRequest (session : V3Session) (msg : V3Message)
    (usmParams : UsmSecurityParameters) : Except String Bytes :=
  match session.securityLevel, session.auth with
  | .noAuthNoPriv, _ => (codec.encodeMessage msg).mapError ("snmp v3 encode failed: " ++ ·)
  | _, .some algo _ => do
    let encodedZeroed ← (codec.encodeMessage msg).mapError ("snmp v3 encode failed: " ++ ·)
    let hmac := crypto.hmacTruncated algo session.authKey encodedZeroed
    let msg ← (codec.encodeSecurityParameters msg
      { usmParams with authenticationParameters := hmac }).mapError
        ("snmp v3 params re-encode failed: " ++ ·)
    (codec.encodeMessage msg).mapError ("snmp v3 encode with auth failed: " ++ ·)
  | _, .none => .error "snmp v3 invariant broken: authPriv without auth algorithm"

def buildRequest (session : V3Session) (engine : EngineSnapshot) (pdu : RequestPdu)
    (msgId requestId : Int32) (salt : Bytes) : Except String Bytes := do
  let scopedPdu := buildScopedPdu engine pdu requestId
  let plaintext ←
    (codec.encodeScopedPdu scopedPdu).mapError ("snmp v3 scoped encode failed: " ++ ·)
  let (scopedData, privacyParameters) ←
    protectScopedPdu crypto session engine salt scopedPdu plaintext
  let usmParams : UsmSecurityParameters :=
    { authoritativeEngineId := engine.engineId
      authoritativeEngineBoots := engine.engineBoots.toNat
      authoritativeEngineTime := engine.engineTime.toNat
      userName := session.username.toUTF8.toList
      authenticationParameters := List.replicate (authPlaceholderLen session) 0
      privacyParameters }
  let msg ← (codec.encodeSecurityParameters
    (v3Message msgId (reportableFlag ||| session.securityLevel.flagBits) scopedData)
    usmParams).mapError ("snmp v3 params encode failed: " ++ ·)
  authenticateRequest codec crypto session msg usmParams

/-! ## Replies -/

inductive AuthExchange where
  | response (resp : SnmpResponse)
  | empty
  | report
  | notInTimeWindow (engine : EngineSnapshot)
  | absent
  | decode
  | other (msg : String)
  deriving DecidableEq

def ioErrorToExchange (err : IoError) : AuthExchange :=
  match snmpIoError err with
  | .absent | .decode => .absent
  | .fault _ msg | .other msg => .other msg

def zeroedReply (reply : V3Message) (params : UsmSecurityParameters) (len : ℕ) :
    Except String Bytes := do
  let msg ← codec.encodeSecurityParameters reply
    { params with authenticationParameters := List.replicate len 0 }
  codec.encodeMessage msg

def verifyResponseAuth (session : V3Session) (reply : V3Message)
    (params : UsmSecurityParameters) : Bool :=
  match session.auth with
  | .none => true
  | .some algo _ =>
    if params.authenticationParameters.length ≠ algo.hmacTruncLen then false
    else
      match zeroedReply codec reply params algo.hmacTruncLen with
      | .error _ => false
      | .ok encoded =>
        ctEq (crypto.hmacTruncated algo session.authKey encoded) params.authenticationParameters

def extractScopedPdu (session : V3Session) (reply : V3Message) (params : UsmSecurityParameters) :
    Option ScopedPdu :=
  match reply.scopedData with
  | .cleartext pdu => some pdu
  | .encrypted ciphertext =>
    match session.privacy with
    | .none => none
    | .some algo _ =>
      match crypto.decryptScopedPdu algo session.privKey params.engine.engineBoots
        params.engine.engineTime params.privacyParameters ciphertext with
      | .error _ => none
      | .ok plaintext => codec.decodeScopedPdu plaintext

def oidStatsUnknownEngineIds : Oid := [1, 3, 6, 1, 6, 3, 15, 1, 1, 4, 0]

def oidStatsNotInTimeWindow : Oid := [1, 3, 6, 1, 6, 3, 15, 1, 1, 2, 0]

/-- `classify_report`: the first of the two counters decides. -/
def classifyReport (engine : EngineSnapshot) : List V2VarBind → AuthExchange
  | [] => .report
  | vb :: rest =>
    if vb.name = oidStatsUnknownEngineIds then .report
    else if vb.name = oidStatsNotInTimeWindow then .notInTimeWindow engine
    else classifyReport engine rest

def extractResponse (scopedPdu : ScopedPdu) (expectedRequestId : Int32) : Option SnmpResponse :=
  match scopedPdu.data with
  | .response pdu =>
    if pdu.requestId ≠ expectedRequestId then none
    else some ⟨pdu.errorStatus, pdu.variableBindings.map normalizeV2Varbind⟩
  | _ => none

def V3Message.isAuthenticated (reply : V3Message) : Bool :=
  reply.globalData.flags.head?.getD 0 &&& 0b01 != 0

/-- Reports are taken with or without authentication. -/
def judgeScopedPdu (session : V3Session) (engine : EngineSnapshot) (authenticated : Bool)
    (requestId : Int32) (scopedPdu : ScopedPdu) : AuthExchange :=
  match scopedPdu.data with
  | .report pdu => classifyReport engine pdu.variableBindings
  | _ =>
    if !authenticated && session.auth != .none then .empty
    else
      match extractResponse scopedPdu requestId with
      | some resp => .response resp
      | none => .empty

def judgeReply (session : V3Session) (requestId : Int32) (bytes : Bytes) : AuthExchange :=
  match codec.decodeMessage bytes with
  | none => .decode
  | some reply =>
    match codec.decodeParams reply.securityParameters with
    | none => .decode
    | some params =>
      if reply.isAuthenticated && !verifyResponseAuth codec crypto session reply params then .empty
      else
        match extractScopedPdu codec crypto session reply params with
        | none => .decode
        | some scopedPdu =>
          judgeScopedPdu session params.engine reply.isAuthenticated requestId scopedPdu

/-- The verdict, the events consumed and the rest. -/
def receiveReply (session : V3Session) (target : SocketAddr) (requestId : Int32) :
    List RecvEvent → AuthExchange × List RecvEvent × List RecvEvent
  | [] => (.absent, [], [])
  | .timeout overall :: rest => (.absent, [.timeout overall], rest)
  | .ioError err :: rest => (ioErrorToExchange err, [.ioError err], rest)
  | .datagram peer bytes :: rest =>
    if peer.ip ≠ target.ip then
      let (verdict, received, rest) := receiveReply session target requestId rest
      (verdict, .datagram peer bytes :: received, rest)
    else (judgeReply codec crypto session requestId bytes, [.datagram peer bytes], rest)

/-! ## Exchanges -/

structure RoundNet where
  clock : RoundClock
  sendError : Option IoError

structure Round where
  /-- the engine the request was built with -/
  engine : EngineSnapshot
  requestId : Int32
  /-- the request, if it was handed to the socket -/
  sent : Option Bytes
  received : List RecvEvent
  verdict : AuthExchange
  deriving DecidableEq

/-- `one_authenticated_exchange`, with the events it leaves. -/
def oneAuthenticatedExchange (session : V3Session) (target : SocketAddr) (pdu : RequestPdu)
    (net : RoundNet) (events : List RecvEvent) : Round × List RecvEvent :=
  let engine := session.engine
  let msgId := nextMsgId net.clock.msgNanos net.clock.msgSeq
  let requestId := newRequestId net.clock.requestNanos target.port
  let salt := nextSalt net.clock.saltSeq net.clock.saltNanos
  match buildRequest codec crypto session engine pdu msgId requestId salt with
  | .error msg => (⟨engine, requestId, none, [], .other msg⟩, events)
  | .ok payload =>
    match net.sendError with
    | some err => (⟨engine, requestId, some payload, [], ioErrorToExchange err⟩, events)
    | none =>
      let (verdict, received, rest) := receiveReply codec crypto session target requestId events
      (⟨engine, requestId, some payload, received, verdict⟩, rest)

/-- Without another try. -/
def AuthExchange.conclude : AuthExchange → Except SnmpError SnmpResponse
  | .response resp => .ok resp
  | .empty | .report | .notInTimeWindow _ => .ok ⟨0, []⟩
  | .absent => .error .absent
  | .decode => .error .decode
  | .other msg => .error (.other msg)

/-- A request to a session, with what its rounds meet. -/
structure V3Request where
  pdu : RequestPdu
  nets : ℕ → RoundNet
  events : List RecvEvent

structure Exchange where
  result : Except SnmpError SnmpResponse
  session : V3Session
  rounds : List Round
  /-- the engines written to the session, in order -/
  stored : List EngineSnapshot

/-- After `n` rounds; `retried` is `retried_time_window`. -/
def exchangeLoop (target : SocketAddr) (request : V3Request) (n : ℕ) (retried : Bool)
    (session : V3Session) (events : List RecvEvent) : Exchange :=
  let (round, rest) :=
    oneAuthenticatedExchange codec crypto session target request.pdu (request.nets n) events
  match retried, round.verdict with
  | false, .notInTimeWindow newEngine =>
    -- The engine of the report replaces that of the session.
    let exchange :=
      exchangeLoop target request (n + 1) true { session with engine := newEngine } rest
    { exchange with
      rounds := round :: exchange.rounds, stored := newEngine :: exchange.stored }
  | _, verdict => ⟨verdict.conclude, session, [round], []⟩
termination_by (!retried).toNat

def authenticatedExchange (session : V3Session) (target : SocketAddr) (request : V3Request) :
    Exchange :=
  exchangeLoop codec crypto target request 0 false session request.events

/-- The exchanges of a session, one after the other. -/
def V3Session.run (target : SocketAddr) : V3Session → List V3Request → List Exchange
  | _, [] => []
  | session, request :: rest =>
    let exchange := authenticatedExchange codec crypto session target request
    exchange :: V3Session.run target exchange.session rest

end Sessions

end Rastreo
