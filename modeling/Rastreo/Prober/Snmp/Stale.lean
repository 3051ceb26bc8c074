import Rastreo.Prober.Snmp.Walk

/-!
# Late replies

A session of SNMPv1 or SNMPv2c reads on when the identifier of a reply is not that of its request.
One of SNMPv3 takes the first datagram of the target, and a late one as an empty response, which
ends a walk (`late_reply_ends_walk`).
-/

namespace Rastreo

open List

/-! ## Late replies -/

/-- A datagram that answers the request with an identifier. -/
structure LateReply where
  requestId : Int32
  peer : SocketAddr
  bytes : Bytes

def LateReply.event (reply : LateReply) : RecvEvent := .datagram reply.peer reply.bytes

namespace SnmpSession

variable (stack : SnmpStack) (session : SnmpSession)

/-- The response it is taken for when this identifier is awaited. -/
def accepts (requestId : Int32) (bytes : Bytes) : Option SnmpResponse :=
  match session.auth with
  | .community version _ =>
    match decodeCommunityResponse stack.community version bytes requestId with
    | .response resp => some resp
    | _ => none
  | .v3 state =>
    match judgeReply stack.v3 stack.crypto state requestId bytes with
    | .response resp => some resp
    | _ => none

/-- From the target and authenticated where asked: the response to the request with its identifier.
-/
structure WellFormed (reply : LateReply) : Prop where
  from_target : reply.peer.ip = session.targetAddr.ip
  accepted : ∃ resp, session.accepts stack reply.requestId reply.bytes = some resp

/-- The session is one of SNMPv1 or SNMPv2c. -/
def isCommunity : Bool :=
  match session.auth with
  | .community _ _ => true
  | .v3 _ => false

def requestId (net : RequestNet) : Int32 :=
  match session.auth with
  | .community _ _ => newRequestId net.requestNanos session.targetAddr.port
  | .v3 _ => newRequestId (net.nets 0).clock.requestNanos session.targetAddr.port

/-- The request is encoded and handed to the socket. -/
def Sends (pdu : RequestPdu) (retries : ℕ) (net : RequestNet) : Prop :=
  match session.auth with
  | .community version community =>
    (∃ payload, encodeCommunityMessage stack.community version community pdu
      (session.requestId net) = .ok payload) ∧ net.sendError retries = none
  | .v3 state =>
    (∃ payload, buildRequest stack.v3 stack.crypto state state.engine pdu
      (nextMsgId (net.nets 0).clock.msgNanos (net.nets 0).clock.msgSeq) (session.requestId net)
      (nextSalt (net.nets 0).clock.saltSeq (net.nets 0).clock.saltNanos) = .ok payload) ∧
    (net.nets 0).sendError = none

end SnmpSession

lemma decodes_of_accepts {stack : SnmpStack} {target : SocketAddr} {version : SnmpVersion}
    {community : String} {requestId : Int32} {bytes : Bytes} {resp : SnmpResponse}
    (h : SnmpSession.accepts stack ⟨target, .community version community⟩ requestId bytes =
      some resp) :
    decodeCommunityResponse stack.community version bytes requestId = .response resp := by
  unfold SnmpSession.accepts at h
  dsimp only at h
  grind

lemma judges_of_accepts {stack : SnmpStack} {target : SocketAddr} {state : V3Session}
    {requestId : Int32} {bytes : Bytes} {resp : SnmpResponse}
    (h : SnmpSession.accepts stack ⟨target, .v3 state⟩ requestId bytes = some resp) :
    judgeReply stack.v3 stack.crypto state requestId bytes = .response resp := by
  unfold SnmpSession.accepts at h
  dsimp only at h
  grind

/-- Elements of a kind are put between those of a list. -/
inductive Interspersed {α : Type} (late : α → Prop) : List α → List α → Prop
  | nil : Interspersed late [] []
  | keep (a : α) {l l' : List α} (h : Interspersed late l l') : Interspersed late (a :: l) (a :: l')
  | insert {a : α} (ha : late a) {l l' : List α} (h : Interspersed late l l') :
      Interspersed late l (a :: l')

variable {α : Type} {late : α → Prop} (l : List α)

lemma Interspersed.refl : Interspersed late l l := by
  induction l with
  | nil => exact .nil
  | cons a l ih => exact .keep a ih

lemma Interspersed.front {inserted : List α} (h : ∀ a ∈ inserted, late a) :
    Interspersed late l (inserted ++ l) := by
  induction inserted with
  | nil => exact .refl l
  | cons a inserted ih =>
    exact .insert (h a mem_cons_self) (ih fun b hb => h b (mem_cons_of_mem a hb))

lemma Interspersed.mono {late' : α → Prop} {l l' : List α} (h : Interspersed late l l')
    (hlate : ∀ a, late a → late' a) : Interspersed late' l l' := by
  induction h with
  | nil => exact .nil
  | keep a _ ih => exact .keep a ih
  | insert ha _ ih => exact .insert (hlate _ ha) ih

/-! ## Sessions of SNMPv1 and SNMPv2c -/

section Community

variable {codec : CommunityCodec} {version : SnmpVersion} {target : SocketAddr} {requestId : Int32}

def AnswersOther (codec : CommunityCodec) (version : SnmpVersion) (target : SocketAddr)
    (requestId : Int32) (event : RecvEvent) : Prop :=
  ∃ peer bytes, event = .datagram peer bytes ∧ peer.ip = target.ip ∧
    decodeCommunityResponse codec version bytes requestId = .wrongRequestId

variable {id : Int32} {resp : SnmpResponse}

lemma decodeV1Pdu_other {msg : CommunityMessage V1Pdus} (h : decodeV1Pdu msg id = .response resp)
    (hid : id ≠ requestId) :
    decodeV1Pdu msg requestId = .wrongRequestId := by
  unfold decodeV1Pdu at h ⊢
  split at h
  next pdu hdata =>
    by_cases hpdu : pdu.requestId = id.toInt
    · have hother : pdu.requestId ≠ requestId.toInt := fun heq =>
        hid (Int32.toInt_inj.mp (hpdu.symm.trans heq))
      rw [if_pos hother]
    · rw [if_pos hpdu] at h
      cases h
  next => cases h

lemma decodeV2cPdu_other {msg : CommunityMessage V2Pdus} (h : decodeV2cPdu msg id = .response resp)
    (hid : id ≠ requestId) :
    decodeV2cPdu msg requestId = .wrongRequestId := by
  unfold decodeV2cPdu at h ⊢
  split at h
  next pdu hdata =>
    by_cases hpdu : pdu.requestId = id
    · grind
    · rw [if_pos hpdu] at h
      cases h
  next => cases h

lemma decodeCommunityResponse_other {bytes : Bytes}
    (h : decodeCommunityResponse codec version bytes id = .response resp) (hid : id ≠ requestId) :
    decodeCommunityResponse codec version bytes requestId = .wrongRequestId := by
  unfold decodeCommunityResponse at h ⊢
  split at h
  · split at h
    · exact decodeV1Pdu_other h hid
    · cases h
  · split at h
    · exact decodeV2cPdu_other h hid
    · cases h
  · cases h

/-- The receive loop reads over answers to other requests. -/
lemma awaitResponse_interspersed {events events' : List RecvEvent}
    (h : Interspersed (AnswersOther codec version target requestId) events events') :
    let without := awaitResponse codec version target requestId events
    let late := awaitResponse codec version target requestId events'
    late.1 = without.1 ∧ late.2.1 = without.2.1 ∧
      Interspersed (AnswersOther codec version target requestId) without.2.2 late.2.2 := by
  induction h with
  | nil => exact ⟨rfl, rfl, .nil⟩
  | keep event h ih =>
    cases event with
    | timeout overall => exact ⟨rfl, rfl, h⟩
    | ioError err => exact ⟨rfl, rfl, h⟩
    | datagram peer bytes =>
      rw [awaitResponse, awaitResponse]
      split_ifs with hpeer
      · exact ih
      · grind
  | insert hevent h ih =>
    obtain ⟨peer, bytes, rfl, hpeer, hwrong⟩ := hevent
    rw [awaitResponse, if_neg (not_not.mpr hpeer), hwrong]
    exact ih

lemma communityAttempts_interspersed (sendError : ℕ → Option IoError) (attempts : ℕ)
    {events events' : List RecvEvent}
    (h : Interspersed (AnswersOther codec version target requestId) events events') :
    communityAttempts codec version target requestId sendError attempts events' =
      communityAttempts codec version target requestId sendError attempts events := by
  induction attempts generalizing events events' with
  | zero => rfl
  | succ attempts ih =>
    rw [communityAttempts, communityAttempts]
    cases sendError attempts with
    | some err => rfl
    | none =>
      obtain ⟨hr, hove, hrest⟩ := awaitResponse_interspersed h
      generalize awaitResponse codec version target requestId events = without at hr hove hrest ⊢
      generalize awaitResponse codec version target requestId events' = late at hr hove hrest ⊢
      obtain ⟨result, overall, rest⟩ := without
      obtain ⟨result', overall', rest'⟩ := late
      subst hr hove
      cases result' with
      | some result => rfl
      | none => grind

end Community

/-- The same, with late replies of other requests between the datagrams. -/
def Delays (stack : SnmpStack) (session : SnmpSession) (net net' : RequestNet) : Prop :=
  ∃ events', net' = { net with events := events' } ∧
    Interspersed (fun event => ∃ reply : LateReply, event = reply.event ∧
      session.WellFormed stack reply ∧ reply.requestId ≠ session.requestId net) net.events events'

lemma snmpRequest_delayed {stack : SnmpStack} {session : SnmpSession}
    (hcommunity : session.isCommunity = true) (pdu : RequestPdu) (retries : ℕ)
    {net net' : RequestNet} (h : Delays stack session net net') :
    snmpRequest stack session pdu retries net' = snmpRequest stack session pdu retries net := by
  obtain ⟨target, auth⟩ := session
  cases auth with
  | v3 state => cases hcommunity
  | community version community =>
    obtain ⟨events', rfl, hevents⟩ := h
    have hlate : Interspersed (AnswersOther stack.community version target
        (newRequestId net.requestNanos target.port)) net.events events' := by
      refine hevents.mono ?_
      rintro event ⟨reply, rfl, ⟨hpeer, resp, hacc⟩, hid⟩
      exact ⟨reply.peer, reply.bytes, rfl, hpeer,
        decodeCommunityResponse_other (decodes_of_accepts hacc) hid⟩
    rw [snmpRequest, snmpRequest]
    dsimp only
    rw [communityExchange, communityExchange]
    rw [communityAttempts_interspersed net.sendError (retries + 1) hlate]

/-! ## Sessions of SNMPv3 -/

section V3

variable {codec : BerCodec} {crypto : SnmpCrypto} {session : V3Session} {target : SocketAddr}
  {requestId : Int32}

lemma judgeScopedPdu_other {engine : EngineSnapshot} {authenticated : Bool} {id : Int32}
    {scopedPdu : ScopedPdu} {resp : SnmpResponse}
    (h : judgeScopedPdu session engine authenticated id scopedPdu = .response resp)
    (hid : id ≠ requestId) :
    judgeScopedPdu session engine authenticated requestId scopedPdu = .empty := by
  unfold judgeScopedPdu at h ⊢
  split at h
  next => exact absurd h (classifyReport_ne_response _ _ _)
  next hreport =>
    split_ifs at h ⊢
    cases hrsp : extractResponse scopedPdu id with
    | none =>
      rw [hrsp] at h
      cases h
    | some resp' =>
      obtain ⟨pdu, hdata, hpdu, -⟩ := extractResponse_eq_some hrsp
      have hother : extractResponse scopedPdu requestId = none := by
        rw [extractResponse, hdata]
        grind
      rw [hother]

lemma judgeReply_other {id : Int32} {bytes : Bytes} {resp : SnmpResponse}
    (h : judgeReply codec crypto session id bytes = .response resp) (hid : id ≠ requestId) :
    judgeReply codec crypto session requestId bytes = .empty := by
  obtain ⟨reply, params, scopedPdu, hreply, hparams, hverify, hscoped, hjudged⟩ :=
    (judgeReply_eq_iff (by nofun) (by nofun)).mp h
  rw [judgeReply_eq hreply hparams hverify hscoped]
  exact judgeScopedPdu_other hjudged hid

lemma authenticatedExchange_result (request : V3Request) {verdict : AuthExchange}
    (h : (oneAuthenticatedExchange codec crypto session target request.pdu (request.nets 0)
      request.events).1.verdict = verdict)
    (hverdict : ∀ engine, verdict ≠ .notInTimeWindow engine) :
    (authenticatedExchange codec crypto session target request).result = verdict.conclude := by
  rw [authenticatedExchange, exchangeLoop]
  dsimp only
  rw [h]
  split
  · grind
  · rfl

end V3

/-! ## Requests -/

section Requests

variable {stack : SnmpStack} {pdu : RequestPdu} {retries : ℕ} {net : RequestNet} {state : V3Session}
  {target : SocketAddr}

lemma SnmpSession.Sends.round
    (hsends : SnmpSession.Sends stack ⟨target, .v3 state⟩ pdu retries net) (events : List RecvEvent)
    :
    (oneAuthenticatedExchange stack.v3 stack.crypto state target pdu (net.nets 0)
        events).1.verdict =
      (receiveReply stack.v3 stack.crypto state target
        (newRequestId (net.nets 0).clock.requestNanos target.port) events).1 := by
  obtain ⟨⟨payload, hbuild⟩, hsend⟩ := hsends
  unfold oneAuthenticatedExchange
  grind [SnmpSession.requestId]

lemma snmpRequest_v3_verdict {events : List RecvEvent} {verdict : AuthExchange}
    (h : (oneAuthenticatedExchange stack.v3 stack.crypto state target pdu (net.nets 0)
      events).1.verdict = verdict) (hverdict : ∀ engine, verdict ≠ .notInTimeWindow engine) :
    (snmpRequest stack ⟨target, .v3 state⟩ pdu retries { net with events := events }).1 =
      verdict.conclude :=
  authenticatedExchange_result ⟨pdu, net.nets, events⟩ h hverdict

lemma snmpRequest_v3_late {reply : LateReply}
    (hsends : SnmpSession.Sends stack ⟨target, .v3 state⟩ pdu retries net)
    (hreply : SnmpSession.WellFormed stack ⟨target, .v3 state⟩ reply) (events : List RecvEvent) :
    ∃ resp, (snmpRequest stack ⟨target, .v3 state⟩ pdu retries
      { net with events := reply.event :: events }).1 = .ok resp := by
  obtain ⟨hpeer, resp, hacc⟩ := hreply
  have hjudged := judges_of_accepts hacc
  have hround := hsends.round (reply.event :: events)
  rw [LateReply.event, receiveReply, if_neg (not_not.mpr hpeer)] at hround
  by_cases hid : reply.requestId = newRequestId (net.nets 0).clock.requestNanos target.port
  · rw [← hid, hjudged] at hround
    exact ⟨resp, snmpRequest_v3_verdict hround (by simp)⟩
  · rw [judgeReply_other hjudged hid] at hround
    exact ⟨⟨0, []⟩, snmpRequest_v3_verdict hround (by simp)⟩

variable {community : String} {version : SnmpVersion}

lemma SnmpSession.Sends.attempts
    (hsends : SnmpSession.Sends stack ⟨target, .community version community⟩ pdu retries net)
    (events : List RecvEvent) :
    net.sendError retries = none ∧
      (snmpRequest stack ⟨target, .community version community⟩ pdu retries
        { net with events := events }).1 =
        communityAttempts stack.community version target
          (newRequestId net.requestNanos target.port) net.sendError (retries + 1) events := by
  obtain ⟨⟨payload, hencode⟩, hsend⟩ := hsends
  have hencode : encodeCommunityMessage stack.community version community pdu
      (newRequestId net.requestNanos target.port) = .ok payload := hencode
  refine ⟨hsend, ?_⟩
  rw [snmpRequest]
  dsimp only
  rw [communityExchange]
  rw [hencode]

/-- A reply in SNMPv1 or SNMPv2c is returned, after answers to others. -/
lemma awaitResponse_own {requestId : Int32} {late : List LateReply} (hlate : ∀ reply ∈ late,
      SnmpSession.WellFormed stack ⟨target, .community version community⟩ reply)
    (hown : ∃ reply ∈ late, reply.requestId = requestId) :
    ∃ resp, (awaitResponse stack.community version target requestId
      (late.map LateReply.event)).1 = some (.ok resp) := by
  induction late with
  | nil => grind
  | cons reply late ih =>
    obtain ⟨hpeer, resp, hacc⟩ := hlate reply mem_cons_self
    have hdec := decodes_of_accepts hacc
    rw [map_cons, LateReply.event, awaitResponse, if_neg (not_not.mpr hpeer)]
    by_cases hid : reply.requestId = requestId
    · simp_all
    · rw [decodeCommunityResponse_other hdec hid]
      refine ih (fun r hr => hlate r (mem_cons_of_mem reply hr)) ?_
      obtain ⟨own, hmem, hown⟩ := hown
      grind

lemma snmpRequest_community_own {late : List LateReply}
    (hsends : SnmpSession.Sends stack ⟨target, .community version community⟩ pdu retries net)
    (hlate : ∀ reply ∈ late,
      SnmpSession.WellFormed stack ⟨target, .community version community⟩ reply)
    (hown : ∃ reply ∈ late, reply.requestId = newRequestId net.requestNanos target.port) :
    ∃ resp, (snmpRequest stack ⟨target, .community version community⟩ pdu retries
      { net with events := late.map LateReply.event }).1 = .ok resp := by
  obtain ⟨hsend, hatt⟩ := hsends.attempts (late.map LateReply.event)
  obtain ⟨resp, hresp⟩ := awaitResponse_own hlate hown
  refine ⟨resp, ?_⟩
  rw [hatt, communityAttempts, hsend]
  generalize awaitResponse stack.community version target _ _ = outcome at hresp ⊢
  grind

lemma snmpRequest_nothing {session : SnmpSession} (hsends : session.Sends stack pdu retries net) :
    (snmpRequest stack session pdu retries { net with events := [] }).1 = .error .absent := by
  obtain ⟨target, auth⟩ := session
  cases auth with
  | v3 state => exact snmpRequest_v3_verdict (hsends.round []) nofun
  | community version community =>
    obtain ⟨hsend, hatt⟩ := hsends.attempts []
    rw [hatt, communityAttempts, hsend]
    rfl

lemma snmpRequest_unsent {session : SnmpSession} (hsends : ¬ session.Sends stack pdu retries net)
    (events events' : List RecvEvent) :
    (snmpRequest stack session pdu retries { net with events := events }).1 =
      (snmpRequest stack session pdu retries { net with events := events' }).1 := by
  obtain ⟨target, auth⟩ := session
  cases auth with
  | community version community =>
    rw [snmpRequest, snmpRequest]
    dsimp only
    rw [communityExchange, communityExchange]
    cases hencode : encodeCommunityMessage stack.community version community pdu
        (newRequestId net.requestNanos target.port) with
    | error e => rfl
    | ok payload =>
      cases hsend : net.sendError retries with
      | none => exact absurd ⟨⟨payload, hencode⟩, hsend⟩ hsends
      | some err =>
        rw [communityAttempts, communityAttempts, hsend]
  | v3 state =>
    -- The verdict of the round does not depend on the events.
    have hver : ∃ verdict, (∀ engine, verdict ≠ .notInTimeWindow engine) ∧
        ∀ events, (oneAuthenticatedExchange stack.v3 stack.crypto state target pdu (net.nets 0)
          events).1.verdict = verdict := by
      unfold oneAuthenticatedExchange
      dsimp only
      cases hbuild : buildRequest stack.v3 stack.crypto state state.engine pdu
          (nextMsgId (net.nets 0).clock.msgNanos (net.nets 0).clock.msgSeq)
          (newRequestId (net.nets 0).clock.requestNanos target.port)
          (nextSalt (net.nets 0).clock.saltSeq (net.nets 0).clock.saltNanos) with
      | error msg => exact ⟨.other msg, fun engine h => (by cases h), fun _ => rfl⟩
      | ok payload =>
        cases hsend : (net.nets 0).sendError with
        | none => exact absurd ⟨⟨payload, hbuild⟩, hsend⟩ hsends
        | some err =>
          refine ⟨ioErrorToExchange err, fun engine => ?_, fun _ => rfl⟩
          unfold ioErrorToExchange
          split <;> exact fun h => by cases h
    obtain ⟨verdict, hwindow, hver⟩ := hver
    have hr : ∀ events, (snmpRequest stack ⟨target, .v3 state⟩ pdu retries
        { net with events := events }).1 = verdict.conclude := fun events =>
      snmpRequest_v3_verdict (hver events) hwindow
    grind

end Requests

/-! ## Late replies and the results of a session -/

lemma snmpRequest_session {stack : SnmpStack} {session : SnmpSession}
    (hcommunity : session.isCommunity = true) (pdu : RequestPdu) (retries : ℕ) (net : RequestNet) :
    (snmpRequest stack session pdu retries net).2 = session := by
  obtain ⟨target, auth⟩ := session
  cases auth with
  | community version community => rfl
  | v3 state => cases hcommunity

lemma walkLoop_delayed {stack : SnmpStack} {session : SnmpSession}
    (hcommunity : session.isCommunity = true) {net : WalkNet} {nets' : ℕ → RequestPdu → RequestNet}
    (h : ∀ k pdu, Delays stack session (net.nets k pdu) (nets' k pdu)) (base : Oid)
    (bounds : WalkBounds) (useBulk : Bool) (pdus k : ℕ) (next : Oid) (rows : List WalkRow) :
    walkLoop stack base bounds useBulk { net with nets := nets' } pdus k session next rows =
      walkLoop stack base bounds useBulk net pdus k session next rows := by
  induction pdus generalizing k next rows with
  | zero => rfl
  | succ pdus ih =>
    rw [walkLoop, walkLoop]
    have hrem : WalkNet.remaining { net with nets := nets' } k = net.remaining k := rfl
    have hreq := snmpRequest_delayed hcommunity (walkPdu useBulk bounds next) net.retries
      (h k (walkPdu useBulk bounds next))
    have hsame : (snmpRequest stack session (walkPdu useBulk bounds next) net.retries
        (net.nets k (walkPdu useBulk bounds next))).2 = session :=
      snmpRequest_session hcommunity _ _ _
    dsimp only
    rw [hrem, hreq]
    by_cases htime : net.remaining k = 0
    · grind
    rw [if_neg htime, if_neg htime]
    generalize snmpRequest stack session (walkPdu useBulk bounds next) net.retries
      (net.nets k (walkPdu useBulk bounds next)) = outcome at hsame ⊢
    obtain ⟨reply, session'⟩ := outcome
    obtain rfl := hsame
    cases reply with
    | error e => rfl
    | ok resp =>
      dsimp only
      obtain ⟨step, rows'⟩ := absorbBatch base resp (!useBulk) rows bounds.maxRows
      grind

/-- Well-formed replies to other requests that come before what a request meets never change its
result exactly when the session is one of SNMPv1 or SNMPv2c and none has the identifier of the
request (or there are none, or the request does not go out). A walk over such a session returns the
same rows with late replies anywhere. -/
theorem late_replies_ignored_iff (stack : SnmpStack) (session : SnmpSession) :
    (∀ pdu retries net, ∀ late : List LateReply, (∀ reply ∈ late, session.WellFormed stack reply) →
      ((∀ events, (snmpRequest stack session pdu retries
            { net with events := late.map LateReply.event ++ events }).1 =
          (snmpRequest stack session pdu retries { net with events := events }).1) ↔
        (session.Sends stack pdu retries net → late = [] ∨
          session.isCommunity = true ∧ ∀ reply ∈ late, reply.requestId ≠ session.requestId net))) ∧
    (session.isCommunity = true → ∀ base bounds net nets',
      (∀ k pdu, Delays stack session (net.nets k pdu) (nets' k pdu)) →
        walk stack session base bounds { net with nets := nets' } =
          walk stack session base bounds net) := by
  refine ⟨fun pdu retries net late hlate => ⟨fun h hsends => ?_, fun h events => ?_⟩,
    fun hcom base bounds net nets' h => ?_⟩
  · have habsent := (h []).trans (snmpRequest_nothing hsends)
    rw [append_nil] at habsent
    obtain ⟨target, auth⟩ := session
    cases auth with
    | v3 state =>
      cases late with
      | nil => exact .inl rfl
      | cons reply late =>
        obtain ⟨resp, hresp⟩ := snmpRequest_v3_late hsends (hlate reply mem_cons_self)
          (late.map LateReply.event)
        cases hresp.symm.trans habsent
    | community version community =>
      refine .inr ⟨rfl, fun reply hreply hown => ?_⟩
      obtain ⟨resp, hresp⟩ := snmpRequest_community_own hsends hlate ⟨reply, hreply, hown⟩
      cases hresp.symm.trans habsent
  · by_cases hsends : session.Sends stack pdu retries net
    · rcases h hsends with rfl | ⟨hcom, hother⟩
      · rfl
      · have hdelays : Delays stack session { net with events := events }
            { net with events := late.map LateReply.event ++ events } := by
          refine ⟨_, rfl, Interspersed.front events ?_⟩
          intro event hevent
          obtain ⟨reply, hreply, rfl⟩ := mem_map.mp hevent
          exact ⟨reply, rfl, hlate reply hreply, hother reply hreply⟩
        rw [snmpRequest_delayed hcom pdu retries hdelays]
    · exact snmpRequest_unsent hsends _ events
  · exact congrArg Prod.fst
      (walkLoop_delayed hcom h base bounds session.supportsGetbulk bounds.maxPdus 0 base [])

/-- SNMPv2c at the time one; nothing comes. -/
def laterNet : RequestNet := ⟨1, fun _ => none, fun _ => ⟨zeroClock, none⟩, []⟩

/-- A reply to a request of the time zero changes nothing for SNMPv2c at the time one, nor for a
walk. -/
theorem late_reply_ignored_v2c : publicSession.WellFormed tableStack ⟨0, agentAddr, [0]⟩ ∧
    (∀ events, (snmpRequest tableStack publicSession (.get [[1, 3]]) 0
          { laterNet with events := .datagram agentAddr [0] :: events }).1 =
      (snmpRequest tableStack publicSession (.get [[1, 3]]) 0
        { laterNet with events := events }).1) ∧
    walk tableStack publicSession [1, 3] (.new 3)
        ⟨10, 0, id, fun _ _ => { laterNet with events := [.datagram agentAddr [0]] }⟩ =
      walk tableStack publicSession [1, 3] (.new 3) ⟨10, 0, id, fun _ _ => laterNet⟩ := by
  have hwell : publicSession.WellFormed tableStack ⟨0, agentAddr, [0]⟩ :=
    ⟨rfl, ⟨0, [⟨[1, 3, 1], .int 7⟩, ⟨[1, 3, 2], .other⟩]⟩, by decide +kernel⟩
  have hother : 0 ≠ publicSession.requestId laterNet := by decide +kernel
  obtain ⟨hreq, hwalks⟩ := late_replies_ignored_iff tableStack publicSession
  refine ⟨hwell, ?_, ?_⟩
  · refine (hreq (.get [[1, 3]]) 0 laterNet [⟨0, agentAddr, [0]⟩] ?_).mpr ?_
    · rintro reply (_ | ⟨_, ⟨⟩⟩)
      exact hwell
    · refine fun _ => .inr ⟨rfl, ?_⟩
      rintro reply (_ | ⟨_, ⟨⟩⟩)
      exact hother
  · refine hwalks rfl [1, 3] (.new 3) ⟨10, 0, id, fun _ _ => laterNet⟩ _ fun k pdu => ?_
    exact ⟨_, rfl, .insert ⟨⟨0, agentAddr, [0]⟩, rfl, hwell, hother⟩ .nil⟩

/-! ## A late reply of SNMPv3 -/

/-- An agent of SNMPv3 with replies of one byte: responses to the identifiers zero, one and two. -/
def lateCodec : BerCodec where
  encodeMessage _ := .ok []
  decodeMessage
    | [0] => some (agentMessage 1 (65 :: List.replicate 12 65)
        (.response ⟨0, 0, 0, [⟨[1, 3, 1], .applicationWide⟩]⟩))
    | [1] => some (agentMessage 1 (65 :: List.replicate 12 65)
        (.response ⟨1, 0, 0, [⟨[1, 3, 2], .applicationWide⟩]⟩))
    | [2] => some (agentMessage 1 (65 :: List.replicate 12 65)
        (.response ⟨2, 0, 0, [⟨[1, 4], .applicationWide⟩]⟩))
    | _ => none
  encodeParams _ := .ok []
  decodeParams bytes := some ⟨bytes.take 1, 0, 0, [], bytes.drop 1, []⟩
  encodeScopedPdu _ := .ok []
  decodeScopedPdu _ := none

/-- Requests are answered in turn; before the second answer come these. -/
def lateNet (late : List RecvEvent) : WalkNet where
  timeout := 10
  retries := 0
  now := id
  nets k _ :=
    ⟨0, fun _ => none, fun _ => ⟨{ zeroClock with requestNanos := UInt64.ofNat k }, none⟩,
      (if k = 1 then late else []) ++ [.datagram agentAddr [UInt8.ofNat k]]⟩

/-- Over SNMPv3 a walk ends without the second row when the authenticated first response comes once
more before the second. -/
theorem late_reply_ends_walk :
    SnmpSession.WellFormed ⟨tableCodec, lateCodec, plainCrypto⟩ ⟨agentAddr, .v3 agentSession⟩
      ⟨0, agentAddr, [0]⟩ ∧
    walk ⟨tableCodec, lateCodec, plainCrypto⟩ ⟨agentAddr, .v3 agentSession⟩ [1, 3] (.new 5)
        (lateNet []) = .ok [([1, 3, 1], .other), ([1, 3, 2], .other)] ∧
    walk ⟨tableCodec, lateCodec, plainCrypto⟩ ⟨agentAddr, .v3 agentSession⟩ [1, 3] (.new 5)
        (lateNet [.datagram agentAddr [0]]) = .ok [([1, 3, 1], .other)] := by
  refine ⟨⟨rfl, ⟨0, [⟨[1, 3, 1], .other⟩]⟩, ?_⟩, ?_, ?_⟩
  · decide +kernel
  · decide +kernel
  · decide +kernel

end Rastreo
