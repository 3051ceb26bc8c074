import Rastreo.Prober.Snmp.V3
import Rastreo.Library.Results

/-!
# What a session accepts, and what its keys are for

A session with authentication returns bindings only from a reply of the target authenticated under
its key that answers the request (`response_authenticated`).  A report that the clock is elsewhere,
taken without authentication, replaces the whole engine (`report_replaces_engine`), though the keys
belong to the one found at discovery.  It stays exactly when every such report among the datagrams
that decide the first round of an exchange names it again (`keys_match_engine_iff`).
-/

namespace Rastreo

open List

section Sessions

variable {codec : BerCodec} {crypto : SnmpCrypto} {target : SocketAddr}

/-! ## Accepted responses -/

/-- An authenticated response of the target to a request. -/
structure Authenticates (codec : BerCodec) (crypto : SnmpCrypto) (session : V3Session)
    (algo : AuthAlgo) (target : SocketAddr) (requestId : Int32) (response : SnmpResponse)
    (peer : SocketAddr) (bytes : Bytes) : Prop where
  from_target : peer.ip = target.ip
  message : ∃ reply params, codec.decodeMessage bytes = some reply ∧
    codec.decodeParams reply.securityParameters = some params ∧ reply.isAuthenticated = true ∧
    (∃ zeroed, zeroedReply codec reply params algo.hmacTruncLen = .ok zeroed ∧
      crypto.hmacTruncated algo session.authKey zeroed = params.authenticationParameters) ∧
    ∃ scopedPdu pdu, extractScopedPdu codec crypto session reply params = some scopedPdu ∧
      scopedPdu.data = .response pdu ∧ pdu.requestId = requestId ∧
      response = ⟨pdu.errorStatus, pdu.variableBindings.map normalizeV2Varbind⟩

variable {session : V3Session} {algo : AuthAlgo} {password : String}
  {params : UsmSecurityParameters} {reply : V3Message}

lemma verifyResponseAuth_eq_true (hauth : session.auth = .some algo password)
    (h : verifyResponseAuth codec crypto session reply params) :
    ∃ zeroed, zeroedReply codec reply params algo.hmacTruncLen = .ok zeroed ∧
      crypto.hmacTruncated algo session.authKey zeroed = params.authenticationParameters := by
  unfold verifyResponseAuth at h
  rw [hauth] at h
  dsimp only at h
  split_ifs at h
  cases hzeroed : zeroedReply codec reply params algo.hmacTruncLen with
  | error e =>
    rw [hzeroed] at h
    cases h
  | ok zeroed =>
    rw [hzeroed] at h
    exact ⟨zeroed, rfl, ctEq_eq_true.mp h⟩

lemma classifyReport_ne_response (engine : EngineSnapshot) (l : List V2VarBind)
    (response : SnmpResponse) : classifyReport engine l ≠ .response response := by
  induction l with
  | nil => nofun
  | cons vb l ih =>
    unfold classifyReport
    split_ifs
    · nofun
    · nofun
    · exact ih

variable {requestId : Int32} {response : SnmpResponse} {scopedPdu : ScopedPdu}

lemma extractResponse_eq_some (h : extractResponse scopedPdu requestId = some response) :
    ∃ pdu, scopedPdu.data = .response pdu ∧ pdu.requestId = requestId ∧
      response = ⟨pdu.errorStatus, pdu.variableBindings.map normalizeV2Varbind⟩ := by
  unfold extractResponse at h
  split at h
  · rename_i pdu hdata
    split_ifs at h with hid
    grind
  · cases h

variable {engine : EngineSnapshot}

lemma judgeScopedPdu_eq_response_iff {authenticated : Bool} :
    judgeScopedPdu session engine authenticated requestId scopedPdu = .response response ↔
      (session.auth ≠ .none → authenticated = true) ∧ ∃ pdu, scopedPdu.data = .response pdu ∧
        pdu.requestId = requestId ∧
        response = ⟨pdu.errorStatus, pdu.variableBindings.map normalizeV2Varbind⟩ := by
  constructor
  · intro h
    unfold judgeScopedPdu at h
    split at h
    · exact absurd h (classifyReport_ne_response _ _ _)
    · split_ifs at h with huna
      rw [Bool.and_eq_true_iff, not_and] at huna
      refine ⟨fun hauth => ?_, ?_⟩
      · grind
      · cases hrsp : extractResponse scopedPdu requestId with
        | none => grind
        | some taken =>
          rw [hrsp] at h
          obtain rfl := AuthExchange.response.inj h
          exact extractResponse_eq_some hrsp
  · rintro ⟨hauth, pdu, hdata, hid, rfl⟩
    have haut : (!authenticated && session.auth != .none) = false := by grind
    rw [judgeScopedPdu, hdata]
    rw [haut, if_neg Bool.false_ne_true, extractResponse, hdata]
    simp [hid]

variable {bytes : Bytes}

/-- A datagram that can be read and has the right code if any. -/
lemma judgeReply_eq {session : V3Session} (hreply : codec.decodeMessage bytes = some reply)
    (hparams : codec.decodeParams reply.securityParameters = some params)
    (hvrf : reply.isAuthenticated = true →
      verifyResponseAuth codec crypto session reply params = true)
    (hscoped : extractScopedPdu codec crypto session reply params = some scopedPdu)
    (requestId : Int32) : judgeReply codec crypto session requestId bytes =
      judgeScopedPdu session params.engine reply.isAuthenticated requestId scopedPdu := by
  have hverify : (reply.isAuthenticated &&
      !verifyResponseAuth codec crypto session reply params) = false := by grind
  rw [judgeReply, hreply]
  dsimp only
  rw [hparams]
  dsimp only
  grind

/-- A verdict about the scoped PDU is one about a datagram that can be read and has the right code
if any. -/
lemma judgeReply_eq_iff {verdict : AuthExchange} (hdecode : verdict ≠ .decode)
    (hempty : verdict ≠ .empty) : judgeReply codec crypto session requestId bytes = verdict ↔
      ∃ reply params scopedPdu, codec.decodeMessage bytes = some reply ∧
        codec.decodeParams reply.securityParameters = some params ∧
        (reply.isAuthenticated = true →
          verifyResponseAuth codec crypto session reply params = true) ∧
        extractScopedPdu codec crypto session reply params = some scopedPdu ∧
        judgeScopedPdu session params.engine reply.isAuthenticated requestId scopedPdu =
          verdict := by
  constructor
  · intro h
    unfold judgeReply at h
    cases hreply : codec.decodeMessage bytes with
    | none =>
      rw [hreply] at h
      exact absurd h.symm hdecode
    | some reply =>
      rw [hreply] at h
      dsimp only at h
      cases hparams : codec.decodeParams reply.securityParameters with
      | none =>
        rw [hparams] at h
        exact absurd h.symm hdecode
      | some params =>
        rw [hparams] at h
        dsimp only at h
        split_ifs at h with hcode
        · exact absurd h.symm hempty
        · cases hscoped : extractScopedPdu codec crypto session reply params with
          | none =>
            rw [hscoped] at h
            exact absurd h.symm hdecode
          | some scopedPdu =>
            rw [hscoped] at h
            grind
  · grind [judgeReply_eq]

variable {peer : SocketAddr}

lemma authenticates_of_judgeReply (hauth : session.auth = .some algo password)
    (hpeer : peer.ip = target.ip)
    (h : judgeReply codec crypto session requestId bytes = .response response) :
    Authenticates codec crypto session algo target requestId response peer bytes := by
  obtain ⟨reply, params, scopedPdu, hreply, hparams, hverify, hscoped, hjudged⟩ :=
    (judgeReply_eq_iff (by nofun) (by nofun)).mp h
  obtain ⟨hflag, pdu, hpdu⟩ := judgeScopedPdu_eq_response_iff.mp hjudged
  have hflag : reply.isAuthenticated = true := hflag (by rw [hauth]; nofun)
  exact ⟨hpeer, reply, params, hreply, hparams, hflag,
    verifyResponseAuth_eq_true hauth (hverify hflag), scopedPdu, pdu, hscoped, hpdu⟩

/-- A verdict that a datagram has been judged to deserve. -/
def AuthExchange.Judged : AuthExchange → Prop
  | .absent | .other _ => False
  | _ => True

/-- An I/O error is not judged. -/
lemma not_judged_ioErrorToExchange (err : IoError) : ¬ (ioErrorToExchange err).Judged := by
  unfold ioErrorToExchange
  split <;> exact id

variable {events : List RecvEvent} {verdict : AuthExchange}

/-- A verdict of the receive loop is that about a datagram of the target. -/
lemma receiveReply_judged (hjudged : verdict.Judged)
    (h : (receiveReply codec crypto session target requestId events).1 = verdict) :
    ∃ peer bytes,
      .datagram peer bytes ∈ (receiveReply codec crypto session target requestId events).2.1 ∧
      peer.ip = target.ip ∧ judgeReply codec crypto session requestId bytes = verdict := by
  subst h
  induction events with
  | nil => exact hjudged.elim
  | cons event events ih =>
    cases event with
    | timeout overall => exact hjudged.elim
    | ioError err => exact absurd hjudged (not_judged_ioErrorToExchange err)
    | datagram peer bytes =>
      unfold receiveReply at hjudged ⊢
      split_ifs at hjudged ⊢ with hpeer
      · grind
      · grind

/-- The first datagram of the target is the last one received, and decides. -/
lemma receiveReply_decides (hmem : .datagram peer bytes ∈
      (receiveReply codec crypto session target requestId events).2.1)
    (hpeer : peer.ip = target.ip) :
    (receiveReply codec crypto session target requestId events).2.1.getLast? =
        some (.datagram peer bytes) ∧
      (receiveReply codec crypto session target requestId events).1 =
        judgeReply codec crypto session requestId bytes := by
  induction events with
  | nil => cases hmem
  | cons event events ih =>
    cases event with
    | timeout overall => simp [receiveReply] at hmem
    | ioError err => simp [receiveReply] at hmem
    | datagram peer' bytes' =>
      unfold receiveReply at hmem ⊢
      split_ifs at hmem ⊢ with hother
      · rcases mem_cons.mp hmem with heq | hmem
        · grind
        · obtain ⟨hlast, hver⟩ := ih hmem
          grind
      · grind

variable {pdu : RequestPdu} {net : RoundNet} {rest : List RecvEvent} {round : Round}

/-- A round, made for the session's engine, ends before it receives anything, or as the receive loop
does. -/
lemma round_cases
    (hround : oneAuthenticatedExchange codec crypto session target pdu net events = (round, rest)) :
    round.engine = session.engine ∧
      (round.received = [] ∧ ¬ round.verdict.Judged ∨
        round.verdict = (receiveReply codec crypto session target round.requestId events).1 ∧
        round.received =
          (receiveReply codec crypto session target round.requestId events).2.1) := by
  unfold oneAuthenticatedExchange at hround
  dsimp only at hround
  generalize buildRequest codec crypto session session.engine pdu _ _ _ = built at hround
  cases built with
  | error msg =>
    obtain ⟨rfl, -⟩ := Prod.mk.inj hround
    exact ⟨rfl, .inl ⟨rfl, id⟩⟩
  | ok payload =>
    cases hsend : net.sendError with
    | some err =>
      rw [hsend] at hround
      obtain ⟨rfl, -⟩ := Prod.mk.inj hround
      exact ⟨rfl, .inl ⟨rfl, not_judged_ioErrorToExchange err⟩⟩
    | none =>
      rw [hsend] at hround
      grind

/-- A verdict of a round is that about a datagram of the target. -/
lemma round_judged
    (hround : oneAuthenticatedExchange codec crypto session target pdu net events = (round, rest))
    (h : round.verdict = verdict) (hjudged : verdict.Judged) :
    ∃ peer bytes, .datagram peer bytes ∈ round.received ∧ peer.ip = target.ip ∧
      judgeReply codec crypto session round.requestId bytes = verdict := by
  rcases (round_cases hround).2 with ⟨-, hnone⟩ | ⟨hverdict, hreceived⟩
  · exact absurd (h ▸ hjudged) hnone
  · rw [hreceived]
    exact receiveReply_judged hjudged (hverdict.symm.trans h)

/-- The datagram of the target that a round received decides it. -/
lemma round_decides
    (hround : oneAuthenticatedExchange codec crypto session target pdu net events = (round, rest))
    (hmem : .datagram peer bytes ∈ round.received)
    (hpeer : peer.ip = target.ip) : round.received.getLast? = some (.datagram peer bytes) ∧
      round.verdict = judgeReply codec crypto session round.requestId bytes := by
  rcases (round_cases hround).2 with ⟨hnone, -⟩ | ⟨hverdict, hreceived⟩
  · rw [hnone] at hmem
    cases hmem
  · rw [hreceived] at hmem ⊢
    obtain ⟨hlast, hjudged⟩ := receiveReply_decides hmem hpeer
    exact ⟨hlast, hverdict.trans hjudged⟩

lemma authenticates_of_round (hauth : session.auth = .some algo password)
    (hround : oneAuthenticatedExchange codec crypto session target pdu net events = (round, rest))
    (h : round.verdict = .response response) :
    ∃ peer bytes, .datagram peer bytes ∈ round.received ∧
      Authenticates codec crypto session algo target round.requestId response peer bytes := by
  obtain ⟨peer, bytes, hmem, hpeer, hjudged⟩ := round_judged hround h trivial
  exact ⟨peer, bytes, hmem, authenticates_of_judgeReply hauth hpeer hjudged⟩

lemma AuthExchange.conclude_eq_ok {verdict : AuthExchange} (h : verdict.conclude = .ok response)
    (hne : response.varBinds ≠ []) :
    verdict = .response response := by
  cases verdict with
  | response resp => exact congrArg AuthExchange.response (Except.ok.inj h)
  | empty | report | notInTimeWindow _ =>
    obtain rfl := Except.ok.inj h
    exact absurd rfl hne
  | absent | decode | other _ => cases h

lemma exchangeLoop_retried (codec : BerCodec) (crypto : SnmpCrypto) (target : SocketAddr)
    (request : V3Request) (n : ℕ) (session : V3Session) (events : List RecvEvent) :
    exchangeLoop codec crypto target request n true session events =
      let round := (oneAuthenticatedExchange codec crypto session target request.pdu
        (request.nets n) events).1
      ⟨round.verdict.conclude, session, [round], []⟩ := by
  rw [exchangeLoop]

/-- One round, or two of which the first was told that the clock is elsewhere. -/
inductive Exchanged (codec : BerCodec) (crypto : SnmpCrypto) (session : V3Session)
    (target : SocketAddr) (request : V3Request) : Exchange → Prop
  | once {first : Round} {rest : List RecvEvent}
      (hfirst : oneAuthenticatedExchange codec crypto session target request.pdu (request.nets 0)
        request.events = (first, rest))
      (hverdict : ∀ engine, first.verdict ≠ .notInTimeWindow engine) :
      Exchanged codec crypto session target request
        ⟨first.verdict.conclude, session, [first], []⟩
  | twice {first second : Round} {rest rest' : List RecvEvent} {engine : EngineSnapshot}
      (hfirst : oneAuthenticatedExchange codec crypto session target request.pdu (request.nets 0)
        request.events = (first, rest))
      (hverdict : first.verdict = .notInTimeWindow engine)
      (hsecond : oneAuthenticatedExchange codec crypto { session with engine := engine } target
        request.pdu (request.nets 1) rest = (second, rest')) :
      Exchanged codec crypto session target request
        ⟨second.verdict.conclude, { session with engine := engine }, [first, second], [engine]⟩

lemma exchanged (codec : BerCodec) (crypto : SnmpCrypto) (session : V3Session)
    (target : SocketAddr) (request : V3Request) : Exchanged codec crypto session target request
      (authenticatedExchange codec crypto session target request) := by
  rw [authenticatedExchange, exchangeLoop]
  rcases hfirst : oneAuthenticatedExchange codec crypto session target request.pdu (request.nets 0)
    request.events with ⟨first, rest⟩
  dsimp only
  split
  · next hverdict =>
    rw [exchangeLoop_retried]
    exact .twice hfirst hverdict rfl
  · next hverdict => exact .once hfirst fun engine h => hverdict engine rfl h

variable {request : V3Request} {x : Exchange}

/-- With authentication a request is sent at most twice, and bindings come only from a datagram of
the last round: of the target, with the authentication flag, a code that matches under the session's
key, and the identifier of the request. -/
theorem response_authenticated (codec : BerCodec) (crypto : SnmpCrypto) (session : V3Session)
    (target : SocketAddr) (request : V3Request) (algo : AuthAlgo) (password : String)
    (hauth : session.auth = .some algo password) :
    ((authenticatedExchange codec crypto session target request).rounds.filterMap
      Round.sent).length ≤ 2 ∧
    ∀ response, (authenticatedExchange codec crypto session target request).result = .ok response →
      response.varBinds ≠ [] →
      ∃ round, (authenticatedExchange codec crypto session target request).rounds.getLast? =
          some round ∧
        ∃ peer bytes, .datagram peer bytes ∈ round.received ∧
          Authenticates codec crypto session algo target round.requestId response peer bytes := by
  have hlen : ∀ rounds : List Round, rounds.length ≤ 2 → (rounds.filterMap Round.sent).length ≤ 2 :=
    fun rounds h => (length_filterMap_le _ _).trans h
  have hexchanged := exchanged codec crypto session target request
  generalize authenticatedExchange codec crypto session target request = x at hexchanged ⊢
  cases hexchanged with
  | once hfirst =>
    refine ⟨hlen _ (by simp), fun response hr hne => ⟨_, rfl, ?_⟩⟩
    exact authenticates_of_round hauth hfirst (AuthExchange.conclude_eq_ok hr hne)
  | @twice _ _ _ _ engine _ _ hsecond =>
    refine ⟨hlen _ (by simp), fun response hr hne => ⟨_, rfl, ?_⟩⟩
    -- The second round differs in the engine alone, which neither check looks at.
    have hauth' : ({ session with engine := engine } : V3Session).auth =
      .some algo password := hauth
    obtain ⟨peer, bytes, hmem, hfrom, hmes⟩ :=
      authenticates_of_round hauth' hsecond (AuthExchange.conclude_eq_ok hr hne)
    exact ⟨peer, bytes, hmem, hfrom, hmes⟩

/-! ## The engine of a session -/

/-- The keys of a session are those of an engine. -/
def V3Session.KeysOf (crypto : SnmpCrypto) (session : V3Session) (engine : EngineSnapshot) : Prop :=
  (session.authKey, session.privKey) = deriveKeys crypto engine session.auth session.privacy

lemma V3Session.KeysOf.congr {engine' : EngineSnapshot} (h : session.KeysOf crypto engine)
    (hid : engine'.engineId = engine.engineId) :
    session.KeysOf crypto engine' := by
  have hkeys : deriveKeys crypto engine' session.auth session.privacy =
      deriveKeys crypto engine session.auth session.privacy := by
    unfold deriveKeys
    rw [hid]
  exact h.trans hkeys.symm

lemma discoverAndDerive_keysOf {credentials : UsmCredentials} {retries : ℕ} {net : DiscoveryNet}
    (h : discoverAndDerive codec crypto target credentials retries net = .ok session) :
    session.KeysOf crypto session.engine := by
  obtain ⟨level, -, h⟩ := bind_eq_ok.mp h
  obtain ⟨engine, -, h⟩ := bind_eq_ok.mp h
  obtain rfl := Except.ok.inj h
  rfl

/-- All but the engine is kept, and that is replaced at most once, by that of the second round. -/
lemma Exchanged.engine_cases (h : Exchanged codec crypto session target request x) :
    (x.stored = [] ∧ x.session = session ∧ ∀ round ∈ x.rounds, round.engine = session.engine) ∨
      ∃ engine, x.stored = [engine] ∧ x.session = { session with engine := engine } ∧
        ∀ round ∈ x.rounds, round.engine = session.engine ∨ round.engine = engine := by
  cases h with
  | once hfirst =>
    refine .inl ⟨rfl, rfl, fun round hmem => ?_⟩
    obtain rfl := mem_singleton.mp hmem
    exact (round_cases hfirst).1
  | twice hfirst _ hsecond =>
    refine .inr ⟨_, rfl, rfl, fun round hmem => ?_⟩
    rcases mem_pair.mp hmem with rfl | rfl
    · exact .inl (round_cases hfirst).1
    · exact .inr (round_cases hsecond).1

/-- The session keeps the engine `engineId`, and requests are made with it. -/
structure Exchange.Keeps (crypto : SnmpCrypto) (engineId : Bytes) (x : Exchange) : Prop where
  stored_le : x.stored.length ≤ 1
  session_engine : x.session.engine.engineId = engineId
  round_engine : ∀ round ∈ x.rounds, round.engine.engineId = engineId
  keys : ∀ round ∈ x.rounds, x.session.KeysOf crypto round.engine

/-- If the stored engine has the old identifier, the session keeps it. -/
lemma Exchanged.keeps {engineId : Bytes} (h : Exchanged codec crypto session target request x)
    (hkeys : session.KeysOf crypto session.engine) (hid : session.engine.engineId = engineId)
    (hstored : ∀ engine ∈ x.stored, engine.engineId = engineId) :
    x.Keeps crypto engineId ∧ x.session.KeysOf crypto x.session.engine := by
  rcases h.engine_cases with ⟨hnone, hsession, hrounds⟩ | ⟨engine, hone, hsession, hrounds⟩
  · rw [hsession]
    refine ⟨⟨?_, ?_, ?_, ?_⟩, hkeys⟩
    · grind
    · rw [hsession, hid]
    · grind
    · grind
  · have hengine : engine.engineId = engineId := hstored engine (hone ▸ mem_singleton_self _)
    have hround : ∀ round ∈ x.rounds, round.engine.engineId = engineId := by
      intro round hmem
      grind
    have hkeys' : ∀ engine', engine'.engineId = engineId →
        ({ session with engine := engine } : V3Session).KeysOf crypto engine' := by
      intro engine' hengine'
      exact hkeys.congr (hengine'.trans hid.symm)
    rw [hsession]
    refine ⟨⟨?_, ?_, hround, ?_⟩, hkeys' engine hengine⟩
    · rw [hone]
      exact le_refl 1
    · rw [hsession]
      exact hengine
    · intro round hmem
      rw [hsession]
      grind

variable {requests : List V3Request}

lemma V3Session.stored_of_mem_run
    (hx : x ∈ session.run codec crypto target requests) (hengine : engine ∈ x.stored) :
    x.session.engine = engine := by
  induction requests generalizing session with
  | nil => cases hx
  | cons request requests ih =>
    rcases mem_cons.mp hx with rfl | hx
    · rcases (exchanged codec crypto session target request).engine_cases with
        ⟨hnone, -⟩ | ⟨engine', hone, hses, -⟩
      · grind
      · rw [hone] at hengine
        grind
    · exact ih hx

/-! ## Reports of another clock -/

/-- The datagram is a report, with the right code if any, that the clock of the engine in its
security parameters is elsewhere. -/
def ReportsTimeWindow (codec : BerCodec) (crypto : SnmpCrypto) (session : V3Session) (bytes : Bytes)
    (params : UsmSecurityParameters) : Prop :=
  ∃ reply scopedPdu pdu, codec.decodeMessage bytes = some reply ∧
    codec.decodeParams reply.securityParameters = some params ∧
    (reply.isAuthenticated = true → verifyResponseAuth codec crypto session reply params = true) ∧
    extractScopedPdu codec crypto session reply params = some scopedPdu ∧
    scopedPdu.data = .report pdu ∧
    classifyReport params.engine pdu.variableBindings = .notInTimeWindow params.engine

/-- A report of the clock carries the engine it is given. -/
lemma classifyReport_eq_notInTimeWindow {engine' : EngineSnapshot} {l : List V2VarBind}
    (h : classifyReport engine l = .notInTimeWindow engine') : engine' = engine := by
  induction l with
  | nil => cases h
  | cons vb l ih =>
    unfold classifyReport at h
    split_ifs at h
    · exact (AuthExchange.notInTimeWindow.inj h).symm
    · exact ih h

/-- A datagram moves the clock exactly if it is such a report, and to the engine it names. -/
lemma judgeReply_eq_notInTimeWindow :
    judgeReply codec crypto session requestId bytes = .notInTimeWindow engine ↔
      ∃ params, ReportsTimeWindow codec crypto session bytes params ∧ params.engine = engine := by
  rw [judgeReply_eq_iff (by nofun) (by nofun)]
  constructor
  · rintro ⟨reply, params, scopedPdu, hreply, hparams, hcode, hscoped, hjudged⟩
    unfold judgeScopedPdu at hjudged
    split at hjudged
    · next pdu hdata =>
      obtain rfl := classifyReport_eq_notInTimeWindow hjudged
      exact ⟨params, ⟨reply, scopedPdu, pdu, hreply, hparams, hcode, hscoped, hdata, hjudged⟩, rfl⟩
    · split_ifs at hjudged
      split at hjudged
      · cases hjudged
      · cases hjudged
  · rintro ⟨params, ⟨reply, scopedPdu, pdu, hreply, hparams, hcode, hscoped, hdata, hclass⟩, rfl⟩
    refine ⟨reply, params, scopedPdu, hreply, hparams, hcode, hscoped, ?_⟩
    rw [judgeScopedPdu, hdata]
    exact hclass

/-- The datagram of the target that decides the first round of an exchange names this engine if it
reports that the clock is elsewhere. -/
def Exchange.ReportsEngine (codec : BerCodec) (crypto : SnmpCrypto) (session : V3Session)
    (target : SocketAddr) (engineId : Bytes) (x : Exchange) : Prop :=
  ∀ round ∈ x.rounds.head?, ∀ peer bytes, .datagram peer bytes ∈ round.received →
    peer.ip = target.ip → ∀ params, ReportsTimeWindow codec crypto session bytes params →
      params.authoritativeEngineId = engineId

/-- The engine stored by an exchange is the one its first round was told. -/
lemma Exchanged.stored_iff {engineId : Bytes}
    (h : Exchanged codec crypto session target request x) :
    (∀ engine ∈ x.stored, engine.engineId = engineId) ↔
      x.ReportsEngine codec crypto session target engineId := by
  obtain ⟨first, rest, hfirst, hhead, hstored⟩ : ∃ first rest,
      oneAuthenticatedExchange codec crypto session target request.pdu (request.nets 0)
        request.events = (first, rest) ∧ x.rounds.head? = some first ∧
      ∀ engine, engine ∈ x.stored ↔ first.verdict = .notInTimeWindow engine := by
    cases h with
    | once hfirst hverdict =>
      exact ⟨_, _, hfirst, rfl, fun engine => iff_of_false not_mem_nil (hverdict engine)⟩
    | twice hfirst hverdict =>
      refine ⟨_, _, hfirst, rfl, fun engine => ?_⟩
      rw [mem_singleton, hverdict, AuthExchange.notInTimeWindow.injEq, eq_comm]
  unfold Exchange.ReportsEngine
  simp only [hstored, hhead, Option.mem_some_iff, forall_eq']
  constructor
  · intro hall peer bytes hmem hpeer params hreports
    have hverdict := (round_decides hfirst hmem hpeer).2
    exact hall params.engine
      (hverdict.trans (judgeReply_eq_notInTimeWindow.mpr ⟨params, hreports, rfl⟩))
  · intro hall engine hverdict
    obtain ⟨peer, bytes, hmem, hpeer, hjudged⟩ := round_judged hfirst hverdict trivial
    obtain ⟨params, hreports, rfl⟩ := judgeReply_eq_notInTimeWindow.mp hjudged
    exact hall peer bytes hmem hpeer params hreports

/-- Every exchange of a run is one of the session with some engine. -/
lemma V3Session.exists_of_mem_run (hx : x ∈ session.run codec crypto target requests) :
    ∃ engine request, Exchanged codec crypto { session with engine := engine }
      target request x := by
  induction requests generalizing session with
  | nil => cases hx
  | cons request requests ih =>
    rcases mem_cons.mp hx with rfl | hx
    · exact ⟨session.engine, request, exchanged codec crypto session target request⟩
    · obtain ⟨engine, other, h⟩ := ih hx
      rcases (exchanged codec crypto session target request).engine_cases with
        ⟨-, hsession, -⟩ | ⟨stored, -, hsession, -⟩
      · exact ⟨engine, other, by rwa [hsession] at h⟩
      · exact ⟨engine, other, by rwa [hsession] at h⟩

/-- A run keeps the engine if every engine stored has its identifier. -/
lemma V3Session.run_keeps {engineId : Bytes}
    (hkeys : session.KeysOf crypto session.engine) (hid : session.engine.engineId = engineId)
    (hstored : ∀ x ∈ session.run codec crypto target requests,
      ∀ engine ∈ x.stored, engine.engineId = engineId) :
    ∀ x ∈ session.run codec crypto target requests, x.Keeps crypto engineId := by
  -- Each exchange hands on a session with the same identifier and the keys of its engine.
  induction requests generalizing session with
  | nil => exact forall_mem_nil _
  | cons request requests ih =>
    obtain ⟨hfirst, hkeys'⟩ :=
      (exchanged codec crypto session target request).keeps hkeys hid (hstored _ mem_cons_self)
    refine forall_mem_cons.mpr ⟨hfirst, ih hkeys' hfirst.session_engine fun x hx => ?_⟩
    exact hstored x (mem_cons_of_mem _ hx)

/-- In every run the session keeps the engine found at discovery, used in every request and for the
keys, exactly when every report of another clock that decides the first round of an exchange names
that engine. -/
theorem keys_match_engine_iff (codec : BerCodec) (crypto : SnmpCrypto) (target : SocketAddr)
    (credentials : UsmCredentials) (retries : ℕ) (net : DiscoveryNet) (session : V3Session)
    (requests : List V3Request)
    (h : discoverAndDerive codec crypto target credentials retries net = .ok session) :
    (∀ x ∈ session.run codec crypto target requests, x.Keeps crypto session.engine.engineId) ↔
      ∀ x ∈ session.run codec crypto target requests,
        x.ReportsEngine codec crypto session target session.engine.engineId := by
  -- Neither the check of the code nor the decryption looks at the engine of the session.
  have hreports : ∀ x ∈ session.run codec crypto target requests,
      (∀ engine ∈ x.stored, engine.engineId = session.engine.engineId) ↔
        x.ReportsEngine codec crypto session target session.engine.engineId := by
    intro x hx
    obtain ⟨engine, request, h⟩ := V3Session.exists_of_mem_run hx
    exact h.stored_iff
  constructor
  · intro hkeeps x hx
    refine (hreports x hx).mp fun engine hengine => ?_
    rw [← V3Session.stored_of_mem_run hx hengine]
    exact (hkeeps x hx).session_engine
  · intro hall
    exact V3Session.run_keeps (discoverAndDerive_keysOf h) rfl
      fun x hx => (hreports x hx).mpr (hall x hx)

end Sessions

/-! ## An agent -/

/-- Keys and codes that show which engine they belong to. -/
def plainCrypto : SnmpCrypto where
  localizeKey _ engineId _ := engineId
  derivePrivKey _ _ engineId _ _ := engineId
  hmacTruncated algo key _ := List.replicate algo.hmacTruncLen (key.headD 0)
  encryptScopedPdu _ _ _ _ salt plaintext := .ok ⟨plaintext, salt⟩
  decryptScopedPdu _ _ _ _ _ ciphertext := .ok ciphertext

/-- Security parameters are the engine and the code. -/
def agentMessage (flags : UInt8) (params : Bytes) (data : V2Pdus) : V3Message :=
  ⟨3, ⟨0, 65507, [flags], 3⟩, params, .cleartext ⟨params.take 1, [], data⟩⟩

/-- The engine, a response, and reports that the clock is elsewhere, the last of another engine. -/
def agentReply : Bytes → Option V3Message
  | [0] => some (agentMessage 0 [65]
      (.report ⟨0, 0, 0, [⟨oidStatsUnknownEngineIds, .unspecified⟩]⟩))
  | [1] => some (agentMessage 1 (65 :: List.replicate 12 65)
      (.response ⟨0, 0, 0, [⟨[1, 3], .simple (.integer 7)⟩]⟩))
  | [2] => some (agentMessage 0 [65] (.report ⟨0, 0, 0, [⟨oidStatsNotInTimeWindow, .unspecified⟩]⟩))
  | [3] => some (agentMessage 0 [66] (.report ⟨0, 0, 0, [⟨oidStatsNotInTimeWindow, .unspecified⟩]⟩))
  | _ => none

/-- An encoding that reads the replies of the agent. -/
def agentCodec : BerCodec where
  encodeMessage _ := .ok []
  decodeMessage := agentReply
  encodeParams _ := .ok []
  decodeParams bytes := some ⟨bytes.take 1, 0, 0, [], bytes.drop 1, []⟩
  encodeScopedPdu _ := .ok []
  decodeScopedPdu _ := none

def agentAddr : SocketAddr := ⟨.v4 0x0A000001, 161⟩

def agentUser : UsmCredentials := ⟨"monitor", .some .md5 "secret", .none⟩

def zeroClock : RoundClock := ⟨0, 0, 0, 0, 0⟩

/-- The session that discovery of the agent yields. -/
def agentSession : V3Session where
  username := "monitor"
  securityLevel := .authNoPriv
  auth := .some .md5 "secret"
  privacy := .none
  authKey := [65]
  privKey := []
  engine := ⟨[65], 0, 0⟩

def agentDiscovery : DiscoveryNet := ⟨zeroClock, fun _ => none, [.datagram agentAddr [0]]⟩

def agentRequest (replies : List Bytes) : V3Request :=
  ⟨.get [[1, 3]], fun _ => ⟨zeroClock, none⟩, replies.map (.datagram agentAddr)⟩

/-- After a report that the clock is elsewhere the authenticated second response is returned. -/
theorem response_authenticated_agent : agentSession.auth = .some .md5 "secret" ∧
    (authenticatedExchange agentCodec plainCrypto agentSession agentAddr
      (agentRequest [[2], [1]])).result = .ok ⟨0, [⟨[1, 3], .int 7⟩]⟩ ∧
    ∃ (round : Round) (peer : SocketAddr) (bytes : Bytes), .datagram peer bytes ∈ round.received ∧
      Authenticates agentCodec plainCrypto agentSession .md5 agentAddr round.requestId
        ⟨0, [⟨[1, 3], .int 7⟩]⟩ peer bytes := by
  have hr : (authenticatedExchange agentCodec plainCrypto agentSession agentAddr
      (agentRequest [[2], [1]])).result = .ok ⟨0, [⟨[1, 3], .int 7⟩]⟩ := by
    decide +kernel
  obtain ⟨round, -, hround⟩ := (response_authenticated agentCodec plainCrypto agentSession agentAddr
    (agentRequest [[2], [1]]) .md5 "secret" rfl).2 _ hr (by decide)
  exact ⟨rfl, hr, round, hround⟩

/-- A report without authentication replaces the engine; the second request has that engine and the
keys of the first. -/
theorem report_replaces_engine :
    discoverAndDerive agentCodec plainCrypto agentAddr agentUser 0 agentDiscovery =
        .ok agentSession ∧
    (agentSession.run agentCodec plainCrypto agentAddr [agentRequest [[3]]]).map
        (fun x => (x.rounds.map (·.engine.engineId), x.session.engine.engineId,
          x.session.authKey)) = [([[65], [66]], [66], [65])] ∧
    plainCrypto.localizeKey "secret" [66] .md5 = [66] := by
  refine ⟨rfl, ?_, rfl⟩
  decide +kernel

/-- A report that names the session's engine leaves the keys in place. -/
theorem keys_match_engine_agent :
    discoverAndDerive agentCodec plainCrypto agentAddr agentUser 0 agentDiscovery =
        .ok agentSession ∧
    ∀ x ∈ agentSession.run agentCodec plainCrypto agentAddr [agentRequest [[2], [1]]],
      x.Keeps plainCrypto [65] := by
  have hdis : discoverAndDerive agentCodec plainCrypto agentAddr agentUser 0 agentDiscovery =
      .ok agentSession := rfl
  refine ⟨hdis, ?_⟩
  apply (keys_match_engine_iff agentCodec plainCrypto agentAddr agentUser 0 agentDiscovery
    agentSession [agentRequest [[2], [1]]] hdis).mpr
  have hreceived : ((authenticatedExchange agentCodec plainCrypto agentSession agentAddr
      (agentRequest [[2], [1]])).rounds.head?.map Round.received) =
        some [.datagram agentAddr [2]] := by
    decide +kernel
  intro x hx round hround peer bytes hmem _ params ⟨reply, _, _, hreply, hparams, _⟩
  obtain rfl := mem_singleton.mp hx
  rw [Option.mem_def.mp hround, Option.map_some, Option.some.injEq] at hreceived
  rw [hreceived, mem_singleton] at hmem
  obtain ⟨-, rfl⟩ := RecvEvent.datagram.inj hmem
  obtain rfl := Option.some.inj hreply
  obtain rfl := Option.some.inj hparams
  rfl

end Rastreo
