import Rastreo.Prober.Snmp.Sessions

/-!
# Responses in the clear

A reply with a scoped PDU in the clear is taken like a decrypted one, if it is authenticated where
the session asks for it, also when requests are encrypted (`cleartext_response_accepted`).
`responses_decrypted_iff` says when every response was decrypted with the key of the session.
-/

namespace Rastreo

section Cleartext

variable {codec : BerCodec} {crypto : SnmpCrypto} {session : V3Session} {target : SocketAddr}
  {requestId : Int32}

/-! ## The parts of a reply -/

structure ReplyParts where
  reply : V3Message
  params : UsmSecurityParameters
  scopedPdu : ScopedPdu
  pdu : V2Pdu

namespace ReplyParts

def response (parts : ReplyParts) : SnmpResponse :=
  ⟨parts.pdu.errorStatus, parts.pdu.variableBindings.map normalizeV2Varbind⟩

/-- The datagram has these parts and answers the request, authenticated where the session asks for
it. -/
structure Answers (codec : BerCodec) (crypto : SnmpCrypto) (session : V3Session)
    (requestId : Int32) (bytes : Bytes) (parts : ReplyParts) : Prop where
  message : codec.decodeMessage bytes = some parts.reply
  parameters : codec.decodeParams parts.reply.securityParameters = some parts.params
  verified : parts.reply.isAuthenticated = true →
    verifyResponseAuth codec crypto session parts.reply parts.params = true
  authenticated : session.auth ≠ .none → parts.reply.isAuthenticated = true
  data : parts.scopedPdu.data = .response parts.pdu
  identifier : parts.pdu.requestId = requestId

/-- The scoped PDU is in the datagram as it is. -/
def Clear (parts : ReplyParts) : Prop := parts.reply.scopedData = .cleartext parts.scopedPdu

/-- With the privacy key of the session. -/
def Decrypted (codec : BerCodec) (crypto : SnmpCrypto) (session : V3Session)
    (parts : ReplyParts) : Prop :=
  ∃ ciphertext algo password plaintext, parts.reply.scopedData = .encrypted ciphertext ∧
    session.privacy = .some algo password ∧
    crypto.decryptScopedPdu algo session.privKey parts.params.engine.engineBoots
      parts.params.engine.engineTime parts.params.privacyParameters ciphertext = .ok plaintext ∧
    codec.decodeScopedPdu plaintext = some parts.scopedPdu

end ReplyParts

lemma extractScopedPdu_eq_some {parts : ReplyParts} :
    extractScopedPdu codec crypto session parts.reply parts.params = some parts.scopedPdu ↔
      parts.Clear ∨ parts.Decrypted codec crypto session := by
  unfold extractScopedPdu ReplyParts.Clear ReplyParts.Decrypted
  cases parts.reply.scopedData with
  | cleartext pdu => simp
  | encrypted ciphertext =>
    cases session.privacy with
    | none => simp
    | some algo password => grind

variable {bytes : Bytes}

lemma judgeReply_eq_response_iff {response : SnmpResponse} :
    judgeReply codec crypto session requestId bytes = .response response ↔
      ∃ parts : ReplyParts, parts.Answers codec crypto session requestId bytes ∧
        (parts.Clear ∨ parts.Decrypted codec crypto session) ∧ response = parts.response := by
  rw [judgeReply_eq_iff (by nofun) (by nofun)]
  constructor
  · rintro ⟨reply, params, scopedPdu, hreply, hparams, hverify, hscoped, h⟩
    obtain ⟨hauth, pdu, hdata, hid, rfl⟩ := judgeScopedPdu_eq_response_iff.mp h
    exact ⟨⟨reply, params, scopedPdu, pdu⟩, ⟨hreply, hparams, hverify, hauth, hdata, hid⟩,
      extractScopedPdu_eq_some.mp hscoped, rfl⟩
  · rintro ⟨parts, hans, hscoped, rfl⟩
    exact ⟨parts.reply, parts.params, parts.scopedPdu, hans.message, hans.parameters,
      hans.verified, extractScopedPdu_eq_some.mpr hscoped, judgeScopedPdu_eq_response_iff.mpr
        ⟨hans.authenticated, parts.pdu, hans.data, hans.identifier, rfl⟩⟩

/-! ## The datagram that decides -/

/-- What the last round of an exchange is for its result. -/
structure LastRound (codec : BerCodec) (crypto : SnmpCrypto) (session : V3Session)
    (target : SocketAddr) (exchange : Exchange) (round : Round) : Prop where
  last : exchange.rounds.getLast? = some round
  result : exchange.result = round.verdict.conclude
  received : ∀ response, round.verdict = .response response →
    ∃ peer bytes, .datagram peer bytes ∈ round.received ∧ peer.ip = target.ip ∧
      judgeReply codec crypto session round.requestId bytes = .response response
  decides : ∀ peer bytes, .datagram peer bytes ∈ round.received → peer.ip = target.ip →
    round.received.getLast? = some (.datagram peer bytes) ∧
      round.verdict = judgeReply codec crypto session round.requestId bytes

lemma Exchanged.exists_lastRound {request : V3Request} {x : Exchange}
    (h : Exchanged codec crypto session target request x) :
    ∃ round, LastRound codec crypto session target x round := by
  cases h with
  | once hfirst =>
    exact ⟨_, rfl, rfl, fun _ h => round_judged hfirst h trivial,
      fun _ _ => round_decides hfirst⟩
  | twice _ _ hsecond =>
    -- The second round differs in the engine alone, which the verdict does not depend on.
    exact ⟨_, rfl, rfl, fun _ h => (round_judged hsecond h trivial :),
      fun _ _ hmem hpeer => (round_decides hsecond hmem hpeer :)⟩

/-! ## Decrypted responses -/

/-- It answers a request of the session in the clear. -/
def AnswersInClear (codec : BerCodec) (crypto : SnmpCrypto) (session : V3Session)
    (requestId : Int32) (bytes : Bytes) : Prop :=
  ∃ parts : ReplyParts, parts.Answers codec crypto session requestId bytes ∧ parts.Clear

/-- From a datagram of the target that the round received. -/
def Round.Decrypts (codec : BerCodec) (crypto : SnmpCrypto) (session : V3Session)
    (target : SocketAddr) (round : Round) (response : SnmpResponse) : Prop :=
  ∃ peer bytes, .datagram peer bytes ∈ round.received ∧ peer.ip = target.ip ∧
    ∃ parts : ReplyParts, parts.Answers codec crypto session round.requestId bytes ∧
      parts.Decrypted codec crypto session ∧ response = parts.response

end Cleartext

/-- Only responses decrypted with the session's privacy key are accepted, and bindings returned only
from such, exactly when the datagram that the last round received does not answer in the clear. -/
theorem responses_decrypted_iff (codec : BerCodec) (crypto : SnmpCrypto) (session : V3Session)
    (target : SocketAddr) (request : V3Request) :
    (∀ round, (authenticatedExchange codec crypto session target request).rounds.getLast? =
        some round →
      (∀ response, (authenticatedExchange codec crypto session target request).result =
          .ok response → response.varBinds ≠ [] →
        round.Decrypts codec crypto session target response) ∧
      ∀ response, round.verdict = .response response →
        round.Decrypts codec crypto session target response) ↔
    ∀ round, (authenticatedExchange codec crypto session target request).rounds.getLast? =
        some round →
      ∀ peer bytes, .datagram peer bytes ∈ round.received → peer.ip = target.ip →
        ¬ AnswersInClear codec crypto session round.requestId bytes := by
  obtain ⟨last, hlast⟩ := (exchanged codec crypto session target request).exists_lastRound
  have honly : ∀ round,
      (authenticatedExchange codec crypto session target request).rounds.getLast? = some round →
        round = last := fun round h => Option.mem_unique h hlast.last
  constructor
  · rintro h round hround peer bytes hmem hpeer ⟨parts, hans, hclear⟩
    obtain rfl := honly round hround
    obtain ⟨hdcd, hver⟩ := hlast.decides peer bytes hmem hpeer
    have hrsp : round.verdict = .response parts.response :=
      hver.trans (judgeReply_eq_response_iff.mpr ⟨parts, hans, .inl hclear, rfl⟩)
    obtain ⟨peer', bytes', hmem', hpeer', parts', hans', hdec, -⟩ :=
      (h round hround).2 parts.response hrsp
    -- Both datagrams are the last one of the round.
    have hsame := (hlast.decides peer' bytes' hmem' hpeer').1.symm.trans hdcd
    obtain ⟨-, rfl⟩ := RecvEvent.datagram.inj (Option.some.inj hsame)
    have hreply : parts'.reply = parts.reply :=
      Option.some.inj (hans'.message.symm.trans hans.message)
    obtain ⟨ciphertext, -, -, -, henc, -⟩ := hdec
    rw [hreply, hclear] at henc
    cases henc
  · intro h round hround
    obtain rfl := honly round hround
    have hacc : ∀ response, round.verdict = .response response →
        round.Decrypts codec crypto session target response := by
      intro response hrsp
      obtain ⟨peer, bytes, hmem, hpeer, hjudged⟩ := hlast.received response hrsp
      obtain ⟨parts, hans, hclear | hdec, hparts⟩ := judgeReply_eq_response_iff.mp hjudged
      · exact absurd ⟨parts, hans, hclear⟩ (h round hround peer bytes hmem hpeer)
      · exact ⟨peer, bytes, hmem, hpeer, parts, hans, hdec, hparts⟩
    refine ⟨fun response hr hne => hacc response ?_, hacc⟩
    exact AuthExchange.conclude_eq_ok (hlast.result.symm.trans hr) hne

def privateSession : V3Session :=
  { agentSession with securityLevel := .authPriv, privacy := .some .des "secret", privKey := [65] }

/-- At the level `authPriv` a response in the clear is returned. -/
theorem cleartext_response_accepted : privateSession.securityLevel = .authPriv ∧
    (authenticatedExchange agentCodec plainCrypto privateSession agentAddr
      (agentRequest [[1]])).result = .ok ⟨0, [⟨[1, 3], .int 7⟩]⟩ ∧
    ∃ pdu, (agentReply [1]).map V3Message.scopedData = some (.cleartext pdu) := by
  refine ⟨rfl, ?_, _, rfl⟩
  decide +kernel

end Rastreo
