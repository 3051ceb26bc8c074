import Rastreo.Library.Results
import Rastreo.Library.Words
import Rastreo.Model.Slices
import Rastreo.Prober.Demux

/-!
# ICMP echo replies

The reader finds the probe of a datagram by the nonce in its payload.  `parse_reply_nonce` reads the
nonce and `match_reply` checks the reply; over IPv4 both try the datagram as it is and without an IP
header.  They read the same packet (`echoReply`), since an echo reply does not begin like an IP
header. Slices out of bounds are panics.
-/

namespace Rastreo

open List Option Function

/-! ## Nonces -/

abbrev Nonce := { bytes : Bytes // bytes.length = 8 }

/-- After the ticket is added to the seed. -/
def mixNonce (state : UInt64) : UInt64 :=
  let state := state ^^^ state <<< 13
  let state := state ^^^ state >>> 7
  state ^^^ state <<< 17

/-- `generate_nonce`, with the ticket it draws. -/
def generateNonce (seed ticket : UInt64) : Nonce :=
  ⟨toLeBytes (mixNonce (seed + ticket * 0x9e3779b97f4a7c15)).toNat, length_toLeBytes _⟩

lemma mixNonce_injective : Injective mixNonce := by
  intro x y h
  have hwords : ∀ {a b : UInt64}, a.toBitVec = b.toBitVec → a = b := UInt64.toBitVec_inj.mp
  have hstep₃ := xor_shiftLeft_injective (w := 64) (k := 17) (by decide)
    (congrArg UInt64.toBitVec h)
  have hstep₂ := xor_ushiftRight_injective (w := 64) (k := 7) (by decide) hstep₃
  exact hwords (xor_shiftLeft_injective (w := 64) (k := 13) (by decide) hstep₂)

lemma generateNonce_injective (seed : UInt64) : Injective (generateNonce seed) := by
  intro ticket ticket' h
  have hbytes := congrArg Subtype.val h
  have hmixed := UInt64.toNat_inj.mp (toLeBytes_inj (UInt64.toNat_lt _) (UInt64.toNat_lt _) hbytes)
  have hsum := (UInt64.add_right_inj _).mp (mixNonce_injective hmixed)
  -- The inverse of the multiplier modulo `2 ^ 64`.
  have hinv : (0x9e3779b97f4a7c15 : UInt64).toBitVec * 0xf1de83e19937733d#64 = 1#64 := by decide
  exact UInt64.toBitVec_inj.mp (mul_injective_of_inverse hinv (congrArg UInt64.toBitVec hsum))

/-! ## Packets -/

inductive Family where
  | v4
  | v6
  deriving DecidableEq

def Family.of : IpAddr → Family
  | .v4 _ => .v4
  | .v6 _ => .v6

/-- Of either version of ICMP: at least the header. -/
structure EchoPacket where
  packet : Bytes
  size : 8 ≤ packet.length

namespace EchoPacket

def new (bytes : Bytes) : Option EchoPacket :=
  if h : 8 ≤ bytes.length then some ⟨bytes, h⟩ else none

/-- `get_icmp_type`. -/
def icmpType (p : EchoPacket) : UInt8 := p.packet.get ⟨0, Nat.lt_of_lt_of_le (by decide) p.size⟩

/-- `get_sequence_number`. -/
def sequenceNumber (p : EchoPacket) : UInt16 :=
  (p.packet.get ⟨6, Nat.lt_of_lt_of_le (by decide) p.size⟩).toUInt16 <<< 8 |||
    (p.packet.get ⟨7, Nat.lt_of_lt_of_le (by decide) p.size⟩).toUInt16

def payload (p : EchoPacket) : Bytes := p.packet.drop 8

/-- The first eight bytes of the payload, if there are as many. -/
def nonce (p : EchoPacket) : Option Nonce :=
  if h : 8 ≤ p.payload.length then some ⟨p.payload.take 8, length_take_of_le h⟩ else none

end EchoPacket

/-- `IcmpTypes::EchoReply`. -/
def icmpEchoReply : UInt8 := 0

/-- `Icmpv6Types::EchoReply`. -/
def icmpv6EchoReply : UInt8 := 129

def ipv4HeaderLen (bytes : Bytes) : Option ℕ :=
  match bytes.head? with
  | none => none
  | some first =>
    if first >>> 4 ≠ 4 then none
    else
      let ihlWords := (first &&& 0x0f).toNat
      if ihlWords < 5 then none else some (ihlWords * 4)

/-- Empty without an IP header or if too short. -/
def rawStripped (bytes : Bytes) : Bytes :=
  match ipv4HeaderLen bytes with
  | some len => if len ≤ bytes.length then bytes.drop len else []
  | none => []

def parseReplyNonce (family : Family) (bytes : Bytes) : Option Nonce :=
  match family with
  | .v4 => [bytes, rawStripped bytes].findSome? fun slice =>
    (EchoPacket.new slice).bind fun reply =>
      if reply.icmpType ≠ icmpEchoReply then none else reply.nonce
  | .v6 => (EchoPacket.new bytes).bind fun reply =>
    if reply.icmpType ≠ icmpv6EchoReply then none else reply.nonce

/-! ## Checks of a reply -/

def payloadMarker : Bytes := "rastreo-icmp-v01".toUTF8.toList

def payloadLen : ℕ := 8 + 8 + payloadMarker.length

def decodeTimestampMicros (bytes : Bytes) : Option ℕ :=
  if bytes.length = 8 then some (bytes.foldr (fun b n => b.toNat + 256 * n) 0) else none

/-- `payload_rtt`, in nanoseconds. -/
def payloadRtt (payload : Bytes) (nonce : Nonce) : Except Panic (Option ℕ) :=
  if payload.length < payloadLen then .ok none
  else do
    let head ← sliceBytes payload 0 8
    if head ≠ nonce.1 then return none
    let tsStart := 8
    let tsEnd := tsStart + 8
    let marker ← sliceBytes payload tsEnd (tsEnd + payloadMarker.length)
    if marker ≠ payloadMarker then return none
    let timestamp ← sliceBytes payload tsStart tsEnd
    return (decodeTimestampMicros timestamp).map (· * 1000)

/-- The check of one candidate of `match_reply`. -/
def matchCandidate (echoReply : UInt8) (slice : Bytes) (nonce : Nonce) (maxSequence : UInt16) :
    Except Panic (Option ℕ) :=
  match EchoPacket.new slice with
  | none => .ok none
  | some reply =>
    if reply.icmpType ≠ echoReply then .ok none
    else if maxSequence < reply.sequenceNumber then .ok none
    else payloadRtt reply.payload nonce

/-- `match_reply`: the time the payload says it was sent, if the datagram is an echo reply with this
nonce.  A socket may deliver an IPv4 datagram with its IP header or without. -/
def matchReply (target : IpAddr) (bytes : Bytes) (nonce : Nonce) (maxSequence : UInt16) :
    Except Panic (Option ℕ) :=
  match target with
  | .v4 _ => [bytes, rawStripped bytes].findSomeM? fun slice =>
    matchCandidate icmpEchoReply slice nonce maxSequence
  | .v6 _ => matchCandidate icmpv6EchoReply bytes nonce maxSequence

/-! ## Delivery -/

structure ReplyCtx where
  target : IpAddr
  maxSequence : UInt16
  deriving DecidableEq

def maxSequenceOf (count : UInt32) : UInt16 := UInt16.ofNat (min (count.toNat - 1) 65535)

/-- `IcmpDemux`; round-trip times are in nanoseconds. -/
abbrev IcmpDemux := Demux Nonce ReplyCtx ℕ

def deliverReply (demux : IcmpDemux) (reference : ℕ) (family : Family) (bytes : Bytes)
    (fromIp : Option IpAddr) (recvAt : ℕ) : Except Panic IcmpDemux :=
  match parseReplyNonce family bytes with
  | none => .ok demux
  | some nonce =>
    match demux.context nonce with
    | none => .ok demux
    | some ctx =>
      if fromIp ≠ some ctx.target then .ok demux
      else do
        match ← matchReply ctx.target bytes nonce ctx.maxSequence with
        | some sentOffset =>
          return demux.dispatch nonce (.reached (recvAt - reference - sentOffset))
        | none => return demux

/-! ## The packet of a datagram -/

def echoIn (type : UInt8) (slice : Bytes) : Option EchoPacket :=
  (EchoPacket.new slice).filter (·.icmpType == type)

/-- The datagram itself, or over IPv4 what follows its IP header. -/
def echoReply : Family → Bytes → Option EchoPacket
  | .v4, bytes => (echoIn icmpEchoReply bytes).or (echoIn icmpEchoReply (rawStripped bytes))
  | .v6, bytes => echoIn icmpv6EchoReply bytes

/-- As it is, or behind an IPv4 header of the length it states. -/
inductive EchoReplyIn : Family → Bytes → EchoPacket → Prop
  | stripped (p : EchoPacket) (htype : p.icmpType = icmpEchoReply) : EchoReplyIn .v4 p.packet p
  | raw (first : UInt8) (header : Bytes) (p : EchoPacket) (hversion : first >>> 4 = 4)
      (hlength : (first :: header).length = (first &&& 0x0f).toNat * 4)
      (hfive : 5 ≤ (first &&& 0x0f).toNat) (htype : p.icmpType = icmpEchoReply) :
      EchoReplyIn .v4 (first :: header ++ p.packet) p
  | v6 (p : EchoPacket) (htype : p.icmpType = icmpv6EchoReply) : EchoReplyIn .v6 p.packet p

variable {bytes : Bytes} {p : EchoPacket}

lemma EchoPacket.new_eq_some : EchoPacket.new bytes = some p ↔ p.packet = bytes := by
  obtain ⟨packet, size⟩ := p
  unfold EchoPacket.new
  split_ifs with h
  · simp [eq_comm]
  · grind

lemma echoIn_eq_some {type : UInt8} {slice : Bytes} :
    echoIn type slice = some p ↔ p.packet = slice ∧ p.icmpType = type := by
  rw [echoIn, filter_eq_some_iff, EchoPacket.new_eq_some, beq_iff_eq]

lemma head?_of_echoIn {type : UInt8} {slice : Bytes} (h : echoIn type slice = some p) :
    slice.head? = some type := by
  obtain ⟨rfl, rfl⟩ := echoIn_eq_some.mp h
  obtain ⟨packet, size⟩ := p
  cases packet with
  | nil => simp at size
  | cons first rest => rfl

lemma rawStripped_of_head {first : UInt8} (hhead : bytes.head? = some first)
    (hfst : first >>> 4 ≠ 4) : rawStripped bytes = [] := by
  rw [rawStripped, ipv4HeaderLen, hhead]
  simp [hfst]

lemma exists_first_of_ipv4HeaderLen {len : ℕ} (h : ipv4HeaderLen bytes = some len) :
    ∃ (first : UInt8) (rest : Bytes), bytes = first :: rest ∧ first >>> 4 = 4 ∧
      5 ≤ (first &&& 0x0f).toNat ∧ len = (first &&& 0x0f).toNat * 4 := by
  unfold ipv4HeaderLen at h
  cases bytes with
  | nil => cases h
  | cons first rest =>
    dsimp only [head?_cons] at h
    split_ifs at h with hver hfive
    grind

lemma exists_header_of_rawStripped (hne : rawStripped bytes ≠ []) :
    ∃ (first : UInt8) (header : Bytes), bytes = first :: header ++ rawStripped bytes ∧
      first >>> 4 = 4 ∧ (first :: header).length = (first &&& 0x0f).toNat * 4 ∧
      5 ≤ (first &&& 0x0f).toNat := by
  unfold rawStripped at hne ⊢
  cases hlen : ipv4HeaderLen bytes with
  | none => simp [hlen] at hne
  | some len =>
    rw [hlen] at hne
    dsimp only at hne ⊢
    by_cases hfits : len ≤ bytes.length
    · rw [if_pos hfits]
      obtain ⟨first, rest, rfl, hver, hfive, rfl⟩ := exists_first_of_ipv4HeaderLen hlen
      obtain ⟨n, hn⟩ : ∃ n, (first &&& 0x0f).toNat * 4 = n + 1 :=
        Nat.exists_eq_succ_of_ne_zero (by omega)
      rw [hn, length_cons] at hfits
      refine ⟨first, rest.take n, ?_, hver, ?_, hfive⟩
      · rw [hn, drop_succ_cons, cons_append, take_append_drop]
      · grind
    · grind

lemma rawStripped_of_echoIn (h : echoIn icmpEchoReply bytes = some p) : rawStripped bytes = [] :=
  rawStripped_of_head (head?_of_echoIn h) (by decide)

variable (type : UInt8)

lemma echoIn_nil : echoIn type [] = none := rfl

lemma echoReply_of_raw (h : echoIn icmpEchoReply (rawStripped bytes) = some p) :
    echoIn icmpEchoReply bytes = none ∧ echoReply .v4 bytes = some p := by
  have hnone : echoIn icmpEchoReply bytes = none := by
    cases hfst : echoIn icmpEchoReply bytes with
    | none => rfl
    | some q =>
      rw [rawStripped_of_echoIn hfst, echoIn_nil] at h
      cases h
  refine ⟨hnone, ?_⟩
  rw [echoReply, hnone, none_or, h]

lemma echoReply_v4_cases (h : echoReply .v4 bytes = some p) :
    echoIn icmpEchoReply bytes = some p ∨ echoIn icmpEchoReply (rawStripped bytes) = some p := by
  rcases or_eq_some_iff.mp h with hfst | ⟨-, hraw⟩
  · exact .inl hfst
  · exact .inr hraw

lemma echoReplyIn_of_echoReply {family : Family} (h : echoReply family bytes = some p) :
    EchoReplyIn family bytes p := by
  cases family with
  | v4 =>
    rcases echoReply_v4_cases h with hfst | hraw
    · obtain ⟨rfl, htype⟩ := echoIn_eq_some.mp hfst
      exact .stripped p htype
    · obtain ⟨hpacket, htype⟩ := echoIn_eq_some.mp hraw
      have hne : rawStripped bytes ≠ [] := by
        rw [← hpacket]
        exact ne_nil_of_length_pos (Nat.lt_of_lt_of_le (by decide) p.size)
      obtain ⟨first, header, hbytes, hver, hlen, hfive⟩ := exists_header_of_rawStripped hne
      rw [hbytes, ← hpacket]
      exact .raw first header p hver hlen hfive htype
  | v6 =>
    obtain ⟨rfl, htype⟩ := echoIn_eq_some.mp h
    exact .v6 p htype

lemma not_v6_of_echoReply_v4 {p' : EchoPacket} (h : echoReply .v4 bytes = some p)
    (h' : echoReply .v6 bytes = some p') : False := by
  have hhead : bytes.head? = some icmpv6EchoReply := head?_of_echoIn h'
  rcases echoReply_v4_cases h with hfst | hraw
  · have htypes := (head?_of_echoIn hfst).symm.trans hhead
    revert htypes
    decide
  · rw [rawStripped_of_head hhead (by decide), echoIn_nil] at hraw
    cases hraw

lemma echoReply_family {family family' : Family} {p' : EchoPacket}
    (h : echoReply family bytes = some p) (h' : echoReply family' bytes = some p') :
    family = family' := by
  cases family <;> cases family'
  · rfl
  · exact (not_v6_of_echoReply_v4 h h').elim
  · exact (not_v6_of_echoReply_v4 h' h).elim
  · rfl

/-! ## The two parsers -/

lemma sliceNonce_eq (slice : Bytes) : ((EchoPacket.new slice).bind fun reply =>
      if reply.icmpType ≠ type then none else reply.nonce) =
      (echoIn type slice).bind EchoPacket.nonce := by
  unfold echoIn
  cases EchoPacket.new slice with
  | none => rfl
  | some reply => grind

lemma parseReplyNonce_eq (family : Family) (bytes : Bytes) :
    parseReplyNonce family bytes = (echoReply family bytes).bind EchoPacket.nonce := by
  cases family with
  | v6 => exact sliceNonce_eq icmpv6EchoReply bytes
  | v4 =>
    rw [parseReplyNonce, echoReply]
    simp only [findSome?_cons, findSome?_nil, sliceNonce_eq]
    cases hfst : echoIn icmpEchoReply bytes with
    | some p =>
      rw [rawStripped_of_echoIn hfst, echoIn_nil]
      grind
    | none => grind

lemma payloadRtt_ok (payload : Bytes) (nonce : Nonce) : ∃ r, payloadRtt payload nonce = .ok r := by
  unfold payloadRtt
  split_ifs with hshort
  · exact ⟨none, rfl⟩
  · have hlong : 8 + 8 + payloadMarker.length ≤ payload.length := Nat.not_lt.mp hshort
    have hhead : sliceBytes payload 0 8 = .ok _ := sliceBytes_ok (by omega)
    have hmarker : sliceBytes payload 16 (16 + payloadMarker.length) = .ok _ :=
      sliceBytes_ok (by omega)
    have htim : sliceBytes payload 8 16 = .ok _ := sliceBytes_ok (by omega)
    simp only [hhead, hmarker, htim, ok_bind, Nat.reduceAdd]
    split_ifs
    · exact ⟨_, rfl⟩
    · exact ⟨_, rfl⟩
    · exact ⟨_, rfl⟩

lemma matchCandidate_ok (slice : Bytes) (nonce : Nonce) (maxSequence : UInt16) :
    ∃ r, matchCandidate type slice nonce maxSequence = .ok r ∧ ∀ rtt, r = some rtt →
      ∃ p, echoIn type slice = some p ∧ p.sequenceNumber ≤ maxSequence := by
  unfold matchCandidate
  cases hnew : EchoPacket.new slice with
  | none => exact ⟨none, rfl, nofun⟩
  | some reply =>
    dsimp only
    split_ifs with htype hseq
    · simp
    · simp
    · obtain ⟨r, hr⟩ := payloadRtt_ok reply.payload nonce
      refine ⟨r, hr, fun _ _ => ⟨reply, ?_, UInt16.not_lt.mp hseq⟩⟩
      exact echoIn_eq_some.mpr ⟨EchoPacket.new_eq_some.mp hnew, not_not.mp htype⟩

lemma matchReply_ok (target : IpAddr) (bytes : Bytes) (nonce : Nonce) (maxSequence : UInt16) :
    ∃ r, matchReply target bytes nonce maxSequence = .ok r ∧ ∀ rtt, r = some rtt →
      ∃ p, echoReply (Family.of target) bytes = some p ∧ p.sequenceNumber ≤ maxSequence := by
  cases target with
  | v6 bits => exact matchCandidate_ok icmpv6EchoReply bytes nonce maxSequence
  | v4 bits =>
    obtain ⟨first, hfst, hseq⟩ := matchCandidate_ok icmpEchoReply bytes nonce maxSequence
    obtain ⟨raw, hraw, hseq'⟩ :=
      matchCandidate_ok icmpEchoReply (rawStripped bytes) nonce maxSequence
    rw [matchReply, List.findSomeM?, List.findSomeM?, List.findSomeM?, hfst, hraw]
    cases first with
    | some rtt =>
      obtain ⟨p, hp, hle⟩ := hseq rtt rfl
      refine ⟨some rtt, rfl, fun _ _ => ⟨p, ?_, hle⟩⟩
      change (echoIn icmpEchoReply bytes).or _ = some p
      rw [hp, some_or]
    | none =>
      cases raw with
      | none => exact ⟨none, rfl, nofun⟩
      | some rtt =>
        obtain ⟨p, hp, hle⟩ := hseq' rtt rfl
        exact ⟨some rtt, rfl, fun _ _ => ⟨p, (echoReply_of_raw hp).2, hle⟩⟩

/-! ## Replies and their probes -/

lemma lt_count_of_le_maxSequenceOf {count : UInt32} (hcount : 0 < count) {sequence : UInt16}
    (h : sequence ≤ maxSequenceOf count) : sequence.toNat < count.toNat := by
  have hpos : 0 < count.toNat := UInt32.lt_iff_toNat_lt.mp hcount
  have hle : sequence.toNat ≤ (maxSequenceOf count).toNat := UInt16.le_iff_toNat_le.mp h
  rw [maxSequenceOf, UInt16.toNat_ofNat_of_lt' (show _ < 65536 by omega)] at hle
  omega

/-- With a round-trip time, and nothing else changes. -/
structure Demux.Completes (before after : IcmpDemux) (nonce : Nonce) (waiter : Waiter ReplyCtx)
    (rtt : ℕ) : Prop where
  waiting : before.waiters.lookup nonce = some waiter
  answered : after.channels waiter.tx = .sent (.reached rtt)
  others : ∀ tx, tx ≠ waiter.tx → after.channels tx = before.channels tx
  waiters : ∀ key, after.waiters.lookup key =
    if key = nonce then none else before.waiters.lookup key

lemma Demux.completes_dispatch {demux : IcmpDemux} {nonce : Nonce} {waiter : Waiter ReplyCtx}
    (h : demux.waiters.lookup nonce = some waiter) (rtt : ℕ) :
    Demux.Completes demux (demux.dispatch nonce (.reached rtt)) nonce waiter rtt := by
  have hdis : demux.dispatch nonce (.reached rtt) =
      (demux.remove nonce).setChannel waiter.tx (.sent (.reached rtt)) := by
    rw [Demux.dispatch, h]
  rw [hdis]
  refine ⟨h, by simp, fun tx htx => by simp [update_of_ne htx], fun key => ?_⟩
  rw [Demux.waiters_setChannel, Demux.waiters_remove]
  split_ifs with hkey
  · rw [hkey, AList.lookup_erase]
  · exact AList.lookup_erase_ne hkey

/-- The nonce, the target as its sender, and a sequence number of the probe's. -/
structure RepliesTo (family : Family) (bytes : Bytes) (fromIp : Option IpAddr) (nonce : Nonce)
    (ctx : ReplyCtx) (p : EchoPacket) : Prop where
  packet : EchoReplyIn family bytes p
  nonce : p.nonce = some nonce
  sender : fromIp = some ctx.target
  sequence : p.sequenceNumber ≤ ctx.maxSequence
  count : ∀ count, 0 < count → ctx.maxSequence = maxSequenceOf count →
    p.sequenceNumber.toNat < count.toNat

/-- The nonces of fewer than `2 ^ 64` tickets differ, whatever the seed. Whatever datagram comes and
whatever probes wait, delivery returns and completes at most one waiter, to whose probe the datagram
replies. -/
theorem replies_reach_own_probe : (∀ (seed : UInt64) (i j : ℕ), i < j → j < 2 ^ 64 →
      generateNonce seed (UInt64.ofNat i) ≠ generateNonce seed (UInt64.ofNat j)) ∧
    ∀ (demux : IcmpDemux) (reference : ℕ) (family : Family) (bytes : Bytes)
      (fromIp : Option IpAddr) (recvAt : ℕ),
      ∃ after, deliverReply demux reference family bytes fromIp recvAt = .ok after ∧
        (after = demux ∨ ∃ nonce waiter rtt p, Demux.Completes demux after nonce waiter rtt ∧
          RepliesTo family bytes fromIp nonce waiter.context p) := by
  refine ⟨fun seed i j hij hj h => ?_, fun demux reference family bytes fromIp recvAt => ?_⟩
  · have hticket := congrArg UInt64.toNat (generateNonce_injective seed h)
    rw [UInt64.toNat_ofNat_of_lt' (Nat.lt_trans hij hj), UInt64.toNat_ofNat_of_lt' hj] at hticket
    omega
  · unfold deliverReply
    cases hnonce : parseReplyNonce family bytes with
    | none => exact ⟨demux, rfl, .inl rfl⟩
    | some nonce =>
      cases hcon : demux.context nonce with
      | none => exact ⟨demux, by simp [hcon], .inl rfl⟩
      | some ctx =>
        dsimp only
        rw [hcon]
        dsimp only
        by_cases hfrom : fromIp = some ctx.target
        · obtain ⟨r, hr, hacc⟩ := matchReply_ok ctx.target bytes nonce ctx.maxSequence
          rw [if_neg (not_not.mpr hfrom), hr, ok_bind]
          cases r with
          | none => exact ⟨demux, rfl, .inl rfl⟩
          | some sentOffset =>
            obtain ⟨waiter, hwaiter, rfl⟩ := map_eq_some_iff.mp hcon
            rw [parseReplyNonce_eq] at hnonce
            obtain ⟨p, hp, hpnonce⟩ := bind_eq_some_iff.mp hnonce
            obtain ⟨p', hp', hseq⟩ := hacc sentOffset rfl
            -- Both parsers have read the same packet.
            have hfamily := echoReply_family hp hp'
            rw [← hfamily] at hp'
            obtain rfl := Option.mem_unique hp hp'
            refine ⟨_, rfl, .inr ⟨nonce, waiter, _, p, Demux.completes_dispatch hwaiter _,
              echoReplyIn_of_echoReply hp, hpnonce, hfrom, hseq, fun count hcount hmax => ?_⟩⟩
            rw [hmax] at hseq
            exact lt_count_of_le_maxSequenceOf hcount hseq
        · rw [if_pos hfrom]
          exact ⟨demux, rfl, .inl rfl⟩

/-- Two probes that wait, each for a reply of its own target. -/
def twoWaiting : IcmpDemux :=
  ((Demux.new : IcmpDemux).register (generateNonce 7 0) ⟨.v4 0x0a000001#32, 0⟩ 0).register
    (generateNonce 7 1) ⟨.v4 0x0a000002#32, 0⟩ 1

/-- The reply to the second, sent after five microseconds, behind an IP header. -/
def secondReply : Bytes :=
  0x45 :: List.replicate 19 0 ++ List.replicate 8 0 ++ (generateNonce 7 1).1 ++ toLeBytes 5 ++
    payloadMarker

/-- The reply completes the second probe and leaves the first one waiting. -/
theorem replies_reach_own_probe_second :
    generateNonce 7 (UInt64.ofNat 0) ≠ generateNonce 7 (UInt64.ofNat 1) ∧
    ∃ after, deliverReply twoWaiting 0 .v4 secondReply (some (.v4 0x0a000002#32)) 9000 = .ok after ∧
      after.channels 0 = .empty ∧ after.channels 1 = .sent (.reached 4000) ∧
      ∃ nonce waiter rtt p, Demux.Completes twoWaiting after nonce waiter rtt ∧
        RepliesTo .v4 secondReply (some (.v4 0x0a000002#32)) nonce waiter.context p := by
  obtain ⟨after, hafter, hcases⟩ :=
    replies_reach_own_probe.2 twoWaiting 0 .v4 secondReply (some (.v4 0x0a000002#32)) 9000
  have hsent : (deliverReply twoWaiting 0 .v4 secondReply (some (.v4 0x0a000002#32)) 9000).map
      (fun demux => (demux.channels 0, demux.channels 1)) =
        .ok (.empty, .sent (.reached 4000)) := by
    decide +kernel
  rw [hafter] at hsent
  obtain ⟨hfirst, hsecond⟩ := Prod.mk.inj (Except.ok.inj hsent)
  refine ⟨replies_reach_own_probe.1 7 0 1 (by decide) (by decide), after, hafter, hfirst,
    hsecond, ?_⟩
  rcases hcases with rfl | hcompletes
  · exact absurd hsecond (by decide +kernel)
  · exact hcompletes

end Rastreo
