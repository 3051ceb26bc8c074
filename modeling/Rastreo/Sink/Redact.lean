import Rastreo.Checkpoint.Preflight
import Rastreo.Sink.Nats

/-!
# Redaction of server addresses

Credentials are cut out of the URLs of a server list in the errors of the NATS sink, its debug
output and the plan of a dry run, after `://`.  The client also takes an address without a scheme,
and such an address is shown whole.
-/

namespace Rastreo

open List

/-! ## The code -/

/-- Up to the end of the first `://`, and the rest. -/
def splitScheme : List Char → Option (List Char × List Char)
  | [] => none
  | c :: cs =>
    if "://".toList <+: c :: cs then some ("://".toList, cs.drop 2)
    else (splitScheme cs).map fun p => (c :: p.1, p.2)

def stripUserinfo (server : String) : String :=
  match splitScheme server.toList with
  | none => server
  | some (start, rest) =>
    let authority := rest.takeWhile (· != '/')
    if '@' ∈ authority then
      String.ofList (start ++ authority.rtakeWhile (· != '@') ++ rest.dropWhile (· != '/'))
    else server

def redactedServerList (servers : List String) : String :=
  ",".intercalate (servers.map stripUserinfo)

/-- The error of `NatsSink::new` when the connection fails. -/
def connectError (servers : List String) (cause : String) : String :=
  "nats sink: failed to connect to server(s) '" ++ redactedServerList servers ++ "': " ++ cause

def buildProbeError (subject : String) (servers : List String) (cause : String) : String :=
  "nats sink probe failed for subject '" ++ subject ++ "' at server(s) '" ++
    redactedServerList servers ++ "': " ++ cause

inductive DebugValue where
  | text (s : String)
  | optional (s : Option String)
  | number (n : ℕ)
  | flag (b : Bool)
  | retry (r : SinkRetry)

/-- Printed of a sink with these servers and streams. -/
def NatsSink.debugFields {B : Type} [AsRef B] (self : NatsSink B) (servers : List String)
    (stream : String) (dlqStream : Option String) : List (String × DebugValue) :=
  [("subject", .text self.subject), ("stream", .text stream),
    ("servers", .text (redactedServerList servers)),
    ("buffered_records", .number self.buffer.entries.length),
    ("buffered_bytes", .number self.buffer.bytes),
    ("buffer_threshold", .number self.bufferThreshold),
    ("pending_acks", .number self.pendingAcks.length),
    ("last_write_delivered", .flag self.lastWriteDelivered),
    ("dlq_stream", .optional dlqStream), ("dlq_subject", .optional self.dlqSubject),
    ("retry", .retry self.retry)]

def renderSink : Option SinkConfig → String
  | none => "stdout (default)"
  | some .stdout => "stdout"
  | some .memory => "memory"
  | some (.file path) => "file: " ++ path
  | some (.kafka brokers topic) =>
    "kafka: brokers=" ++ ",".intercalate brokers ++ " topic=" ++ topic
  | some (.nats servers subject stream) =>
    "nats: servers=" ++ redactedServerList servers ++ " subject=" ++ subject ++ " stream=" ++ stream

/-! ## Addresses and their credentials -/

/-- The part of an address before the `@`. -/
structure Userinfo where
  text : String
  text_ok : ∀ c ∈ text.toList, c ≠ '/' ∧ c ≠ '?' ∧ c ≠ '#'

/-- An address that the client takes, but for its credentials. -/
structure ServerAddr where
  scheme : Option String
  rest : String
  scheme_ok : ∀ s ∈ scheme, ':' ∉ s.toList
  rest_ok : scheme = none → splitScheme rest.toList = none

def ServerAddr.text (self : ServerAddr) (userinfo : Option Userinfo) : String :=
  self.scheme.elim "" (· ++ "://") ++ userinfo.elim "" (·.text ++ "@") ++ self.rest

/-- A server list, with the credentials at each place. -/
def written (addrs : List ServerAddr) (userinfo : ℕ → Option Userinfo) : List String :=
  addrs.mapIdx fun i addr => addr.text (userinfo i)

/-- Nothing that is shown tells two server lists apart. -/
structure SameShown (a b : List String) : Prop where
  list : redactedServerList a = redactedServerList b
  connect : connectError a = connectError b
  publish (subject : String) :
    buildPublishError subject (redactedServerList a) =
      buildPublishError subject (redactedServerList b)
  ack (subject : String) :
    buildAckError subject (redactedServerList a) = buildAckError subject (redactedServerList b)
  probe (subject : String) : buildProbeError subject a = buildProbeError subject b
  debug {B : Type} [AsRef B] (sink : NatsSink B) : sink.debugFields a = sink.debugFields b
  plan (subject stream : String) :
    renderSink (some (.nats a subject stream)) = renderSink (some (.nats b subject stream))

variable {a b : List String} {addrs : List ServerAddr} {addr : ServerAddr}

lemma sameShown_iff : SameShown a b ↔ redactedServerList a = redactedServerList b := by
  refine ⟨SameShown.list, fun h => ⟨h, ?_, ?_, ?_, ?_, ?_, ?_⟩⟩ <;> intros
  · unfold connectError
    rw [h]
  · rw [h]
  · rw [h]
  · unfold buildProbeError
    rw [h]
  · unfold NatsSink.debugFields
    rw [h]
  · unfold renderSink
    dsimp only
    rw [h]

/-! ## What is shown of an address -/

lemma splitScheme_scheme {scheme : List Char} (h : ':' ∉ scheme) (rest : List Char) :
    splitScheme (scheme ++ "://".toList ++ rest) = some (scheme ++ "://".toList, rest) := by
  induction scheme with
  | nil => simp [splitScheme]
  | cons c scheme ih =>
    obtain ⟨hc, hscheme⟩ := not_or.mp (mt mem_cons.mpr h)
    have hnot : ¬ "://".toList <+: c :: (scheme ++ "://".toList ++ rest) := fun hp =>
      hc (cons_prefix_cons.mp hp).1
    rw [cons_append, cons_append, splitScheme, if_neg hnot, ih hscheme]
    rfl

lemma rtakeWhile_after_at (u rest : List Char) :
    (u ++ '@' :: rest).rtakeWhile (· != '@') = rest.rtakeWhile (· != '@') := by
  have hstop : ('@' :: u.reverse).takeWhile (· != '@') = [] := takeWhile_cons_of_neg (by simp)
  rw [List.rtakeWhile, reverse_append, reverse_cons, append_assoc,
    singleton_append, takeWhile_append, hstop, append_nil, List.rtakeWhile]
  split
  case isTrue h => rw [( takeWhile_prefix _).eq_of_length h]
  case isFalse => rfl

lemma stripUserinfo_url {scheme rest : String} (h : ':' ∉ scheme.toList) :
    stripUserinfo (scheme ++ "://" ++ rest) = scheme ++ "://" ++
      String.ofList ((rest.toList.takeWhile (· != '/')).rtakeWhile (· != '@') ++
        rest.toList.dropWhile (· != '/')) := by
  have hsplit : splitScheme (scheme ++ "://" ++ rest).toList =
      some (scheme.toList ++ "://".toList, rest.toList) := by
    rw [String.toList_append, String.toList_append, splitScheme_scheme h]
  rw [stripUserinfo, hsplit]
  dsimp only
  apply String.toList_inj.mp
  split
  case isTrue => simp
  case isFalse hat =>
    have hall : (rest.toList.takeWhile (· != '/')).rtakeWhile (· != '@') =
        rest.toList.takeWhile (· != '/') :=
      rtakeWhile_eq_self_iff.mpr fun c hc => bne_iff_ne.mpr fun heq => hat (heq ▸ hc)
    rw [hall, takeWhile_append_dropWhile, String.ofList_toList]

lemma stripUserinfo_text {scheme : String} (h : addr.scheme = some scheme)
    (userinfo : Option Userinfo) : stripUserinfo (addr.text userinfo) =
      stripUserinfo (addr.text none) := by
  have hscheme := addr.scheme_ok scheme h
  cases userinfo with
  | none => rfl
  | some u =>
    have hslash : ∀ c ∈ u.text.toList ++ ['@'], (c != '/') = true := by
      intro c hc
      rcases mem_append.mp hc with hc | hc
      · exact bne_iff_ne.mpr (u.text_ok c hc).1
      · grind
    have htext : addr.text (some u) = scheme ++ "://" ++ (u.text ++ "@" ++ addr.rest) := by
      simp [ServerAddr.text, h, String.append_assoc]
    have hrest : (u.text ++ "@" ++ addr.rest).toList =
        (u.text.toList ++ ['@']) ++ addr.rest.toList := by
      simp
    have hnone : addr.text none = scheme ++ "://" ++ addr.rest := by simp [ServerAddr.text, h]
    rw [htext, hnone, stripUserinfo_url hscheme, stripUserinfo_url hscheme, hrest,
      takeWhile_append_of_pos hslash, dropWhile_append_of_pos hslash,
      append_assoc, singleton_append, rtakeWhile_after_at]

lemma splitScheme_after_at {u rest : List Char} (h : '/' ∉ u) (hrest : splitScheme rest = none) :
    splitScheme (u ++ '@' :: rest) = none := by
  induction u with
  | nil => simp [splitScheme, hrest]
  | cons c u ih =>
    obtain ⟨-, hu⟩ := not_or.mp (mt mem_cons.mpr h)
    have hnot : ¬ "://".toList <+: c :: (u ++ '@' :: rest) := by
      intro hp
      have hslash := (cons_prefix_cons.mp hp).2
      cases u with
      | nil => exact absurd (cons_prefix_cons.mp hslash).1 (by decide)
      | cons d u => exact hu ((cons_prefix_cons.mp hslash).1 ▸ mem_cons_self)
    rw [cons_append, splitScheme, if_neg hnot, ih hu, Option.map_none]

lemma stripUserinfo_schemeless (h : addr.scheme = none) (userinfo : Option Userinfo) :
    stripUserinfo (addr.text userinfo) = addr.text userinfo := by
  have hrest := addr.rest_ok h
  have hsplit : splitScheme (addr.text userinfo).toList = none := by
    cases userinfo with
    | none => simpa [ServerAddr.text, h] using hrest
    | some u =>
      simpa [ServerAddr.text, h] using splitScheme_after_at (fun hc => (u.text_ok _ hc).1 rfl) hrest
  rw [stripUserinfo, hsplit]

/-- Credentials that are empty: only the `@` is written. -/
def Userinfo.empty : Userinfo := ⟨"", by simp⟩

lemma length_stripUserinfo_text (addr : ServerAddr) :
    (stripUserinfo (addr.text (some .empty))).length =
      (stripUserinfo (addr.text none)).length + if addr.scheme.isNone then 1 else 0 := by
  cases hscheme : addr.scheme with
  | none =>
    rw [stripUserinfo_schemeless hscheme, stripUserinfo_schemeless hscheme]
    simp [ServerAddr.text, hscheme, Userinfo.empty, Nat.add_comm]
    rfl
  | some scheme => simp [stripUserinfo_text hscheme (some .empty)]

lemma length_redactedServerList (addrs : List ServerAddr) :
    (redactedServerList (written addrs fun _ => some .empty)).length =
      (redactedServerList (written addrs fun _ => none)).length +
        addrs.countP (·.scheme.isNone) := by
  induction addrs with
  | nil => rfl
  | cons addr addrs ih =>
    have hone := length_stripUserinfo_text addr
    cases addrs with
    | nil => simpa [redactedServerList, written, countP_cons] using hone
    | cons next addrs =>
      simp only [redactedServerList, written, mapIdx_cons, map_cons,
        String.intercalate_cons_cons, String.length_append] at ih ⊢
      grind

/-- Credentials never show if and only if every address has a scheme. -/
theorem credentials_hidden_iff (addrs : List ServerAddr) :
    (∀ userinfo userinfo' : ℕ → Option Userinfo,
      SameShown (written addrs userinfo) (written addrs userinfo')) ↔
      ∀ addr ∈ addrs, addr.scheme.isSome := by
  simp only [sameShown_iff]
  constructor
  · intro h addr haddr
    have hsame := congrArg String.length (h (fun _ => some .empty) fun _ => none)
    have hcount : addrs.countP (·.scheme.isNone) = 0 := by
      rw [length_redactedServerList] at hsame
      omega
    have hall := countP_eq_zero.mp hcount addr haddr
    exact Option.isSome_iff_ne_none.mpr fun hnone => hall (by rw [hnone]; rfl)
  · intro h userinfo userinfo'
    have hnone : ∀ userinfo, (written addrs userinfo).map stripUserinfo =
        (written addrs fun _ => none).map stripUserinfo := by
      intro userinfo
      refine ext_getElem (by simp [written]) fun i hi hi' => ?_
      simp only [written, getElem_map, getElem_mapIdx]
      obtain ⟨scheme, hscheme⟩ := Option.isSome_iff_exists.mp (h _ (getElem_mem _))
      exact stripUserinfo_text hscheme _
    rw [redactedServerList, hnone, redactedServerList, hnone userinfo']

/-- An address without a scheme is shown with its password. -/
theorem schemeless_credentials_shown :
    let host : ServerAddr := ⟨none, "host:4222", nofun, fun _ => rfl⟩
    let pass : Userinfo := ⟨"user:pass", forall_iff_forall_mem.mp (by decide)⟩
    let word : Userinfo := ⟨"user:word", forall_iff_forall_mem.mp (by decide)⟩
    redactedServerList (written [host] fun _ => some pass) = "user:pass@host:4222" ∧
      redactedServerList (written [host] fun _ => some word) = "user:word@host:4222" := by
  decide +kernel

end Rastreo
