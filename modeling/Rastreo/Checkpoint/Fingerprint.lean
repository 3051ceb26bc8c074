import Rastreo.Checkpoint.Preflight
import Mathlib.Logic.Equiv.List

/-!
# What a fingerprint tells apart

The fingerprint is a digest of the targets and of a text that names the destination.  That text
joins the entries of a list by commas and its parts by colons, which the entries may contain; a
fingerprint tells apart exactly the sinks that are `Unambiguous` (`fingerprint_tells_apart_iff`).
-/

namespace Rastreo

open List Function

/-! ## Validated sinks -/

def NonBlank (s : String) : Prop := trim s ≠ ""

instance (s : String) : Decidable (NonBlank s) := inferInstanceAs (Decidable (_ ≠ _))

lemma nonBlank_iff (s : String) : NonBlank s ↔ ∃ c ∈ s.toList, isWhitespace c = false := by
  have hblank : trim s = "" ↔ ∀ c ∈ s.toList, isWhitespace c = true := by
    have htrim : trim s = "" ↔ (s.toList.dropWhile isWhitespace).rdropWhile isWhitespace = [] := by
      rw [trim, ← String.toList_inj, String.toList_ofList, String.toList_empty]
    rw [htrim, rdropWhile_eq_nil_iff]
    constructor
    · intro h
      rw [← dropWhile_eq_nil_iff]
      by_contra hne
      have hhead := head_dropWhile_not isWhitespace hne
      grind
    · exact fun h c hc => h c ((dropWhile_sublist _).mem hc)
  rw [NonBlank, ne_eq, hblank]
  simp

variable {s : String}

lemma NonBlank.append_right (h : NonBlank s) (t : String) : NonBlank (s ++ t) := by
  obtain ⟨c, hc, hws⟩ := (nonBlank_iff s).mp h
  exact (nonBlank_iff _).mpr ⟨c, by simp [hc], hws⟩

/-- No entry is blank; `list` names them in the errors. -/
def checkEntries (list : String) (entries : List String) : Status := do
  if entries.isEmpty then throw (.invalid (list ++ " list is empty"))
  if entries.any fun entry => trim entry = "" then
    throw (.invalid (list ++ " list contains an empty entry"))

/-- A text that is not blank; `field` names it in the error. -/
def checkText (field text : String) : Status :=
  if trim text = "" then .error (.invalid (field ++ " is empty")) else .ok ()

/-- As far as it concerns where records go. -/
def SinkConfig.validate : SinkConfig → Status
  | .stdout => .ok ()
  | .file _ => .ok ()
  | .memory => .ok ()
  | .kafka brokers topic => do
    checkEntries "kafka sink: brokers" brokers
    checkText "kafka sink: topic" topic
  | .nats servers subject stream => do
    checkEntries "nats sink: servers" servers
    checkText "nats sink: subject" subject
    checkText "nats sink: stream" stream

lemma checkText_eq_ok {field text : String} : checkText field text = .ok () ↔ NonBlank text := by
  rw [checkText, NonBlank]
  split <;> simp_all

variable {entries : List String}

lemma checkEntries_eq_ok {list : String} :
    checkEntries list entries = .ok () ↔ entries ≠ [] ∧ ∀ entry ∈ entries, NonBlank entry := by
  cases entries with
  | nil => simp [checkEntries, throw, throwThe, MonadExceptOf.throw]
  | cons entry rest =>
    have hany : ((entry :: rest).any fun entry => decide (trim entry = "")) = true ↔
        ¬∀ entry' ∈ entry :: rest, NonBlank entry' := by
      simp only [any_eq_true, decide_eq_true_eq, NonBlank]
      push Not
      rfl
    simp only [checkEntries, isEmpty_cons]
    by_cases h : ∀ entry' ∈ entry :: rest, NonBlank entry'
    · have hfalse : ((entry :: rest).any fun entry => decide (trim entry = "")) = false := by grind
      rw [hfalse]
      exact ⟨fun _ => ⟨nofun, h⟩, fun _ => rfl⟩
    · rw [hany.mpr h]
      simp_all

variable {brokers : List String} {topic : String}

lemma SinkConfig.validate_kafka : (SinkConfig.kafka brokers topic).validate = .ok () ↔
      (brokers ≠ [] ∧ ∀ broker ∈ brokers, NonBlank broker) ∧ NonBlank topic := by
  rw [SinkConfig.validate, bind_unit_eq_ok, checkEntries_eq_ok, checkText_eq_ok]

variable {servers : List String} {subject stream : String}

lemma SinkConfig.validate_nats : (SinkConfig.nats servers subject stream).validate = .ok () ↔
      (servers ≠ [] ∧ ∀ server ∈ servers, NonBlank server) ∧ NonBlank subject ∧
        NonBlank stream := by
  rw [SinkConfig.validate, bind_unit_eq_ok, bind_unit_eq_ok, checkEntries_eq_ok, checkText_eq_ok,
    checkText_eq_ok]

/-! ## The two parts of a fingerprint -/

lemma byteArray_toList (bs : ByteArray) : bs.toList = bs.data.toList := by
  have hloop : ∀ (n i : ℕ) (r : List UInt8), bs.size - i = n →
      ByteArray.toList.loop bs i r = r.reverse ++ bs.data.toList.drop i := by
    intro n
    induction n with
    | zero =>
      intro i r hn
      rw [ByteArray.toList.loop, if_neg (by omega), drop_eq_nil_of_le, append_nil]
      change bs.size ≤ i
      omega
    | succ n ih =>
      intro i r hn
      have hi : i < bs.size := by omega
      have hget : bs.get! i = bs.data.toList.get ⟨i, by simpa using hi⟩ := by
        have hget' : bs.get! i = bs.data[i]! := rfl
        grind
      rw [ByteArray.toList.loop, if_pos hi, ih (i + 1) _ (by omega), hget, reverse_cons,
        append_assoc, singleton_append]
      rw [drop_eq_getElem_cons (i := i) (by simpa using hi)]
      rfl
  rw [ByteArray.toList, hloop _ 0 [] rfl, reverse_nil, nil_append, drop_zero]

lemma toUTF8_toList_inj {t : String} (h : s.toUTF8.toList = t.toUTF8.toList) : s = t := by
  rw [byteArray_toList, byteArray_toList, Array.toList_inj] at h
  exact String.toByteArray_inj.mp (ByteArray.ext h)

lemma hexLower_injective : Injective hexLower := by
  intro x y h
  have hlists := String.ofList_inj.mp h
  clear h
  induction x generalizing y with
  | nil =>
    cases y with
    | nil => rfl
    | cons b y => simp at hlists
  | cons a x ih =>
    cases y with
    | nil => simp at hlists
    | cons b y =>
      simp only [flatMap_cons, cons_append, nil_append, List.cons.injEq] at hlists
      obtain ⟨hhigh, hlow, hrest⟩ := hlists
      have ha := a.toNat_lt
      have hb := b.toNat_lt
      have hhigh' := digitChar_inj (by omega) (by omega) hhigh
      have hlow' := digitChar_inj (by omega) (by omega) hlow
      rw [ih hrest, UInt8.toNat_inj.mp (show a.toNat = b.toNat by omega)]

lemma framed_inj {lead a b a' b' : Bytes} (ha : a.length < 2 ^ 64) (ha' : a'.length < 2 ^ 64)
    (h : lead ++ toLeBytes a.length ++ a ++ toLeBytes b.length ++ b =
      lead ++ toLeBytes a'.length ++ a' ++ toLeBytes b'.length ++ b') : a = a' ∧ b = b' := by
  simp only [append_assoc] at h
  have hframes := append_cancel_left h
  obtain ⟨hlen, hrest⟩ := append_inj hframes (by simp only [length_toLeBytes])
  obtain ⟨rfl, hsnd⟩ := append_inj hrest (toLeBytes_inj ha ha' hlen)
  exact ⟨rfl, (append_inj hsnd (by simp only [length_toLeBytes])).2⟩

def Digest.Fits (digest : Digest) (scenario : DiscoverScenarioConfig) : Prop :=
  (digest.targetsJson scenario.targets).length < 2 ^ 64

lemma resumeFingerprint_eq_iff {digest : Digest} (hsha : Injective digest.sha256)
    (hjson : Injective digest.targetsJson) {s s' : DiscoverScenarioConfig}
    (hs : digest.Fits s) (hs' : digest.Fits s') :
    resumeFingerprint digest s = resumeFingerprint digest s' ↔ s.targets = s'.targets ∧
        sinkDestinationDescriptor s.sink = sinkDestinationDescriptor s'.sink := by
  constructor
  · intro h
    rw [resumeFingerprint, resumeFingerprint, String.append_right_inj] at h
    obtain ⟨htar, hdes⟩ := framed_inj hs hs' (hsha (hexLower_injective h))
    exact ⟨hjson htar, toUTF8_toList_inj hdes⟩
  · grind [resumeFingerprint]

/-! ## The texts of destinations -/

/-- No comma stands between two texts that are not blank. -/
def NoCut (text : String) : Prop :=
  ∀ left right, text = left ++ "," ++ right → NonBlank left → ¬NonBlank right

/-- A file; or a broker with one entry that a comma does not cut and parts that no other colon
separates. -/
def SinkConfig.Unambiguous : SinkConfig → Prop
  | .kafka brokers topic => ∃ broker, brokers = [broker] ∧ NoCut broker ∧
      ∀ left right, left ++ ":" ++ right = broker ++ ":" ++ topic → NonBlank left →
        NonBlank right → left = broker
  | .nats servers subject stream => ∃ server, servers = [server] ∧ NoCut server ∧
      ∀ left middle right,
        left ++ ":" ++ middle ++ ":" ++ right = server ++ ":" ++ subject ++ ":" ++ stream →
        NonBlank left → NonBlank middle → NonBlank right → left = server ∧ middle = subject
  | _ => True

lemma nonBlank_intercalate (hne : entries ≠ []) (hall : ∀ entry ∈ entries, NonBlank entry) :
    NonBlank (",".intercalate entries) := by
  cases entries with
  | nil => exact absurd rfl hne
  | cons entry rest =>
    have hentry := hall entry mem_cons_self
    cases rest with
    | nil => rwa [String.intercalate_singleton]
    | cons next rest =>
      rw [String.intercalate_cons_cons]
      exact (hentry.append_right _).append_right _

lemma eq_singleton_of_noCut {text : String} (hne : entries ≠ [])
    (hall : ∀ entry ∈ entries, NonBlank entry) (htext : ",".intercalate entries = text)
    (hcut : NoCut text) : entries = [text] := by
  cases entries with
  | nil => exact absurd rfl hne
  | cons entry rest =>
    obtain ⟨hentry, hrest⟩ := forall_mem_cons.mp hall
    cases rest with
    | nil => rw [← htext, String.intercalate_singleton]
    | cons next rest =>
      rw [String.intercalate_cons_cons] at htext
      exact absurd (nonBlank_intercalate (cons_ne_nil next rest) hrest) (hcut _ _ htext.symm hentry)

def SinkConfig.AloneInText (sink : SinkConfig) : Prop :=
  ∀ other : SinkConfig, other.validate = .ok () → other.supportsResume = true →
    sinkDestinationDescriptor (some other) = sinkDestinationDescriptor (some sink) → other = sink

lemma exists_noCut (hne : entries ≠ []) (hall : ∀ entry ∈ entries, NonBlank entry)
    (halone : ∀ others : List String, others ≠ [] → (∀ entry ∈ others, NonBlank entry) →
      ",".intercalate others = ",".intercalate entries → others = entries) :
    ∃ entry, entries = [entry] ∧ NoCut entry := by
  have hone := halone [",".intercalate entries] nofun
    (fun entry hentry => mem_singleton.mp hentry ▸ nonBlank_intercalate hne hall)
    String.intercalate_singleton
  refine ⟨_, hone.symm, fun left right htext hleft hright => ?_⟩
  have htwo := halone [left, right] nofun (fun entry hentry => by
      rcases mem_cons.mp hentry with rfl | hentry
      · exact hleft
      · grind)
    (by rw [String.intercalate_cons_cons, String.intercalate_singleton, htext])
  rw [← hone] at htwo
  cases htwo

lemma SinkConfig.aloneInText_file (path : String) : (SinkConfig.file path).AloneInText := by
  intro other _ hresume htext
  cases other with
  | stdout => cases hresume
  | memory => cases hresume
  | file path' =>
    have hpath : path' = path := (String.append_right_inj "sink:file:").mp htext
    rw [hpath]
  | kafka brokers topic =>
    have hchars := congrArg String.toList htext
    simp [sinkDestinationDescriptor] at hchars
  | nats servers subject stream =>
    have hchars := congrArg String.toList htext
    simp [sinkDestinationDescriptor] at hchars

lemma SinkConfig.aloneInText_kafka : (SinkConfig.kafka brokers topic).AloneInText ↔
      ∀ brokers' topic', (SinkConfig.kafka brokers' topic').validate = .ok () →
        ",".intercalate brokers' ++ ":" ++ topic' = ",".intercalate brokers ++ ":" ++ topic →
        brokers' = brokers ∧ topic' = topic := by
  constructor
  · intro halone brokers' topic' hval htext
    have heq := halone (.kafka brokers' topic') hval rfl (by
      simp only [sinkDestinationDescriptor, String.append_assoc] at htext ⊢
      rw [htext])
    grind
  · intro halone other hval hresume htext
    cases other with
    | stdout => cases hresume
    | memory => cases hresume
    | file path =>
      have hchars := congrArg String.toList htext
      simp [sinkDestinationDescriptor] at hchars
    | kafka brokers' topic' =>
      simp only [sinkDestinationDescriptor, String.append_assoc, String.append_right_inj] at htext
      obtain ⟨rfl, rfl⟩ := halone brokers' topic' hval (by
        simp only [String.append_assoc]
        exact htext)
      rfl
    | nats servers subject stream =>
      have hchars := congrArg String.toList htext
      simp [sinkDestinationDescriptor] at hchars

lemma SinkConfig.aloneInText_nats : (SinkConfig.nats servers subject stream).AloneInText ↔
      ∀ servers' subject' stream', (SinkConfig.nats servers' subject' stream').validate = .ok () →
        ",".intercalate servers' ++ ":" ++ subject' ++ ":" ++ stream' =
          ",".intercalate servers ++ ":" ++ subject ++ ":" ++ stream →
        servers' = servers ∧ subject' = subject ∧ stream' = stream := by
  constructor
  · intro halone servers' subject' stream' hval htext
    have heq := halone (.nats servers' subject' stream') hval rfl (by
      simp only [sinkDestinationDescriptor, String.append_assoc] at htext ⊢
      rw [htext])
    grind
  · intro halone other hval hresume htext
    cases other with
    | stdout => cases hresume
    | memory => cases hresume
    | file path =>
      have hchars := congrArg String.toList htext
      simp [sinkDestinationDescriptor] at hchars
    | kafka brokers topic =>
      have hchars := congrArg String.toList htext
      simp [sinkDestinationDescriptor] at hchars
    | nats servers' subject' stream' =>
      simp only [sinkDestinationDescriptor, String.append_assoc, String.append_right_inj] at htext
      obtain ⟨rfl, rfl, rfl⟩ := halone servers' subject' stream' hval (by
        simp only [String.append_assoc]
        exact htext)
      rfl

lemma SinkConfig.aloneInText_kafka_iff (hval : (SinkConfig.kafka brokers topic).validate = .ok ()) :
    (SinkConfig.kafka brokers topic).AloneInText ↔
      (SinkConfig.kafka brokers topic).Unambiguous := by
  obtain ⟨⟨hne, hall⟩, htopic⟩ := SinkConfig.validate_kafka.mp hval
  rw [SinkConfig.aloneInText_kafka]
  constructor
  · intro halone
    obtain ⟨broker, rfl, hcut⟩ := exists_noCut hne hall fun others hne' hall' htext =>
      (halone others topic (SinkConfig.validate_kafka.mpr ⟨⟨hne', hall'⟩, htopic⟩)
        (by rw [htext])).1
    refine ⟨broker, rfl, hcut, fun left right htext hleft hright => ?_⟩
    have hsplit := (halone [left] right (SinkConfig.validate_kafka.mpr
      ⟨⟨nofun, fun entry hentry => mem_singleton.mp hentry ▸ hleft⟩, hright⟩)
      (by rw [String.intercalate_singleton, String.intercalate_singleton, htext])).1
    grind
  · rintro ⟨broker, rfl, hcut, hcolon⟩ brokers' topic' hval' htext
    obtain ⟨⟨hne', hall'⟩, htop'⟩ := SinkConfig.validate_kafka.mp hval'
    rw [String.intercalate_singleton] at htext
    have hbroker := hcolon _ _ htext (nonBlank_intercalate hne' hall') htop'
    rw [hbroker, String.append_right_inj] at htext
    grind [eq_singleton_of_noCut]

lemma SinkConfig.aloneInText_nats_iff
    (hval : (SinkConfig.nats servers subject stream).validate = .ok ()) :
    (SinkConfig.nats servers subject stream).AloneInText ↔
      (SinkConfig.nats servers subject stream).Unambiguous := by
  obtain ⟨⟨hne, hall⟩, hsub, hstream⟩ := SinkConfig.validate_nats.mp hval
  rw [SinkConfig.aloneInText_nats]
  constructor
  · intro halone
    obtain ⟨server, rfl, hcut⟩ := exists_noCut hne hall fun others hne' hall' htext =>
      (halone others subject stream
        (SinkConfig.validate_nats.mpr ⟨⟨hne', hall'⟩, hsub, hstream⟩) (by rw [htext])).1
    refine ⟨server, rfl, hcut, fun left middle right htext hleft hmid hright => ?_⟩
    obtain ⟨hsrv, hsub', -⟩ := halone [left] middle right (SinkConfig.validate_nats.mpr
      ⟨⟨nofun, fun entry hentry => mem_singleton.mp hentry ▸ hleft⟩, hmid, hright⟩)
      (by rw [String.intercalate_singleton, String.intercalate_singleton, htext])
    grind
  · rintro ⟨server, rfl, hcut, hcolon⟩ servers' subject' stream' hval' htext
    obtain ⟨⟨hne', hall'⟩, hsub', hstr'⟩ := SinkConfig.validate_nats.mp hval'
    rw [String.intercalate_singleton] at htext
    obtain ⟨hserver, rfl⟩ :=
      hcolon _ _ _ htext (nonBlank_intercalate hne' hall') hsub' hstr'
    rw [hserver, String.append_right_inj] at htext
    exact ⟨eq_singleton_of_noCut hne' hall' hserver hcut, rfl, htext⟩

/-! ## Scenarios told apart -/

/-- A validated scenario whose sink supports a resume. -/
structure Resumable (digest : Digest) (mib : MibSource) (s : DiscoverScenarioConfig)
    (sink : SinkConfig) : Prop where
  valid : s.validate mib = .ok ()
  hasSink : s.sink = some sink
  sinkValid : sink.validate = .ok ()
  supportsResume : sink.supportsResume = true
  fits : digest.Fits s

/-- A fingerprint tells targets and destination apart from all others exactly if the sink is
unambiguous. -/
theorem fingerprint_tells_apart_iff {digest : Digest} (hsha : Injective digest.sha256)
    (hjson : Injective digest.targetsJson) {mib : MibSource} {s : DiscoverScenarioConfig}
    {sink : SinkConfig} (hs : Resumable digest mib s sink) :
    (∀ s' sink', Resumable digest mib s' sink' →
      resumeFingerprint digest s' = resumeFingerprint digest s →
      s'.targets = s.targets ∧ sink' = sink) ↔ sink.Unambiguous := by
  have halone : (∀ s' sink', Resumable digest mib s' sink' →
      resumeFingerprint digest s' = resumeFingerprint digest s →
      s'.targets = s.targets ∧ sink' = sink) ↔ sink.AloneInText := by
    constructor
    · intro hapart other hval hresume htext
      -- The same scenario with the other sink.
      refine (hapart { s with sink := some other } other ⟨hs.valid, rfl, hval, hresume, hs.fits⟩
        ?_).2
      have hfits : digest.Fits { s with sink := some other } := hs.fits
      refine (resumeFingerprint_eq_iff hsha hjson hfits hs.fits).mpr ⟨rfl, ?_⟩
      rw [hs.hasSink]
      exact htext
    · intro halone s' sink' hs' hfin
      obtain ⟨htar, htext⟩ :=
        (resumeFingerprint_eq_iff hsha hjson hs'.fits hs.fits).mp hfin
      rw [hs'.hasSink, hs.hasSink] at htext
      exact ⟨htar, halone sink' hs'.sinkValid hs'.supportsResume htext⟩
  rw [halone]
  have hval := hs.sinkValid
  have hresume := hs.supportsResume
  clear hs halone
  cases sink with
  | stdout => cases hresume
  | memory => cases hresume
  | file path => exact ⟨fun _ => trivial, fun _ => SinkConfig.aloneInText_file path⟩
  | kafka brokers topic => exact SinkConfig.aloneInText_kafka_iff hval
  | nats servers subject stream => exact SinkConfig.aloneInText_nats_iff hval

/-! ## Two sinks of one text -/

def Target.code : Target → List ℕ
  | .ip (.v4 a) => [0, a.toNat]
  | .ip (.v6 a) => [1, a.toNat]
  | .cidr (.v4 a len) => [2, a.toNat, len.val]
  | .cidr (.v6 a len) => [3, a.toNat, len.val]
  | .range (.v4 a) (.v4 b) => [4, a.toNat, b.toNat]
  | .range (.v4 a) (.v6 b) => [5, a.toNat, b.toNat]
  | .range (.v6 a) (.v4 b) => [6, a.toNat, b.toNat]
  | .range (.v6 a) (.v6 b) => [7, a.toNat, b.toNat]
  | .dnsName name => 8 :: name.toList.map Char.toNat

lemma Target.code_injective : Injective Target.code := by
  have hchars : Injective Char.toNat := fun _ _ h => Char.toNat_inj.mp h
  rintro ((a | a) | (⟨a, l⟩ | ⟨a, l⟩) | ⟨a | a, c | c⟩ | name)
    ((b | b) | (⟨b, m⟩ | ⟨b, m⟩) | ⟨b | b, d | d⟩ | other) h
  all_goals simp_all [Target.code, BitVec.toNat_inj, hchars.list_map.eq_iff, Fin.val_inj,
    String.toList_inj]

/-- Gives one list of targets a text, and other lists longer ones. -/
def serializerOf (targets : List Target) (text : Bytes) (ts : List Target) : Bytes :=
  if ts = targets then text
  else List.replicate (text.length + 1 + Encodable.encode (ts.map Target.code)) 0

lemma serializerOf_injective (targets : List Target) (text : Bytes) :
    Injective (serializerOf targets text) := by
  intro a b h
  have hlen := congrArg List.length h
  unfold serializerOf at hlen
  split at hlen
  next ha =>
    split at hlen
    next hb => rw [ha, hb]
    next hb =>
      rw [length_replicate] at hlen
      omega
  next ha =>
    split at hlen
    next hb =>
      rw [length_replicate] at hlen
      omega
    next hb =>
      rw [length_replicate, length_replicate] at hlen
      have hcode : a.map Target.code = b.map Target.code :=
        Encodable.encode_injective (by omega)
      exact Target.code_injective.list_map hcode

/-- Has no collisions, and the text of one target. -/
def oneTargetDigest : Digest :=
  ⟨serializerOf [.ip (.v4 0x0a000001#32)] "[\x7b\"Ip\":\"10.0.0.1\"\x7d]".toUTF8.toList, id⟩

def scenarioWith (sink : SinkConfig) : DiscoverScenarioConfig where
  name := none
  targets := [.ip (.v4 0x0a000001#32)]
  probers := [.icmp]
  fuser := none
  sink := some sink
  configHash := none
  otherChecks := ⟨.ok (), .ok (), .ok ()⟩

/-- No table is bundled and none can be read. -/
def noTables : MibSource :=
  ⟨.error (.invalid "no bundled table"), fun _ => .error (.invalid "no such table")⟩

lemma scenarioWith_resumable {sink : SinkConfig} (hval : sink.validate = .ok ())
    (hresume : sink.supportsResume = true) :
    Resumable oneTargetDigest noTables (scenarioWith sink) sink := by
  have hfits : (oneTargetDigest.targetsJson [.ip (.v4 0x0a000001#32)]).length < 2 ^ 64 := by
    decide +kernel
  exact ⟨rfl, rfl, hval, hresume, hfits⟩

/-- A port of a broker and the first part of a topic have the same text. -/
theorem colon_in_topic_same_fingerprint :
    ∃ s s' sink sink', Resumable oneTargetDigest noTables s sink ∧
      Resumable oneTargetDigest noTables s' sink' ∧
      resumeFingerprint oneTargetDigest s = resumeFingerprint oneTargetDigest s' ∧
      sink ≠ sink' := by
  refine ⟨_, _, .kafka ["kafka:9092"] "scans", .kafka ["kafka"] "9092:scans",
    scenarioWith_resumable (by decide +kernel) rfl, scenarioWith_resumable (by decide +kernel) rfl,
    ?_, by decide⟩
  have htext : sinkDestinationDescriptor (some (.kafka ["kafka:9092"] "scans")) =
      sinkDestinationDescriptor (some (.kafka ["kafka"] "9092:scans")) := by decide +kernel
  rw [resumeFingerprint, resumeFingerprint, scenarioWith, scenarioWith, htext]

/-- Files are told apart. -/
theorem fingerprint_tells_apart_iff_files :
    resumeFingerprint oneTargetDigest (scenarioWith (.file "a.ndjson")) ≠
      resumeFingerprint oneTargetDigest (scenarioWith (.file "b.ndjson")) := by
  intro h
  have hsame := ((fingerprint_tells_apart_iff (fun _ _ h => h) (serializerOf_injective _ _)
    (@scenarioWith_resumable (.file "b.ndjson") rfl rfl)).mpr trivial _ _
    (scenarioWith_resumable rfl rfl) h).2
  exact absurd hsame (by decide)

end Rastreo
