import Rastreo.CollectionProfile.Assembler
import Rastreo.Fuser.Aliases
import Rastreo.Library.Searches
import Rastreo.Prober.Gnmi

/-!
# Profiles and the endpoints they describe

The prober folds the ports of an address into one outcome, which names the first port that answered
and lists the models of all; the assembler keeps the first such outcome of an address.
`profile_per_endpoint_iff` says when every endpoint with capability data gets its own profile
nevertheless.
-/

namespace Rastreo

open List

/-! ## Scans -/

structure GnmiProbe where
  prober : GnmiProber
  targetIp : IpAddr
  now : SystemTime
  answers : UInt16 → EndpointAnswers

/-- What the assembler is shown in the course of a scan. -/
inductive ProfileInput where
  | gnmi (probe : GnmiProbe)
  | other (outcome : ProbeOutcome) (kind_ne : outcome.kind ≠ .gnmi)
  | record (record : DeviceRecord)

namespace ProfileInput

variable (inputs : List ProfileInput)

def probes : List GnmiProbe :=
  inputs.filterMap fun
    | .gnmi probe => some probe
    | _ => none

def records : List DeviceRecord :=
  inputs.filterMap fun
    | .record r => some r
    | _ => none

/-- The endpoint answered a Capabilities call with this. -/
def Answered (ip : IpAddr) (port : UInt16) (response : CapabilityResponse) : Prop :=
  ∃ probe ∈ probes inputs, probe.targetIp = ip ∧ port ∈ probe.prober.ports ∧
    (probe.answers port).capability = some response

/-- The address belongs to an emitted record. -/
def Indexed (ip : IpAddr) : Prop :=
  ∃ record ∈ records inputs, ip ∈ record.addresses

end ProfileInput

/-- What a profile says of an endpoint with these capabilities. -/
def CapabilityResponse.collection (response : CapabilityResponse) : Collection :=
  .gnmi response.version (recommendedEncoding response.encodings) response.models
    (suggestedSubscriptions response.models)

lemma observe_eq_bind {outcome : ProbeOutcome} (hkind : outcome.kind = .gnmi) :
    CollectionProfileAssembler.observe outcome = outcome.gnmiEndpoint.bind fun endpoint =>
        if (outcome.signals.findSome? Signal.version?).isSome ||
            !(outcome.signals.filterMap Signal.model?).isEmpty ||
            !endpoint.advertisedEncodings.isEmpty then
          some
            { targetIp := outcome.targetIp
              endpoint := endpoint
              gnmiVersion := outcome.signals.findSome? Signal.version?
              supportedModels := outcome.signals.filterMap Signal.model?
              observedAt := outcome.timestamp }
        else none := by
  unfold CollectionProfileAssembler.observe
  rw [if_neg (not_not.mpr hkind)]
  rfl

section Probes

variable (parseLldpResponse : GetResponse → LldpObservation)

namespace GnmiProbe

variable (probe : GnmiProbe)

def outcome : ProbeOutcome :=
  probe.prober.probe parseLldpResponse probe.targetIp probe.now probe.answers

def result (port : UInt16) : PortResult :=
  probe.prober.probePort parseLldpResponse port (probe.answers port)

def firstAnswering : Option UInt16 :=
  probe.prober.ports.find? fun port => (probe.result parseLldpResponse port).endpoint.isSome

def version : Option String :=
  probe.prober.ports.findSome? fun port =>
    (probe.answers port).capability.bind CapabilityResponse.version

def models : List String :=
  probe.prober.ports.flatMap fun port =>
    (probe.answers port).capability.elim [] CapabilityResponse.models

def encodings : List String :=
  (probe.firstAnswering parseLldpResponse).elim [] fun port =>
    (probe.answers port).capability.elim [] CapabilityResponse.encodings

/-- Some port names a version or model, or the first that answered an encoding. -/
def hasCapability : Bool :=
  probe.version.isSome || !probe.models.isEmpty || !(probe.encodings parseLldpResponse).isEmpty

def observation : Option GnmiObservation :=
  (probe.firstAnswering parseLldpResponse).bind fun port =>
    if probe.hasCapability parseLldpResponse then
      some
        { targetIp := probe.targetIp
          endpoint := ⟨port, probe.prober.transport, probe.encodings parseLldpResponse⟩
          gnmiVersion := probe.version
          supportedModels := probe.models
          observedAt := probe.now }
    else none

lemma findSome?_endpoint :
    (probe.prober.ports.map (probe.result parseLldpResponse)).findSome? PortResult.endpoint =
      (probe.firstAnswering parseLldpResponse).map fun port =>
        ⟨port, probe.prober.transport, probe.encodings parseLldpResponse⟩ := by
  have hfst : ∀ ports : List UInt16,
      (ports.map (probe.result parseLldpResponse)).findSome? PortResult.endpoint =
        (ports.find? fun port => (probe.result parseLldpResponse port).endpoint.isSome).map
          fun port => ⟨port, probe.prober.transport,
            (probe.answers port).capability.elim [] CapabilityResponse.encodings⟩ := by
    intro ports
    induction ports with
    | nil => rfl
    | cons port ports ih =>
      rw [map_cons, findSome?_cons, find?_cons]
      have htells := probe.prober.probePort_tells parseLldpResponse port (probe.answers port)
      cases hend : (probe.result parseLldpResponse port).endpoint with
      | none => exact ih
      | some e => exact congrArg some (htells.endpoint e hend)
  rw [hfst]
  unfold encodings
  cases hport : probe.firstAnswering parseLldpResponse with
  | none =>
    unfold firstAnswering at hport
    rw [hport]
    rfl
  | some port =>
    unfold firstAnswering at hport
    rw [hport]
    rfl

lemma flatMap_signals : ((probe.prober.ports.map (probe.result parseLldpResponse)).flatMap
        PortResult.signals).findSome? Signal.version? = probe.version ∧
      ((probe.prober.ports.map (probe.result parseLldpResponse)).flatMap
        PortResult.signals).filterMap Signal.model? = probe.models := by
  unfold version models
  induction probe.prober.ports with
  | nil => exact ⟨rfl, rfl⟩
  | cons port ports ih =>
    have htells : (probe.result parseLldpResponse port).Tells _ _ _ :=
      probe.prober.probePort_tells parseLldpResponse port (probe.answers port)
    simp only [map_cons, flatMap_cons, findSome?_append, filterMap_append,
      findSome?_cons, htells.version, htells.models, ih]
    refine ⟨?_, trivial⟩
    grind

lemma observe_outcome : CollectionProfileAssembler.observe (probe.outcome parseLldpResponse) =
      probe.observation parseLldpResponse := by
  obtain ⟨hkind, hip, hnow, hsig, hend⟩ := assembleOutcome_spec probe.targetIp probe.now
    (probe.prober.ports.map (probe.result parseLldpResponse))
  rw [probe.findSome?_endpoint] at hend
  obtain ⟨hver, hmod⟩ := probe.flatMap_signals parseLldpResponse
  rw [← hsig] at hver hmod
  change CollectionProfileAssembler.observe (assembleOutcome probe.targetIp probe.now
    (probe.prober.ports.map (probe.result parseLldpResponse))) = _
  rw [observe_eq_bind hkind, hend, hver, hmod, hip, hnow, Option.bind_map]
  rfl

variable {probe : GnmiProbe}

lemma observation_eq_some {obs : GnmiObservation}
    (h : probe.observation parseLldpResponse = some obs) :
    probe.firstAnswering parseLldpResponse = some obs.endpoint.port ∧
      probe.hasCapability parseLldpResponse = true ∧ obs.targetIp = probe.targetIp ∧
      obs.endpoint.advertisedEncodings = probe.encodings parseLldpResponse ∧
      obs.gnmiVersion = probe.version ∧ obs.supportedModels = probe.models := by
  obtain ⟨port, hport, hobs⟩ := Option.bind_eq_some_iff.mp h
  split_ifs at hobs with hcap
  obtain rfl := Option.some.inj hobs
  grind

lemma firstAnswering_ne_none {port : UInt16} (hport : port ∈ probe.prober.ports)
    (h : (probe.answers port).capability ≠ none) :
    probe.firstAnswering parseLldpResponse ≠ none := by
  intro hnone
  have htells := probe.prober.probePort_tells parseLldpResponse port (probe.answers port)
  exact find?_eq_none.mp hnone port hport (htells.answered (Option.isSome_iff_ne_none.mpr h))

lemma observation_isSome :
    (probe.observation parseLldpResponse).isSome = probe.hasCapability parseLldpResponse := by
  cases hfst : probe.firstAnswering parseLldpResponse with
  | some port =>
    rw [observation, hfst]
    grind
  | none =>
    have hsilent : ∀ port ∈ probe.prober.ports, (probe.answers port).capability = none := by
      intro port hport
      grind [firstAnswering_ne_none]
    have hver : probe.version = none := by
      rw [version, findSome?_eq_none_iff]
      grind
    have hmod : probe.models = [] := by
      rw [models, flatMap_eq_nil_iff]
      grind
    grind [observation, hasCapability, encodings]

end GnmiProbe

/-! ## Profiles of an address -/

namespace CollectionProfileAssembler

def observeInput (t : CollectionProfileAssembler) : ProfileInput → CollectionProfileAssembler
  | .gnmi probe => t.observeOutcomes [probe.outcome parseLldpResponse]
  | .other outcome _ => t.observeOutcomes [outcome]
  | .record record => t.observeRecord record

def assembled (scanMetadata : ScanMetadata) (inputs : List ProfileInput) :
    CollectionProfileAssembler :=
  inputs.foldl (observeInput parseLldpResponse) (new scanMetadata)

variable (scanMetadata : ScanMetadata) (inputs : List ProfileInput)

/-- The observations are those of the gNMI probes, the addresses those of the records. -/
lemma assembled_spec : (assembled parseLldpResponse scanMetadata inputs).observations =
        (ProfileInput.probes inputs).filterMap (GnmiProbe.observation parseLldpResponse) ∧
      ∀ ip, ip ∈ (assembled parseLldpResponse scanMetadata inputs).addrIndex ↔
        ProfileInput.Indexed inputs ip := by
  have hfold : ∀ t : CollectionProfileAssembler,
      (inputs.foldl (observeInput parseLldpResponse) t).observations = t.observations ++
          (ProfileInput.probes inputs).filterMap (GnmiProbe.observation parseLldpResponse) ∧
        ∀ ip, ip ∈ (inputs.foldl (observeInput parseLldpResponse) t).addrIndex ↔
          ProfileInput.Indexed inputs ip ∨ ip ∈ t.addrIndex := by
    induction inputs with
    | nil => simp [ProfileInput.probes, ProfileInput.Indexed, ProfileInput.records]
    | cons input inputs ih =>
      intro t
      obtain ⟨hobs, hmem⟩ := ih (observeInput parseLldpResponse t input)
      rw [foldl_cons, hobs]
      cases input with
      | gnmi probe =>
        have hone : [probe.outcome parseLldpResponse].filterMap observe =
            [probe].filterMap (GnmiProbe.observation parseLldpResponse) := by
          rw [filterMap_cons, filterMap_cons, probe.observe_outcome]
          rfl
        refine ⟨?_, hmem⟩
        rw [observeInput, observeOutcomes, hone, append_assoc, ← filterMap_append]
        rfl
      | other outcome kind_ne =>
        refine ⟨?_, hmem⟩
        simp [observeInput, observeOutcomes, ProfileInput.probes, observe, kind_ne]
      | record record =>
        refine ⟨rfl, fun ip => (hmem ip).trans ?_⟩
        rw [observeInput, observeRecord, indexAddrs, (foldl_orInsert _ _ _).1]
        simp [ProfileInput.Indexed, ProfileInput.records, or_assoc, or_left_comm]
  obtain ⟨hobs, hmem⟩ := hfold (new scanMetadata)
  refine ⟨hobs, fun ip => (hmem ip).trans ?_⟩
  simp [new]

variable (t : CollectionProfileAssembler) {ip : IpAddr}

/-- The loop of `finish`, seen at one address that is indexed. -/
lemma foldl_addProfile {identity : String} (hid : t.addrIndex.lookup ip = some identity)
    (l : List GnmiObservation) (st : List (String × IpAddr) × List CollectionProfileRecord) :
    (l.foldl t.addProfile st).2.filter (·.endpoint.address = ip.display) =
      st.2.filter (·.endpoint.address = ip.display) ++ if (identity, ip) ∈ st.1 then []
        else ((l.find? (·.targetIp = ip)).map (t.profileRecord identity)).toList := by
  induction l generalizing st with
  | nil => simp
  | cons obs l ih =>
    rw [foldl_cons, ih]
    by_cases hip : obs.targetIp = ip
    · -- The first observation of the address makes its profile, every later one is skipped.
      subst hip
      by_cases hseen : (identity, obs.targetIp) ∈ st.1
      · simp [addProfile, hid, hseen]
      · simp [addProfile, hid, hseen, profileRecord]
    · have hstep : (t.addProfile st obs).2.filter (·.endpoint.address = ip.display) =
            st.2.filter (·.endpoint.address = ip.display) ∧
          ((identity, ip) ∈ (t.addProfile st obs).1 ↔ (identity, ip) ∈ st.1) := by
        have hdis : obs.targetIp.display ≠ ip.display :=
          fun h => hip (IpAddr.display_injective h)
        unfold addProfile
        cases t.addrIndex.lookup obs.targetIp with
        | none => exact ⟨rfl, Iff.rfl⟩
        | some other =>
          dsimp only
          split_ifs
          · exact ⟨rfl, Iff.rfl⟩
          · simp [profileRecord, hdis, Ne.symm hip]
      rw [hstep.1, find?_cons_of_neg (by simpa using hip)]
      simp only [hstep.2]

lemma filter_finish {identity : String} (hid : t.addrIndex.lookup ip = some identity) :
    t.finish.filter (·.endpoint.address = ip.display) =
      ((t.observations.find? (·.targetIp = ip)).map (t.profileRecord identity)).toList := by
  have hperm := (perm_sortBy profileOrder (t.observations.foldl t.addProfile ([], [])).2).filter
    (·.endpoint.address = ip.display)
  rw [t.foldl_addProfile hid, if_neg not_mem_nil, filter_nil, nil_append] at hperm
  cases hfind : t.observations.find? (·.targetIp = ip) with
  | none =>
    rw [hfind] at hperm
    exact perm_nil.mp hperm
  | some obs =>
    rw [hfind] at hperm
    exact perm_singleton.mp hperm

/-- The first probe of an address that has capability data. -/
def firstObserved (inputs : List ProfileInput) (ip : IpAddr) : Option GnmiProbe :=
  (ProfileInput.probes inputs).find? fun probe =>
    probe.targetIp = ip && probe.hasCapability parseLldpResponse

lemma find?_observations (ip : IpAddr) :
    (assembled parseLldpResponse scanMetadata inputs).observations.find? (·.targetIp = ip) =
      (firstObserved parseLldpResponse inputs ip).bind
        (GnmiProbe.observation parseLldpResponse) := by
  rw [(assembled_spec parseLldpResponse scanMetadata inputs).1, firstObserved]
  induction ProfileInput.probes inputs with
  | nil => rfl
  | cons probe probes ih =>
    have hsome : (probe.observation parseLldpResponse).isSome =
        probe.hasCapability parseLldpResponse := GnmiProbe.observation_isSome parseLldpResponse
    rw [filterMap_cons, find?_cons]
    cases hobs : probe.observation parseLldpResponse with
    | none =>
      rw [hobs] at hsome
      grind
    | some obs =>
      obtain ⟨-, -, hip, -⟩ := GnmiProbe.observation_eq_some parseLldpResponse hobs
      rw [hobs] at hsome
      rw [← hsome, Option.isSome_some, Bool.and_true, find?_cons, hip]
      grind

lemma profiles_of_indexed {inputs : List ProfileInput} (hip : ProfileInput.Indexed inputs ip) :
    ∃ identity, (assembled parseLldpResponse scanMetadata inputs).finish.filter
        (·.endpoint.address = ip.display) =
      (((firstObserved parseLldpResponse inputs ip).bind
        (GnmiProbe.observation parseLldpResponse)).map
          ((assembled parseLldpResponse scanMetadata inputs).profileRecord identity)).toList := by
  have hmem := ((assembled_spec parseLldpResponse scanMetadata inputs).2 ip).mpr hip
  obtain ⟨identity, hid⟩ := Option.isSome_iff_exists.mp (AList.lookup_isSome.mpr hmem)
  exact ⟨identity, by rw [filter_finish _ hid, find?_observations]⟩

end CollectionProfileAssembler

/-! ## Profiles of an endpoint -/

open CollectionProfileAssembler ProfileInput

lemma GnmiProbe.observation_of_only {probe : GnmiProbe} {port : UInt16} {obs : GnmiObservation}
    (hobs : probe.observation parseLldpResponse = some obs)
    (hport : probe.firstAnswering parseLldpResponse = some port)
    (honly : ∀ port' ∈ probe.prober.ports, port' ≠ port →
      ∀ response ∈ (probe.answers port').capability, ¬response.HasData) :
    ∃ response, (probe.answers port).capability = some response ∧
      obs.gnmiVersion = response.version ∧ obs.supportedModels = response.models ∧
      obs.endpoint.advertisedEncodings = response.encodings := by
  obtain ⟨-, hcap, -, henc, hver, hmod⟩ :=
    observation_eq_some parseLldpResponse hobs
  have hmem : port ∈ probe.prober.ports := mem_of_find?_eq_some hport
  have hnd : probe.prober.ports.Nodup := probe.prober.ports_sorted.imp UInt16.ne_of_lt
  have hver' : probe.version = (probe.answers port).capability.bind CapabilityResponse.version := by
    refine findSome?_of_only hmem fun port' hport' hne => ?_
    rw [Option.bind_eq_none_iff]
    intro response hrsp
    exact not_not.mp fun h => honly port' hport' hne response hrsp (.inl h)
  have hmod' : probe.models =
      (probe.answers port).capability.elim [] CapabilityResponse.models := by
    refine flatMap_of_only hnd hmem fun port' hport' hne => ?_
    cases hrsp : (probe.answers port').capability with
    | none => rfl
    | some response =>
      exact not_not.mp fun h => honly port' hport' hne response hrsp (.inr (.inl h))
  have henc' : probe.encodings parseLldpResponse =
      (probe.answers port).capability.elim [] CapabilityResponse.encodings := by
    rw [encodings, hport]
    rfl
  cases hrsp : (probe.answers port).capability with
  | none => grind [hasCapability]
  | some response =>
    rw [hver, hmod, henc, hver', hmod', henc', hrsp]
    exact ⟨response, rfl, rfl, rfl, rfl⟩

lemma filter_endpoint (l : List CollectionProfileRecord) (ip : IpAddr) (port : UInt16) :
    l.filter (fun r => r.endpoint.address = ip.display ∧ r.endpoint.port = port) =
      (l.filter (·.endpoint.address = ip.display)).filter (·.endpoint.port = port) := by
  rw [filter_filter]
  grind

lemma firstAnswering_of_profile (scanMetadata : ScanMetadata) {inputs : List ProfileInput}
    {ip : IpAddr} {port : UInt16} {profile : CollectionProfileRecord} (hip : Indexed inputs ip)
    (hprofiles : (assembled parseLldpResponse scanMetadata inputs).finish.filter
      (fun r => r.endpoint.address = ip.display ∧ r.endpoint.port = port) = [profile]) :
    ∃ probe, firstObserved parseLldpResponse inputs ip = some probe ∧
      probe.firstAnswering parseLldpResponse = some port := by
  obtain ⟨identity, hpro⟩ := profiles_of_indexed parseLldpResponse scanMetadata hip
  have hmem := mem_singleton_self profile
  rw [← hprofiles, filter_endpoint, hpro, mem_filter, decide_eq_true_eq,
    Option.mem_toList, Option.map_eq_some_iff] at hmem
  obtain ⟨⟨obs, hobs, rfl⟩, hport⟩ := hmem
  obtain ⟨probe, hprobe, hobs⟩ := Option.bind_eq_some_iff.mp hobs
  obtain ⟨hfst, -⟩ := GnmiProbe.observation_eq_some parseLldpResponse hobs
  exact ⟨probe, hprobe, hport ▸ hfst⟩

/-- Each endpoint with capability data, at an address of a record, has exactly one profile, of its
own answers, exactly when such an address has one such endpoint, the first port to answer in the
first probe with such data. -/
theorem profile_per_endpoint_iff (scanMetadata : ScanMetadata) (inputs : List ProfileInput) :
    (∀ ip port response, Answered inputs ip port response → response.HasData → Indexed inputs ip →
      ∃ profile, (assembled parseLldpResponse scanMetadata inputs).finish.filter
          (fun r => r.endpoint.address = ip.display ∧ r.endpoint.port = port) = [profile] ∧
        ∃ answer, Answered inputs ip port answer ∧ profile.collection = answer.collection) ↔
    ∀ ip port response, Answered inputs ip port response → response.HasData → Indexed inputs ip →
      (∀ port' response', Answered inputs ip port' response' → response'.HasData → port' = port) ∧
      ∃ probe, firstObserved parseLldpResponse inputs ip = some probe ∧
        probe.firstAnswering parseLldpResponse = some port := by
  constructor
  · intro h ip port response hans hdata hip
    obtain ⟨profile, hpre, -⟩ := h ip port response hans hdata hip
    obtain ⟨probe, hprobe, hport⟩ :=
      firstAnswering_of_profile parseLldpResponse scanMetadata hip hpre
    refine ⟨fun port' response' hans' hdata' => ?_, probe, hprobe, hport⟩
    -- The profile of another endpoint would be that of the same probe.
    obtain ⟨profile', hpro', -⟩ := h ip port' response' hans' hdata' hip
    obtain ⟨probe', hprb', hport'⟩ :=
      firstAnswering_of_profile parseLldpResponse scanMetadata hip hpro'
    obtain rfl := Option.mem_unique hprobe hprb'
    exact Option.mem_unique hport' hport
  · intro h ip port response hans hdata hip
    obtain ⟨honly, probe, hprobe, hport⟩ := h ip port response hans hdata hip
    have hfound := find?_some hprobe
    rw [Bool.and_eq_true, decide_eq_true_eq, ← GnmiProbe.observation_isSome] at hfound
    obtain ⟨htarget, hsome⟩ := hfound
    obtain ⟨obs, hobs⟩ := Option.isSome_iff_exists.mp hsome
    have hmem : probe ∈ probes inputs := mem_of_find?_eq_some hprobe
    obtain ⟨answer, hanswer, hver, hmod, henc⟩ :=
      probe.observation_of_only parseLldpResponse hobs hport fun port' hport' hne response' hr hd =>
        hne (honly port' response' ⟨probe, hmem, htarget, hport', hr⟩ hd)
    obtain ⟨identity, hprf⟩ := profiles_of_indexed parseLldpResponse scanMetadata hip
    rw [hprobe, Option.bind_some, hobs, Option.map_some, Option.toList_some] at hprf
    obtain ⟨hfst, -⟩ := GnmiProbe.observation_eq_some parseLldpResponse hobs
    refine ⟨(assembled parseLldpResponse scanMetadata inputs).profileRecord identity obs, ?_,
      answer, ⟨probe, hmem, htarget, mem_of_find?_eq_some hport, hanswer⟩, ?_⟩
    · have hsame : obs.endpoint.port = port := Option.mem_unique hfst hport
      rw [filter_endpoint, hprf]
      exact filter_cons_of_pos (decide_eq_true hsame)
    · rw [profileRecord, CapabilityResponse.collection, hver, hmod, henc]

end Probes

/-! ## Two ports -/

def capabilitiesOnly (response : CapabilityResponse) : EndpointAnswers :=
  ⟨.ok (), some (.ok response), fun _ => none, fun _ => none⟩

def twoPortProbe : GnmiProbe where
  prober := ⟨[9339, 57400], by decide, true, [], false⟩
  targetIp := .v4 0xC0000201
  now := 0
  answers port :=
    if port = 9339 then capabilitiesOnly ⟨[⟨"openconfig-interfaces", "", "2.5.0"⟩], [4], "0.7.0"⟩
    else capabilitiesOnly ⟨[⟨"openconfig-lldp", "", "0.2.1"⟩], [0], "0.8.0"⟩

/-- A scan of the two ports, with the record of the device. -/
def twoPortScan : List ProfileInput :=
  [.gnmi twoPortProbe, .record (sampleRecord ⟨"ip:192.0.2.1", by decide⟩ 0xC0000201 []
      ⟨1 / 2, by norm_num, by norm_num⟩)]

/-- The port and the advice of each profile of a scan. -/
def profileEndpoints (inputs : List ProfileInput) : List (UInt16 × Option String × List String) :=
  (CollectionProfileAssembler.assembled (fun _ => ⟨"", 0, [], ""⟩) .default inputs).finish.map
    fun r =>
      match r.collection with
      | .gnmi version _ models _ => (r.endpoint.port, version, models)

/-- Of two endpoints only the first has a profile, and that lists the models of both. -/
theorem two_ports_one_profile :
    (∃ response, ProfileInput.Answered twoPortScan (.v4 0xC0000201) 57400 response ∧
      response.HasData) ∧
    ProfileInput.Indexed twoPortScan (.v4 0xC0000201) ∧
    profileEndpoints twoPortScan =
      [(9339, some "0.7.0", ["openconfig-interfaces 2.5.0", "openconfig-lldp 0.2.1"])] := by
  refine ⟨⟨⟨[⟨"openconfig-lldp", "", "0.2.1"⟩], [0], "0.8.0"⟩, ?_, by decide +kernel⟩, ?_, ?_⟩
  · exact ⟨twoPortProbe, mem_singleton_self _, rfl, by decide, rfl⟩
  · exact ⟨_, mem_singleton_self _, by decide⟩
  · decide +kernel

end Rastreo
