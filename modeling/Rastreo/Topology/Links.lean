import Rastreo.Library.KeyedFold
import Rastreo.Topology.Assembler

/-!
# One link per pair of chassis

The two loops of `finish`, seen as loops over sightings, update the edge of a pair of chassis, and
within it the end of a chassis, so what an edge holds is a fold over the sightings of its pair
(`links_deduplicated`).
-/

namespace Rastreo

open List

/-! ## Sightings -/

structure Sighting where
  localChassisId : String
  localChassisSubtype : UInt32
  observedAt : SystemTime
  discoveredVia : String
  neighbor : LldpNeighbor
  deriving DecidableEq

namespace Sighting

def ofNeighbor (obs : DeviceObservation) (neighbor : LldpNeighbor) : Sighting :=
  ⟨obs.localChassisId, obs.localChassisSubtype, obs.observedAt, obs.discoveredVia, neighbor⟩

variable [CaseMapping] (s : Sighting)

def localNorm : String := normalizeChassis s.localChassisSubtype s.localChassisId

def remoteNorm : String :=
  normalizeChassis s.neighbor.remoteChassisSubtype s.neighbor.remoteChassisId

def Proper : Prop :=
  s.localNorm ≠ "" ∧ s.remoteNorm ≠ "" ∧ s.remoteNorm ≠ s.localNorm

instance : DecidablePred Proper := fun s =>
  inferInstanceAs (Decidable (s.localNorm ≠ "" ∧ s.remoteNorm ≠ "" ∧ s.remoteNorm ≠ s.localNorm))

/-- The chassis of a sighting in ascending order. -/
def pair : String × String := edgeKey s.localNorm s.remoteNorm

def localEnd : EndpointObservation where
  chassisNorm := s.localNorm
  chassisId := s.localChassisId
  subtype := s.localChassisSubtype
  port := nonEmpty s.neighbor.localPort
  portAuthoritative := true
  sysName := none

def remoteEnd : EndpointObservation where
  chassisNorm := s.remoteNorm
  chassisId := s.neighbor.remoteChassisId
  subtype := s.neighbor.remoteChassisSubtype
  port := nonEmpty s.neighbor.remotePortId
  portAuthoritative := false
  sysName := s.neighbor.remoteSysName

lemma port_localEnd : s.localEnd.port = nonEmpty s.neighbor.localPort := by
  simp only [localEnd]

/-- What a sighting says, in the order it is merged. -/
def ends : List EndpointObservation := [s.localEnd, s.remoteEnd]

end Sighting

def EndpointInfo.blank (obs : EndpointObservation) : EndpointInfo where
  chassisId := obs.chassisId
  subtype := obs.subtype
  port := none
  portAuthoritative := false
  sysName := none

section Edges

variable [CaseMapping]

/-- What the loops of `finish` do to an edge they see. -/
def Edge.see (edge : Edge) (s : Sighting) : Edge where
  observedAt := max edge.observedAt s.observedAt
  sources := insertSource s.discoveredVia edge.sources
  endpoints := s.ends.foldl
    (upsert EndpointObservation.chassisNorm EndpointInfo.blank EndpointInfo.absorb) edge.endpoints

namespace TopologyAssembler

variable (self : TopologyAssembler)

/-- The sightings of a scan, in the order of the loops. -/
def sightings : List Sighting :=
  self.observations.flatMap fun obs => obs.neighbors.map (Sighting.ofNeighbor obs)

def seeAll (edges : Edges) (l : List Sighting) : Edges :=
  l.foldl (upsert Sighting.pair (fun s => Edge.new s.observedAt) Edge.see) edges

lemma addNeighbor_eq {obs : DeviceObservation} (edges : Edges) (neighbor : LldpNeighbor)
    (hlocal : (Sighting.ofNeighbor obs neighbor).localNorm ≠ "") :
    addNeighbor obs (Sighting.ofNeighbor obs neighbor).localNorm edges neighbor =
      if (Sighting.ofNeighbor obs neighbor).Proper then
        seeAll edges [Sighting.ofNeighbor obs neighbor]
      else edges := by
  unfold addNeighbor
  by_cases hproper : (Sighting.ofNeighbor obs neighbor).Proper
  · rw [if_pos hproper, if_neg]
    · rfl
    · rintro (h | h)
      · exact hproper.2.1 h
      · exact hproper.2.2 h
  · rw [if_neg hproper, if_pos]
    by_contra hskip
    rw [not_or] at hskip
    exact hproper ⟨hlocal, hskip⟩

/-- An observation is its sightings of two different chassis. -/
lemma addObservation_eq (edges : Edges) (obs : DeviceObservation) : addObservation edges obs =
      seeAll edges ((obs.neighbors.map (Sighting.ofNeighbor obs)).filter (·.Proper)) := by
  unfold addObservation
  by_cases hlocal : obs.localNorm = ""
  · rw [if_pos hlocal, filter_eq_nil_iff.mpr]
    · rfl
    · intro s hs
      obtain ⟨neighbor, -, rfl⟩ := mem_map.mp hs
      rw [decide_eq_true_eq]
      exact fun hproper => hproper.1 hlocal
  · rw [if_neg hlocal]
    induction obs.neighbors generalizing edges with
    | nil => rfl
    | cons neighbor rest ih =>
      rw [foldl_cons, ih, map_cons]
      have hstep : addNeighbor obs _ edges neighbor = _ := addNeighbor_eq edges neighbor hlocal
      by_cases hproper : (Sighting.ofNeighbor obs neighbor).Proper
      · rw [if_pos hproper] at hstep
        rw [filter_cons_of_pos (by simpa using hproper)]
        exact congrArg (seeAll · _) hstep
      · rw [if_neg hproper] at hstep
        rw [filter_cons_of_neg (by simpa using hproper)]
        exact congrArg (seeAll · _) hstep

lemma edges_eq : self.edges = seeAll ∅ (self.sightings.filter (·.Proper)) := by
  rw [sightings, filter_flatMap, seeAll, foldl_flatMap, edges]
  congr 1
  funext edges obs
  exact addObservation_eq edges obs

def seenOn (pair : String × String) : List Sighting :=
  (self.sightings.filter (·.Proper)).filter fun s => s.pair = pair

lemma lookup_edges (pair : String × String) : self.edges.lookup pair =
      foldEntry (fun s => Edge.new s.observedAt) Edge.see (self.seenOn pair) := by
  rw [edges_eq]
  exact lookup_foldl_upsert _ _ _ _ _

lemma mem_seenOn {self : TopologyAssembler} {pair : String × String} {s : Sighting} :
    s ∈ self.seenOn pair ↔ s ∈ self.sightings ∧ s.Proper ∧ s.pair = pair := by
  rw [seenOn, mem_filter, mem_filter, decide_eq_true_eq, decide_eq_true_eq, and_assoc]

end TopologyAssembler

/-! ## What an edge holds -/

lemma Edge.foldl_see (l : List Sighting) (edge : Edge) : (l.foldl Edge.see edge).observedAt =
        l.foldl (fun t s => max t s.observedAt) edge.observedAt ∧
      (l.foldl Edge.see edge).sources =
        l.foldl (fun sources s => insertSource s.discoveredVia sources) edge.sources ∧
      (l.foldl Edge.see edge).endpoints = (l.flatMap Sighting.ends).foldl
          (upsert EndpointObservation.chassisNorm EndpointInfo.blank EndpointInfo.absorb)
          edge.endpoints := by
  induction l generalizing edge with
  | nil => exact ⟨rfl, rfl, rfl⟩
  | cons s l ih =>
    obtain ⟨htime, hsou, hends⟩ := ih (edge.see s)
    exact ⟨htime, hsou, hends⟩

end Edges

/-- A running maximum is an upper bound and is reached. -/
lemma foldl_max_spec {α : Type} (f : α → SystemTime) (l : List α) (t : SystemTime) :
    t ≤ l.foldl (fun t a => max t (f a)) t ∧ (∀ a ∈ l, f a ≤ l.foldl (fun t a => max t (f a)) t) ∧
      (l.foldl (fun t a => max t (f a)) t = t ∨
        ∃ a ∈ l, f a = l.foldl (fun t a => max t (f a)) t) := by
  induction l generalizing t with
  | nil => exact ⟨le_rfl, nofun, .inl rfl⟩
  | cons a l ih =>
    obtain ⟨hge, hall, hrea⟩ := ih (max t (f a))
    refine ⟨(le_max_left _ _).trans hge, ?_, ?_⟩
    · intro b hb
      rcases mem_cons.mp hb with rfl | hb
      · exact (le_max_right _ _).trans hge
      · exact hall b hb
    · rcases hrea with h | ⟨b, hb, h⟩
      · rcases max_choice t (f a) with hmax | hmax
        · grind
        · grind
      · grind

variable {sources : List String}

lemma pairwise_insertSource (source : String) (h : sources.Pairwise (· < ·)) :
    (insertSource source sources).Pairwise (· < ·) := by
  unfold insertSource
  split_ifs with hmem
  · exact h
  · have hle := (h.imp le_of_lt).orderedInsert source sources
    have hnd : (sources.orderedInsert (· ≤ ·) source).Nodup :=
      (perm_orderedInsert _ _ _).nodup_iff.mpr (nodup_cons.mpr ⟨hmem, h.imp ne_of_lt⟩)
    exact (hle.and hnd).imp fun hab => lt_of_le_of_ne hab.1 hab.2

lemma mem_insertSource {source x : String} :
    x ∈ insertSource source sources ↔ x = source ∨ x ∈ sources := by
  unfold insertSource
  split_ifs with hmem
  · constructor
    · exact .inr
    · grind
  · simp

lemma foldl_insertSource_spec (l : List Sighting) (h : sources.Pairwise (· < ·)) :
    (l.foldl (fun sources s => insertSource s.discoveredVia sources) sources).Pairwise (· < ·) ∧
      ∀ x, x ∈ l.foldl (fun sources s => insertSource s.discoveredVia sources) sources ↔
        x ∈ sources ∨ ∃ s ∈ l, s.discoveredVia = x := by
  induction l generalizing sources with
  | nil => exact ⟨h, fun x => by simp⟩
  | cons s l ih =>
    obtain ⟨hsorted, hmem⟩ := ih (pairwise_insertSource s.discoveredVia h)
    refine ⟨hsorted, fun x => ?_⟩
    rw [foldl_cons, hmem, mem_insertSource]
    grind

/-! ## What is known of an end -/

lemma nonEmpty_eq_some {port p : String} : nonEmpty port = some p ↔ trim port ≠ "" ∧ port = p := by
  unfold nonEmpty
  split_ifs with h <;> simp [h]

/-- The first it reported for itself, or else the first reported of it. -/
def chosenPort (l : List EndpointObservation) : Option String :=
  ((l.filter (·.portAuthoritative)).findSome? (·.port)).or (l.findSome? (·.port))

variable (l : List EndpointObservation) (info : EndpointInfo)

lemma EndpointInfo.foldl_absorb_chassis : (l.foldl absorb info).chassisId = info.chassisId ∧
      (l.foldl absorb info).subtype = info.subtype := by
  have hstep : ∀ (info : EndpointInfo) (obs : EndpointObservation),
      (info.absorb obs).chassisId = info.chassisId ∧ (info.absorb obs).subtype = info.subtype := by
    intro info obs
    unfold absorb
    dsimp only
    grind
  induction l generalizing info with
  | nil => exact ⟨rfl, rfl⟩
  | cons obs l ih =>
    obtain ⟨hid, hsub⟩ := ih (info.absorb obs)
    grind

variable (obs : EndpointObservation)

lemma EndpointInfo.absorb_port : ((info.absorb obs).port, (info.absorb obs).portAuthoritative) =
      if obs.port.isSome ∧
          (obs.portAuthoritative && !info.portAuthoritative || info.port.isNone) = true
      then (obs.port, obs.portAuthoritative) else (info.port, info.portAuthoritative) := by
  obtain ⟨_, _, port, authoritative, sysName⟩ := info
  obtain ⟨_, _, _, port', authoritative', _⟩ := obs
  cases port' with
  | none => cases sysName <;> rfl
  | some p =>
    cases authoritative' <;> cases authoritative <;> cases port <;> cases sysName <;> rfl

lemma EndpointInfo.foldl_absorb_port
    (hauth : info.portAuthoritative = true → info.port.isSome = true) : (l.foldl absorb info).port =
      if info.portAuthoritative then info.port
      else ((l.filter (·.portAuthoritative)).findSome? (·.port)).or
        (info.port.or (l.findSome? (·.port))) := by
  induction l generalizing info with
  | nil => cases info.portAuthoritative <;> simp
  | cons obs l ih =>
    have hstep := info.absorb_port obs
    obtain ⟨_, _, _, port, authoritative, _⟩ := obs
    rw [foldl_cons]
    split_ifs at hstep with hcond
    · -- The sighting names a port that replaces what was known.
      obtain ⟨hport, hsta⟩ := Prod.mk.inj hstep
      obtain ⟨p, rfl⟩ := Option.isSome_iff_exists.mp hcond.1
      have hold : info.portAuthoritative = false := by
        by_contra htrue
        simp_all
      rw [ih _ (fun _ => by rw [hport]; rfl), hport, hsta, hold]
      cases authoritative with
      | true => simp
      | false => simp_all
    · -- What was known stays.
      obtain ⟨hport, hsta⟩ := Prod.mk.inj hstep
      rw [ih _ (fun h => by rw [hport]; exact hauth (hsta ▸ h)), hport, hsta]
      cases hinfo : info.portAuthoritative with
      | true => rfl
      | false =>
        cases port with
        | none => cases authoritative <;> simp
        | some p =>
          cases authoritative with
          | true => simp [hinfo] at hcond
          | false =>
            obtain ⟨q, hq⟩ : ∃ q, info.port = some q := by
              simpa [hinfo, Option.ne_none_iff_exists'] using hcond
            simp [hq]

lemma EndpointInfo.foldl_absorb_blank (l : List EndpointObservation) :
    ((obs :: l).foldl absorb (blank obs)).port = chosenPort (obs :: l) := by
  rw [foldl_absorb_port _ _ (fun h => by cases h)]
  rfl

lemma chosenPort_own {l : List EndpointObservation} {obs : EndpointObservation} (hobs : obs ∈ l)
    (hown : obs.portAuthoritative = true) (hport : obs.port.isSome = true) :
    ∃ obs ∈ l, obs.portAuthoritative = true ∧ ∃ p, obs.port = some p ∧ chosenPort l = some p := by
  have hfound := findSome?_isSome_iff.mpr ⟨obs, mem_filter.mpr ⟨hobs, hown⟩, hport⟩
  obtain ⟨p, hp⟩ := Option.isSome_iff_exists.mp hfound
  obtain ⟨obs', hobs', hport'⟩ := exists_of_findSome?_eq_some hp
  obtain ⟨hmem, hown'⟩ := mem_filter.mp hobs'
  grind [chosenPort]

/-! ## The edge of a pair -/

section Pairs

variable [CaseMapping]

def endsSeen (l : List Sighting) (chassis : String) : List EndpointObservation :=
  (l.flatMap Sighting.ends).filter fun o => o.chassisNorm = chassis

lemma mem_endsSeen {l : List Sighting} {chassis : String} {o : EndpointObservation} :
    o ∈ endsSeen l chassis ↔
      ∃ s ∈ l, s.localNorm = chassis ∧ o = s.localEnd ∨
        s.remoteNorm = chassis ∧ o = s.remoteEnd := by
  rw [endsSeen, mem_filter, mem_flatMap, decide_eq_true_eq]
  constructor
  · rintro ⟨⟨s, hs, ho⟩, rfl⟩
    rcases mem_pair.mp ho with rfl | rfl
    · exact ⟨s, hs, .inl ⟨rfl, rfl⟩⟩
    · exact ⟨s, hs, .inr ⟨rfl, rfl⟩⟩
  · rintro ⟨s, hs, ⟨hcha, rfl⟩ | ⟨hcha, rfl⟩⟩
    · exact ⟨⟨s, hs, mem_pair.mpr (.inl rfl)⟩, hcha⟩
    · exact ⟨⟨s, hs, mem_pair.mpr (.inr rfl)⟩, hcha⟩

namespace TopologyAssembler

variable {self : TopologyAssembler} {pair : String × String} {edge : Edge}

structure EdgeSpec (t : TopologyAssembler) (pair : String × String) (edge : Edge) : Prop where
  seen : t.seenOn pair ≠ []
  observedAt : (∀ s ∈ t.seenOn pair, s.observedAt ≤ edge.observedAt) ∧
    ∃ s ∈ t.seenOn pair, s.observedAt = edge.observedAt
  sorted : edge.sources.Pairwise (· < ·)
  mem_sources : ∀ x, x ∈ edge.sources ↔ ∃ s ∈ t.seenOn pair, s.discoveredVia = x
  lookup_endpoints : ∀ chassis, edge.endpoints.lookup chassis =
    foldEntry EndpointInfo.blank EndpointInfo.absorb (endsSeen (t.seenOn pair) chassis)

lemma edgeSpec (h : self.edges.lookup pair = some edge) : EdgeSpec self pair edge := by
  rw [lookup_edges] at h
  cases hseen : self.seenOn pair with
  | nil =>
    rw [hseen] at h
    cases h
  | cons first rest =>
    rw [hseen] at h
    obtain rfl : (first :: rest).foldl Edge.see (Edge.new first.observedAt) = edge :=
      Option.some.inj h
    obtain ⟨htime, hsou, hends⟩ := Edge.foldl_see (first :: rest) (Edge.new first.observedAt)
    obtain ⟨hge, hall, hrea⟩ :=
      foldl_max_spec Sighting.observedAt (first :: rest) first.observedAt
    obtain ⟨hsorted, hmem⟩ := foldl_insertSource_spec (first :: rest) List.Pairwise.nil
    refine ⟨by rw [hseen]; exact cons_ne_nil _ _, ?_, ?_, ?_, ?_⟩
    · rw [hseen, htime]
      refine ⟨hall, ?_⟩
      rcases hrea with h | h
      · exact ⟨first, mem_cons_self, h.symm⟩
      · exact h
    · rw [hsou]
      exact hsorted
    · intro x
      rw [hseen, hsou]
      exact (hmem x).trans (by simp)
    · intro chassis
      rw [hseen, hends]
      exact lookup_foldl_upsert _ _ _ _ _

end TopologyAssembler

end Pairs

/-! ## Identities -/

section Identities

namespace IdentityIndex

variable {self : IdentityIndex} {ids : String → Prop} {addrs : IpAddr → Prop}

/-- Identities are among `ids`, and the addresses indexed are `addrs`. -/
structure IndexedBy (t : IdentityIndex) (ids : String → Prop) (addrs : IpAddr → Prop) : Prop where
  mac : ∀ key id, t.macIndex.lookup key = some id → ids id
  sysName : ∀ key id, t.sysNameIndex.lookup key = some id → ids id
  addr : ∀ ip id, t.addrIndex.lookup ip = some id → ids id
  mem_addr : ∀ ip, ip ∈ t.addrIndex ↔ addrs ip

lemma IndexedBy.congr (h : self.IndexedBy ids addrs) {addrs' : IpAddr → Prop}
    (heq : ∀ ip, addrs ip ↔ addrs' ip) : self.IndexedBy ids addrs' :=
  ⟨h.mac, h.sysName, h.addr, fun ip => (h.mem_addr ip).trans (heq ip)⟩

variable {identity : String}

lemma IndexedBy.indexSysName (h : self.IndexedBy ids addrs) (hid : ids identity) (name : String) :
    (self.indexSysName name identity).IndexedBy ids addrs := by
  unfold IdentityIndex.indexSysName
  dsimp only
  split_ifs
  · exact h
  · refine ⟨h.mac, fun key id hlookup => ?_, h.addr, h.mem_addr⟩
    rcases lookup_orInsert hlookup with rfl | hold
    · exact hid
    · exact h.sysName key id hold

variable [CaseMapping]

lemma IndexedBy.indexMac (h : self.IndexedBy ids addrs) (hid : ids identity) (mac : String) :
    (self.indexMac mac identity).IndexedBy ids addrs := by
  unfold IdentityIndex.indexMac
  dsimp only
  split_ifs
  · exact h
  · refine ⟨fun key id hlookup => ?_, h.sysName, h.addr, h.mem_addr⟩
    rcases lookup_orInsert hlookup with rfl | hold
    · exact hid
    · exact h.mac key id hold

lemma IndexedBy.indexSignal (h : self.IndexedBy ids addrs) (hid : ids identity) (signal : Signal) :
    (indexSignal identity self signal).IndexedBy ids addrs := by
  unfold IdentityIndex.indexSignal
  split
  · exact h.indexMac hid _
  · exact h.indexSysName hid _
  · exact h.indexSysName hid _
  · exact h

lemma IndexedBy.observeRecord (h : self.IndexedBy ids addrs) {record : DeviceRecord}
    (hid : ids record.identityKey.asStr) :
    (self.observeRecord record).IndexedBy ids fun ip => ip ∈ record.addresses ∨ addrs ip := by
  have hmac : (record.mac.elim self fun mac =>
      self.indexMac mac record.identityKey.asStr).IndexedBy ids addrs := by
    cases record.mac with
    | none => exact h
    | some mac =>
      exact h.indexMac hid mac
  have hsig : (record.signals.foldl (IdentityIndex.indexSignal record.identityKey.asStr)
      (record.mac.elim self fun mac =>
        self.indexMac mac record.identityKey.asStr)).IndexedBy ids addrs := by
    refine List.foldlRecOn (motive := fun t : IdentityIndex => t.IndexedBy ids addrs) _ _ hmac ?_
    exact fun _ h signal _ => h.indexSignal hid signal
  obtain ⟨hmem, hlookup⟩ := foldl_orInsert record.identityKey.asStr record.addresses
    (record.signals.foldl (IdentityIndex.indexSignal record.identityKey.asStr)
      (record.mac.elim self fun mac => self.indexMac mac record.identityKey.asStr)).addrIndex
  refine ⟨hsig.mac, hsig.sysName, fun ip id hip => ?_, fun ip => ?_⟩
  · rcases hlookup ip id hip with rfl | hold
    · exact hid
    · exact hsig.addr ip id hold
  · exact (hmem ip).trans (or_congr_right (hsig.mem_addr ip))

variable {t : TopologyAssembler}

omit [CaseMapping] in
lemma IndexedBy.resolveIdentity (h : t.IndexedBy ids addrs)
    {identities : AList fun _ : String => String}
    (hids : ∀ key id, identities.lookup key = some id → ids id) {chassis id : String}
    {subtype : UInt32} {sysName : Option String}
    (hid : t.resolveIdentity chassis subtype sysName identities = some id) : ids id := by
  rcases Option.or_eq_some_iff.mp hid with hid | ⟨-, hid⟩
  · exact hids _ _ hid
  · rcases Option.or_eq_some_iff.mp hid with hid | ⟨-, hid⟩
    · split_ifs at hid
      · exact h.mac _ _ hid
      · obtain ⟨ip, -, hid⟩ := Option.bind_eq_some_iff.mp hid
        exact h.addr _ _ hid
    · obtain ⟨name, -, hid⟩ := Option.bind_eq_some_iff.mp hid
      dsimp only at hid
      split_ifs at hid
      exact h.sysName _ _ hid

lemma IndexedBy.identifyChassis (h : t.IndexedBy ids addrs) (obs : DeviceObservation)
    (m : AList fun _ : String => String) :
    ((∀ key id, m.lookup key = some id → ids id) →
        ∀ key id, (t.identifyChassis m obs).lookup key = some id → ids id) ∧
      (∀ key ∈ m, key ∈ t.identifyChassis m obs) ∧
      (addrs obs.localIp → obs.localNorm ≠ "" → obs.localNorm ∈ t.identifyChassis m obs) := by
  unfold TopologyAssembler.identifyChassis
  cases hlookup : t.addrIndex.lookup obs.localIp with
  | none =>
    refine ⟨fun hm => hm, fun _ hkey => hkey, fun haddr => ?_⟩
    exact absurd ((h.mem_addr _).mpr haddr) (AList.lookup_eq_none.mp hlookup)
  | some identity =>
    dsimp only
    split_ifs with hempty
    · grind
    · refine ⟨fun hm key id hid => ?_, fun key hkey => mem_orInsert.mpr (.inr hkey),
        fun _ _ => mem_orInsert.mpr (.inl rfl)⟩
      rcases lookup_orInsert hid with rfl | hid
      · exact h.addr _ _ hlookup
      · exact hm key id hid

lemma IndexedBy.foldl_identifyChassis (h : t.IndexedBy ids addrs) (l : List DeviceObservation)
    {m : AList fun _ : String => String} (hm : ∀ key id, m.lookup key = some id → ids id) :
    (∀ key id, (l.foldl t.identifyChassis m).lookup key = some id → ids id) ∧
      (∀ key ∈ m, key ∈ l.foldl t.identifyChassis m) ∧
      ∀ obs ∈ l, addrs obs.localIp → obs.localNorm ≠ "" →
        obs.localNorm ∈ l.foldl t.identifyChassis m := by
  induction l generalizing m with
  | nil => exact ⟨hm, fun _ hkey => hkey, nofun⟩
  | cons obs l ih =>
    obtain ⟨hids, hkeep, hnew⟩ := h.identifyChassis obs m
    obtain ⟨hids', hkeep', hall⟩ := ih (hids hm)
    refine ⟨hids', fun key hkey => hkeep' key (hkeep key hkey), fun obs' hobs' haddr hne => ?_⟩
    grind

lemma IndexedBy.chassisToIdentity (h : t.IndexedBy ids addrs) :
    (∀ key id, t.chassisToIdentity.lookup key = some id → ids id) ∧
      ∀ obs ∈ t.observations, addrs obs.localIp → obs.localNorm ≠ "" →
        obs.localNorm ∈ t.chassisToIdentity := by
  have hempty : ∀ key id, (∅ : AList fun _ : String => String).lookup key = some id → ids id := by
    intro key id hid
    cases hid
  obtain ⟨hids, -, hall⟩ := h.foldl_identifyChassis t.observations hempty
  exact ⟨hids, hall⟩

end IdentityIndex

end Identities

/-! ## Runs -/

/-- What the assembler is shown in the course of a scan. -/
inductive TopologyInput where
  | outcomes (outcomes : List ProbeOutcome)
  | record (record : DeviceRecord)

def TopologyInput.records (inputs : List TopologyInput) : List DeviceRecord :=
  inputs.filterMap fun input =>
    match input with
    | .outcomes _ => none
    | .record r => some r

section Runs

variable [CaseMapping]

namespace TopologyAssembler

def observeInput (self : TopologyAssembler) : TopologyInput → TopologyAssembler
  | .outcomes outcomes => self.observeOutcomes outcomes
  | .record record => self.observeRecord record

def assembled (scanMetadata : ScanMetadata) (inputs : List TopologyInput) : TopologyAssembler :=
  inputs.foldl observeInput (new scanMetadata)

lemma foldl_observeInput_indexedBy {self : TopologyAssembler} {ids : String → Prop}
    {addrs : IpAddr → Prop} (h : self.IndexedBy ids addrs) (inputs : List TopologyInput)
    (hids : ∀ r ∈ TopologyInput.records inputs, ids r.identityKey.asStr) :
    (inputs.foldl observeInput self).IndexedBy ids
      fun ip => (∃ r ∈ TopologyInput.records inputs, ip ∈ r.addresses) ∨ addrs ip := by
  induction inputs generalizing self addrs with
  | nil => exact h.congr fun ip => by simp [TopologyInput.records]
  | cons input inputs ih =>
    cases input with
    | outcomes outcomes =>
      have hsame : (self.observeOutcomes outcomes).IndexedBy ids addrs := h
      exact ih hsame hids
    | record record =>
      have hrecord := h.observeRecord (hids record mem_cons_self)
      refine (ih hrecord fun r hr => hids r (mem_cons_of_mem record hr)).congr fun ip => ?_
      simp only [TopologyInput.records, filterMap_cons, mem_cons, exists_eq_or_imp]
      grind

lemma assembled_indexedBy (scanMetadata : ScanMetadata) (inputs : List TopologyInput) :
    (assembled scanMetadata inputs).IndexedBy
      (fun id => ∃ r ∈ TopologyInput.records inputs, r.identityKey.asStr = id)
      (fun ip => ∃ r ∈ TopologyInput.records inputs, ip ∈ r.addresses) := by
  have hnew : (new scanMetadata).IndexedBy
      (fun id => ∃ r ∈ TopologyInput.records inputs, r.identityKey.asStr = id) fun _ => False := by
    refine ⟨?_, ?_, ?_, fun ip => ⟨fun hip => AList.notMem_empty ip hip, False.elim⟩⟩
    all_goals
      intro key id hid
      rw [new, AList.lookup_empty] at hid
      cases hid
  refine (foldl_observeInput_indexedBy hnew inputs fun r hr => ⟨r, hr, rfl⟩).congr fun ip => ?_
  simp

/-! ## Links -/

structure EndOk (t : TopologyAssembler) (records : List DeviceRecord) (pair : String × String)
    (chassis : String) (e : LinkEndpoint) : Prop where
  spelled : ∃ s ∈ t.seenOn pair, s.localNorm = chassis ∧ e.chassisId = s.localChassisId ∨
    s.remoteNorm = chassis ∧ e.chassisId = s.neighbor.remoteChassisId
  port : (∃ s ∈ t.seenOn pair, s.localNorm = chassis ∧ trim s.neighbor.localPort ≠ "") →
    ∃ s ∈ t.seenOn pair, s.localNorm = chassis ∧ trim s.neighbor.localPort ≠ "" ∧
      e.port = s.neighbor.localPort
  identity_observed : ∀ id ∈ e.identityKey, ∃ r ∈ records, r.identityKey.asStr = id
  identity_present : (∃ obs ∈ t.observations, obs.localNorm = chassis ∧
    ∃ r ∈ records, obs.localIp ∈ r.addresses) → e.identityKey.isSome = true

/-- What holds of the link of a pair. -/
structure LinkOk (t : TopologyAssembler) (records : List DeviceRecord) (pair : String × String)
    (link : LinkRecord) : Prop where
  a : EndOk t records pair pair.1 link.a
  b : EndOk t records pair pair.2 link.b
  observedAt : (∀ s ∈ t.seenOn pair, s.observedAt ≤ link.observedAt) ∧
    ∃ s ∈ t.seenOn pair, s.observedAt = link.observedAt
  discoveredVia : ∃ sources : List String, sources.Pairwise (· < ·) ∧
    (∀ x, x ∈ sources ↔ ∃ s ∈ t.seenOn pair, s.discoveredVia = x) ∧
    link.discoveredVia = joinSources sources

variable {t : TopologyAssembler} {pair : String × String}

lemma EdgeSpec.finalizeEndpoint_eq {edge : Edge} (h : EdgeSpec t pair edge)
    {chassis : String} {e : LinkEndpoint}
    (he : t.finalizeEndpoint chassis edge t.chassisToIdentity = .ok e) :
    ∃ o ∈ endsSeen (t.seenOn pair) chassis, ∃ sysName, e.chassisId = o.chassisId ∧
      e.port = (chosenPort (endsSeen (t.seenOn pair) chassis)).getD "" ∧
      e.identityKey = t.resolveIdentity chassis o.subtype sysName t.chassisToIdentity := by
  unfold finalizeEndpoint at he
  rw [h.lookup_endpoints] at he
  cases hends : endsSeen (t.seenOn pair) chassis with
  | nil =>
    rw [hends] at he
    cases he
  | cons o rest =>
    rw [hends] at he
    obtain rfl := Except.ok.inj he
    obtain ⟨hid, hsub⟩ := EndpointInfo.foldl_absorb_chassis (o :: rest) (.blank o)
    refine ⟨o, mem_cons_self,
      ((o :: rest).foldl EndpointInfo.absorb (.blank o)).sysName, hid, ?_, ?_⟩
    · exact congrArg (·.getD "") (EndpointInfo.foldl_absorb_blank o rest)
    · exact congrArg (t.resolveIdentity chassis · _ _) hsub

variable {records : List DeviceRecord}

lemma EdgeSpec.endOk {edge : Edge} (h : EdgeSpec t pair edge)
    (hindex : t.IndexedBy (fun id => ∃ r ∈ records, r.identityKey.asStr = id)
      fun ip => ∃ r ∈ records, ip ∈ r.addresses) {chassis : String} {e : LinkEndpoint}
    (hne : chassis ≠ "") (he : t.finalizeEndpoint chassis edge t.chassisToIdentity = .ok e) :
    EndOk t records pair chassis e := by
  obtain ⟨o, ho, sysName, hid, hport, hide⟩ := h.finalizeEndpoint_eq he
  refine ⟨?_, ?_, ?_, ?_⟩
  · obtain ⟨s, hs, hends⟩ := mem_endsSeen.mp ho
    refine ⟨s, hs, hends.imp ?_ ?_⟩
    · rintro ⟨hcha, rfl⟩
      exact ⟨hcha, hid⟩
    · rintro ⟨hcha, rfl⟩
      exact ⟨hcha, hid⟩
  · rintro ⟨s, hs, hcha, hblank⟩
    have hmem : s.localEnd ∈ endsSeen (t.seenOn pair) chassis :=
      mem_endsSeen.mpr ⟨s, hs, .inl ⟨hcha, rfl⟩⟩
    have hnamed : s.localEnd.port.isSome = true := by
      rw [s.port_localEnd, nonEmpty_eq_some.mpr ⟨hblank, rfl⟩, Option.isSome_some]
    obtain ⟨o', ho', hown, p, hp, hchosen⟩ := chosenPort_own hmem rfl hnamed
    -- What is reported of an end by another is never its own report.
    obtain ⟨s', hs', ⟨hcha', rfl⟩ | ⟨-, rfl⟩⟩ := mem_endsSeen.mp ho'
    · obtain ⟨hbla', rfl⟩ := nonEmpty_eq_some.mp hp
      grind
    · cases hown
  · intro id hid
    rw [hide] at hid
    exact hindex.resolveIdentity hindex.chassisToIdentity.1 hid
  · rintro ⟨obs, hobs, hcha, haddr⟩
    have hmem := hindex.chassisToIdentity.2 obs hobs haddr (hcha ▸ hne)
    rw [hcha, ← AList.lookup_isSome] at hmem
    grind [id, resolveIdentity]

def PairLt (p q : String × String) : Prop := p.1 < q.1 ∨ p.1 = q.1 ∧ p.2 < q.2

omit [CaseMapping] in
lemma pairLt_iff {p q : String × String} : PairLt p q ↔ toLex p < toLex q := Prod.Lex.lt_iff.symm

omit [CaseMapping] in
lemma PairLt.asymm {p q : String × String} (hpq : PairLt p q) : ¬PairLt q p := fun hqp =>
  (pairLt_iff.mp hpq).asymm (pairLt_iff.mp hqp)

instance : Std.Antisymm PairLt := ⟨fun _ _ hpq hqp => absurd hqp hpq.asymm⟩

instance : Std.Irrefl PairLt := ⟨fun _ h => h.asymm h⟩

def sortedEdges (t : TopologyAssembler) (order : EdgeOrder) : List ((String × String) × Edge) :=
  sortBy keyOrder (order.enumerate (t.edges.entries.map fun e => (e.1, e.2)))

lemma mem_sortedEdges {order : EdgeOrder} {keyed : (String × String) × Edge} :
    keyed ∈ t.sortedEdges order ↔ t.edges.lookup keyed.1 = some keyed.2 := by
  rw [sortedEdges, (perm_sortBy _ _).mem_iff, mem_enumerate]

lemma pairwise_sortedEdges (t : TopologyAssembler) (order : EdgeOrder) :
    ((t.sortedEdges order).map Prod.fst).Pairwise PairLt := by
  have hkeys : ((order.enumerate (t.edges.entries.map fun e => (e.1, e.2))).map
      keyOrder).Nodup := t.nodup_keyOrder order
  rw [pairwise_map]
  exact (pairwise_sortBy hkeys).imp pairLt_iff.mpr

lemma finish_eq_mapM (t : TopologyAssembler) (order : EdgeOrder) :
    t.finish order = (t.sortedEdges order).mapM t.linkRecord := by
  unfold finish
  split_ifs with hempty
  · have hedges : t.sortedEdges order = [] := by
      refine eq_nil_iff_forall_not_mem.mpr fun keyed hkeyed => ?_
      grind [mem_sortedEdges, edges, AList.lookup_empty]
    rw [hedges]
    rfl
  · rfl

lemma lt_of_seenOn (h : t.seenOn pair ≠ []) : pair.1 ≠ "" ∧ pair.2 ≠ "" ∧ pair.1 < pair.2 := by
  obtain ⟨s, hs⟩ := exists_mem_of_ne_nil _ h
  obtain ⟨-, ⟨hlocal, hremote, hne⟩, rfl⟩ := mem_seenOn.mp hs
  unfold Sighting.pair edgeKey
  split_ifs with hle
  · grind
  · grind

lemma seenOn_ne_nil : t.seenOn pair ≠ [] ↔ ∃ s ∈ t.sightings, s.Proper ∧ s.pair = pair := by
  constructor
  · intro h
    obtain ⟨s, hs⟩ := exists_mem_of_ne_nil _ h
    exact ⟨s, mem_seenOn.mp hs⟩
  · rintro ⟨s, hs⟩
    exact ne_nil_of_mem (mem_seenOn.mpr hs)

lemma lookup_edges_ne_none : (∃ edge, t.edges.lookup pair = some edge) ↔ t.seenOn pair ≠ [] := by
  rw [lookup_edges]
  cases t.seenOn pair with
  | nil => simp [foldEntry]
  | cons s rest => simp [foldEntry]

lemma EdgeSpec.linkOk {edge : Edge} (h : EdgeSpec t pair edge)
    (hindex : t.IndexedBy (fun id => ∃ r ∈ records, r.identityKey.asStr = id)
      fun ip => ∃ r ∈ records, ip ∈ r.addresses) {link : LinkRecord}
    (hlink : t.linkRecord (pair, edge) = .ok link) : LinkOk t records pair link := by
  obtain ⟨a, ha, hlink⟩ := bind_eq_ok.mp hlink
  obtain ⟨b, hb, hlink⟩ := bind_eq_ok.mp hlink
  obtain rfl := Except.ok.inj hlink
  obtain ⟨hfst, hsnd, -⟩ := lt_of_seenOn h.seen
  exact
    { a := h.endOk hindex hfst ha
      b := h.endOk hindex hsnd hb
      observedAt := h.observedAt
      discoveredVia := ⟨edge.sources, h.sorted, h.mem_sources, rfl⟩ }

lemma finish_edges (t : TopologyAssembler) (order : EdgeOrder) :
    ∃ (pairs : List (String × String)) (links : List LinkRecord),
      t.finish order = .ok links ∧ pairs.Pairwise PairLt ∧
      (∀ pair, pair ∈ pairs ↔ t.seenOn pair ≠ []) ∧
      List.Forall₂
        (fun pair link => ∃ edge, EdgeSpec t pair edge ∧ t.linkRecord (pair, edge) = .ok link)
        pairs links := by
  obtain ⟨links, hlinks⟩ := t.finish_ok order
  have hmapM := hlinks
  rw [finish_eq_mapM] at hmapM
  refine ⟨(t.sortedEdges order).map Prod.fst, links, hlinks, t.pairwise_sortedEdges order, ?_, ?_⟩
  · intro pair
    rw [mem_map, ← lookup_edges_ne_none]
    constructor
    · rintro ⟨keyed, hkeyed, rfl⟩
      exact ⟨keyed.2, mem_sortedEdges.mp hkeyed⟩
    · rintro ⟨edge, hedge⟩
      exact ⟨(pair, edge), mem_sortedEdges.mpr hedge, rfl⟩
  · rw [forall₂_map_left_iff]
    have hkeyed : ∀ keyed ∈ t.sortedEdges order, t.edges.lookup keyed.1 = some keyed.2 :=
      fun keyed => mem_sortedEdges.mp
    refine List.Forall₂.imp ?_ ((forall₂_and_left _ _).mpr ⟨hkeyed, forall₂_of_mapM_ok hmapM⟩)
    grind [edgeSpec]

lemma finish_spec (hindex : t.IndexedBy (fun id => ∃ r ∈ records, r.identityKey.asStr = id)
      fun ip => ∃ r ∈ records, ip ∈ r.addresses) (order : EdgeOrder) :
    ∃ (pairs : List (String × String)) (links : List LinkRecord),
      t.finish order = .ok links ∧ pairs.Pairwise PairLt ∧
      (∀ pair, pair ∈ pairs ↔ t.seenOn pair ≠ []) ∧
      List.Forall₂ (LinkOk t records) pairs links := by
  obtain ⟨pairs, links, hlinks, hsorted, hpairs, hedges⟩ := t.finish_edges order
  refine ⟨pairs, links, hlinks, hsorted, hpairs, hedges.imp ?_⟩
  rintro pair link ⟨edge, hspec, hlink⟩
  exact hspec.linkOk hindex hlink

lemma LinkOk.same {t' : TopologyAssembler} {records' : List DeviceRecord}
    {link link' : LinkRecord} (h : LinkOk t records pair link) (h' : LinkOk t' records' pair link')
    (hseen : ∀ s, s ∈ t.seenOn pair ↔ s ∈ t'.seenOn pair) :
    (link.observedAt, link.discoveredVia) = (link'.observedAt, link'.discoveredVia) := by
  obtain ⟨hmax, s, hs, htime⟩ := h.observedAt
  obtain ⟨hmax', s', hs', htime'⟩ := h'.observedAt
  obtain ⟨sources, hsorted, hmem, hvia⟩ := h.discoveredVia
  obtain ⟨sources', hsrt', hmem', hvia'⟩ := h'.discoveredVia
  have hle : link.observedAt ≤ link'.observedAt := htime ▸ hmax' s ((hseen s).mp hs)
  have hge : link'.observedAt ≤ link.observedAt := htime' ▸ hmax s' ((hseen s').mpr hs')
  have hsou : sources = sources' := by
    refine hsorted.eq_of_mem_iff hsrt' fun x => ?_
    grind
  grind

/-- One link for each pair of different chassis that a device reports, in ascending order. The
pairs, the latest time and the sorted sources are those of any scan that sees the same neighbours in
another order; ports and identities are as `EndOk` says. -/
theorem links_deduplicated (scanMetadata : ScanMetadata) (inputs : List TopologyInput)
    (order : EdgeOrder) :
    ∃ (pairs : List (String × String)) (links : List LinkRecord),
      (assembled scanMetadata inputs).finish order = .ok links ∧
      pairs.Pairwise PairLt ∧
      (∀ pair, pair ∈ pairs ↔
        ∃ s ∈ (assembled scanMetadata inputs).sightings, s.Proper ∧ s.pair = pair) ∧
      (∀ pair ∈ pairs, pair.1 ≠ "" ∧ pair.2 ≠ "" ∧ pair.1 < pair.2) ∧
      List.Forall₂ (LinkOk (assembled scanMetadata inputs) (TopologyInput.records inputs))
        pairs links ∧
      ∀ scanMetadata' inputs' order', (assembled scanMetadata' inputs').sightings.Perm
          (assembled scanMetadata inputs).sightings →
        ∃ links', (assembled scanMetadata' inputs').finish order' = .ok links' ∧
          List.Forall₂ (LinkOk (assembled scanMetadata' inputs') (TopologyInput.records inputs'))
            pairs links' ∧
          links'.map (fun link => (link.observedAt, link.discoveredVia)) =
            links.map fun link => (link.observedAt, link.discoveredVia) := by
  obtain ⟨pairs, links, hlinks, hsorted, hpairs, hall⟩ :=
    finish_spec (assembled_indexedBy scanMetadata inputs) order
  refine ⟨pairs, links, hlinks, hsorted, fun pair => (hpairs pair).trans seenOn_ne_nil,
    fun pair hpair => lt_of_seenOn ((hpairs pair).mp hpair), hall, ?_⟩
  intro scanMetadata' inputs' order' hperm
  obtain ⟨pairs', links', hlin', hsrt', hpai', hall'⟩ :=
    finish_spec (assembled_indexedBy scanMetadata' inputs') order'
  have hsame : ∀ pair s, s ∈ (assembled scanMetadata' inputs').seenOn pair ↔
      s ∈ (assembled scanMetadata inputs).seenOn pair := by
    intro pair s
    rw [mem_seenOn, mem_seenOn, hperm.mem_iff]
  obtain rfl : pairs' = pairs := by
    refine hsrt'.eq_of_mem_iff hsorted fun pair => ?_
    rw [hpai', hpairs, seenOn_ne_nil, seenOn_ne_nil]
    simp only [hperm.mem_iff]
  refine ⟨links', hlin', hall', map_eq_map_of_forall₂ hall' hall ?_⟩
  intro pair link' link hlink' hlink
  exact hlink'.same hlink (hsame pair)

end TopologyAssembler

end Runs

end Rastreo
