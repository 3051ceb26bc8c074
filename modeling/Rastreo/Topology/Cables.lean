import Rastreo.Topology.Links

/-!
# Cables and the ports of a link

The two ports of a link should be the ends of one cable.  The assembler keeps one edge for a pair of
chassis and chooses the port of each end on its own, so with several cables they may come from
different ones (`link_ports_of_one_cable_iff`, `parallel_cables_crossed`).
-/

namespace Rastreo

open List

/-- One end of a cable; a port has a name. -/
structure CableEnd where
  chassis : String
  port : String
  named : trim port ≠ ""
  deriving DecidableEq

structure Cable where
  a : CableEnd
  b : CableEnd
  deriving DecidableEq

def Cable.flip (c : Cable) : Cable := ⟨c.b, c.a⟩

/-- The cables, each from both of its ends. -/
def cableViews (cables : List Cable) : List Cable := cables ++ cables.map Cable.flip

lemma flip_mem_cableViews {cables : List Cable} {c : Cable} (h : c ∈ cableViews cables) :
    c.flip ∈ cableViews cables := by
  rcases mem_append.mp h with hc | hc
  · exact mem_append_right _ (mem_map_of_mem hc)
  · obtain ⟨c', hc', rfl⟩ := mem_map.mp hc
    exact mem_append_left _ hc'

/-- The ports of a link are those of a cable. -/
def Cable.Joins (c : Cable) (pair : String × String) (link : LinkRecord) : Prop :=
  (c.a.chassis, c.b.chassis) = pair ∧ (link.a.port, link.b.port) = (c.a.port, c.b.port)

section Ports

variable [CaseMapping]

def Sighting.Reports (s : Sighting) (c : Cable) : Prop :=
  s.localNorm = c.a.chassis ∧ s.neighbor.localPort = c.a.port ∧
    s.remoteNorm = c.b.chassis ∧ s.neighbor.remotePortId = c.b.port

instance (s : Sighting) (c : Cable) : Decidable (s.Reports c) :=
  inferInstanceAs (Decidable (s.localNorm = c.a.chassis ∧ s.neighbor.localPort = c.a.port ∧
    s.remoteNorm = c.b.chassis ∧ s.neighbor.remotePortId = c.b.port))

/-- The devices probed report their cables, all and nothing else, in any order. -/
structure TopologyAssembler.Reported (t : TopologyAssembler) (cables : List Cable) : Prop where
  sound : ∀ s ∈ t.sightings, ∃ c ∈ cableViews cables, s.Reports c
  complete : ∀ obs ∈ t.observations, ∀ c ∈ cableViews cables,
    obs.localNorm = c.a.chassis →
    ∃ neighbor ∈ obs.neighbors, (Sighting.ofNeighbor obs neighbor).Reports c

/-! ## The port of an end -/

lemma endsSeen_own (l : List Sighting) (chassis : String) :
    (endsSeen l chassis).filter (·.portAuthoritative) =
      (l.filter (·.localNorm = chassis)).map Sighting.localEnd := by
  induction l with
  | nil => rfl
  | cons s l ih =>
    have hcons : endsSeen (s :: l) chassis =
        s.ends.filter (fun o => o.chassisNorm = chassis) ++ endsSeen l chassis := by
      rw [endsSeen, flatMap_cons, filter_append]
      rfl
    rw [hcons, filter_append, ih, filter_cons]
    grind [Sighting.ends, Sighting.localEnd, Sighting.remoteEnd]

variable {l : List Sighting}

lemma endsSeen_silent {chassis : String}
    (h : ∀ s ∈ l, s.localNorm ≠ chassis ∧ s.remoteNorm = chassis) :
    endsSeen l chassis = l.map Sighting.remoteEnd := by
  induction l with
  | nil => rfl
  | cons s l ih =>
    obtain ⟨hlocal, hremote⟩ := h s mem_cons_self
    have hrest := ih fun s' hs' => h s' (mem_cons_of_mem s hs')
    rw [map_cons, ← hrest, endsSeen, flatMap_cons, filter_append]
    simp [Sighting.ends, Sighting.localEnd, Sighting.remoteEnd, hlocal, hremote, endsSeen]

lemma chosenPort_of_find? {chassis : String} {s : Sighting}
    (hs : l.find? (·.localNorm = chassis) = some s) (hnamed : trim s.neighbor.localPort ≠ "") :
    chosenPort (endsSeen l chassis) = some s.neighbor.localPort := by
  rw [← head?_filter] at hs
  obtain ⟨rest, hrest⟩ := head?_eq_some_iff.mp hs
  have hport : s.localEnd.port = some s.neighbor.localPort := by
    exact nonEmpty_eq_some.mpr ⟨hnamed, rfl⟩
  rw [chosenPort, endsSeen_own, hrest, map_cons, findSome?_cons, hport]
  rfl

lemma chosenPort_oneSided {s : Sighting} {near far : String} (hne : near ≠ far)
    (h : ∀ s' ∈ s :: l, s'.localNorm = near ∧ s'.remoteNorm = far)
    (hlocal : trim s.neighbor.localPort ≠ "") (hremote : trim s.neighbor.remotePortId ≠ "") :
    chosenPort (endsSeen (s :: l) near) = some s.neighbor.localPort ∧
      chosenPort (endsSeen (s :: l) far) = some s.neighbor.remotePortId := by
  constructor
  · refine chosenPort_of_find? ?_ hlocal
    rw [find?_cons_of_pos]
    grind
  · have hsilent : ∀ s' ∈ s :: l, s'.localNorm ≠ far ∧ s'.remoteNorm = far := by
      intro s' hs'
      grind
    have hport : s.remoteEnd.port = some s.neighbor.remotePortId := by
      exact nonEmpty_eq_some.mpr ⟨hremote, rfl⟩
    have hown : (endsSeen (s :: l) far).filter (·.portAuthoritative) = [] := by
      rw [endsSeen_own, map_eq_nil_iff, filter_eq_nil_iff]
      intro s' hs'
      grind
    rw [chosenPort, hown, endsSeen_silent hsilent, map_cons, findSome?_cons, hport]
    rfl

namespace TopologyAssembler

/-- The port an end of a pair reports first for itself. -/
def firstOwnPort (t : TopologyAssembler) (pair : String × String) (chassis : String) :
    Option String :=
  ((t.seenOn pair).find? (·.localNorm = chassis)).map (·.neighbor.localPort)

variable {t : TopologyAssembler} {pair : String × String}

lemma ends_of_mem_seenOn {s : Sighting} (h : s ∈ t.seenOn pair) :
    s.localNorm = pair.1 ∧ s.remoteNorm = pair.2 ∨
      s.localNorm = pair.2 ∧ s.remoteNorm = pair.1 := by
  obtain ⟨-, -, rfl⟩ := mem_seenOn.mp h
  unfold Sighting.pair edgeKey
  split_ifs
  · simp
  · simp

variable {cables : List Cable}

lemma Reported.of_mem_seenOn (h : t.Reported cables) {s : Sighting} (hs : s ∈ t.seenOn pair) :
    (∃ c ∈ cableViews cables, s.Reports c) ∧ trim s.neighbor.localPort ≠ "" ∧
      trim s.neighbor.remotePortId ≠ "" := by
  obtain ⟨c, hc, hrep⟩ := h.sound s (mem_seenOn.mp hs).1
  refine ⟨⟨c, hc, hrep⟩, ?_, ?_⟩
  · rw [hrep.2.1]
    exact c.a.named
  · rw [hrep.2.2.2]
    exact c.b.named

variable {edge : Edge} {link : LinkRecord}

lemma EdgeSpec.ports (h : EdgeSpec t pair edge) (hlink : t.linkRecord (pair, edge) = .ok link) :
    link.a.port = (chosenPort (endsSeen (t.seenOn pair) pair.1)).getD "" ∧
      link.b.port = (chosenPort (endsSeen (t.seenOn pair) pair.2)).getD "" := by
  obtain ⟨a, ha, hlink⟩ := bind_eq_ok.mp hlink
  obtain ⟨b, hb, hlink⟩ := bind_eq_ok.mp hlink
  obtain rfl := Except.ok.inj hlink
  obtain ⟨-, -, -, -, hporta, -⟩ := h.finalizeEndpoint_eq ha
  obtain ⟨-, -, -, -, hportb, -⟩ := h.finalizeEndpoint_eq hb
  exact ⟨hporta, hportb⟩

/-- The ports that two ends report first for themselves are those of one cable. -/
def Aligned (t : TopologyAssembler) (cables : List Cable) (pair : String × String) : Prop :=
  ∀ p ∈ t.firstOwnPort pair pair.1, ∀ q ∈ t.firstOwnPort pair pair.2,
    ∃ c ∈ cableViews cables, (c.a.chassis, c.b.chassis) = pair ∧ (p, q) = (c.a.port, c.b.port)

instance (t : TopologyAssembler) (cables : List Cable) (pair : String × String) :
    Decidable (t.Aligned cables pair) :=
  inferInstanceAs (Decidable (∀ p ∈ t.firstOwnPort pair pair.1,
    ∀ q ∈ t.firstOwnPort pair pair.2, ∃ c ∈ cableViews cables,
      (c.a.chassis, c.b.chassis) = pair ∧ (p, q) = (c.a.port, c.b.port)))

/-- When only one end of a pair was probed its link is a cable. -/
lemma Reported.joins_of_silent (h : t.Reported cables) (hspec : EdgeSpec t pair edge)
    (hlink : t.linkRecord (pair, edge) = .ok link)
    (hsilent : (∀ s ∈ t.seenOn pair, s.localNorm ≠ pair.1) ∨
      ∀ s ∈ t.seenOn pair, s.localNorm ≠ pair.2) :
    ∃ c ∈ cableViews cables, c.Joins pair link := by
  obtain ⟨hporta, hportb⟩ := hspec.ports hlink
  obtain ⟨-, -, hlt⟩ := lt_of_seenOn hspec.seen
  obtain ⟨s, rest, hseen⟩ := exists_cons_of_ne_nil hspec.seen
  have hs : s ∈ t.seenOn pair := hseen ▸ mem_cons_self
  obtain ⟨⟨c, hc, hcha, hlocal, hremote, hfar⟩, hnamed, hnam'⟩ := h.of_mem_seenOn hs
  rw [hseen] at hporta hportb
  rcases hsilent with hsilent | hsilent
  · -- The reports go from the second chassis to the first.
    have hall : ∀ s' ∈ s :: rest, s'.localNorm = pair.2 ∧ s'.remoteNorm = pair.1 := by
      intro s' hs'
      grind [ends_of_mem_seenOn]
    obtain ⟨hnear, hother⟩ := chosenPort_oneSided hlt.ne' hall hnamed hnam'
    obtain ⟨hsnd, hfst⟩ := hall s mem_cons_self
    refine ⟨c.flip, flip_mem_cableViews hc, ?_, ?_⟩
    · exact Prod.ext (hremote.symm.trans hfst) (hcha.symm.trans hsnd)
    · rw [hporta, hportb, hnear, hother]
      exact Prod.ext hfar hlocal
  · have hall : ∀ s' ∈ s :: rest, s'.localNorm = pair.1 ∧ s'.remoteNorm = pair.2 := by
      intro s' hs'
      grind [ends_of_mem_seenOn]
    obtain ⟨hnear, hother⟩ := chosenPort_oneSided hlt.ne hall hnamed hnam'
    obtain ⟨hfst, hsnd⟩ := hall s mem_cons_self
    refine ⟨c, hc, ?_, ?_⟩
    · grind
    · grind

lemma Reported.joins_iff (h : t.Reported cables) (hspec : EdgeSpec t pair edge)
    (hlink : t.linkRecord (pair, edge) = .ok link) :
    (∃ c ∈ cableViews cables, c.Joins pair link) ↔ t.Aligned cables pair := by
  obtain ⟨hporta, hportb⟩ := hspec.ports hlink
  unfold Aligned firstOwnPort
  cases hfst : (t.seenOn pair).find? (·.localNorm = pair.1) with
  | none =>
    have hsilent : ∀ s ∈ t.seenOn pair, s.localNorm ≠ pair.1 := by simpa using hfst
    exact iff_of_true (h.joins_of_silent hspec hlink (.inl hsilent)) nofun
  | some s =>
    cases hsnd : (t.seenOn pair).find? (·.localNorm = pair.2) with
    | none =>
      have hsilent : ∀ s ∈ t.seenOn pair, s.localNorm ≠ pair.2 := by simpa using hsnd
      exact iff_of_true (h.joins_of_silent hspec hlink (.inr hsilent)) nofun
    | some s' =>
      obtain ⟨-, hnamed, -⟩ := h.of_mem_seenOn (mem_of_find?_eq_some hfst)
      obtain ⟨-, hnam', -⟩ := h.of_mem_seenOn (mem_of_find?_eq_some hsnd)
      rw [chosenPort_of_find? hfst hnamed] at hporta
      rw [chosenPort_of_find? hsnd hnam'] at hportb
      simp [Cable.Joins, hporta, hportb]

/-- When the devices probed report their cables, every link is a cable exactly when, for each pair
that both report, the ports reported first are those of one cable. -/
theorem link_ports_of_one_cable_iff (t : TopologyAssembler) (cables : List Cable)
    (order : EdgeOrder) (h : t.Reported cables) :
    ∃ (pairs : List (String × String)) (links : List LinkRecord),
      t.finish order = .ok links ∧ pairs.Pairwise PairLt ∧
      (∀ pair, pair ∈ pairs ↔ ∃ s ∈ t.sightings, s.Proper ∧ s.pair = pair) ∧
      (List.Forall₂ (fun pair link => ∃ c ∈ cableViews cables, c.Joins pair link) pairs links ↔
        ∀ pair ∈ pairs, t.Aligned cables pair) := by
  obtain ⟨pairs, links, hlinks, hsorted, hpairs, hedges⟩ := t.finish_edges order
  refine ⟨pairs, links, hlinks, hsorted, fun pair => (hpairs pair).trans seenOn_ne_nil, ?_⟩
  refine forall₂_iff_forall_mem (hedges.imp ?_)
  rintro pair link ⟨edge, hspec, hlink⟩
  exact h.joins_iff hspec hlink

end TopologyAssembler

end Ports

attribute [local instance] CaseMapping.ascii

/-! ## Parallel cables -/

/-- The cables between two switches with two ports each. -/
def parallelCables : List Cable :=
  [⟨⟨"alpha", "Eth1", by decide +kernel⟩, ⟨"beta", "Eth5", by decide +kernel⟩⟩,
    ⟨⟨"alpha", "Eth2", by decide +kernel⟩, ⟨"beta", "Eth6", by decide +kernel⟩⟩]

def farSwitch (localPort chassis port : String) : LldpNeighbor where
  localPort := localPort
  remoteChassisId := chassis
  remoteChassisSubtype := 7
  remotePortId := port
  remotePortSubtype := 5
  remotePortDesc := none
  remoteSysName := none

def alphaObservation : DeviceObservation where
  localIp := .v4 0x0A000001
  localChassisId := "alpha"
  localChassisSubtype := 7
  observedAt := 0
  discoveredVia := "lldp"
  neighbors := [farSwitch "Eth1" "beta" "Eth5", farSwitch "Eth2" "beta" "Eth6"]

def betaObservation (neighbors : List LldpNeighbor) : DeviceObservation :=
  { alphaObservation with localIp := .v4 0x0A000002, localChassisId := "beta", neighbors }

/-- The second switch lists its cables in the other order. -/
def crossedScan : TopologyAssembler :=
  { TopologyAssembler.new .default with
    observations := [alphaObservation,
      betaObservation [farSwitch "Eth6" "alpha" "Eth2", farSwitch "Eth5" "alpha" "Eth1"]] }

/-- Both switches list their cables in the same order. -/
def straightScan : TopologyAssembler :=
  { TopologyAssembler.new .default with
    observations := [alphaObservation,
      betaObservation [farSwitch "Eth5" "alpha" "Eth1", farSwitch "Eth6" "alpha" "Eth2"]] }

def linkPorts (result : Except Panic (List LinkRecord)) : Option (List (String × String)) :=
  result.toOption.map (·.map fun link => (link.a.port, link.b.port))

/-- The one link between two switches with two cables has a port of each. -/
theorem parallel_cables_crossed :
    crossedScan.Reported parallelCables ∧
      linkPorts (crossedScan.finish .insertion) = some [("Eth1", "Eth6")] ∧
      ∀ c ∈ cableViews parallelCables, (c.a.port, c.b.port) ≠ ("Eth1", "Eth6") := by
  refine ⟨⟨?_, ?_⟩, ?_, ?_⟩
  · decide +kernel
  · decide +kernel
  · decide +kernel
  · decide +kernel

/-- With cables in the same order the link is the first. -/
theorem link_ports_of_one_cable_straight :
    linkPorts (straightScan.finish .insertion) = some [("Eth1", "Eth5")] ∧
      ∃ (pairs : List (String × String)) (links : List LinkRecord),
        straightScan.finish .insertion = .ok links ∧
        List.Forall₂ (fun pair link => ∃ c ∈ cableViews parallelCables, c.Joins pair link)
          pairs links := by
  refine ⟨by decide +kernel, ?_⟩
  have hrep : straightScan.Reported parallelCables := ⟨by decide +kernel, by decide +kernel⟩
  obtain ⟨pairs, links, hlinks, -, hpairs, hiff⟩ :=
    straightScan.link_ports_of_one_cable_iff parallelCables .insertion hrep
  have hali : ∀ s ∈ straightScan.sightings, straightScan.Aligned parallelCables s.pair := by
    decide +kernel
  refine ⟨pairs, links, hlinks, hiff.mpr fun pair hpair => ?_⟩
  obtain ⟨s, hs, -, rfl⟩ := (hpairs pair).mp hpair
  exact hali s hs

end Rastreo
