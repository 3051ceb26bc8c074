import Rastreo.Prober.Gnmi.Lldp
import Rastreo.Prober.Lldp
import Rastreo.Topology.Links

/-!
# One link from two probers

Over SNMP a chassis is octets, which `lldp` renders; over gNMI a text in any spelling, which `gnmi`
brings into canonical form; the assembler normalizes both again.  For MAC and network addresses all
of this comes to one text (`ChassisIdent.key`), so both ends name the same edge
(`cross_source_link`).
-/

namespace Rastreo

open List

/-! ## Chassis -/

/-- By a MAC address or by a network address. -/
inductive ChassisIdent where
  | mac (octets : Bytes) (length_eq : octets.length = 6)
  | address (ip : IpAddr)

/-- In either case, between separators and blanks. -/
inductive MacSpelling : List Char → List Char → Prop
  | nil : MacSpelling [] []
  | skip {c : Char} {digits text : List Char} (h : c ∈ [':', '-', '.'] ∨ isWhitespace c = true) :
    MacSpelling digits text → MacSpelling digits (c :: text)
  | digit {c d : Char} {digits text : List Char} (h : c = d ∨ c = d.toUpper) :
    MacSpelling digits text → MacSpelling (d :: digits) (c :: text)

namespace ChassisIdent

def subtype : ChassisIdent → UInt32
  | .mac _ _ => chassisSubtypeMac
  | .address _ => chassisSubtypeNetworkAddress

/-- The one text that all its forms come to. -/
def key : ChassisIdent → String
  | .mac octets _ => hexString octets
  | .address ip => ip.display

/-- The octets of SNMP; those of an address follow its family. -/
def Wired (bytes : Bytes) : ChassisIdent → Prop
  | .mac octets _ => bytes = octets
  | .address ip => ∃ octets, bytes = 1 :: octets ∧ octets.length = 4 ∧ ipv4OfOctets octets = ip ∨
    bytes = 2 :: octets ∧ octets.length = 16 ∧ ipv6OfOctets octets = ip

/-- Type and text of gNMI: any spelling of a MAC address, any valid text of an address. -/
def Spelled (type text : String) : ChassisIdent → Prop
  | .mac octets _ =>
    enumSuffix type = "MAC_ADDRESS" ∧ MacSpelling (octets.flatMap hexDigits) text.toList
  | .address ip => enumSuffix type = "NETWORK_ADDRESS" ∧ IpAddr.parse (trim text) = some ip

end ChassisIdent

/-! ## Digits -/

lemma exists_digitChar_of_mem {octets : Bytes} {c : Char} (h : c ∈ octets.flatMap hexDigits) :
    ∃ n < 16, c = Nat.digitChar n := by
  obtain ⟨b, -, hc⟩ := mem_flatMap.mp h
  have hb := b.toNat_lt
  rcases mem_pair.mp hc with rfl | rfl
  · grind
  · grind

lemma digitChar_props : ∀ n < 16, ∀ c, c = Nat.digitChar n ∨ c = (Nat.digitChar n).toUpper →
    isAscii c ∧ c.toLower = Nat.digitChar n ∧ isMacSeparator c = false ∧ (c == '.') = false ∧
      isWhitespace c = false := by
  intro n hn c hc
  interval_cases n <;> rcases hc with rfl | rfl <;> decide

lemma hexString_injective {a b : Bytes} (hlen : a.length = b.length)
    (h : hexString a = hexString b) : a = b := by
  have hdigits : a.flatMap hexDigits = b.flatMap hexDigits := String.ofList_injective h
  induction a generalizing b with
  | nil => exact (length_eq_zero_iff.mp hlen.symm).symm
  | cons x a ih =>
    cases b with
    | nil => cases hlen
    | cons y b =>
      have hx := x.toNat_lt
      have hy := y.toNat_lt
      obtain ⟨hxy, hrest⟩ := append_inj hdigits rfl
      have hhigh := digitChar_inj (by omega) (by omega) (List.cons.inj hxy).1
      have hlow := digitChar_inj (by omega) (by omega) (List.cons.inj (List.cons.inj hxy).2).1
      have hnat : x.toNat = y.toNat := by omega
      rw [UInt8.toNat_inj.mp hnat, ih (Nat.succ.inj hlen) (congrArg String.ofList hrest) hrest]

section Keys

variable [CaseMapping]

lemma normalizeMac_hexString (octets : Bytes) :
    normalizeMac (hexString octets) = hexString octets := by
  have hchar : ∀ c ∈ octets.flatMap hexDigits,
      isMacSeparator c = false ∧ CaseMapping.charLower c = [c] := by
    intro c hc
    obtain ⟨n, hn, rfl⟩ := exists_digitChar_of_mem hc
    obtain ⟨hascii, hlow, hsep, -⟩ := digitChar_props n hn _ (.inl rfl)
    grind [CaseMapping.charLower_ascii]
  rw [normalizeMac, hexString, String.toList_ofList,
    filter_eq_self.mpr fun c hc => by rw [(hchar c hc).1]; rfl]
  have hsingle := flatMap_congr fun c hc => (hchar c hc).2
  rw [hsingle, flatMap_singleton']

lemma normalizeMac_intercalate (octets : Bytes) :
    normalizeMac (String.ofList ([':'].intercalate (octets.map hexDigits))) =
      normalizeMac (hexString octets) := by
  rw [normalizeMac, normalizeMac, hexString, String.toList_ofList, String.toList_ofList]
  congr 2
  induction octets with
  | nil => rfl
  | cons b octets ih =>
    cases octets with
    | nil => simp [List.intercalate]
    | cons b' octets =>
      have hcolon : [':'].filter (fun c => !isMacSeparator c) = [] := rfl
      rw [map_cons, map_cons, intercalate_cons_cons, filter_append,
        filter_append, ← map_cons, ih, hcolon, append_nil, ← filter_append]
      rfl

lemma canonicalMacStr_of_spelling {octets : Bytes} {text : String}
    (h : MacSpelling (octets.flatMap hexDigits) text.toList) :
    canonicalMacStr text = hexString octets := by
  rw [canonicalMacStr, hexString]
  congr 1
  have hdigits : ∀ d ∈ octets.flatMap hexDigits, ∃ n < 16, d = Nat.digitChar n := fun d hd =>
    exists_digitChar_of_mem hd
  generalize octets.flatMap hexDigits = digits at h hdigits
  generalize text.toList = chars at h
  induction h with
  | nil => rfl
  | @skip c digits text hc _ ih =>
    have hskip : (isMacSeparator c || c == '.' || isWhitespace c) = true := by
      rcases hc with hc | hc
      · simp only [mem_cons, not_mem_nil, or_false] at hc
        rcases hc with rfl | rfl | rfl <;> rfl
      · rw [hc, Bool.or_true]
    rw [filter_cons_of_neg (by rw [hskip]; exact Bool.false_ne_true)]
    exact ih hdigits
  | @digit c d digits text hc _ ih =>
    obtain ⟨n, hn, rfl⟩ := hdigits d mem_cons_self
    obtain ⟨hascii, hlow, hsep, hdot, hblank⟩ := digitChar_props n hn c hc
    have hkeep : (isMacSeparator c || c == '.' || isWhitespace c) = false := by
      rw [hsep, hdot, hblank]
      rfl
    rw [filter_cons_of_pos (by rw [hkeep]; rfl), flatMap_cons,
      CaseMapping.charLower_ascii c hascii, hlow,
      ih fun d hd => hdigits d (mem_cons_of_mem _ hd)]
    rfl

lemma normalizeChassis_display (ip : IpAddr) :
    normalizeChassis chassisSubtypeNetworkAddress ip.display = ip.display := by
  have hlow : ip.display.toList.map Char.toLower = ip.display.toList := by
    rw [map_congr_left fun c hc => (IpAddr.mem_display_props hc).2.2, map_id']
  rw [normalizeChassis, if_neg (by decide), ip.trim_display, toAsciiLowercase,
    hlow, String.ofList_toList]

/-! ## One key -/

namespace ChassisIdent

omit [CaseMapping] in
lemma hexString_ne_display {octets : Bytes} (ip : IpAddr) : hexString octets ≠ ip.display := by
  intro h
  have hnot : ∀ c ∈ ip.display.toList, c ≠ '.' ∧ c ≠ ':' := by
    intro c hc
    rw [← h, hexString, String.toList_ofList] at hc
    obtain ⟨n, hn, rfl⟩ := exists_digitChar_of_mem hc
    obtain ⟨-, -, hsep, hdot, -⟩ := digitChar_props n hn _ (.inl rfl)
    constructor
    · rintro heq
      rw [heq] at hdot
      cases hdot
    · simp
  rcases ip.separator_mem_display with hmem | hmem
  · exact (hnot _ hmem).1 rfl
  · grind

omit [CaseMapping] in
lemma key_injective {a b : ChassisIdent} (h : a.key = b.key) : a = b := by
  cases a with
  | mac octets hlen =>
    cases b with
    | mac octets' hlen' =>
      obtain rfl := hexString_injective (hlen.trans hlen'.symm) h
      rfl
    | address ip => exact absurd h (hexString_ne_display ip)
  | address ip =>
    cases b with
    | mac octets' _ => exact absurd h.symm (hexString_ne_display ip)
    | address ip' => rw [IpAddr.display_injective h]

omit [CaseMapping] in
lemma key_ne_empty (a : ChassisIdent) : a.key ≠ "" := by
  cases a with
  | mac octets hlen =>
    intro h
    have hflat : octets.flatMap hexDigits = [] := String.ofList_injective h
    obtain ⟨b, hb⟩ := exists_mem_of_length_pos (by omega : 0 < octets.length)
    cases flatMap_eq_nil_iff.mp hflat b hb
  | address ip =>
    intro h
    have hmem := ip.separator_mem_display
    rw [show ip.display = "" from h] at hmem
    grind

lemma Wired.normalizeChassis_renderChassisId {a : ChassisIdent} {bytes : Bytes}
    (h : a.Wired bytes) :
    normalizeChassis a.subtype (renderChassisId a.subtype bytes) = a.key := by
  cases a with
  | mac octets hlen =>
    obtain rfl : bytes = octets := h
    rw [subtype, renderChassisId, renderId, if_pos rfl, macOrHex, if_pos hlen,
      normalizeMac_intercalate, normalizeMac_hexString, normalizeChassis, if_pos rfl,
      normalizeMac_hexString, key]
  | address ip =>
    have hrender : renderChassisId chassisSubtypeNetworkAddress bytes = ip.display := by
      rw [renderChassisId, renderId, if_neg (by decide), if_pos rfl]
      obtain ⟨octets, ⟨rfl, hlen, rfl⟩ | ⟨rfl, hlen, rfl⟩⟩ := h
      · rw [renderNetworkAddress, if_pos ⟨rfl, hlen⟩]
      · rw [renderNetworkAddress, if_neg (fun h => absurd h.1 (by decide)), if_pos ⟨rfl, hlen⟩]
    rw [subtype, hrender, key, normalizeChassis_display]

lemma Spelled.normalizeChassis_canonicalChassis {a : ChassisIdent} {type text : String}
    (h : a.Spelled type text) :
    chassisSubtypeFromType type = a.subtype ∧
      normalizeChassis a.subtype (canonicalChassis a.subtype text) = a.key := by
  cases a with
  | mac octets hlen =>
    obtain ⟨htype, hspe⟩ := h
    refine ⟨by unfold chassisSubtypeFromType; rw [htype]; rfl, ?_⟩
    rw [subtype, canonicalChassis, canonicalId, if_pos rfl, canonicalMacStr_of_spelling hspe,
      normalizeChassis, if_pos rfl, normalizeMac_hexString, key]
  | address ip =>
    obtain ⟨htype, hparse⟩ := h
    refine ⟨by unfold chassisSubtypeFromType; rw [htype]; rfl, ?_⟩
    have hcan : canonicalChassis chassisSubtypeNetworkAddress text = ip.display := by
      rw [canonicalChassis, canonicalId, if_neg (by decide), if_pos rfl]
      unfold canonicalNetworkAddress
      rw [hparse]
    rw [subtype, hcan, key, normalizeChassis_display]

end ChassisIdent

/-! ## Sightings -/

inductive LldpSource where
  | lldp
  | gnmi
  deriving DecidableEq

def LldpSource.name : LldpSource → String
  | .lldp => "lldp"
  | .gnmi => "gnmi"

def lldpTable (fromSlice : String → Option Json) (response : GetResponse) : LldpBuilder :=
  response.updates.foldl (fun builder u => builder.ingestUpdate fromSlice u.1 u.2) {}

/-- A prober observed `a`, which reports `b`: by octets, or by any spelling. -/
inductive Sees (a b : ChassisIdent) : LldpSource → LldpObservation → LldpNeighbor → Prop
  | lldp {resp : SnmpResponse} {remRows locRows : List (Oid × VarValue)} {bytes bytes' : Bytes}
    {index : List UInt32} {cols : NeighborColumns}
    (hself : resp.varBinds.foldl readLocalChassis (0, none) = (a.subtype, some bytes))
    (hbytes : a.Wired bytes)
    (hcols : (neighborGroups remRows).lookup index = some cols)
    (hsubtype : cols.chassisSubtype = some b.subtype)
    (hid : cols.chassisId = some bytes') (hbytes' : b.Wired bytes') :
    Sees a b .lldp (assembleObservation (parseLocalChassis resp) remRows locRows)
      (groupNeighbor locRows index cols)
  | gnmi {fromSlice : String → Option Json} {response : GetResponse}
    {type text type' text' : String} {key : String × String} {nbr : NeighborBuilder}
    (htype : (lldpTable fromSlice response).localChassisType = some type)
    (htext : (lldpTable fromSlice response).localChassisId = some text)
    (hspelled : a.Spelled type text)
    (hnbr : (lldpTable fromSlice response).neighbors.lookup key = some nbr)
    (htype' : nbr.chassisType = some type') (htext' : nbr.chassisId = some text')
    (hspelled' : b.Spelled type' text') :
    Sees a b .gnmi (parseLldpResponse fromSlice response) (finishNeighbor key nbr)

lemma parseLldpResponse_eq_finish (fromSlice : String → Option Json) (response : GetResponse) :
    parseLldpResponse fromSlice response = (lldpTable fromSlice response).finish := rfl

variable {a b : ChassisIdent} {source : LldpSource} {obs : LldpObservation} {nbr : LldpNeighbor}

lemma Sees.discoveredVia (h : Sees a b source obs nbr) : obs.discoveredVia = source.name := by
  cases h with
  | lldp => rfl
  | gnmi => rfl

lemma Sees.mem_neighbors (h : Sees a b source obs nbr) : nbr ∈ obs.neighbors := by
  cases h with
  | @lldp _ _ _ _ _ index cols _ _ hcols =>
    refine mem_map.mpr ⟨(index, cols), (perm_sortBy _ _).mem_iff.mpr ?_, rfl⟩
    exact mem_map.mpr ⟨⟨index, cols⟩, AList.mem_lookup_iff.mp hcols, rfl⟩
  | @gnmi _ _ _ _ _ _ key nbr _ _ _ hnbr =>
    refine mem_map.mpr ⟨(key, nbr), (perm_sortBy _ _).mem_iff.mpr ?_, rfl⟩
    exact mem_map.mpr ⟨⟨key, nbr⟩, AList.mem_lookup_iff.mp hnbr, rfl⟩

lemma Sees.normalizeChassis_eq (h : Sees a b source obs nbr) :
    normalizeChassis obs.localChassisSubtype obs.localChassisId = a.key ∧
      normalizeChassis nbr.remoteChassisSubtype nbr.remoteChassisId = b.key := by
  cases h with
  | lldp hself hbytes _ hsub hid hbyt' =>
    simp only [assembleObservation, parseLocalChassis, hself, groupNeighbor, hsub, hid,
      Option.elim_some, Option.getD_some]
    exact ⟨hbytes.normalizeChassis_renderChassisId, hbyt'.normalizeChassis_renderChassisId⟩
  | gnmi htype htext hspe _ htype' htext' hspe' =>
    obtain ⟨hsub, hkey⟩ := hspe.normalizeChassis_canonicalChassis
    obtain ⟨hsub', hkey'⟩ := hspe'.normalizeChassis_canonicalChassis
    simp only [parseLldpResponse_eq_finish, LldpBuilder.finish, htype, htext, finishNeighbor,
      htype', htext', Option.getD_some, hsub, hsub']
    exact ⟨hkey, hkey'⟩

/-! ## Links -/

namespace TopologyAssembler

variable {t : TopologyAssembler} {outcome : ProbeOutcome} {d : DeviceObservation}

lemma exists_mem_seenOn (hd : observe outcome = some d) (hmem : d ∈ t.observations)
    (hobs : outcome.lldp = some obs) (h : Sees a b source obs nbr) (hne : a ≠ b) :
    ∃ s ∈ t.seenOn (edgeKey a.key b.key), s.discoveredVia = source.name := by
  obtain ⟨hlocal, hremote⟩ := h.normalizeChassis_eq
  rw [observe, hobs] at hd
  obtain rfl := Option.some.inj hd
  refine ⟨_, mem_seenOn.mpr ⟨mem_flatMap.mpr ⟨_, hmem, mem_map.mpr
    ⟨nbr, h.mem_neighbors, rfl⟩⟩, ?_, ?_⟩, h.discoveredVia⟩
  · refine ⟨hlocal.trans_ne a.key_ne_empty, hremote.trans_ne b.key_ne_empty, ?_⟩
    exact fun hkey => hne (ChassisIdent.key_injective (hlocal.symm.trans (hkey.symm.trans hremote)))
  · exact congrArg₂ edgeKey hlocal hremote

/-- The link that is made of the edge of a pair. -/
def LinkOf (t : TopologyAssembler) (pair : String × String) (link : LinkRecord) : Prop :=
  ∃ edge, EdgeSpec t pair edge ∧ t.linkRecord (pair, edge) = .ok link

lemma exists_link {pair : String × String} (hseen : t.seenOn pair ≠ []) (order : EdgeOrder) :
    ∃ (ps qs : List (String × String)) (before after : List LinkRecord) (link : LinkRecord),
      t.finish order = .ok (before ++ link :: after) ∧ t.LinkOf pair link ∧
      List.Forall₂ t.LinkOf ps before ∧ List.Forall₂ t.LinkOf qs after ∧ pair ∉ ps ++ qs := by
  obtain ⟨pairs, links, hlinks, hsorted, hpairs, hedges⟩ := t.finish_edges order
  obtain ⟨ps, qs, rfl⟩ := append_of_mem ((hpairs pair).mpr hseen)
  have hbefore := (forall₂_take_append _ _ _ hedges.flip).flip
  obtain ⟨link, after, hlink, hafter, hdrop⟩ := forall₂_cons_right_iff.mp
    (forall₂_drop_append _ _ _ hedges.flip)
  refine ⟨ps, qs, links.take ps.length, after, link, ?_, hlink, hbefore, hafter.flip, ?_⟩
  · rw [hlinks, ← hdrop, take_append_drop]
  · intro hmem
    obtain ⟨-, hqs, hps⟩ := pairwise_append.mp hsorted
    rcases mem_append.mp hmem with hmem | hmem
    · exact irrefl pair (hps pair hmem pair mem_cons_self)
    · exact irrefl pair (rel_of_pairwise_cons hqs hmem)

lemma LinkOf.discoveredVia_eq {pair : String × String} {link : LinkRecord} (h : t.LinkOf pair link)
    (hlldp : ∃ s ∈ t.seenOn pair, s.discoveredVia = LldpSource.lldp.name)
    (hgnmi : ∃ s ∈ t.seenOn pair, s.discoveredVia = LldpSource.gnmi.name)
    (honly : ∀ d ∈ t.observations, ∃ source : LldpSource, d.discoveredVia = source.name) :
    link.discoveredVia = "gnmi,lldp" := by
  obtain ⟨edge, hspec, hlink⟩ := h
  obtain ⟨e, -, hlink⟩ := bind_eq_ok.mp hlink
  obtain ⟨e', -, hlink⟩ := bind_eq_ok.mp hlink
  obtain rfl := Except.ok.inj hlink
  have hsorted : ["gnmi", "lldp"].Pairwise (· < ·) := by decide
  have hsrc : edge.sources = ["gnmi", "lldp"] := by
    refine hspec.sorted.eq_of_mem_iff hsorted fun x => ?_
    rw [hspec.mem_sources, mem_pair]
    constructor
    · rintro ⟨s, hs, rfl⟩
      obtain ⟨d, hd, hs⟩ := mem_flatMap.mp (mem_seenOn.mp hs).1
      obtain ⟨nbr, -, rfl⟩ := mem_map.mp hs
      obtain ⟨source, hsource⟩ := honly d hd
      cases source with
      | lldp => exact .inr hsource
      | gnmi => exact .inl hsource
    · rintro (rfl | rfl)
      · exact hgnmi
      · exact hlldp
  rw [hsrc]
  rfl

end TopologyAssembler

omit [CaseMapping] in
lemma edgeKey_comm (a b : String) : edgeKey a b = edgeKey b a := by
  rcases lt_trichotomy a b with h | rfl | h
  · rw [edgeKey, edgeKey, if_pos h.le, if_neg h.not_ge]
  · rfl
  · rw [edgeKey, edgeKey, if_neg h.not_ge, if_pos h.le]

/-- Whichever prober observed each end of a link, both ends have the same edge key, and the link is
emitted once; it names both probers if each observed one. -/
theorem cross_source_link {a b : ChassisIdent} {p q : LldpSource} {outA outB : ProbeOutcome}
    {obsA obsB : LldpObservation} {nbrA nbrB : LldpNeighbor} (hobsA : outA.lldp = some obsA)
    (hA : Sees a b p obsA nbrA) (hobsB : outB.lldp = some obsB) (hB : Sees b a q obsB nbrB) :
    edgeKey (normalizeChassis obsA.localChassisSubtype obsA.localChassisId)
        (normalizeChassis nbrA.remoteChassisSubtype nbrA.remoteChassisId) = edgeKey a.key b.key ∧
      edgeKey (normalizeChassis obsB.localChassisSubtype obsB.localChassisId)
        (normalizeChassis nbrB.remoteChassisSubtype nbrB.remoteChassisId) = edgeKey a.key b.key ∧
      ∀ (t : TopologyAssembler) (order : EdgeOrder), a ≠ b →
        (∃ d ∈ t.observations, TopologyAssembler.observe outA = some d) →
        (∃ d ∈ t.observations, TopologyAssembler.observe outB = some d) →
        ∃ (ps qs : List (String × String)) (before after : List LinkRecord) (link : LinkRecord),
          t.finish order = .ok (before ++ link :: after) ∧ t.LinkOf (edgeKey a.key b.key) link ∧
          List.Forall₂ t.LinkOf ps before ∧ List.Forall₂ t.LinkOf qs after ∧
          edgeKey a.key b.key ∉ ps ++ qs ∧
          (p ≠ q → (∀ d ∈ t.observations, ∃ source : LldpSource, d.discoveredVia = source.name) →
            link.discoveredVia = "gnmi,lldp") := by
  obtain ⟨hlocalA, hrem⟩ := hA.normalizeChassis_eq
  obtain ⟨hlocalB, hrmt⟩ := hB.normalizeChassis_eq
  refine ⟨by rw [hlocalA, hrem], by rw [hlocalB, hrmt, edgeKey_comm], ?_⟩
  rintro t order hne ⟨dA, hmemA, hdA⟩ ⟨dB, hmemB, hdB⟩
  have hseenA := TopologyAssembler.exists_mem_seenOn hdA hmemA hobsA hA hne
  have hseenB := TopologyAssembler.exists_mem_seenOn hdB hmemB hobsB hB hne.symm
  rw [edgeKey_comm] at hseenB
  have hseen : t.seenOn (edgeKey a.key b.key) ≠ [] := by
    obtain ⟨s, hs, -⟩ := hseenA
    exact ne_nil_of_mem hs
  obtain ⟨ps, qs, before, after, link, hfinish, hlink, hbefore, hafter, hnot⟩ :=
    TopologyAssembler.exists_link hseen order
  refine ⟨ps, qs, before, after, link, hfinish, hlink, hbefore, hafter, hnot, fun hpq honly => ?_⟩
  cases p with
  | lldp =>
    cases q with
    | lldp => exact absurd rfl hpq
    | gnmi => exact hlink.discoveredVia_eq hseenA hseenB honly
  | gnmi =>
    cases q with
    | lldp => exact hlink.discoveredVia_eq hseenB hseenA honly
    | gnmi => exact absurd rfl hpq

end Keys

attribute [local instance] CaseMapping.ascii

/-! ## A cable between two sources -/

def switchIdent : ChassisIdent := .mac [0x00, 0x1b, 0x54, 0xaa, 0xbb, 0x01] rfl

def routerIdent : ChassisIdent := .address (.v4 0x0A000002)

def switchResponse : SnmpResponse :=
  ⟨0, [⟨oidLldpLocChassisIdSubtype, .int 4⟩,
    ⟨oidLldpLocChassisId, .bytes [0x00, 0x1b, 0x54, 0xaa, 0xbb, 0x01]⟩]⟩

def switchRows : List (Oid × VarValue) :=
  [(oidLldpRemEntry ++ [4, 0, 1, 1], .int 5),
    (oidLldpRemEntry ++ [5, 0, 1, 1], .bytes [1, 10, 0, 0, 2])]

def routerResponse : GetResponse :=
  let own (leaf : String) : GnmiPath := ⟨[⟨"lldp", []⟩, ⟨"state", []⟩, ⟨leaf, []⟩]⟩
  let remote (leaf : String) : GnmiPath :=
    ⟨[⟨"interface", [("name", "e1")]⟩, ⟨"neighbor", [("id", "1")]⟩, ⟨leaf, []⟩]⟩
  ⟨[⟨none, [⟨some (own "chassis-id-type"), some (.string "oc-lldp:NETWORK_ADDRESS")⟩,
      ⟨some (own "chassis-id"), some (.string " 10.0.0.2")⟩,
      ⟨some (remote "chassis-id-type"), some (.string "mac_address")⟩,
      ⟨some (remote "chassis-id"), some (.string "001B.54AA.BB01")⟩]⟩]⟩

def switchOutcome : ProbeOutcome where
  kind := .lldp
  targetIp := .v4 0x0A000001
  timestamp := 0
  reachable := true
  signals := []
  lldp := some (assembleObservation (parseLocalChassis switchResponse) switchRows [])

def routerOutcome : ProbeOutcome :=
  { switchOutcome with
    kind := .gnmi
    targetIp := .v4 0x0A000002
    lldp := some (parseLldpResponse (fun _ => none) routerResponse) }

def cableScan : TopologyAssembler :=
  (TopologyAssembler.new .default).observeOutcomes [switchOutcome, routerOutcome]

lemma sees_switchOutcome : Sees switchIdent routerIdent .lldp
      (assembleObservation (parseLocalChassis switchResponse) switchRows [])
      (groupNeighbor [] [0, 1, 1]
        { chassisSubtype := some 5, chassisId := some [1, 10, 0, 0, 2] }) :=
  .lldp (by decide +kernel) rfl (by decide +kernel) rfl rfl
    ⟨[10, 0, 0, 2], .inl ⟨rfl, rfl, by decide +kernel⟩⟩

lemma sees_routerOutcome : Sees routerIdent switchIdent .gnmi
      (parseLldpResponse (fun _ => none) routerResponse)
      (finishNeighbor ("e1", "1")
        { chassisType := some "mac_address", chassisId := some "001B.54AA.BB01" }) := by
  refine @Sees.gnmi _ _ _ _ _ "oc-lldp:NETWORK_ADDRESS" "10.0.0.2" _ _ _ _
    (by decide +kernel) (by decide +kernel) ⟨by decide +kernel, by decide +kernel⟩
    (by decide +kernel) rfl rfl ⟨by decide +kernel, ?_⟩
  have hdigits : ([0x00, 0x1b, 0x54, 0xaa, 0xbb, 0x01] : Bytes).flatMap hexDigits =
      "001b54aabb01".toList := by decide +kernel
  repeat first | exact .nil | refine .digit (by decide) ?_ | refine .skip (.inl (by decide)) ?_

/-- The switch is seen by its octets, the router by its texts; the link names both sources. -/
theorem cross_source_link_cable :
    ∃ before after link, cableScan.finish .insertion = .ok (before ++ link :: after) ∧
      link.discoveredVia = "gnmi,lldp" := by
  obtain ⟨-, -, hscan⟩ := @cross_source_link _ switchIdent routerIdent .lldp .gnmi
    switchOutcome routerOutcome _ _ _ _ rfl sees_switchOutcome rfl sees_routerOutcome
  have hobs : ∀ d ∈ cableScan.observations,
      ∃ source : LldpSource, d.discoveredVia = source.name := by
    intro d hd
    rcases mem_pair.mp hd with rfl | rfl
    · exact ⟨.lldp, rfl⟩
    · exact ⟨.gnmi, rfl⟩
  obtain ⟨ps, qs, before, after, link, hfinish, -, -, -, -, hvia⟩ :=
    hscan cableScan .insertion nofun ⟨_, mem_cons_self, rfl⟩
      ⟨_, mem_cons_of_mem _ mem_cons_self, rfl⟩
  exact ⟨before, after, link, hfinish, hvia nofun hobs⟩

end Rastreo
