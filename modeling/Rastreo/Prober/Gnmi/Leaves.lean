import Rastreo.Prober.Gnmi.Table

/-!
# LLDP leaves in updates of their own

The path names interface and neighbour.  A leaf that is a protobuf string is stored; one encoded as
a JSON string is dropped, although JSON is asked for first (`select_get_encoding`).  So the
observation is that of the report exactly if the dropped leaves do not show.
-/

namespace Rastreo

open List

/-! ## One update per leaf -/

inductive LldpLeaf where
  | chassis (leaf : ChassisLeaf)
  | neighbor (key : String × String) (leaf : NeighborLeaf)
  deriving DecidableEq

def LldpLeaf.elems : LldpLeaf → List PathElem
  | .chassis leaf => [⟨"lldp", []⟩, ⟨"state", []⟩, ⟨leaf.name, []⟩]
  | .neighbor key leaf =>
    [⟨"lldp", []⟩, ⟨"interfaces", []⟩, ⟨"interface", [("name", key.1)]⟩, ⟨"neighbors", []⟩,
      ⟨"neighbor", [("id", key.2)]⟩, ⟨"state", []⟩, ⟨leaf.name, []⟩]

def LldpReport.HasLeaf (report : LldpReport) : LldpLeaf → String → Prop
  | .chassis leaf, v => report.chassis leaf = some v
  | .neighbor key leaf, v => ∃ leaves, (key, leaves) ∈ report.entries ∧ leaves leaf = some v

/-- A protobuf string, or a string encoded as JSON. -/
structure CarriedLeaf where
  leaf : LldpLeaf
  value : String
  inJson : Bool
  deriving DecidableEq

def strippedElems (elems : List PathElem) : List PathElem :=
  elems.map fun e => { e with name := stripModule e.name }

/-- The path may be split between prefix and update. -/
def CarriedLeaf.In (fromSlice : String → Option Json) (c : CarriedLeaf)
    (u : Option GnmiPath × GnmiUpdate) : Prop :=
  strippedElems (joinedElems u.1 u.2.path) = c.leaf.elems ∧ if c.inJson then
      ∃ text, (u.2.val = some (.json text) ∨ u.2.val = some (.jsonIetf text)) ∧
        fromSlice text = some (.string c.value)
    else u.2.val = some (.string c.value)

/-- A response with one update per leaf, in any order. -/
structure LldpReport.InLeaves (report : LldpReport) (fromSlice : String → Option Json)
    (carried : List CarriedLeaf) (response : GetResponse) : Prop where
  once : (carried.map CarriedLeaf.leaf).Nodup
  all : ∀ leaf v, report.HasLeaf leaf v ↔ ∃ c ∈ carried, c.leaf = leaf ∧ c.value = v
  updates : List.Forall₂ (CarriedLeaf.In fromSlice) carried response.updates

lemma elemKey_strippedElems (elems : List PathElem) (elemName keyName : String) :
    elemKey elems elemName keyName = (((strippedElems elems).find? fun e => e.name = elemName).bind
        fun e => e.key.lookup keyName).filter fun v => v ≠ "" && v ≠ "*" := by
  rw [strippedElems, find?_map, Option.bind_map]
  rfl

lemma leafName_strippedElems (elems : List PathElem) :
    (elems.getLast?.elim "" fun e => stripModule e.name) =
      (strippedElems elems).getLast?.elim "" PathElem.name := by
  rw [strippedElems, getLast?_map]
  cases elems.getLast? <;> rfl

variable {elems : List PathElem}

lemma elemKey_chassis {leaf : ChassisLeaf}
    (h : strippedElems elems = (LldpLeaf.chassis leaf).elems) :
    elemKey elems "interface" "name" = none := by
  rw [elemKey_strippedElems, h]
  cases leaf <;> rfl

lemma elemKey_neighbor {key : String × String} {leaf : NeighborLeaf}
    (h : strippedElems elems = (LldpLeaf.neighbor key leaf).elems) (hname : IsListKey key.1)
    (hid : IsListKey key.2) :
    elemKey elems "interface" "name" = some key.1 ∧ elemKey elems "neighbor" "id" = some key.2 := by
  have hname' : (key.1 ≠ "" && key.1 ≠ "*") = true := by simp [hname.1, hname.2.2]
  have hid' : (key.2 ≠ "" && key.2 ≠ "*") = true := by simp [hid.1, hid.2.2]
  rw [elemKey_strippedElems, elemKey_strippedElems, h]
  refine ⟨?_, ?_⟩
  · exact Option.filter_some_pos hname'
  · exact Option.filter_some_pos hid'

/-- Blanks around it are dropped, and a leaf encoded as JSON is. -/
def CarriedLeaf.stored (c : CarriedLeaf) : Option String :=
  if c.inJson then none else some (trim c.value)

def CarriedLeaf.op (c : CarriedLeaf) : LldpOp :=
  match c.leaf with
  | .chassis leaf => .chassis fun l => if l = leaf then c.stored else none
  | .neighbor key leaf => .neighbor key fun l => if l = leaf then c.stored else none

namespace CarriedLeaf

variable {c : CarriedLeaf} {v : String}

lemma setsChassis_op {leaf : ChassisLeaf} :
    c.op.setsChassis leaf = some v ↔ c.leaf = .chassis leaf ∧ c.stored = some v := by
  unfold op
  cases hc : c.leaf with
  | chassis l => by_cases h : leaf = l <;> simp [LldpOp.setsChassis, h, eq_comm]
  | neighbor key l => simp [LldpOp.setsChassis]

variable {k : String × String}

lemma sets_op {leaf : NeighborLeaf} :
    c.op.sets k leaf = some v ↔ c.leaf = .neighbor k leaf ∧ c.stored = some v := by
  unfold op
  cases hc : c.leaf with
  | chassis l => simp [LldpOp.sets]
  | neighbor key l =>
    by_cases hk : k = key <;> by_cases h : leaf = l <;> simp [LldpOp.sets, hk, h, eq_comm]

lemma key_op : c.op.key = some k ↔ ∃ leaf, c.leaf = .neighbor k leaf := by
  unfold op
  grind [LldpOp.key]

end CarriedLeaf

variable {b : LldpBuilder}

lemma ingestLeaf_of_elems {c : CarriedLeaf} (h : strippedElems elems = c.leaf.elems)
    (hkey : ∀ key leaf, c.leaf = .neighbor key leaf → IsListKey key.1 ∧ IsListKey key.2)
    (hjson : c.inJson = false) : b.ingestLeaf elems (trim c.value) = b.apply c.op := by
  have hstored : c.stored = some (trim c.value) := by rw [CarriedLeaf.stored, hjson]; rfl
  have hname := leafName_strippedElems elems
  unfold LldpBuilder.ingestLeaf CarriedLeaf.op
  rw [hstored]
  cases hleaf : c.leaf with
  | chassis leaf =>
    rw [hleaf] at h
    rw [hname, h, elemKey_chassis h]
    cases leaf <;> rfl
  | neighbor key leaf =>
    rw [hleaf] at h
    obtain ⟨hine, hid⟩ := hkey key leaf hleaf
    have hkeys := elemKey_neighbor h hine hid
    have hlea : (elems.getLast?.elim "" fun e => stripModule e.name) = leaf.name := by
      rw [hname, h]
      rfl
    rw [hkeys.1, hkeys.2, hlea]
    dsimp only
    rw [LldpBuilder.apply]
    congr 1
    funext entry
    exact setNeighborLeaf_name entry leaf _

lemma ingestJson_of_elems {c : CarriedLeaf} (h : strippedElems elems = c.leaf.elems)
    (hkey : ∀ key leaf, c.leaf = .neighbor key leaf → IsListKey key.1 ∧ IsListKey key.2)
    (hjson : c.inJson = true) : b.ingestJson elems (.string c.value) = b.apply c.op := by
  have hstored : c.stored = none := by rw [CarriedLeaf.stored, hjson]; rfl
  unfold LldpBuilder.ingestJson CarriedLeaf.op
  rw [hstored]
  cases hleaf : c.leaf with
  | chassis leaf =>
    rw [hleaf] at h
    rw [elemKey_chassis h]
    simp only [ite_self]
    rfl
  | neighbor key leaf =>
    rw [hleaf] at h
    obtain ⟨hine, hid⟩ := hkey key leaf hleaf
    have hkeys := elemKey_neighbor h hine hid
    rw [hkeys.1, hkeys.2]
    simp only [ite_self]
    rfl

lemma ingestUpdate_of_carried {fromSlice : String → Option Json} {c : CarriedLeaf}
    {u : Option GnmiPath × GnmiUpdate} (h : c.In fromSlice u)
    (hkey : ∀ key leaf, c.leaf = .neighbor key leaf → IsListKey key.1 ∧ IsListKey key.2)
    (hvl : trim c.value ≠ "") : b.ingestUpdate fromSlice u.1 u.2 = b.apply c.op := by
  obtain ⟨helems, hval⟩ := h
  unfold LldpBuilder.ingestUpdate
  cases hjson : c.inJson with
  | false =>
    rw [hjson, if_neg Bool.false_ne_true] at hval
    have hscalar : scalarValue (.string c.value) = some (trim c.value) := if_neg hvl
    rw [hval]
    grind [jsonBlob, ingestLeaf_of_elems]
  | true =>
    rw [hjson, if_pos rfl] at hval
    obtain ⟨text, hval | hval, htext⟩ := hval <;>
    · rw [hval]
      grind [jsonBlob, ingestJson_of_elems]

variable {report : LldpReport}

lemma LldpReport.HasLeaf.named {leaf : LldpLeaf} {v : String}
    (h : report.HasLeaf leaf v) (key : String × String) (l : NeighborLeaf)
    (hleaf : leaf = .neighbor key l) : IsListKey key.1 ∧ IsListKey key.2 := by
  subst hleaf
  obtain ⟨leaves, hmem, -⟩ := h
  exact report.named _ hmem

lemma LldpReport.HasLeaf.nonblank {leaf : LldpLeaf} {v : String}
    (h : report.HasLeaf leaf v) : trim v ≠ "" := by
  cases leaf with
  | chassis leaf => exact report.chassis_nonblank leaf v h
  | neighbor key leaf =>
    obtain ⟨leaves, hmem, hv⟩ := h
    exact report.leaf_nonblank _ hmem leaf v hv

lemma LldpReport.InLeaves.foldl_ingestUpdate
    {fromSlice : String → Option Json} {carried : List CarriedLeaf} {response : GetResponse}
    (h : report.InLeaves fromSlice carried response) (b : LldpBuilder) :
    response.updates.foldl (fun b u => b.ingestUpdate fromSlice u.1 u.2) b =
      (carried.map CarriedLeaf.op).foldl LldpBuilder.apply b := by
  have hleaf : ∀ c ∈ carried, report.HasLeaf c.leaf c.value := fun c hc =>
    (h.all c.leaf c.value).mpr ⟨c, hc, rfl, rfl⟩
  have hupd := h.updates
  generalize response.updates = updates at hupd ⊢
  clear h
  induction hupd generalizing b with
  | nil => rfl
  | @cons c u carried updates hcu _ ih =>
    have hc := hleaf c mem_cons_self
    rw [foldl_cons, map_cons, foldl_cons, ingestUpdate_of_carried hcu hc.named hc.nonblank]
    grind

/-! ### What is left of a report -/

def only {ι : Type} (keep : ι → Bool) (leaves : ι → Option String) (leaf : ι) : Option String :=
  if keep leaf then leaves leaf else none

def shown (carried : List CarriedLeaf) (leaf : LldpLeaf) : Bool :=
  carried.any fun c => c.leaf = leaf && !c.inJson

def NeighborLeaf.all : List NeighborLeaf :=
  [.chassisId, .chassisType, .portId, .portType, .systemName, .portDescription]

def hasLeaf (leaves : NeighborLeaves) : Bool :=
  NeighborLeaf.all.any fun leaf => (leaves leaf).isSome

variable {leaves : NeighborLeaves}

lemma hasLeaf_iff : hasLeaf leaves = true ↔ ∃ leaf v, leaves leaf = some v := by
  have hall : ∀ leaf : NeighborLeaf, leaf ∈ NeighborLeaf.all := by
    intro leaf
    cases leaf <;> simp [NeighborLeaf.all]
  simp [hasLeaf, hall, Option.isSome_iff_exists]

lemma only_trimmed_eq_some {ι : Type} {keep : ι → Bool} {leaves : ι → Option String} {leaf : ι}
    {v : String} : only keep (trimmed leaves) leaf = some v ↔
      keep leaf = true ∧ ∃ w, leaves leaf = some w ∧ trim w = v := by
  unfold only trimmed
  split_ifs with h <;> simp [h]

namespace LldpReport

variable {report : LldpReport} {fromSlice : String → Option Json} {carried : List CarriedLeaf}
  {response : GetResponse}

def shownChassis (report : LldpReport) (carried : List CarriedLeaf) : ChassisLeaf → Option String :=
  only (fun leaf => shown carried (.chassis leaf)) (trimmed report.chassis)

def shownLeaves (carried : List CarriedLeaf) (e : LldpEntry) : LldpEntry :=
  (e.1, only (fun leaf => shown carried (.neighbor e.1 leaf)) (trimmed e.2))

lemma hasLeaf_neighbor_iff {e : LldpEntry} (he : e ∈ report.entries) {leaf : NeighborLeaf}
    {v : String} :
    report.HasLeaf (.neighbor e.1 leaf) v ↔ e.2 leaf = some v := by
  constructor
  · rintro ⟨leaves, hmem, hv⟩
    have heq : (e.1, leaves) = e := inj_on_of_nodup_map report.distinct hmem he rfl
    rw [← heq]
    exact hv
  · exact fun hv => ⟨e.2, he, hv⟩

lemma InLeaves.exists_stored (h : report.InLeaves fromSlice carried response) (leaf : LldpLeaf)
    (v : String) : (∃ c ∈ carried, c.leaf = leaf ∧ c.stored = some v) ↔
      shown carried leaf = true ∧ ∃ w, report.HasLeaf leaf w ∧ trim w = v := by
  constructor
  · rintro ⟨c, hc, hleaf, hstored⟩
    unfold CarriedLeaf.stored at hstored
    split_ifs at hstored with hjson
    refine ⟨any_eq_true.mpr ⟨c, hc, by simp [hleaf, hjson]⟩, c.value, ?_, Option.some.inj hstored⟩
    exact (h.all leaf c.value).mpr ⟨c, hc, hleaf, rfl⟩
  · rintro ⟨hshown, w, hw, rfl⟩
    obtain ⟨c, hc, hcleaf⟩ := any_eq_true.mp hshown
    rw [Bool.and_eq_true, decide_eq_true_iff, Bool.not_eq_true'] at hcleaf
    obtain ⟨c', hc', hleaf', rfl⟩ := (h.all leaf w).mp hw
    -- the leaf is carried once
    obtain rfl := inj_on_of_nodup_map h.once hc hc' (hcleaf.1.trans hleaf'.symm)
    exact ⟨c, hc, hleaf', by rw [CarriedLeaf.stored, hcleaf.2]; rfl⟩

/-- One update per leaf: what is seen are the leaves carried as protobuf strings, at the neighbours
with a leaf. -/
lemma InLeaves.parseLldpResponse_eq [CaseMapping] (h : report.InLeaves fromSlice carried response) :
    parseLldpResponse fromSlice response = observe (report.shownChassis carried)
      ((report.entries.filter fun e => hasLeaf e.2).map (shownLeaves carried)) := by
  have hstored := h.exists_stored
  rw [parseLldpResponse, h.foldl_ingestUpdate]
  refine finish_foldl_apply ?_ (fun leaf v => ?_) (fun k => ?_) fun e he leaf v => ?_
  · rw [map_map]
    exact report.distinct.sublist (filter_sublist.map Prod.fst)
  · simp only [mem_map, exists_exists_and_eq_and, CarriedLeaf.setsChassis_op]
    rw [hstored, shownChassis, only_trimmed_eq_some]
    rfl
  · simp only [mem_map, exists_exists_and_eq_and, CarriedLeaf.key_op]
    constructor
    · rintro ⟨c, hc, leaf, hleaf⟩
      obtain ⟨leaves, hmem, hv⟩ := (h.all _ _).mpr ⟨c, hc, hleaf, rfl⟩
      have hkept : (k, leaves) ∈ report.entries.filter fun e => hasLeaf e.2 :=
        mem_filter.mpr ⟨hmem, hasLeaf_iff.mpr ⟨leaf, _, hv⟩⟩
      exact ⟨_, hkept, rfl⟩
    · rintro ⟨e, he, rfl⟩
      obtain ⟨hmem, hkept⟩ := mem_filter.mp he
      obtain ⟨leaf, v, hv⟩ := hasLeaf_iff.mp hkept
      obtain ⟨c, hc, hleaf, -⟩ := (h.all _ _).mp ((hasLeaf_neighbor_iff hmem).mpr hv)
      exact ⟨c, hc, leaf, hleaf⟩
  · obtain ⟨e, hkept, rfl⟩ := mem_map.mp he
    have hmem := (mem_filter.mp hkept).1
    simp only [mem_map, exists_exists_and_eq_and, CarriedLeaf.sets_op]
    rw [shownLeaves, hstored, only_trimmed_eq_some]
    simp only [hasLeaf_neighbor_iff hmem]

lemma InLeaves.shown_or_iff (h : report.InLeaves fromSlice carried response)
    {P : LldpLeaf → String → Prop} :
    (∀ leaf v, report.HasLeaf leaf v → shown carried leaf = true ∨ P leaf v) ↔
      ∀ c ∈ carried, c.inJson = true → P c.leaf c.value := by
  constructor
  · intro hall c hc hjson
    refine (hall c.leaf c.value ((h.all _ _).mpr ⟨c, hc, rfl, rfl⟩)).resolve_left fun hshown => ?_
    obtain ⟨c', hc', hcleaf⟩ := any_eq_true.mp hshown
    rw [Bool.and_eq_true, decide_eq_true_iff, Bool.not_eq_true'] at hcleaf
    obtain rfl := inj_on_of_nodup_map h.once hc' hc hcleaf.1
    grind
  · intro hall leaf v hleaf
    obtain ⟨c, hc, rfl, rfl⟩ := (h.all leaf v).mp hleaf
    cases hjson : c.inJson with
    | true => exact .inr (hall c hc hjson)
    | false => exact .inl (any_eq_true.mpr ⟨c, hc, by simp [hjson]⟩)

end LldpReport

/-! ### What the dropped leaves show -/

lemma trimmed_nonblank {ι : Type} {leaves : ι → Option String}
    (h : ∀ leaf v, leaves leaf = some v → trim v ≠ "") (leaf : ι) (v : String)
    (hv : trimmed leaves leaf = some v) : trim v ≠ "" := by
  obtain ⟨w, hw, rfl⟩ := Option.map_eq_some_iff.mp hv
  rw [trim_trim]
  exact h leaf w hw

lemma filter_dropped_iff (keep : Bool) {text : Option String}
    (h : ∀ v, text = some v → trim v ≠ "") :
    ((if keep then text else none).filter (· ≠ "")) = text.filter (· ≠ "") ↔
      ∀ v, text = some v → keep = true := by
  cases keep with
  | true => simp
  | false =>
    cases htext : text with
    | none => simp
    | some v =>
      have hv : v ≠ "" := by
        rintro rfl
        exact h "" htext rfl
      simp [Option.filter, hv]

lemma map_filter_eq_map_iff {α β : Type} {l : List α} {p : α → Bool} {f g : α → β} :
    (l.filter p).map f = l.map g ↔ ∀ x ∈ l, p x = true ∧ f x = g x := by
  constructor
  · intro h
    have hlen : (l.filter p).length = l.length := by simpa using congrArg List.length h
    have hall : ∀ x ∈ l, p x = true := length_filter_eq_length_iff.mp hlen
    rw [filter_eq_self.mpr hall, map_inj_left] at h
    grind
  · intro h
    rw [filter_eq_self.mpr fun x hx => (h x hx).1, map_inj_left]
    grind

variable [CaseMapping]

lemma canonicalId_empty (mac networkAddress subtype : UInt32) :
    canonicalId mac networkAddress subtype "" = "" := by
  unfold canonicalId
  split_ifs <;> rfl

lemma canonicalId_eq_empty (mac networkAddress subtype : UInt32) {id : String} (h : trim id ≠ "") :
    canonicalId mac networkAddress subtype id = "" ↔ subtype = mac ∧ canonicalMacStr id = "" := by
  unfold canonicalId
  split_ifs with hmac hnet
  · simp [hmac]
  · have hadd : canonicalNetworkAddress id ≠ "" := by
      unfold canonicalNetworkAddress
      split
      · exact IpAddr.display_ne_empty _
      · exact h
    simp [hmac, hadd]
  · simp [hmac, h]

/-- With one or both dropped they look the same if the type was unknown, and the identifier a MAC
without a digit. -/
lemma canonicalId_dropped_iff (mac networkAddress : UInt32) {subtype : String → UInt32}
    (hsubtype : subtype "" = 0) (keepType keepId : Bool) (type : Option String) {id : Option String}
    (hid : ∀ v, id = some v → trim v ≠ "") :
    canonicalId mac networkAddress (subtype ((if keepType then type else none).getD ""))
          ((if keepId then id else none).getD "") =
        canonicalId mac networkAddress (subtype (type.getD "")) (id.getD "") ∧
      subtype ((if keepType then type else none).getD "") = subtype (type.getD "") ↔
    (∀ v, type = some v → keepType = true ∨ subtype v = 0) ∧ ∀ v, id = some v → keepId = true ∨
        subtype (type.getD "") = mac ∧ canonicalMacStr v = "" := by
  have hsub : subtype ((if keepType then type else none).getD "") = subtype (type.getD "") ↔
      ∀ v, type = some v → keepType = true ∨ subtype v = 0 := by
    cases keepType <;> cases type <;> simp [hsubtype, eq_comm]
  rw [hsub, and_comm]
  refine and_congr_right fun h => ?_
  rw [hsub.mpr h]
  cases hkeep : keepId with
  | true => simp
  | false =>
    cases hv : id with
    | none => simp
    | some v =>
      have hempty := canonicalId_eq_empty mac networkAddress (subtype (type.getD "")) (hid v hv)
      simp only [Bool.false_eq_true, if_false, Option.getD_none, Option.getD_some,
        canonicalId_empty, false_or, Option.some.injEq, forall_eq']
      rw [eq_comm, hempty]

/-- It does not show: an unknown type, or the identifier of a MAC without a digit. -/
def ChassisLeaf.Silent (leaves : ChassisLeaf → Option String) : ChassisLeaf → String → Prop
  | .idType, v => chassisSubtypeFromType v = 0
  | .id, v =>
    chassisSubtypeFromType ((leaves .idType).getD "") = chassisSubtypeMac ∧ canonicalMacStr v = ""

def NeighborLeaf.Silent (leaves : NeighborLeaves) : NeighborLeaf → String → Prop
  | .chassisType, v => chassisSubtypeFromType v = 0
  | .chassisId, v =>
    chassisSubtypeFromType ((leaves .chassisType).getD "") = chassisSubtypeMac ∧
      canonicalMacStr v = ""
  | .portType, v => portSubtypeFromType v = 0
  | .portId, v =>
    portSubtypeFromType ((leaves .portType).getD "") = portSubtypeMac ∧ canonicalMacStr v = ""
  | .systemName, _ => False
  | .portDescription, _ => False

lemma finishNeighbor_only_iff (key : String × String) (keep : NeighborLeaf → Bool)
    (h : ∀ leaf v, leaves leaf = some v → trim v ≠ "") :
    finishNeighbor key (.ofLeaves (only keep leaves)) = finishNeighbor key (.ofLeaves leaves) ↔
      ∀ leaf v, leaves leaf = some v → keep leaf = true ∨ leaf.Silent leaves v := by
  have hcis := canonicalId_dropped_iff chassisSubtypeMac chassisSubtypeNetworkAddress
    (show chassisSubtypeFromType "" = 0 from rfl) (keep .chassisType) (keep .chassisId)
    (leaves .chassisType) (h .chassisId)
  have hport := canonicalId_dropped_iff portSubtypeMac portSubtypeNetworkAddress
    (show portSubtypeFromType "" = 0 from rfl) (keep .portType) (keep .portId)
    (leaves .portType) (h .portId)
  have hdesc := filter_dropped_iff (keep .portDescription) (h .portDescription)
  have hname := filter_dropped_iff (keep .systemName) (h .systemName)
  rw [finishNeighbor, finishNeighbor, LldpNeighbor.mk.injEq]
  constructor
  · rintro ⟨-, hchs, hcha, hportId, hpor, hprt, hsys⟩ leaf v hv
    obtain ⟨htype, hid⟩ := hcis.mp ⟨hchs, hcha⟩
    obtain ⟨hptype, hpid⟩ := hport.mp ⟨hportId, hpor⟩
    cases leaf with
    | chassisId => exact hid v hv
    | chassisType => exact htype v hv
    | portId => exact hpid v hv
    | portType => exact hptype v hv
    | systemName => exact .inl (hname.mp hsys v hv)
    | portDescription => exact .inl (hdesc.mp hprt v hv)
  · intro hkept
    obtain ⟨hchs, hcha⟩ := hcis.mpr ⟨hkept .chassisType, hkept .chassisId⟩
    obtain ⟨hportId, hpor⟩ := hport.mpr ⟨hkept .portType, hkept .portId⟩
    have hsys := hname.mpr fun v hv => (hkept .systemName v hv).resolve_right id
    have hprt := hdesc.mpr fun v hv => (hkept .portDescription v hv).resolve_right id
    exact ⟨rfl, hchs, hcha, hportId, hpor, hprt, hsys⟩

namespace LldpReport

variable {report : LldpReport} {fromSlice : String → Option Json} {carried : List CarriedLeaf}
  {response : GetResponse}

/-- A leaf of a report that does not show in the observation. -/
def Silent (report : LldpReport) : LldpLeaf → String → Prop
  | .chassis leaf, v => leaf.Silent (trimmed report.chassis) (trim v)
  | .neighbor key leaf, v => ∀ e ∈ report.entries, e.1 = key → leaf.Silent (trimmed e.2) (trim v)

/-- With one update per leaf the report is seen exactly if every neighbour has a leaf and those
encoded as JSON do not show. -/
lemma InLeaves.parseLldpResponse_iff (h : report.InLeaves fromSlice carried response) :
    parseLldpResponse fromSlice response = report.observation ↔
      (∀ e ∈ report.entries, ∃ leaf v, e.2 leaf = some v) ∧
        ∀ c ∈ carried, c.inJson = true → report.Silent c.leaf c.value := by
  rw [h.parseLldpResponse_eq, ← h.shown_or_iff, observation, observe, observe,
    LldpObservation.mk.injEq]
  have hlex : (report.entries.map keyOrder).Nodup := report.distinct
  have hchs := canonicalId_dropped_iff chassisSubtypeMac chassisSubtypeNetworkAddress
    (show chassisSubtypeFromType "" = 0 from rfl) (shown carried (.chassis .idType))
    (shown carried (.chassis .id)) (trimmed report.chassis .idType)
    (trimmed_nonblank report.chassis_nonblank .id)
  -- both lists of neighbours come from the sorted entries
  have hnei : ((sortBy keyOrder
        ((report.entries.filter fun e => hasLeaf e.2).map (shownLeaves carried))).map
          fun e => finishNeighbor e.1 (.ofLeaves e.2)) =
      ((sortBy keyOrder (report.entries.map fun e => (e.1, trimmed e.2))).map
          fun e => finishNeighbor e.1 (.ofLeaves e.2)) ↔
      ∀ e ∈ report.entries, hasLeaf e.2 = true ∧ ∀ leaf v, trimmed e.2 leaf = some v →
          shown carried (.neighbor e.1 leaf) = true ∨ leaf.Silent (trimmed e.2) v := by
    rw [sortBy_map keyOrder keyOrder (shownLeaves carried) (fun _ => rfl), sortBy_filter _ hlex,
      sortBy_map keyOrder keyOrder (fun e => (e.1, trimmed e.2)) (fun _ => rfl), map_map, map_map,
      map_filter_eq_map_iff]
    simp only [(perm_sortBy _ report.entries).mem_iff]
    refine forall₂_congr fun e he => and_congr_right fun _ => ?_
    exact finishNeighbor_only_iff e.1 _ (trimmed_nonblank (report.leaf_nonblank e he))
  constructor
  · rintro ⟨hid, htype, hnbrs, -⟩
    obtain ⟨hshown, hshd⟩ := hchs.mp ⟨hid, htype⟩
    have hshw := hnei.mp hnbrs
    refine ⟨fun e he => hasLeaf_iff.mp (hshw e he).1, fun leaf v hleaf => ?_⟩
    cases leaf with
    | chassis leaf =>
      have hv : trimmed report.chassis leaf = some (trim v) :=
        Option.map_eq_some_iff.mpr ⟨v, hleaf, rfl⟩
      cases leaf with
      | id => exact hshd _ hv
      | idType => exact hshown _ hv
    | neighbor key leaf =>
      obtain ⟨leaves, hmem, hleaf⟩ := hleaf
      have hv : trimmed leaves leaf = some (trim v) := Option.map_eq_some_iff.mpr ⟨v, hleaf, rfl⟩
      refine ((hshw _ hmem).2 leaf _ hv).imp_right fun hsilent e he hkey => ?_
      rwa [inj_on_of_nodup_map report.distinct he hmem hkey]
  · rintro ⟨hent, hall⟩
    have hcha : ∀ leaf v, trimmed report.chassis leaf = some v →
        shown carried (.chassis leaf) = true ∨ leaf.Silent (trimmed report.chassis) v := by
      intro leaf v hv
      obtain ⟨w, hw, rfl⟩ := Option.map_eq_some_iff.mp hv
      exact hall (.chassis leaf) w hw
    obtain ⟨hid, htype⟩ := hchs.mpr ⟨hcha .idType, hcha .id⟩
    refine ⟨hid, htype, hnei.mpr fun e he => ⟨hasLeaf_iff.mpr (hent e he), ?_⟩, rfl⟩
    intro leaf v hv
    obtain ⟨w, hw, rfl⟩ := Option.map_eq_some_iff.mp hv
    have hleaf : report.HasLeaf (.neighbor e.1 leaf) w := (hasLeaf_neighbor_iff he).mpr hw
    exact (hall _ w hleaf).imp_right fun hsilent => hsilent e he rfl

end LldpReport

end Rastreo
