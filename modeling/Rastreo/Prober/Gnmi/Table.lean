import Rastreo.Prober.Gnmi.Lldp

/-!
# The table behind an LLDP observation

In whatever format, an update sets leaves of the local chassis or of one neighbour, and the
observation is a function of the leaves set (`finish_foldl_apply`).  `LldpReport` is what a device
has to report, apart from any format.
-/

namespace Rastreo

open List

/-! ## Leaves -/

inductive ChassisLeaf where
  | id
  | idType
  deriving DecidableEq

/-- The name of a leaf of the local chassis. -/
def ChassisLeaf.name : ChassisLeaf → String
  | .id => "chassis-id"
  | .idType => "chassis-id-type"

inductive NeighborLeaf where
  | chassisId
  | chassisType
  | portId
  | portType
  | systemName
  | portDescription
  deriving DecidableEq

def NeighborLeaf.name : NeighborLeaf → String
  | .chassisId => "chassis-id"
  | .chassisType => "chassis-id-type"
  | .portId => "port-id"
  | .portType => "port-id-type"
  | .systemName => "system-name"
  | .portDescription => "port-description"

abbrev NeighborLeaves := NeighborLeaf → Option String

/-- A neighbour by interface and id. -/
abbrev LldpEntry := (String × String) × NeighborLeaves

def NeighborBuilder.get (nbr : NeighborBuilder) : NeighborLeaves
  | .chassisId => nbr.chassisId
  | .chassisType => nbr.chassisType
  | .portId => nbr.portId
  | .portType => nbr.portType
  | .systemName => nbr.systemName
  | .portDescription => nbr.portDescription

def NeighborBuilder.ofLeaves (leaves : NeighborLeaves) : NeighborBuilder where
  chassisId := leaves .chassisId
  chassisType := leaves .chassisType
  portId := leaves .portId
  portType := leaves .portType
  systemName := leaves .systemName
  portDescription := leaves .portDescription

@[simp] lemma NeighborBuilder.get_ofLeaves (leaves : NeighborLeaves) :
    (ofLeaves leaves).get = leaves := by
  funext leaf
  cases leaf <;> rfl

lemma NeighborBuilder.eq_ofLeaves {nbr : NeighborBuilder} {leaves : NeighborLeaves}
    (h : ∀ leaf, nbr.get leaf = leaves leaf) : nbr = ofLeaves leaves := by
  have hget : nbr.get = leaves := funext h
  rw [← hget]
  rfl

variable (entry : NeighborBuilder)

lemma setNeighborLeaf_name (leaf : NeighborLeaf) (value : String) :
    setNeighborLeaf entry leaf.name value =
      .ofLeaves fun l => (if l = leaf then some value else none).or (entry.get l) := by
  cases leaf <;> rfl

lemma applyNeighborState_eq (state : Json) : applyNeighborState entry state =
      .ofLeaves fun leaf => (strippedStr state leaf.name).or (entry.get leaf) := rfl

/-! ## Steps of the table -/

inductive LldpOp where
  | chassis (leaves : ChassisLeaf → Option String)
  | neighbor (key : String × String) (leaves : NeighborLeaves)

def LldpOp.setsChassis : LldpOp → ChassisLeaf → Option String
  | .chassis leaves, leaf => leaves leaf
  | .neighbor _ _, _ => none

def LldpOp.sets : LldpOp → String × String → NeighborLeaves
  | .chassis _, _, _ => none
  | .neighbor key leaves, k, leaf => if k = key then leaves leaf else none

def LldpOp.key : LldpOp → Option (String × String)
  | .chassis _ => none
  | .neighbor key _ => some key

namespace LldpBuilder

def getChassis (b : LldpBuilder) : ChassisLeaf → Option String
  | .id => b.localChassisId
  | .idType => b.localChassisType

def leafAt (b : LldpBuilder) (key : String × String) (leaf : NeighborLeaf) : Option String :=
  (b.neighbors.lookup key).bind fun nbr => nbr.get leaf

/-- The leaves it says are set, the others stay. -/
def apply (b : LldpBuilder) : LldpOp → LldpBuilder
  | .chassis leaves =>
    { b with
      localChassisId := (leaves .id).or b.localChassisId
      localChassisType := (leaves .idType).or b.localChassisType }
  | .neighbor key leaves =>
    b.atNeighbor key fun entry => .ofLeaves fun leaf => (leaves leaf).or (entry.get leaf)

lemma getChassis_apply (leaf : ChassisLeaf) (b : LldpBuilder) (op : LldpOp) :
    (b.apply op).getChassis leaf = (op.setsChassis leaf).or (b.getChassis leaf) := by
  cases op with
  | chassis leaves => cases leaf <;> rfl
  | neighbor key leaves => cases leaf <;> rfl

variable (k : String × String)

lemma leafAt_apply (leaf : NeighborLeaf) (b : LldpBuilder) (op : LldpOp) :
    (b.apply op).leafAt k leaf = (op.sets k leaf).or (b.leafAt k leaf) := by
  cases op with
  | chassis leaves => rfl
  | neighbor key leaves =>
    by_cases hk : k = key
    · subst hk
      have hdef : ((b.neighbors.lookup k).getD {}).get leaf =
          (b.neighbors.lookup k).bind fun nbr => nbr.get leaf := by
        cases b.neighbors.lookup k with
        | none => cases leaf <;> rfl
        | some nbr => rfl
      simp [apply, atNeighbor, leafAt, LldpOp.sets, hdef]
    · simp [apply, atNeighbor, leafAt, LldpOp.sets, hk, AList.lookup_insert_ne hk]

lemma mem_apply (b : LldpBuilder) (op : LldpOp) :
    k ∈ (b.apply op).neighbors ↔ op.key = some k ∨ k ∈ b.neighbors := by
  cases op with
  | chassis leaves => simp [apply, LldpOp.key]
  | neighbor key leaves => simp [apply, atNeighbor, LldpOp.key, eq_comm]

lemma mem_foldl_apply (ops : List LldpOp) (b : LldpBuilder) :
    k ∈ (ops.foldl apply b).neighbors ↔ (∃ op ∈ ops, op.key = some k) ∨ k ∈ b.neighbors := by
  induction ops generalizing b with
  | nil => simp
  | cons op ops ih =>
    rw [foldl_cons, ih, mem_apply]
    grind

end LldpBuilder

/-- Without contradiction a field holds what one of the steps says. -/
lemma foldl_overwrite_eq_some {σ ι ν : Type} {step : σ → ι → σ} (get : σ → Option ν)
    (say : ι → Option ν) (hstep : ∀ s i, get (step s i) = (say i).or (get s)) {l : List ι} {s : σ}
    (hst : get s = none)
    (hone : ∀ i ∈ l, ∀ j ∈ l, ∀ v w, say i = some v → say j = some w → v = w) (v : ν) :
    get (l.foldl step s) = some v ↔ ∃ i ∈ l, say i = some v := by
  induction l using List.reverseRecOn with
  | nil => simp [hst]
  | append_singleton l i ih =>
    have ih := ih fun i hi j hj => hone i (mem_append_left _ hi) j (mem_append_left _ hj)
    have hlast : i ∈ l ++ [i] := mem_append_right _ (mem_singleton.mpr rfl)
    rw [foldl_append, foldl_cons, foldl_nil, hstep]
    cases hi : say i with
    | none => grind
    | some w =>
      rw [Option.some_or]
      constructor
      · intro hv
        grind
      · grind

/-! ## The observation of a table -/

variable [CaseMapping]

/-- The observation of a local chassis and of neighbours by their keys. -/
def observe (chassis : ChassisLeaf → Option String)
    (entries : List LldpEntry) : LldpObservation :=
  let subtype := chassisSubtypeFromType ((chassis .idType).getD "")
  { localChassisId := canonicalChassis subtype ((chassis .id).getD "")
    localChassisSubtype := subtype
    neighbors := (sortBy keyOrder entries).map fun e => finishNeighbor e.1 (.ofLeaves e.2)
    discoveredVia := "gnmi" }

variable {entries : List LldpEntry}
  {chassis : ChassisLeaf → Option String}

lemma finish_eq_observe {b : LldpBuilder} (hdistinct : (entries.map Prod.fst).Nodup)
    (hchassis : ∀ leaf, b.getChassis leaf = chassis leaf)
    (hkeys : ∀ k, k ∈ b.neighbors ↔ k ∈ entries.map Prod.fst)
    (hleaves : ∀ e ∈ entries, ∀ leaf, b.leafAt e.1 leaf = e.2 leaf) :
    b.finish = observe chassis entries := by
  -- the entry of a key is the neighbour with the leaves of the key
  have hlookup : ∀ e ∈ entries, b.neighbors.lookup e.1 = some (.ofLeaves e.2) := by
    intro e he
    have hmem := (hkeys e.1).mpr (mem_map_of_mem he)
    obtain ⟨nbr, hnbr⟩ := Option.isSome_iff_exists.mp (AList.lookup_isSome.mpr hmem)
    have hget : nbr = .ofLeaves e.2 := NeighborBuilder.eq_ofLeaves fun leaf => by
      rw [← hleaves e he leaf, LldpBuilder.leafAt, hnbr, Option.bind_some]
    rw [hnbr, hget]
  set pairs : List ((String × String) × NeighborBuilder) :=
    b.neighbors.entries.map fun e => (e.1, e.2) with hpairs
  have hprs : (pairs.map Prod.fst).Nodup := by
    rw [hpairs, map_map]
    exact b.neighbors.keys_nodup
  have hent : ((entries.map fun e => (e.1, NeighborBuilder.ofLeaves e.2)).map Prod.fst).Nodup := by
    rwa [map_map]
  have hperm : (entries.map fun e => (e.1, NeighborBuilder.ofLeaves e.2)).Perm pairs := by
    rw [perm_ext_iff_of_nodup (List.Nodup.of_map _ hent) (List.Nodup.of_map _ hprs)]
    rintro ⟨k, nbr⟩
    have hpair : (k, nbr) ∈ pairs ↔ b.neighbors.lookup k = some nbr := by
      rw [← Option.mem_def, AList.mem_lookup_iff, hpairs, mem_map]
      constructor
      · simp
      · simp
    rw [hpair, mem_map]
    constructor
    · grind
    · intro hnbr
      have hmem : k ∈ b.neighbors := AList.lookup_isSome.mp (Option.isSome_iff_exists.mpr ⟨_, hnbr⟩)
      grind
  have hid : b.localChassisId = chassis .id := hchassis .id
  have htype : b.localChassisType = chassis .idType := hchassis .idType
  have hsorted : b.sortedNeighbors =
      (sortBy keyOrder entries).map fun e => (e.1, NeighborBuilder.ofLeaves e.2) := by
    have hlex : ((entries.map fun e => (e.1, NeighborBuilder.ofLeaves e.2)).map
        keyOrder).Nodup := hent
    rw [LldpBuilder.sortedNeighbors, ← hpairs, ← sortBy_eq_of_perm _ hperm hlex]
    exact sortBy_map keyOrder keyOrder (fun e => (e.1, NeighborBuilder.ofLeaves e.2))
      (fun _ => rfl) entries
  rw [LldpBuilder.finish, observe, hid, htype, hsorted, map_map]
  rfl

lemma finish_foldl_apply {ops : List LldpOp} (hdistinct : (entries.map Prod.fst).Nodup)
    (hchassis : ∀ leaf v, (∃ op ∈ ops, op.setsChassis leaf = some v) ↔ chassis leaf = some v)
    (hkeys : ∀ k, (∃ op ∈ ops, op.key = some k) ↔ k ∈ entries.map Prod.fst)
    (hleaves : ∀ e ∈ entries, ∀ leaf v, (∃ op ∈ ops, op.sets e.1 leaf = some v) ↔
      e.2 leaf = some v) :
    (ops.foldl LldpBuilder.apply {}).finish = observe chassis entries := by
  refine finish_eq_observe hdistinct (fun leaf => ?_) (fun k => ?_) fun e he leaf => ?_
  · refine Option.ext fun v => ?_
    refine (foldl_overwrite_eq_some (LldpBuilder.getChassis · leaf) (LldpOp.setsChassis · leaf)
      (LldpBuilder.getChassis_apply leaf) (by cases leaf <;> rfl) ?_ v).trans (hchassis leaf v)
    intro i hi j hj v w hv hw
    have hv := (hchassis leaf v).mp ⟨i, hi, hv⟩
    grind
  · rw [LldpBuilder.mem_foldl_apply, hkeys]
    simp
  · refine Option.ext fun v => ?_
    refine (foldl_overwrite_eq_some (LldpBuilder.leafAt · e.1 leaf) (LldpOp.sets · e.1 leaf)
      (LldpBuilder.leafAt_apply e.1 leaf) rfl ?_ v).trans (hleaves e he leaf v)
    intro i hi j hj v w hv hw
    have hv := (hleaves e he leaf v).mp ⟨i, hi, hv⟩
    grind

/-! ## Reports -/

/-- Not blank, without blanks around, and not the wildcard. -/
def IsListKey (s : String) : Prop := s ≠ "" ∧ trim s = s ∧ s ≠ "*"

/-- The leaves of the chassis, and of the neighbours. -/
structure LldpReport where
  chassis : ChassisLeaf → Option String
  entries : List LldpEntry
  distinct : (entries.map Prod.fst).Nodup
  named : ∀ e ∈ entries, IsListKey e.1.1 ∧ IsListKey e.1.2
  chassis_nonblank : ∀ leaf v, chassis leaf = some v → trim v ≠ ""
  leaf_nonblank : ∀ e ∈ entries, ∀ leaf v, e.2 leaf = some v → trim v ≠ ""

def trimmed {ι : Type} (leaves : ι → Option String) (leaf : ι) : Option String :=
  (leaves leaf).map trim

/-- The observation that the report amounts to. -/
def LldpReport.observation (report : LldpReport) : LldpObservation :=
  observe (trimmed report.chassis) (report.entries.map fun e => (e.1, trimmed e.2))

end Rastreo
