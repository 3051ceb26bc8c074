import Rastreo.Library.Results
import Rastreo.Prober.Gnmi.Leaves

/-!
# The LLDP subtree as JSON

In one update, with or without the object `lldp` around it and modules before names, the members in
any order and among others.  Every such text of a report gives its observation, so the formats agree
exactly where the leaves in updates of their own do (`lldp_formats_agree_iff`).
-/

namespace Rastreo

open List Option String

/-! ## Members of an object -/

/-- A name, perhaps after that of a module. -/
def Qualifies (k name : String) : Prop := k = name ∨ ∃ m : String, k = m ++ ":" ++ name

instance (k name : String) : Decidable (Qualifies k name) :=
  decidable_of_iff (k = name ∨ (':' :: name.toList) <:+ k.toList) <| or_congr_right <| by
    constructor
    · rintro ⟨m, hm⟩
      refine ⟨String.ofList m, String.ext ?_⟩
      rw [← hm]
      simp [toList_append]
    · rintro ⟨m, rfl⟩
      exact ⟨m.toList, by simp [toList_append]⟩

def HasMember (json : Json) (name : String) (P : Json → Prop) : Prop :=
  ∃ before k v after, json = .object (before ++ (k, v) :: after) ∧ Qualifies k name ∧ P v ∧
    ∀ kv ∈ before ++ after, ¬Qualifies kv.1 name

def LacksMember (json : Json) (name : String) : Prop :=
  ∃ map, json = .object map ∧ ∀ kv ∈ map, ¬Qualifies kv.1 name

lemma stripModule_of_not_mem {k : String} (h : ':' ∉ k.toList) : stripModule k = k := by
  rw [stripModule, splitChar_of_not_mem h]
  rfl

variable {name : String}

lemma stripModule_append {m : String} (h : ':' ∉ name.toList) :
    stripModule (m ++ ":" ++ name) = name := by
  have hname : splitChar ':' name = [name] := splitChar_of_not_mem h
  have hsplit : splitChar ':' (m ++ ":" ++ name) = splitChar ':' m ++ splitChar ':' name := by
    have htext : (m ++ ":" ++ name).toList = m.toList ++ ':' :: name.toList := by
      simp [toList_append]
    rw [splitChar, htext, List.splitOn, splitOnP_append_cons _ _ (by simp), map_append]
    rfl
  rw [stripModule, hsplit, hname, getLastD_concat]

lemma stripModule_eq_iff {k : String} (h : ':' ∉ name.toList) :
    stripModule k = name ↔ Qualifies k name := by
  constructor
  · intro hstrip
    by_cases hcolon : ':' ∈ k.toList
    · -- the part after the last colon
      obtain ⟨after, before, hsplit, hfree⟩ :=
        eq_append_cons_of_mem (mem_reverse.mpr hcolon)
      have hk : k = String.ofList before.reverse ++ ":" ++ String.ofList after.reverse := by
        refine String.ext ?_
        simp_all
      have hlast : ':' ∉ (String.ofList after.reverse).toList := by simpa using hfree
      rw [hk, stripModule_append hlast] at hstrip
      exact .inr ⟨_, hstrip ▸ hk⟩
    · exact .inl (by rwa [stripModule_of_not_mem hcolon] at hstrip)
  · rintro (rfl | ⟨m, rfl⟩)
    · exact stripModule_of_not_mem h
    · exact stripModule_append h

variable {json : Json}

lemma HasMember.strippedGet {P : Json → Prop} (h : HasMember json name P)
    (hname : ':' ∉ name.toList) :
    ∃ v, strippedGet json name = some v ∧ P v := by
  obtain ⟨before, k, v, after, rfl, hk, hv, hothers⟩ := h
  have hbefore : ∀ kv ∈ before, ¬decide (stripModule kv.1 = name) = true := by
    intro kv hkv
    rw [decide_eq_true_iff, stripModule_eq_iff hname]
    grind
  have hhere : decide (stripModule k = name) = true :=
    decide_eq_true ((stripModule_eq_iff hname).mpr hk)
  refine ⟨v, ?_, hv⟩
  rw [Rastreo.strippedGet, find?_append, find?_eq_none.mpr hbefore, none_or, find?_cons, hhere]
  rfl

lemma LacksMember.strippedGet (h : LacksMember json name) (hname : ':' ∉ name.toList) :
    strippedGet json name = none := by
  obtain ⟨map, rfl, hothers⟩ := h
  have hnone : ∀ kv ∈ map, ¬decide (stripModule kv.1 = name) = true := by
    intro kv hkv
    rw [decide_eq_true_iff, stripModule_eq_iff hname]
    exact hothers kv hkv
  rw [Rastreo.strippedGet, find?_eq_none.mpr hnone]
  rfl

def EncodesText (json : Json) (name : String) (text : Option String) : Prop :=
  match text with
  | some v => HasMember json name (· = .string v)
  | none => LacksMember json name

lemma EncodesText.strippedStr {text : Option String} (h : EncodesText json name text)
    (hname : ':' ∉ name.toList) (hblank : ∀ v, text = some v → trim v ≠ "") :
    strippedStr json name = text.map trim := by
  cases htext : text with
  | none =>
    rw [htext] at h
    rw [Rastreo.strippedStr, LacksMember.strippedGet h hname]
    rfl
  | some v =>
    rw [htext] at h
    obtain ⟨w, hget, rfl⟩ := HasMember.strippedGet h hname
    rw [Rastreo.strippedStr, hget]
    grind

/-! ## Texts of a report -/

def EncodesNeighbor (nbr : String × NeighborLeaves) (json : Json) : Prop :=
  EncodesText json "id" (some nbr.1) ∧
    HasMember json "state" fun state => ∀ leaf, EncodesText state leaf.name (nbr.2 leaf)

/-- The container may be missing if there are no neighbours. -/
def EncodesInterface (intf : String × List (String × NeighborLeaves)) (json : Json) :
    Prop :=
  EncodesText json "name" (some intf.1) ∧
    ((HasMember json "neighbors" fun neighbors => HasMember neighbors "neighbor" fun list =>
        ∃ items, list = .array items ∧ List.Forall₂ EncodesNeighbor intf.2 items) ∨
      LacksMember json "neighbors" ∧ LacksMember json "neighbor" ∧ intf.2 = [])

def interfaceEntries (interfaces : List (String × List (String × NeighborLeaves))) :
    List LldpEntry :=
  interfaces.flatMap fun intf => intf.2.map fun nbr => ((intf.1, nbr.1), nbr.2)

/-- Without an object around it. An empty container may be missing. -/
structure LldpReport.EncodedBy (report : LldpReport) (json : Json) : Prop where
  unwrapped : LacksMember json "lldp"
  state : (HasMember json "state" fun state =>
      ∀ leaf : ChassisLeaf, EncodesText state leaf.name (report.chassis leaf)) ∨
    LacksMember json "state" ∧ ∀ leaf, report.chassis leaf = none
  interfaces : ∃ interfaces, (interfaceEntries interfaces).Perm report.entries ∧
    ((HasMember json "interfaces" fun container => HasMember container "interface" fun list =>
        ∃ items, list = .array items ∧ List.Forall₂ EncodesInterface interfaces items) ∨
      LacksMember json "interfaces" ∧ LacksMember json "interface" ∧ interfaces = [])

/-- As JSON, perhaps in an object `lldp`. -/
def LldpReport.InSubtree (report : LldpReport) (fromSlice : String → Option Json)
    (response : GetResponse) : Prop :=
  ∃ pathPrefix update text json root, response.updates = [(pathPrefix, update)] ∧
    strippedElems (joinedElems pathPrefix update.path) = [⟨"lldp", []⟩] ∧
    (update.val = some (.json text) ∨ update.val = some (.jsonIetf text)) ∧
    fromSlice text = some json ∧ report.EncodedBy root ∧
    (json = root ∨ ∃ k, Qualifies k "lldp" ∧ json = .object [(k, root)])

/-! ## Reading the texts -/

lemma NeighborLeaf.colon_notMem_name (leaf : NeighborLeaf) : ':' ∉ leaf.name.toList := by
  cases leaf <;> decide

lemma ChassisLeaf.colon_notMem_name (leaf : ChassisLeaf) : ':' ∉ leaf.name.toList := by
  cases leaf <;> decide

lemma EncodesText.strippedStr_key {key : String} (h : EncodesText json name (some key))
    (hname : ':' ∉ name.toList) (hkey : IsListKey key) :
    Rastreo.strippedStr json name = some key := by
  have hblank : ∀ v, some key = some v → trim v ≠ "" := by
    rintro v hv
    rw [← Option.some.inj hv, hkey.2.1]
    exact hkey.1
  rw [h.strippedStr hname hblank, map_some, hkey.2.1]

def entryOp (e : LldpEntry) : LldpOp :=
  .neighbor e.1 (trimmed e.2)

/-- With keys that name it and leaves that are not blank. -/
def LldpEntry.Ok (e : LldpEntry) : Prop :=
  (IsListKey e.1.1 ∧ IsListKey e.1.2) ∧ ∀ leaf v, e.2 leaf = some v → trim v ≠ ""

lemma ingestNeighborJson_of_encodes {nbr : String × NeighborLeaves}
    (h : EncodesNeighbor nbr json) (hok : LldpEntry.Ok ((name, nbr.1), nbr.2)) (b : LldpBuilder) :
    LldpBuilder.ingestNeighborJson name b json = b.apply (entryOp ((name, nbr.1), nbr.2)) := by
  obtain ⟨hidText, hstate⟩ := h
  obtain ⟨state, hget, hleaves⟩ := hstate.strippedGet (by decide)
  have hread : ∀ leaf, strippedStr state leaf.name = trimmed nbr.2 leaf := fun leaf =>
    (hleaves leaf).strippedStr leaf.colon_notMem_name (hok.2 leaf)
  unfold LldpBuilder.ingestNeighborJson
  rw [hidText.strippedStr_key (by decide) hok.1.2, hget, getD_some]
  simp only [applyNeighborState_eq, hread]
  rfl

lemma foldl_ingestNeighborJson {nbrs : List (String × NeighborLeaves)}
    {items : List Json} (h : List.Forall₂ EncodesNeighbor nbrs items)
    (hok : ∀ nbr ∈ nbrs, LldpEntry.Ok ((name, nbr.1), nbr.2)) (b : LldpBuilder) :
    items.foldl (LldpBuilder.ingestNeighborJson name) b =
      (nbrs.map fun nbr => entryOp ((name, nbr.1), nbr.2)).foldl LldpBuilder.apply b := by
  induction h generalizing b with
  | nil => rfl
  | @cons nbr item nbrs items hnbr _ ih =>
    rw [foldl_cons, map_cons, foldl_cons,
      ingestNeighborJson_of_encodes hnbr (hok nbr mem_cons_self)]
    exact ih (fun n hn => hok n (mem_cons_of_mem _ hn)) _

variable {intf : String × List (String × NeighborLeaves)}

lemma EncodesInterface.neighborList (h : EncodesInterface intf json) :
    (∃ items,
      (strippedGet ((strippedGet json "neighbors").getD json) "neighbor").bind Json.asArray =
        some items ∧ List.Forall₂ EncodesNeighbor intf.2 items) ∨
      (strippedGet ((strippedGet json "neighbors").getD json) "neighbor").bind Json.asArray = none ∧
        intf.2 = [] := by
  rcases h.2 with hnei | ⟨hlacks, hlac', hempty⟩
  · obtain ⟨container, hcon, hlist⟩ := hnei.strippedGet (by decide)
    obtain ⟨list, hget, items, rfl, hitems⟩ := hlist.strippedGet (by decide)
    rw [hcon, getD_some, hget]
    exact .inl ⟨items, rfl, hitems⟩
  · rw [hlacks.strippedGet (by decide), getD_none, hlac'.strippedGet (by decide)]
    grind

lemma ingestInterfaceJson_of_encodes (h : EncodesInterface intf json)
    (hok : ∀ nbr ∈ intf.2, LldpEntry.Ok ((intf.1, nbr.1), nbr.2)) (b : LldpBuilder) :
    b.ingestInterfaceJson json =
      (intf.2.map fun nbr => entryOp ((intf.1, nbr.1), nbr.2)).foldl LldpBuilder.apply b := by
  unfold LldpBuilder.ingestInterfaceJson
  cases hnbrs : intf.2 with
  | nil =>
    -- whatever the interface is called, nothing is read
    have hlist := h.neighborList
    rw [hnbrs] at hlist
    cases strippedStr json "name" with
    | none => rfl
    | some name =>
      rcases hlist with ⟨items, hitems, hnone⟩ | ⟨hnone, -⟩
      · cases hnone
        simp only [hitems]
        rfl
      · simp only [hnone]
        rfl
  | cons nbr nbrs =>
    have hname : IsListKey intf.1 := (hok nbr (hnbrs ▸ mem_cons_self)).1.1
    rw [h.1.strippedStr_key (by decide) hname]
    rcases h.neighborList with ⟨items, hitems, henc⟩ | ⟨-, hempty⟩
    · simp only [hitems]
      rw [← hnbrs]
      exact foldl_ingestNeighborJson henc hok b
    · grind

lemma foldl_ingestInterfaceJson
    {interfaces : List (String × List (String × NeighborLeaves))}
    {items : List Json} (h : List.Forall₂ EncodesInterface interfaces items)
    (hok : ∀ e ∈ interfaceEntries interfaces, e.Ok) (b : LldpBuilder) :
    items.foldl LldpBuilder.ingestInterfaceJson b =
      ((interfaceEntries interfaces).map entryOp).foldl LldpBuilder.apply b := by
  induction h generalizing b with
  | nil => rfl
  | @cons intf item interfaces items hintf _ ih =>
    have hhead : ∀ nbr ∈ intf.2,
        ((intf.1, nbr.1), nbr.2) ∈ interfaceEntries (intf :: interfaces) := fun nbr hnbr =>
      mem_flatMap.mpr ⟨intf, mem_cons_self, mem_map.mpr ⟨nbr, hnbr, rfl⟩⟩
    have htail : ∀ e ∈ interfaceEntries interfaces, e ∈ interfaceEntries (intf :: interfaces) :=
      fun e he => mem_append_right _ he
    have hread := ingestInterfaceJson_of_encodes hintf (fun nbr hnbr => hok _ (hhead nbr hnbr)) b
    rw [foldl_cons, hread, ih fun e he => hok e (htail e he)]
    rw [interfaceEntries, interfaceEntries, flatMap_cons, map_append, foldl_append, List.map_map]
    rfl

lemma ingestChassisJson_of_encodes {chassis : ChassisLeaf → Option String} {state : Json}
    (h : ∀ leaf : ChassisLeaf, EncodesText state leaf.name (chassis leaf))
    (hblank : ∀ leaf v, chassis leaf = some v → trim v ≠ "") (b : LldpBuilder) :
    b.ingestChassisJson state = b.apply (.chassis (trimmed chassis)) := by
  have hread : ∀ leaf, strippedStr state leaf.name = trimmed chassis leaf := fun leaf =>
    (h leaf).strippedStr leaf.colon_notMem_name (hblank leaf)
  have hid : strippedStr state "chassis-id" = trimmed chassis .id := hread .id
  have htype : strippedStr state "chassis-id-type" = trimmed chassis .idType := hread .idType
  rw [LldpBuilder.ingestChassisJson, hid, htype]
  rfl

lemma descendLldpWrapper_eq {root : Json} (hroot : LacksMember root "lldp")
    (h : json = root ∨ ∃ k, Qualifies k "lldp" ∧ json = .object [(k, root)]) :
    descendLldpWrapper json = root := by
  rcases h with rfl | ⟨k, hk, rfl⟩
  · obtain ⟨map, rfl, hothers⟩ := hroot
    unfold descendLldpWrapper
    split
    · next k v hmap =>
      obtain rfl := Json.object.inj hmap
      have hk := hothers _ mem_cons_self
      rw [← stripModule_eq_iff (by decide)] at hk
      exact if_neg hk
    · rfl
  · have hstrip : stripModule k = "lldp" := (stripModule_eq_iff (by decide)).mpr hk
    exact if_pos hstrip

lemma LldpReport.EncodedBy.ingestContainerJson {report : LldpReport} {root : Json}
    (h : report.EncodedBy root)
    (hjson : json = root ∨ ∃ k, Qualifies k "lldp" ∧ json = .object [(k, root)]) :
    ∃ entries : List LldpEntry,
      entries.Perm report.entries ∧ ∀ b : LldpBuilder, b.ingestContainerJson json =
        (.chassis (trimmed report.chassis) :: entries.map entryOp).foldl LldpBuilder.apply b := by
  obtain ⟨interfaces, hperm, hins⟩ := h.interfaces
  refine ⟨interfaceEntries interfaces, hperm, fun b => ?_⟩
  have hcha : (strippedGet root "state").elim b b.ingestChassisJson =
      b.apply (.chassis (trimmed report.chassis)) := by
    rcases h.state with hstate | ⟨hlacks, hnone⟩
    · obtain ⟨state, hget, hleaves⟩ := hstate.strippedGet (by decide)
      rw [hget]
      exact ingestChassisJson_of_encodes hleaves report.chassis_nonblank b
    · have hempty : trimmed report.chassis = fun _ => none := by
        funext leaf
        rw [trimmed, hnone leaf]
        rfl
      rw [hlacks.strippedGet (by decide), hempty]
      rfl
  unfold LldpBuilder.ingestContainerJson
  rw [descendLldpWrapper_eq h.unwrapped hjson]
  simp only [hcha]
  rcases hins with hins | ⟨hlacks, hlac', rfl⟩
  · obtain ⟨container, hcon, hlist⟩ := hins.strippedGet (by decide)
    obtain ⟨list, hget, items, rfl, hitems⟩ := hlist.strippedGet (by decide)
    rw [hcon, getD_some, hget]
    refine foldl_ingestInterfaceJson hitems (fun e he => ?_) _
    exact ⟨report.named e (hperm.mem_iff.mp he), report.leaf_nonblank e (hperm.mem_iff.mp he)⟩
  · rw [hlacks.strippedGet (by decide), getD_none, hlac'.strippedGet (by decide)]
    rfl

section Formats

variable [CaseMapping]

lemma LldpReport.InSubtree.parseLldpResponse_eq {report : LldpReport}
    {fromSlice : String → Option Json} {response : GetResponse}
    (h : report.InSubtree fromSlice response) :
    parseLldpResponse fromSlice response = report.observation := by
  obtain ⟨pathPrefix, update, text, json, root, hupd, helems, hval, htext, hroot, hjson⟩ := h
  obtain ⟨entries, hperm, hread⟩ := hroot.ingestContainerJson hjson
  have hkey : elemKey (joinedElems pathPrefix update.path) "interface" "name" = none := by
    rw [elemKey_strippedElems, helems]
    rfl
  have hupdate : LldpBuilder.ingestUpdate fromSlice {} pathPrefix update =
      LldpBuilder.ingestContainerJson {} json := by
    unfold LldpBuilder.ingestUpdate
    rcases hval with hval | hval <;>
    · rw [hval]
      dsimp only [jsonBlob]
      rw [htext]
      dsimp only [LldpBuilder.ingestJson]
      rw [hkey]
  rw [parseLldpResponse, hupd, foldl_cons, foldl_nil, hupdate, hread]
  refine finish_foldl_apply ?_ (fun leaf v => ?_) (fun k => ?_) fun e he leaf v => ?_
  · rw [List.map_map]
    exact report.distinct
  · constructor
    · rintro ⟨op, hop, hsets⟩
      rcases mem_cons.mp hop with rfl | hop
      · exact hsets
      · obtain ⟨e, -, rfl⟩ := mem_map.mp hop
        cases hsets
    · exact fun hv => ⟨_, mem_cons_self, hv⟩
  · rw [List.map_map]
    constructor
    · rintro ⟨op, hop, hkey⟩
      rcases mem_cons.mp hop with rfl | hop
      · cases hkey
      · obtain ⟨e, he, rfl⟩ := mem_map.mp hop
        exact mem_map.mpr ⟨e, hperm.mem_iff.mp he, Option.some.inj hkey⟩
    · intro hk
      obtain ⟨e, he, rfl⟩ := mem_map.mp hk
      have hop := mem_map_of_mem (f := entryOp) (hperm.mem_iff.mpr he)
      exact ⟨_, mem_cons_of_mem _ hop, rfl⟩
  · obtain ⟨e, hmem, rfl⟩ := mem_map.mp he
    constructor
    · rintro ⟨op, hop, hsets⟩
      rcases mem_cons.mp hop with rfl | hop
      · cases hsets
      · obtain ⟨e', he', rfl⟩ := mem_map.mp hop
        have hsets : (if e.1 = e'.1 then trimmed e'.2 leaf else none) = some v := hsets
        split_ifs at hsets with hkey
        rwa [inj_on_of_nodup_map report.distinct hmem (hperm.mem_iff.mp he') hkey]
    · intro hv
      have hop := mem_map_of_mem (f := entryOp) (hperm.mem_iff.mpr hmem)
      exact ⟨_, mem_cons_of_mem _ hop, (if_pos rfl).trans hv⟩

/-- **The formats of the LLDP subtree**: as JSON it gives the observation of the report. In one
update per leaf it does exactly if every neighbour has a leaf, and the leaves encoded as JSON
strings, which are dropped, do not show. -/
theorem lldp_formats_agree_iff (fromSlice : String → Option Json) (report : LldpReport) :
    (∀ response, report.InSubtree fromSlice response →
      parseLldpResponse fromSlice response = report.observation) ∧
    ∀ carried response, report.InLeaves fromSlice carried response →
      (parseLldpResponse fromSlice response = report.observation ↔
        (∀ e ∈ report.entries, ∃ leaf v, e.2 leaf = some v) ∧
          ∀ c ∈ carried, c.inJson = true → report.Silent c.leaf c.value) :=
  ⟨fun _ h => h.parseLldpResponse_eq, fun _ _ h => h.parseLldpResponse_iff⟩

end Formats

attribute [local instance] CaseMapping.ascii

/-! ### A cable -/

def cableNeighborLeaves : NeighborLeaves
  | .chassisId => some "ccdd"
  | _ => none

/-- A device that reports its chassis and one neighbour. -/
def cableReport : LldpReport where
  chassis
    | .id => some "aabb"
    | .idType => none
  entries := [(("eth0", "1"), cableNeighborLeaves)]
  distinct := nodup_singleton _
  named := by
    intro e he
    obtain rfl := mem_singleton.mp he
    unfold IsListKey
    decide
  chassis_nonblank := by
    intro leaf v hv
    cases leaf with
    | id =>
      obtain rfl := Option.some.inj hv
      decide
    | idType => cases hv
  leaf_nonblank := by
    intro e he leaf v hv
    obtain rfl := mem_singleton.mp he
    cases leaf with
    | chassisId =>
      obtain rfl := Option.some.inj hv
      decide
    | _ => cases hv

/-- The leaves of the report, all in one encoding. -/
def cableLeaves (inJson : Bool) : List CarriedLeaf :=
  [⟨.neighbor ("eth0", "1") .chassisId, "ccdd", inJson⟩, ⟨.chassis .id, "aabb", inJson⟩]

/-- The beginning of the paths is the prefix. -/
def cableUpdates (inJson : Bool) : GetResponse :=
  ⟨[⟨some ⟨[⟨"openconfig-lldp:lldp", []⟩]⟩,
    [⟨some ⟨[⟨"interfaces", []⟩, ⟨"interface", [("name", "eth0")]⟩, ⟨"neighbors", []⟩,
        ⟨"neighbor", [("id", "1")]⟩, ⟨"state", []⟩, ⟨"chassis-id", []⟩]⟩,
      some (if inJson then .jsonIetf "\"ccdd\"" else .string "ccdd")⟩,
    ⟨some ⟨[⟨"state", []⟩, ⟨"chassis-id", []⟩]⟩,
      some (if inJson then .jsonIetf "\"aabb\"" else .string "aabb")⟩]⟩]⟩

def cableNeighbor : Json :=
  .object [("id", .string "1"), ("state", .object [("chassis-id", .string "ccdd")])]

def cableInterface : Json :=
  .object [("name", .string "eth0"), ("neighbors", .object [("neighbor", .array [cableNeighbor])])]

def cableSubtree : Json :=
  .object [("interfaces", .object [("interface", .array [cableInterface])]),
    ("state", .object [("chassis-id", .string "aabb")])]

def cableText : String :=
  "\x7b\"openconfig-lldp:lldp\":\x7b\"interfaces\":\x7b\"interface\":[\x7b\"name\":\"eth0\"," ++
    "\"neighbors\":\x7b\"neighbor\":[\x7b\"id\":\"1\",\"state\":\x7b\"chassis-id\":\"ccdd\"" ++
    "\x7d\x7d]\x7d\x7d]\x7d,\"state\":\x7b\"chassis-id\":\"aabb\"\x7d\x7d\x7d"

def cableResponse : GetResponse :=
  ⟨[⟨none, [⟨some ⟨[⟨"lldp", []⟩]⟩, some (.jsonIetf cableText)⟩]⟩]⟩

/-- The reader of the texts in the responses. -/
def cableReader (text : String) : Option Json :=
  [("\"ccdd\"", Json.string "ccdd"), ("\"aabb\"", .string "aabb"),
    (cableText, .object [("openconfig-lldp:lldp", cableSubtree)])].lookup text

lemma inLeaves_cableUpdates (inJson : Bool) :
    cableReport.InLeaves cableReader (cableLeaves inJson) (cableUpdates inJson) where
  once := by simp [cableLeaves]
  all leaf v := by
    constructor
    · intro h
      cases leaf with
      | chassis leaf =>
        cases leaf with
        | id =>
          obtain rfl := Option.some.inj h
          exact ⟨⟨.chassis .id, "aabb", inJson⟩, by simp [cableLeaves], rfl, rfl⟩
        | idType => cases h
      | neighbor key leaf =>
        obtain ⟨leaves, hmem, hv⟩ := h
        obtain ⟨rfl, rfl⟩ := Prod.mk.inj (mem_singleton.mp hmem)
        cases leaf with
        | chassisId =>
          obtain rfl := Option.some.inj hv
          exact ⟨⟨.neighbor ("eth0", "1") .chassisId, "ccdd", inJson⟩, by simp [cableLeaves], rfl,
            rfl⟩
        | _ => cases hv
    · rintro ⟨c, hc, rfl, rfl⟩
      simp only [cableLeaves, mem_cons, not_mem_nil, or_false] at hc
      rcases hc with rfl | rfl
      · exact ⟨_, mem_singleton.mpr rfl, rfl⟩
      · rfl
  updates := by
    cases inJson with
    | false => exact .cons ⟨by decide, rfl⟩ (.cons ⟨by decide, rfl⟩ .nil)
    | true =>
      exact .cons ⟨by decide, _, .inr rfl, rfl⟩ (.cons ⟨by decide, _, .inr rfl, rfl⟩ .nil)

lemma inSubtree_cableResponse : cableReport.InSubtree cableReader cableResponse := by
  have htext : cableReader cableText = some (.object [("openconfig-lldp:lldp", cableSubtree)]) := by
    have hnei : (cableText == "\"ccdd\"") = false := by decide +kernel
    have hcha : (cableText == "\"aabb\"") = false := by decide +kernel
    simp only [cableReader, lookup_cons, hnei, hcha, beq_self_eq_true]
  have hnei : EncodesNeighbor ("1", cableNeighborLeaves) cableNeighbor := by
    refine ⟨⟨[], "id", _, _, rfl, .inl rfl, rfl, by decide⟩,
      [_], "state", _, [], rfl, .inl rfl, fun leaf => ?_, by decide⟩
    cases leaf with
    | chassisId => exact ⟨[], "chassis-id", _, [], rfl, .inl rfl, rfl, by decide⟩
    | _ => exact ⟨_, rfl, by decide⟩
  have hine : EncodesInterface ("eth0", [("1", cableNeighborLeaves)]) cableInterface := by
    refine ⟨⟨[], "name", _, _, rfl, .inl rfl, rfl, by decide⟩, .inl ?_⟩
    refine ⟨[_], "neighbors", _, [], rfl, .inl rfl, ?_, by decide⟩
    exact ⟨[], "neighbor", _, [], rfl, .inl rfl, ⟨_, rfl, .cons hnei .nil⟩, by decide⟩
  have hroot : cableReport.EncodedBy cableSubtree := by
    refine ⟨⟨_, rfl, by decide⟩, .inl ?_, [("eth0", [("1", cableNeighborLeaves)])], .refl _,
      .inl ?_⟩
    · refine ⟨[_], "state", _, [], rfl, .inl rfl, fun leaf => ?_, by decide⟩
      cases leaf with
      | id => exact ⟨[], "chassis-id", _, [], rfl, .inl rfl, rfl, by decide⟩
      | idType => exact ⟨_, rfl, by decide⟩
    · refine ⟨[], "interfaces", _, [_], rfl, .inl rfl, ?_, by decide⟩
      exact ⟨[], "interface", _, [], rfl, .inl rfl, ⟨_, rfl, .cons hine .nil⟩, by decide⟩
  exact ⟨none, _, cableText, _, cableSubtree, rfl, by decide, .inr rfl, htext, hroot,
    .inr ⟨_, .inr ⟨"openconfig-lldp", by decide⟩, rfl⟩⟩

/-- As protobuf strings and as a subtree the report is seen. -/
theorem lldp_formats_agree_cable :
    parseLldpResponse cableReader (cableUpdates false) = cableReport.observation ∧
      parseLldpResponse cableReader cableResponse = cableReport.observation := by
  have hagree := lldp_formats_agree_iff cableReader cableReport
  refine ⟨(hagree.2 _ _ (inLeaves_cableUpdates false)).mpr ⟨?_, ?_⟩,
    hagree.1 _ inSubtree_cableResponse⟩
  · intro e he
    obtain rfl := mem_singleton.mp he
    exact ⟨.chassisId, "ccdd", rfl⟩
  · simp [cableLeaves]

/-- Leaves encoded as JSON strings: the device is seen without its chassis and its neighbour's; as a
subtree it has both. -/
theorem json_leaves_dropped :
    cableReport.InLeaves cableReader (cableLeaves true) (cableUpdates true) ∧
      cableReport.InSubtree cableReader cableResponse ∧
      parseLldpResponse cableReader (cableUpdates true) =
        ⟨"", 0, [⟨"eth0", "", 0, "", 0, none, none⟩], "gnmi"⟩ ∧
      parseLldpResponse cableReader cableResponse =
        ⟨"aabb", 0, [⟨"eth0", "ccdd", 0, "", 0, none, none⟩], "gnmi"⟩ := by
  refine ⟨inLeaves_cableUpdates true, inSubtree_cableResponse, ?_, ?_⟩
  · decide +kernel
  · decide +kernel

end Rastreo
