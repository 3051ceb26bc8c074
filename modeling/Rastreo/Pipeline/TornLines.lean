import Rastreo.Library.Lines
import Rastreo.Sink.Append

/-!
# NDJSON files across a crash and a resume

A crash may leave an unfinished line, and the run that resumes appends its first record right behind
it.  It starts with the target of the checkpoint, whose record is safe in an earlier line; but if
that yields no record, the record of a later target is joined to the unfinished line and may be lost
(`torn_line_loses_record`).  Otherwise every target that yields a record has a line
(`ndjson_survives_resume`).
-/

namespace Rastreo

open Async List Option

/-! ## The encoder -/

def newline : UInt8 := 10

/-- `serde_json::to_writer`: compact JSON, in which line breaks are escaped. -/
structure JsonWriter where
  record : DeviceRecord → Except String Bytes
  link : LinkRecord → Except String Bytes
  profile : CollectionProfileRecord → Except String Bytes
  record_line : ∀ r bytes, record r = .ok bytes → newline ∉ bytes

namespace NdjsonEncoder

/-- One record per line. -/
def encode {α : Type} (toWriter : α → Except String Bytes) (x : α) : Result Bytes := do
  let bytes ← (toWriter x).mapError fun source => .encoder (.serializationFailed source)
  pure (bytes ++ [newline])

def encodeRecord (json : JsonWriter) : DeviceRecord → Result Bytes :=
  encode json.record

def encodeLink (json : JsonWriter) : LinkRecord → Result Bytes := encode json.link

def encodeProfile (json : JsonWriter) : CollectionProfileRecord → Result Bytes :=
  encode json.profile

def encoder (json : JsonWriter) : Encoder := fun _ =>
  fun
  | .device record => encodeRecord json record
  | .link link => encodeLink json link
  | .profile profile => encodeProfile json profile

end NdjsonEncoder

/-- The pipeline encodes with the NDJSON encoder. -/
def Pipeline.UsesNdjson (p : Pipeline) (json : JsonWriter) : Prop :=
  p.encoder = NdjsonEncoder.encoder json

lemma exists_of_mem_encodeAll {encoder : Encoder} {before xs : List AnyRecord}
    {bufs : List Bytes} (h : encodeAll encoder before xs = .ok bufs) {d : Bytes} (hd : d ∈ bufs) :
    ∃ x ∈ xs, ∃ before, encoder before x = .ok d := by
  induction xs generalizing before bufs with
  | nil =>
    obtain rfl := Except.ok.inj h
    exact absurd hd not_mem_nil
  | cons x xs ih =>
    obtain ⟨buf, hbuf, h⟩ := bind_eq_ok.mp h
    obtain ⟨rest, hrest, h⟩ := bind_eq_ok.mp h
    obtain rfl := Except.ok.inj h
    rcases mem_cons.mp hd with rfl | hd
    · exact ⟨x, by simp, before, hbuf⟩
    · obtain ⟨y, hy, hmem⟩ := ih hrest hd
      exact ⟨y, mem_cons_of_mem _ hy, hmem⟩

lemma isLine_of_mem_targetData [CaseMapping] {k : Leg} {json : JsonWriter}
    (hndjson : k.pipeline.UsesNdjson json) {j : ℕ} {d : Bytes} (hd : d ∈ targetData k j) :
    IsLine newline d := by
  unfold targetData at hd
  split at hd
  · rename_i bufs hbufs
    obtain ⟨records, hrecords, hbufs⟩ := bind_eq_ok.mp hbufs
    obtain ⟨x, hx, before, hencode⟩ := exists_of_mem_encodeAll hbufs (mem_filter.mp hd).1
    obtain ⟨⟨recs, fuser'⟩, -, hrecords⟩ := bind_eq_ok.mp hrecords
    obtain ⟨devices, -, hdevices⟩ := bind_eq_ok.mp hrecords
    obtain rfl := Except.ok.inj hdevices
    obtain ⟨record, -, rfl⟩ := mem_map.mp hx
    rw [hndjson] at hencode
    obtain ⟨bytes, hbytes, heq⟩ := bind_eq_ok.mp hencode
    rw [mapError_eq_ok] at hbytes
    exact ⟨bytes, (Except.ok.inj heq).symm, json.record_line record bytes hbytes⟩
  · exact absurd hd not_mem_nil

/-! ## Lines of a run -/

section Lines

variable [CaseMapping] {P : Type}

/-- What a run writes of a position of the plan, if it comes to it. -/
def PastRun.dataAt (scenario : DiscoverScenarioConfig) (plan : ResolvedPlan) (r : PastRun P)
    (fuser : Fuser) (t : ℕ) : List Bytes :=
  targetData (r.leg scenario plan fuser) (t - resumeBase r.found)

/-- The position yielded a record, encoded as this line and written. -/
def PastRun.Yields (scenario : DiscoverScenarioConfig) (plan : ResolvedPlan) (r : PastRun P) (t : ℕ)
    (line : Bytes) : Prop :=
  resumeBase r.found ≤ t ∧ t < plan.intoStream.length ∧
    ∃ fuser, createFuser r.opts.mib scenario.effectiveFuserConfig = .ok fuser ∧
      line ++ [newline] ∈ r.dataAt scenario plan fuser t ∧
      line ++ [newline] ∈ writtenData r.final.log

/-- The first target that yielded a record in a run. -/
def PastRun.YieldsFirst (scenario : DiscoverScenarioConfig) (plan : ResolvedPlan) (r : PastRun P)
    (t : ℕ) : Prop :=
  (∃ line, r.Yields scenario plan t line) ∧ ∀ u < t, ∀ line, ¬ r.Yields scenario plan u line

variable {scenario : DiscoverScenarioConfig} {plan : ResolvedPlan} {r : PastRun P} {fuser : Fuser}
  {json : JsonWriter} {n t : ℕ} {line before file : Bytes}

lemma firstData_split {k : Leg} {j : ℕ} (hj : j < n) {d : Bytes} (hd : d ∈ targetData k j) :
    ∃ start rest, firstData k n = (firstData k j ++ start) ++ d :: rest ∧
      ∀ d' ∈ start, d' ∈ targetData k j := by
  obtain ⟨start, rest, hsplit⟩ := append_of_mem hd
  obtain ⟨m, rfl⟩ : ∃ m, n = j + 1 + m := ⟨n - (j + 1), by omega⟩
  have hrange : List.range (j + 1 + m) = List.range (j + 1) ++ List.range' (j + 1) m := by
    rw [range_eq_range', range_eq_range', ← range'_append_1, Nat.zero_add]
  refine ⟨start, rest ++ (List.range' (j + 1) m).flatMap (targetData k), ?_,
    fun d' hd' => by rw [hsplit]; exact mem_append_left _ hd'⟩
  have hfirst : firstData k (j + 1 + m) =
      firstData k (j + 1) ++ (List.range' (j + 1) m).flatMap (targetData k) := by
    rw [firstData, hrange, flatMap_append]
    rfl
  rw [hfirst, firstData_succ, hsplit]
  simp

/-- A filed record is a line if the file ended with one before the run, or the run wrote one of an
earlier target. -/
lemma line_of_filed (hndjson : r.opts.stages.UsesNdjson json)
    (hfiled : Filed (r.leg scenario plan fuser) n r.final.log)
    (hbase : resumeBase r.found ≤ t) (ht : t < resumeBase r.found + n)
    (hline : line ++ [newline] ∈ r.dataAt scenario plan fuser t)
    (hfile : FileAfter before r.final.log file)
    (hends : EndsLine newline before ∨ ∃ u, resumeBase r.found ≤ u ∧ u < t ∧
      r.dataAt scenario plan fuser u ≠ []) :
    line ∈ completeLines newline file := by
  have hlines : ∀ {j d}, d ∈ targetData (r.leg scenario plan fuser) j → IsLine newline d :=
    isLine_of_mem_targetData (k := r.leg scenario plan fuser) hndjson
  have hj : t - resumeBase r.found < n := by omega
  obtain ⟨start, rest, hsplit, hstart⟩ := firstData_split hj hline
  have hwhole := hfile.filed hfiled
  rw [hsplit] at hwhole
  have hall : ∀ d ∈ firstData (r.leg scenario plan fuser) (t - resumeBase r.found) ++ start,
      IsLine newline d := by
    intro d hd
    rcases mem_append.mp hd with hd | hd
    · obtain ⟨i, -, hi⟩ := mem_flatMap.mp hd
      exact hlines hi
    · exact hlines (hstart d hd)
  have hnew : newline ∉ line := by
    obtain ⟨line', heq, hnotin⟩ := hlines hline
    simp_all
  refine mem_completeLines_of_appended hall hnew (hends.imp_right ?_) hwhole
  rintro ⟨u, hbase', hut, hne⟩ hnil
  obtain ⟨d, hd⟩ := exists_mem_of_ne_nil _ hne
  have hmem : d ∈ firstData (r.leg scenario plan fuser) (t - resumeBase r.found) :=
    mem_flatMap.mpr ⟨u - resumeBase r.found, mem_range.mpr (by omega), hd⟩
  rw [append_eq_nil_iff] at hnil
  rw [hnil.1] at hmem
  exact absurd hmem not_mem_nil

/-! ## Two runs -/

variable {digest : Digest} {runs : List (PastRun P)} {left : Option Checkpoint}

lemma History.files (h : History digest scenario plan runs left) :
    ∀ r ∈ runs, ∀ fuser, createFuser r.opts.mib scenario.effectiveFuserConfig = .ok fuser →
      r.Files scenario plan fuser :=
  fun r hr _ hfuser => (h.traced.1 r hr).files hfuser

lemma History.last (h : History digest scenario plan (runs ++ [r]) left) :
    History digest scenario plan runs r.found ∧ r.final.file = left ∧
      r.opts.checkpoint.map (·.resume) = some !runs.isEmpty := by
  generalize hall : runs ++ [r] = all at h
  cases h with
  | start => simp at hall
  | next past opts resolver now opened hresume hfirst hscans hrun => simp_all

variable {first second : PastRun P}

/-- A run that completes after another, resumed from a checkpoint up to which targets are filed. -/
lemma filed_of_resumed (h : History digest scenario plan [first, second] left)
    (hcompleted : second.Completed) (hplan : 0 < plan.intoStream.length) {fuser : Fuser}
    (hfuser : createFuser first.opts.mib scenario.effectiveFuserConfig = .ok fuser) :
    resumeBase first.found = 0 ∧
    Filed (first.leg scenario plan fuser) (resumeBase second.found + 1) first.final.log := by
  have htwo : History digest scenario plan ([first] ++ [second]) left := h
  obtain ⟨hone, -, hresume⟩ := htwo.last
  have hsingle : History digest scenario plan ([] ++ [first]) second.found := hone
  obtain ⟨hzero, hfile, -⟩ := hsingle.last
  have hfound : first.found = none := by
    generalize first.found = found at hzero
    generalize hnil : ([] : List (PastRun P)) = earlier at hzero
    cases hzero with
    | start => rfl
    | next past opts resolver now opened hresume hfirst hscans hrun => simp at hnil
  have hok := h.traced.2
  -- The second run was to resume, so it has found a checkpoint: the last the first one recorded.
  have hsome : second.found.isSome = true := by
    by_contra hnone
    have hbase : resumeBase second.found = 0 := by
      rw [not_isSome_iff_eq_none.mp hnone]
      rfl
    obtain ⟨-, fuser', hfuser', -⟩ :=
      ((hok.ok second (by simp)).completed hcompleted).2 0 hbase.le hplan
    have hflag := ((h.files second (by simp) fuser' hfuser').completed hcompleted).1
    rw [hresume] at hflag
    grind
  obtain ⟨c, hc⟩ := isSome_iff_exists.mp hsome
  have hmem : c ∈ recorded first.final.log := by
    rcases (hok.ok first (by simp)).file_cases (hfile.trans hc) with
      ⟨earlier, hrecord⟩ | ⟨-, hfound'⟩
    · simp [hrecord]
    · grind
  obtain ⟨n, hn, hfiled⟩ := (h.files first (by simp) fuser hfuser).filed_ok c hmem
  have hbase : resumeBase first.found = 0 := by rw [hfound]; rfl
  have hlength : n = resumeBase second.found + 1 := by
    rw [hc]
    change c.highestFlushedIndex + 1 = resumeBase first.found + n at hn
    change n = c.highestFlushedIndex + 1
    omega
  exact ⟨hbase, hlength ▸ hfiled⟩

/-- NDJSON files survive a crash and a resume, unless a record is joined to an unfinished line. Take
a run that starts afresh on a file without one and ends in any way, and a run that resumes from its
checkpoint and completes; in between, the file holds what had reached it. Suppose that a target
after the checkpoint with a record written has a line already or yields a record again, and that the
file has no unfinished line when the second run starts, or the first target to yield then has a line
already. Then each target that yields a record in either run has the encoding of one as a whole line
of the final file. -/
theorem ndjson_survives_resume (h : History digest scenario plan [first, second] left)
    (hcompleted : second.Completed) (hndjson₁ : first.opts.stages.UsesNdjson json)
    (hndjson₂ : second.opts.stages.UsesNdjson json) {mid final : Bytes}
    (hbefore : EndsLine newline before) (hfile₁ : FileAfter before first.final.log mid)
    (hfile₂ : FileAfter mid second.final.log final)
    (hagain : ∀ t line, resumeBase second.found < t → first.Yields scenario plan t line →
      (∃ line' ∈ completeLines newline mid, first.Yields scenario plan t line') ∨
        ∃ line', second.Yields scenario plan t line')
    (hjoin : EndsLine newline mid ∨ ∀ t, second.YieldsFirst scenario plan t →
      ∃ line ∈ completeLines newline mid, first.Yields scenario plan t line)
    (hyields : ∃ r ∈ [first, second], ∃ line, r.Yields scenario plan t line) :
    ∃ r ∈ [first, second], ∃ line, r.Yields scenario plan t line ∧
      line ∈ completeLines newline final := by
  have hkept : ∀ line ∈ completeLines newline mid, line ∈ completeLines newline final := by
    obtain ⟨more, rfl⟩ := hfile₂.grows
    exact fun line hline => mem_completeLines_append hline more
  -- A record of the second run is a line of its own, or it is the first and there is another.
  have hsnd : ∀ t line, second.Yields scenario plan t line →
      ∃ r ∈ [first, second], ∃ line, r.Yields scenario plan t line ∧
        line ∈ completeLines newline final := by
    intro t line hline
    obtain ⟨hbase, ht, fuser, hfuser, hdata, hwr⟩ := hline
    have hfiled := ((h.files second (by simp) fuser hfuser).completed hcompleted).2
    have hlen := second.length_targets plan
    by_cases hends : EndsLine newline mid ∨ ∃ u, resumeBase second.found ≤ u ∧ u < t ∧
        second.dataAt scenario plan fuser u ≠ []
    · exact ⟨second, by simp, line, ⟨hbase, ht, fuser, hfuser, hdata, hwr⟩,
        line_of_filed hndjson₂ hfiled hbase (by omega) hdata hfile₂ hends⟩
    · rw [not_or] at hends
      have hfst : second.YieldsFirst scenario plan t := by
        refine ⟨⟨line, hbase, ht, fuser, hfuser, hdata, hwr⟩, fun u hu line' hline' => ?_⟩
        obtain ⟨hbase', -, fuser', hfuser', hdata', -⟩ := hline'
        obtain rfl : fuser' = fuser := Except.ok.inj (hfuser'.symm.trans hfuser)
        exact hends.2 ⟨u, hbase', hu, ne_nil_of_mem hdata'⟩
      obtain ⟨line', hline', hyields'⟩ := hjoin.resolve_left hends.1 t hfst
      exact ⟨first, by simp, line', hyields', hkept line' hline'⟩
  obtain ⟨r, hr, line, hline⟩ := hyields
  rcases mem_pair.mp hr with rfl | rfl
  · rcases Nat.lt_or_ge (resumeBase second.found) t with hlt | hge
    · rcases hagain t line hlt hline with ⟨line', hmid, hline'⟩ | ⟨line', hline'⟩
      · exact ⟨r, by simp, line', hline', hkept line' hmid⟩
      · exact hsnd t line' hline'
    · obtain ⟨hbase, ht, fuser, hfuser, hdata, hwr⟩ := hline
      obtain ⟨hzero, hfiled⟩ := filed_of_resumed h hcompleted (by omega) hfuser
      exact ⟨r, by simp, line, ⟨hbase, ht, fuser, hfuser, hdata, hwr⟩, hkept line
        (line_of_filed hndjson₁ hfiled hbase (by omega) hdata hfile₁ (.inl hbefore))⟩
  · exact hsnd t line hline

lemma PastRun.yields_iff {data : List Bytes}
    (hdata : (createFuser r.opts.mib scenario.effectiveFuserConfig).toOption.map
      (fun fuser => r.dataAt scenario plan fuser t) = some data) :
    r.Yields scenario plan t line ↔ resumeBase r.found ≤ t ∧ t < plan.intoStream.length ∧
      line ++ [newline] ∈ data ∧ line ++ [newline] ∈ writtenData r.final.log := by
  cases hfuser : createFuser r.opts.mib scenario.effectiveFuserConfig with
  | error e =>
    rw [hfuser] at hdata
    cases hdata
  | ok fuser =>
    rw [hfuser] at hdata
    obtain rfl := Option.some.inj hdata
    constructor
    · rintro ⟨hbase, ht, fuser', hfuser', hmem, hwr⟩
      grind
    · rintro ⟨hbase, ht, hmem, hwr⟩
      exact ⟨hbase, ht, fuser, hfuser, hmem, hwr⟩

end Lines

attribute [local instance] CaseMapping.ascii

/-! ## A record that is lost -/

/-- The JSON of a device that answered an echo request, with an open port. -/
def portText (ip : String) : String :=
  "\x7b\"identity_key\":\"ip:" ++ ip ++ "\",\"mgmt_ip\":\"" ++ ip ++ "\",\"mac\":null," ++
  "\"manufacturer\":null,\"platform\":null,\"os_version\":null,\"role\":null," ++
  "\"confidence\":0.2,\"last_seen\":\"1970-01-01T00:00:00Z\"," ++
  "\"signals\":[\x7b\"OpenPort\":22\x7d],\"probe_kinds\":[\"Icmp\"]," ++
  "\"schema_version\":\"v1\",\"schema_id\":\"" ++ currentSchemaId ++
  "\",\"possible_alias_of\":null,\"scan_metadata\":\x7b\"scan_id\":\"01\"," ++
  "\"scenario_name\":null,\"initiated_at\":\"1970-01-01T00:00:00Z\"," ++
  "\"source_config_hash\":null\x7d\x7d"

def portLine (ip : String) : Bytes := (portText ip).toUTF8.data.toList.filter (· ≠ newline)

/-- As `serde_json` writes the records of the runs below, which differ in their address only. -/
def portJson : JsonWriter where
  record r := .ok (portLine (r.mgmtIp.elim "" IpAddr.display))
  link _ := .ok []
  profile _ := .ok []
  record_line r bytes h := by
    obtain rfl := Except.ok.inj h
    simp [portLine]

/-- The line of target `t`. -/
def lineAt (t : ℕ) : Bytes := if t = 0 then portLine "10.0.0.7" else portLine "0.0.0.2"

/-- The two targets, of which the first may be silent. -/
def silentFirst (silent : Bool) (now : SystemTime) : Scan Unit ResolvedTarget :=
  { fileTargets now with
    ends := fun _ i _ target => .finished (.ok
      { kind := .icmp, targetIp := target.ip, timestamp := 0, reachable := !(silent && i == 0)
        signals := if silent && i == 0 then [] else [.openPort 22] }) }

/-- With the NDJSON encoder; it checkpoints after every target and crashes before a call of the sink
after so many calls. -/
def ndjsonRun (silent : Bool) (calls : ℕ) (resume : Bool) : RunOptions Unit :=
  { crashingAfter calls resume with
    stages := { (crashingAfter calls resume).stages with encoder := NdjsonEncoder.encoder portJson }
    ends := (silentFirst silent 0).ends
    scan := fun targets =>
      let scan : Scan Unit ResolvedTarget := { silentFirst silent 0 with targets }
      ([scan.scanAt 1, scan.scanAt 0], false) }

/-- The first run crashes, and the second one completes; both yield the same records. -/
lemma ndjson_pair {silent : Bool} {calls : ℕ}
    (hcase : (silent, calls) = (true, 4) ∨ (silent, calls) = (false, 5))
    {first second : PastRun Unit}
    (hfirst : recordRun (ndjsonRun silent calls false) oneName 0 none = first)
    (hsecond : recordRun (ndjsonRun silent 100 true) noNames 1 first.final.file = second) :
    History trivialDigest fileScenario filePlan [first, second] none ∧
      first.crashes = true ∧ second.Completed ∧
      ∀ r ∈ [first, second], r.opts.stages.UsesNdjson portJson ∧ ∀ t < 2, ∀ line,
        r.Yields fileScenario filePlan t line ↔ line = lineAt t ∧ (silent = true → t ≠ 0) := by
  have hscans : ∀ calls resume now, now = 0 ∨ now = 1 →
      (ndjsonRun silent calls resume).Scans fileScenario (fileTargets now).targets := by
    intro calls resume now hnow
    obtain ⟨s, hrun, hsent⟩ : ∃ s, (silentFirst silent now).RunsToEnd (completionOrder 1 0) s ∧
        s.sent = [(silentFirst silent now).scanAt 1, (silentFirst silent now).scanAt 0] := by
      rcases hnow with rfl | rfl <;> cases silent <;> exact ⟨_, ⟨rfl, rfl, rfl, rfl⟩, rfl⟩
    obtain ⟨hreaches, hphase, halive, hseen⟩ := hrun
    refine ⟨rfl, completionOrder 1 0, s, hreaches, hphase, halive, hsent.symm, fun h => ?_⟩
    exact absurd h (Bool.eq_false_iff.mp hseen)
  have hfile : first.final.file.map (·.highestFlushedIndex) = some 0 ∧ first.crashes = true := by
    subst hfirst
    rcases hcase with heq | heq <;> cases heq <;> decide +kernel
  have hend : second.completes = true ∧ second.final.file = none := by
    subst hsecond hfirst
    rcases hcase with heq | heq <;> cases heq <;> decide +kernel
  have htwo := history_pair rfl rfl (hscans calls false 0 (.inl rfl))
    (hscans 100 true 1 (.inr rfl)) hfirst hsecond hfile.1
  refine ⟨hend.2 ▸ htwo, hfile.2, PastRun.completed_of_completes hend.1,
    fun r hr => ⟨?_, fun t ht line => ?_⟩⟩
  · subst hsecond hfirst
    rcases mem_pair.mp hr with rfl | rfl <;> rfl
  · have hdata : (createFuser r.opts.mib fileScenario.effectiveFuserConfig).toOption.map
        (fun fuser =>
          r.dataAt fileScenario filePlan fuser t) =
        some (if silent && t == 0 then [] else [lineAt t ++ [newline]]) := by
      subst hsecond hfirst
      rcases hcase with heq | heq <;> cases heq <;> interval_cases t <;>
        rcases mem_pair.mp hr with rfl | rfl <;> decide +kernel
    have hlog : writtenData r.final.log =
        (if silent then [] else [lineAt 0 ++ [newline]]) ++ [lineAt 1 ++ [newline]] ∧
        resumeBase r.found = 0 := by
      subst hsecond hfirst
      rcases hcase with heq | heq <;> cases heq <;>
        rcases mem_pair.mp hr with rfl | rfl <;> decide +kernel
    have hlength : filePlan.intoStream.length = 2 := by decide
    rw [PastRun.yields_iff hdata, hlog.1, hlog.2, hlength]
    cases silent <;> interval_cases t <;> simp +contextual

/-- The first of two targets yields no record, the second the same one in both runs. The first run
crashes when two bytes of it have reached the file behind the checkpoint; the record of the resumed
run is joined to them, so no line of the file holds it. -/
theorem torn_line_loses_record : ∃ (first second : PastRun Unit) (mid final : Bytes),
    History trivialDigest fileScenario filePlan [first, second] none ∧
    first.crashes = true ∧ second.Completed ∧
    (∀ r ∈ [first, second], r.opts.stages.UsesNdjson portJson) ∧
    FileAfter [] first.final.log mid ∧ FileAfter mid second.final.log final ∧
    ∀ r ∈ [first, second], r.Yields fileScenario filePlan 1 (portLine "0.0.0.2") ∧
      ∀ line, r.Yields fileScenario filePlan 1 line → line ∉ completeLines newline final := by
  obtain ⟨first, hfirst⟩ : ∃ r, recordRun (ndjsonRun true 4 false) oneName 0 none = r := ⟨_, rfl⟩
  obtain ⟨second, hsecond⟩ : ∃ r, recordRun (ndjsonRun true 100 true) noNames 1 first.final.file =
    r := ⟨_, rfl⟩
  obtain ⟨htwo, hcrashes, hcompleted, hruns⟩ := ndjson_pair (.inl rfl) hfirst hsecond
  have hyields : ∀ r ∈ [first, second], ∀ line,
      r.Yields fileScenario filePlan 1 line ↔ line = lineAt 1 := by
    intro r hr line
    simpa using (hruns r hr).2 1 (by decide) line
  refine ⟨first, second, (lineAt 1).take 2, (lineAt 1).take 2 ++ lineAt 1 ++ [newline], htwo,
    hcrashes, hcompleted, fun r hr => (hruns r hr).1, ⟨fun _ => .ok 2, ?_⟩, ⟨fun _ => .ok 0, ?_⟩,
    fun r hr => ⟨(hyields r hr _).mpr rfl, fun line hline => ?_⟩⟩
  · subst hfirst
    decide +kernel
  · subst hsecond hfirst
    decide +kernel
  · rw [(hyields r hr line).mp hline]
    decide +kernel

/-- If the first target yields a record as well, it is this one that is joined, and both have a line
of their own. -/
theorem ndjson_survives_resume_torn : ∃ (first second : PastRun Unit) (mid final : Bytes),
    History trivialDigest fileScenario filePlan [first, second] none ∧
    first.crashes = true ∧ FileAfter [] first.final.log mid ∧ ¬ EndsLine newline mid ∧
    FileAfter mid second.final.log final ∧
    ∀ t < 2, ∃ r ∈ [first, second], ∃ line,
      r.Yields fileScenario filePlan t line ∧ line ∈ completeLines newline final := by
  obtain ⟨first, hfirst⟩ : ∃ r, recordRun (ndjsonRun false 5 false) oneName 0 none = r := ⟨_, rfl⟩
  obtain ⟨second, hsecond⟩ : ∃ r, recordRun (ndjsonRun false 100 true) noNames 1 first.final.file =
    r := ⟨_, rfl⟩
  obtain ⟨htwo, hcrashes, hcompleted, hruns⟩ := ndjson_pair (.inr rfl) hfirst hsecond
  have hfile₁ : FileAfter [] first.final.log (lineAt 0 ++ [newline] ++ (lineAt 1).take 2) := by
    subst hfirst
    exact ⟨fun _ => .ok 2, by decide +kernel⟩
  have hfile₂ : FileAfter (lineAt 0 ++ [newline] ++ (lineAt 1).take 2) second.final.log
      (lineAt 0 ++ [newline] ++ (lineAt 1).take 2 ++ lineAt 0 ++ [newline] ++ lineAt 1 ++
        [newline]) := by
    subst hsecond hfirst
    exact ⟨fun _ => .ok 0, by decide +kernel⟩
  have hyields : ∀ r ∈ [first, second], ∀ t < 2, r.Yields fileScenario filePlan t (lineAt t) := by
    intro r hr t ht
    simp [(hruns r hr).2 t ht]
  refine ⟨first, second, _, _, htwo, hcrashes, hfile₁, by decide +kernel, hfile₂, fun t ht => ?_⟩
  refine ndjson_survives_resume htwo hcompleted (hruns first (by simp)).1
    (hruns second (by simp)).1 (.inl rfl) hfile₁ hfile₂
    (fun t line hlt hline => ?_) (.inr fun t hfirst => ?_)
    ⟨first, by simp, lineAt t, hyields first (by simp) t ht⟩
  · have ht : t < 2 := hline.2.1
    exact .inr ⟨lineAt t, hyields second (by simp) t ht⟩
  · -- The target of the checkpoint is the first to yield a record.
    have ht : t = 0 := by
      by_contra hne
      exact hfirst.2 0 (Nat.pos_of_ne_zero hne) _ (hyields second (by simp) 0 (by decide))
    subst ht
    exact ⟨lineAt 0, by decide +kernel, hyields first (by simp) 0 (by decide)⟩

end Rastreo
