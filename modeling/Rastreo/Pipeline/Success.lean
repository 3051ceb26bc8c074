import Rastreo.Fuser.Partition
import Rastreo.Pipeline.InOrder

/-!
# Discoveries in which every call succeeds

`discover` makes all fuse, classify and encode calls, one stage after another, and returns what is
to be written, however the hash maps are enumerated.  If none fails and the sink accepts everything,
the stream (`streamDiscovery_ok`) and the batch reference (`batchDiscovery_ok`) write exactly that.
-/

namespace Rastreo

open Async List

/-! ## Accepted calls -/

/-- Of every call, also on the checkpoint file. -/
structure Accepting (env : Surroundings) : Prop where
  sink : ∀ log call, env.sink log call = .ok
  disk : ∀ log call, env.disk log call = .ok

/-- The records written according to a log. -/
def writesOf (log : List Event) : List (RecordKind × Bytes) :=
  log.filterMap fun
    | .sink (.writeKind kind data) true => some (kind, data)
    | _ => none

/-- Records rendered as nothing are skipped. -/
def writeEvents (kind : RecordKind) (bufs : List Bytes) : List Event :=
  (bufs.filter (!·.isEmpty)).map fun buf => .sink (.writeKind kind buf) true

def RunState.loggedAll (w : RunState) (events : List Event) : RunState :=
  { w with log := w.log ++ events }

lemma writeEvents_append (kind : RecordKind) (l m : List Bytes) :
    writeEvents kind (l ++ m) = writeEvents kind l ++ writeEvents kind m := by
  simp [writeEvents]

lemma writesOf_append (l m : List Event) : writesOf (l ++ m) = writesOf l ++ writesOf m :=
  filterMap_append

lemma RunState.loggedAll_append (w : RunState) (l m : List Event) :
    w.loggedAll (l ++ m) = (w.loggedAll l).loggedAll m := by
  simp [loggedAll]

section Accepted

variable {env : Surroundings} (h : Accepting env)

include h

lemma Accepting.callSink (call : SinkCall) (w : RunState) :
    callSink env call w = (.done (.ok ()), w.loggedAll [.sink call true]) := by
  rw [Rastreo.callSink, h.sink]
  rfl

lemma Accepting.callDisk (path : String) (call : DiskCall) (w : RunState) :
    callDisk env path call w =
      (.done (.ok ()), { w.loggedAll [.disk call true] with file := call.apply w.file }) := by
  rw [Rastreo.callDisk, h.disk]
  rfl

variable (writer : CheckpointWriter)

lemma Accepting.writeAt (i : ℕ) (w : RunState) :
    ∃ w', writer.writeAt env i w = (.done (.ok ()), w') ∧ writesOf w'.log = writesOf w.log := by
  rw [CheckpointWriter.writeAt, Checkpoint.write, andThen_of_done (h.callDisk _ _ w), h.callDisk]
  simp [RunState.loggedAll, writesOf]

lemma Accepting.maybeCheckpoint (n : ℕ) (w : RunState) :
    ∃ writer' w', writer.maybeCheckpoint env n w = (.done (.ok writer'), w') ∧
      writesOf w'.log = writesOf w.log := by
  rw [CheckpointWriter.maybeCheckpoint]
  split_ifs
  · exact ⟨writer, w, rfl, rfl⟩
  · obtain ⟨w', hrun, hwrites⟩ := h.writeAt writer (writer.recordIndex n)
      (w.loggedAll [.sink .flush true])
    rw [andThen_of_done (h.callSink _ w), bind_of_done hrun]
    refine ⟨_, w', rfl, hwrites.trans ?_⟩
    simp [RunState.loggedAll, writesOf]

end Accepted

section Emission

variable {p : Pipeline} {bufs : List Bytes} {before xs : List AnyRecord} {e : Emission}

/-- One record after another, by an encoder that was given `before`. -/
def encodeAll (encoder : Encoder) :
    List AnyRecord → List AnyRecord → Result (List Bytes)
  | _, [] => pure []
  | before, x :: xs => do
    let buf ← encoder before x
    let bufs ← encodeAll encoder (before ++ [x]) xs
    pure (buf :: bufs)

lemma encodeAll_append_eq_ok {encoder : Encoder} {ys : List AnyRecord} :
    encodeAll encoder before (xs ++ ys) = .ok bufs ↔
      ∃ bufs₁ bufs₂, encodeAll encoder before xs = .ok bufs₁ ∧
      encodeAll encoder (before ++ xs) ys = .ok bufs₂ ∧ bufs₁ ++ bufs₂ = bufs := by
  induction xs generalizing before bufs with
  | nil =>
    rw [append_nil, nil_append]
    constructor
    · exact fun h => ⟨[], bufs, rfl, h, rfl⟩
    · rintro ⟨bufs₁, bufs₂, h₁, h₂, rfl⟩
      obtain rfl := Except.ok.inj h₁
      exact h₂
  | cons x xs ih =>
    rw [cons_append, encodeAll, encodeAll]
    cases encoder before x with
    | error e => simp [bind, Except.bind]
    | ok buf =>
      simp only [ok_bind, bind_eq_ok, ih, append_assoc, cons_append, nil_append]
      constructor
      · rintro ⟨rest, ⟨bufs₁, bufs₂, h₁, h₂, rfl⟩, h⟩
        exact ⟨buf :: bufs₁, bufs₂, ⟨bufs₁, h₁, rfl⟩, h₂, Except.ok.inj h⟩
      · rintro ⟨_, bufs₂, ⟨bufs₁, h₁, h⟩, h₂, rfl⟩
        obtain rfl := Except.ok.inj h
        exact ⟨_, ⟨bufs₁, bufs₂, h₁, h₂, rfl⟩, rfl⟩

/-- After records that were rendered so and written. -/
def Emission.add (e : Emission) (kind : RecordKind) (xs : List AnyRecord) (bufs : List Bytes) :
    Emission :=
  { e with
    emitted := e.emitted + (writeEvents kind bufs).length
    encoded := e.encoded ++ xs }

lemma Emission.add_add (e : Emission) (kind : RecordKind) (xs ys : List AnyRecord)
    (bufs₁ bufs₂ : List Bytes) :
    (e.add kind xs bufs₁).add kind ys bufs₂ = e.add kind (xs ++ ys) (bufs₁ ++ bufs₂) := by
  simp [add, writeEvents_append, Nat.add_assoc]

/-- A loop that emits encodable records writes them all. -/
lemma emitLoop_ok (h : Accepting p.env) (kind : RecordKind)
    (hencode : encodeAll p.encoder e.encoded xs = .ok bufs) (w : RunState) :
    emitLoop p kind xs e w =
      (.done (e.add kind xs bufs), w.loggedAll (writeEvents kind bufs)) := by
  induction xs generalizing bufs e w with
  | nil =>
    obtain rfl := Except.ok.inj hencode
    simp [emitLoop, Emission.add, writeEvents, RunState.loggedAll, pure]
  | cons x xs ih =>
    obtain ⟨buf, hbuf, hencode⟩ := bind_eq_ok.mp hencode
    obtain ⟨rest, hrest, hbufs⟩ := bind_eq_ok.mp hencode
    obtain rfl := Except.ok.inj hbufs
    have hwrite : writeEncoded p kind buf w =
        (.done (.ok !buf.isEmpty), w.loggedAll (writeEvents kind [buf])) := by
      unfold writeEncoded
      split_ifs with hempty
      · simp [hempty, writeEvents, RunState.loggedAll, pure]
      · rw [andThen_of_done (h.callSink _ w)]
        simp [hempty, writeEvents, pure]
    rw [emitLoop]
    simp only [hbuf]
    rw [bind_of_done hwrite]
    have hadd : e.add kind (x :: xs) (buf :: rest) =
        (e.add kind [x] [buf]).add kind xs rest := by
      rw [Emission.add_add]
      rfl
    have hone : e.emitted + (!buf.isEmpty).toNat = (e.add kind [x] [buf]).emitted := by
      cases hempty : buf.isEmpty <;> simp [Emission.add, writeEvents, hempty]
    have hlog : writeEvents kind (buf :: rest) = writeEvents kind [buf] ++ writeEvents kind rest :=
      writeEvents_append kind [buf] rest
    rw [hadd, hlog, RunState.loggedAll_append]
    dsimp only
    rw [hone]
    exact ih (e := e.add kind [x] [buf]) hrest _

variable [CaseMapping]

/-- A fallible map and a loop over its results. -/
lemma prepareRecords_eq (p : Pipeline) (records : List DeviceRecord) (a : Assemblers) :
    prepareRecords p records a =
      (records.mapM (classifyAndStamp p)).map fun rs =>
        (rs, rs.foldl Assemblers.observeRecord a) := by
  have key : ∀ (done : List DeviceRecord) (a : Assemblers), records.foldlM (fun s record => do
            let record ← classifyAndStamp p record
            pure (s.1 ++ [record], s.2.observeRecord record))
          (done, a) =
        (records.mapM (classifyAndStamp p)).map fun rs =>
          (done ++ rs, rs.foldl Assemblers.observeRecord a) := by
    induction records with
    | nil =>
      intro done a
      change Except.ok (done, a) = .ok (done ++ [], a)
      rw [append_nil]
    | cons record records ih =>
      intro done a
      rw [foldlM_cons, mapM_cons]
      cases classifyAndStamp p record with
      | error e => rfl
      | ok r =>
        simp only [ok_bind, pure, Except.pure] at ih ⊢
        rw [ih]
        cases records.mapM (classifyAndStamp p) <;> simp [Except.map]
  exact key [] a

/-- Indexing records and observing outcomes may be exchanged. -/
lemma Assemblers.foldl_observeRecord_observeOutcomes (a : Assemblers)
    (records : List DeviceRecord) (outcomes : List ProbeOutcome) :
    records.foldl observeRecord (a.observeOutcomes outcomes) =
      (records.foldl observeRecord a).observeOutcomes outcomes :=
  foldl_hom (fun a : Assemblers => a.observeOutcomes outcomes) fun _ _ => rfl

omit [CaseMapping] in
lemma Assemblers.observeOutcomes_append (a : Assemblers) (l m : List ProbeOutcome) :
    a.observeOutcomes (l ++ m) = (a.observeOutcomes l).observeOutcomes m := by
  simp only [observeOutcomes, TopologyAssembler.observeOutcomes_append,
    CollectionProfileAssembler.observeOutcomes_append]

/-! ## The stream -/

variable {s : StreamState} {tally : Tally} {records recs : List DeviceRecord} {fuser : Fuser}

/-- After targets with these outcomes, of which these records were emitted. -/
def StreamState.after (s : StreamState) (tally : Tally) (fuser : Fuser)
    (outcomes : List ProbeOutcome) (records : List DeviceRecord) (bufs : List Bytes) :
    StreamState :=
  { s with
    tally, fuser
    assemblers := records.foldl Assemblers.observeRecord (s.assemblers.observeOutcomes outcomes)
    emission := s.emission.add .device (records.map .device) bufs }

lemma StreamState.after_after (s : StreamState) (tally₁ tally₂ : Tally) (fuser₁ fuser₂ : Fuser)
    (outcomes₁ outcomes₂ : List ProbeOutcome) (records₁ records₂ : List DeviceRecord)
    (bufs₁ bufs₂ : List Bytes) :
    (s.after tally₁ fuser₁ outcomes₁ records₁ bufs₁).after tally₂ fuser₂ outcomes₂ records₂ bufs₂ =
      s.after tally₂ fuser₂ (outcomes₁ ++ outcomes₂) (records₁ ++ records₂) (bufs₁ ++ bufs₂) := by
  simp only [after, Emission.add_add, map_append, foldl_append,
    Assemblers.foldl_observeRecord_observeOutcomes, Assemblers.observeOutcomes_append]

lemma processTarget_ok (h : Accepting p.env) {ready : TargetScan} (hst : s.emission.err = none)
    (htally : accumulateTarget p.proberKinds ready s.tally = .ok tally)
    (hingest : s.fuser.ingest (probeOutcomes ready.outcomes) = .ok (recs, fuser))
    (hpre : recs.mapM (classifyAndStamp p) = .ok records)
    (hencode : encodeAll p.encoder s.emission.encoded (records.map .device) = .ok bufs)
    (w : RunState) : processTarget p ready s w =
      (.done (.ok (s.after tally fuser (probeOutcomes ready.outcomes) records bufs)),
        w.loggedAll (writeEvents .device bufs)) := by
  have hemit : emitTargetRecords p ready.outcomes { s with tally } w =
      (.done (.ok (s.after tally fuser (probeOutcomes ready.outcomes) records bufs)),
        w.loggedAll (writeEvents .device bufs)) := by
    unfold emitTargetRecords
    simp only [hingest, pure_ok_andThen, prepareRecords_eq, hpre, Except.map]
    rw [bind_of_done (emitLoop_ok h .device hencode w)]
    rfl
  unfold processTarget
  rw [htally, orPanic, pure_bind]
  grind

omit [CaseMapping] in
lemma checkpointTarget_ok (h : Accepting p.env) (n : ℕ) (hst : s.emission.err = none)
    (w : RunState) :
    ∃ checkpoint w', checkpointTarget p n s w = (.done { s with checkpoint }, w') ∧
      writesOf w'.log = writesOf w.log ∧ (s.checkpoint = none → checkpoint = none ∧ w' = w) := by
  obtain ⟨tally, ⟨emitted, encoded, err⟩, fuser, assemblers, checkpoint⟩ := s
  obtain rfl : err = none := hst
  cases checkpoint with
  | none => exact ⟨none, w, rfl, rfl, fun _ => ⟨rfl, rfl⟩⟩
  | some writer =>
    obtain ⟨writer', w', hrun, hwrites⟩ := h.maybeCheckpoint writer n w
    exact ⟨some writer', w', bind_of_done hrun, hwrites, nofun⟩

def TargetScan.probeOutcomes (scan : TargetScan) : List ProbeOutcome :=
  Rastreo.probeOutcomes scan.outcomes

variable {scans : List TargetScan}

/-- If all calls succeed the records are written, and the variables are those of the batch. -/
lemma inOrder_ok (h : Accepting p.env) (hst : s.emission.err = none)
    (htally : scans.foldlM (fun t scan => accumulateTarget p.proberKinds scan t) s.tally =
      .ok tally)
    (hingest : s.fuser.ingestAll (scans.map TargetScan.probeOutcomes) = .ok (recs, fuser))
    (hpre : recs.mapM (classifyAndStamp p) = .ok records)
    (hencode : encodeAll p.encoder s.emission.encoded (records.map .device) = .ok bufs) (i : ℕ)
    (w : RunState) :
    ∃ checkpoint w', inOrder p i scans s w = (.done (.ok
        { s.after tally fuser (scans.flatMap TargetScan.probeOutcomes) records bufs with
          checkpoint }), w') ∧
      writesOf w'.log = writesOf w.log ++ writesOf (writeEvents .device bufs) ∧
      (s.checkpoint = none → checkpoint = none ∧ w' = w.loggedAll (writeEvents .device bufs)) := by
  induction scans generalizing s tally recs records fuser bufs i w with
  | nil =>
    obtain rfl := Except.ok.inj htally
    obtain ⟨rfl, rfl⟩ := Prod.mk.inj (Except.ok.inj hingest)
    obtain rfl : [] = records := Except.ok.inj hpre
    obtain rfl := Except.ok.inj hencode
    refine ⟨s.checkpoint, w, ?_, ?_, fun hc => ⟨hc, ?_⟩⟩
    · simp [inOrder, StreamState.after, Emission.add, writeEvents, Assemblers.observeOutcomes, pure]
    · simp [writeEvents, writesOf]
    · simp [writeEvents, RunState.loggedAll]
  | cons scan scans ih =>
    obtain ⟨tally₁, htal₁, htally⟩ := bind_eq_ok.mp htally
    rw [map_cons, Fuser.ingestAll_cons] at hingest
    obtain ⟨⟨recs₁, fuser₁⟩, hing₁, hingest⟩ := bind_eq_ok.mp hingest
    obtain ⟨⟨recs₂, fuser₂⟩, hing₂, heq⟩ := map_eq_ok.mp hingest
    obtain ⟨rfl, rfl⟩ := Prod.mk.inj heq
    obtain ⟨records₁, records₂, hpre₁, hpre₂, rfl⟩ := mapM_append_eq_ok.mp hpre
    rw [map_append] at hencode
    obtain ⟨bufs₁, bufs₂, henc₁, henc₂, rfl⟩ := encodeAll_append_eq_ok.mp hencode
    -- The first target, its checkpoint, and the rest.
    have hfirst := processTarget_ok h hst htal₁ hing₁ hpre₁ henc₁ w
    obtain ⟨checkpoint₁, w₁, hcheck, hwrites₁, hnone₁⟩ := checkpointTarget_ok
      (s := s.after tally₁ fuser₁ (Rastreo.probeOutcomes scan.outcomes) records₁ bufs₁)
      h (i + 1) hst (w.loggedAll (writeEvents .device bufs₁))
    obtain ⟨checkpoint, w', hrest, hwrites, hnone⟩ := ih (s := { s.after tally₁ fuser₁
        (Rastreo.probeOutcomes scan.outcomes) records₁ bufs₁ with checkpoint := checkpoint₁ })
      hst htally hing₂ hpre₂ henc₂ (i + 1) w₁
    have hadvance : advance p i scan s w = (.done (.ok { s.after tally₁ fuser₁
        (Rastreo.probeOutcomes scan.outcomes) records₁ bufs₁ with checkpoint := checkpoint₁ }),
        w₁) := by
      rw [advance, andThen_of_done hfirst, bind_of_done hcheck]
      rfl
    refine ⟨checkpoint, w', ?_, ?_, fun hc => ?_⟩
    · rw [inOrder, andThen_of_done hadvance, hrest, flatMap_cons]
      congr 3
      exact congrArg (fun s : StreamState => { s with checkpoint })
        (s.after_after tally₁ tally fuser₁ _ _ _ records₁ records₂ bufs₁ bufs₂)
    · rw [hwrites, hwrites₁, writeEvents_append, writesOf_append, ← append_assoc]
      congr 1
      exact writesOf_append _ _
    · obtain ⟨hc₁, hw₁⟩ := hnone₁ hc
      grind [writeEvents_append, RunState.loggedAll_append]

/-! ## What is to be written -/

/-- The encoded records of a discovery. -/
structure Discovered where
  devices : List Bytes
  links : List Bytes
  profiles : List Bytes
  deriving DecidableEq

/-- Device records, then links, then profiles. -/
def Discovered.events (d : Discovered) : List Event :=
  writeEvents .device d.devices ++ writeEvents .link d.links ++
    writeEvents .collectionProfile d.profiles

def Discovered.emitted (d : Discovered) : Emitted where
  records := (writeEvents .device d.devices).length
  links := (writeEvents .link d.links).length
  profiles := (writeEvents .collectionProfile d.profiles).length
  err := none

def assembled (p : Pipeline) (groups : List (List ProbeOutcome)) (records : List DeviceRecord) :
    Assemblers :=
  records.foldl Assemblers.observeRecord ((Assemblers.new p).observeOutcomes groups.flatten)

/-- It fails exactly when a fuse, classify or encode call does. -/
def discover (p : Pipeline) (fuser : Fuser) (groups : List (List ProbeOutcome)) :
    Except FuserFault Discovered := do
  let (records, fuser) ← (fuser.ingestAll groups).mapError .error
  let (tail, _) ← fuser.finish p.hashOrder
  let records ← ((records ++ tail).mapM (classifyAndStamp p)).mapError .error
  let assemblers := assembled p groups records
  let records := records.map AnyRecord.device
  let devices ← (encodeAll p.encoder [] records).mapError .error
  let links ← (assemblers.topology.finish p.edgeOrder).mapError .panic
  let links := links.map AnyRecord.link
  let linkBufs ← (encodeAll p.encoder records links).mapError .error
  let profiles ← (encodeAll p.encoder (records ++ links)
    (assemblers.profile.finish.map .profile)).mapError .error
  pure ⟨devices, linkBufs, profiles⟩

/-- What is left to be written, after the encoder was given `before`. -/
def Renders (p : Pipeline) (before : List AnyRecord) (records : List DeviceRecord) (a : Assemblers)
    (d : Discovered) : Prop :=
  ∃ links, encodeAll p.encoder before (records.map .device) = .ok d.devices ∧
    a.topology.finish p.edgeOrder = .ok links ∧
    encodeAll p.encoder (before ++ records.map .device) (links.map .link) = .ok d.links ∧
    encodeAll p.encoder (before ++ records.map .device ++ links.map .link)
      (a.profile.finish.map .profile) = .ok d.profiles

structure Discovers (p : Pipeline) (fuser : Fuser) (groups : List (List ProbeOutcome))
    (d : Discovered) (recs tail records : List DeviceRecord) (fuser' : Fuser) : Prop where
  ingest_ok : fuser.ingestAll groups = .ok (recs, fuser')
  finish_ok : ∃ fuser'', fuser'.finish p.hashOrder = .ok (tail, fuser'')
  classify_ok : (recs ++ tail).mapM (classifyAndStamp p) = .ok records
  renders : Renders p [] records (assembled p groups records) d

variable {d : Discovered}

lemma exists_discovers {groups : List (List ProbeOutcome)} (h : discover p fuser groups = .ok d) :
    ∃ recs tail records fuser', Discovers p fuser groups d recs tail records fuser' := by
  obtain ⟨⟨recs, fuser'⟩, hingest, h⟩ := bind_eq_ok.mp h
  obtain ⟨⟨tail, fuser''⟩, hfinish, h⟩ := bind_eq_ok.mp h
  obtain ⟨records, hcla, h⟩ := bind_eq_ok.mp h
  obtain ⟨devices, hencode, h⟩ := bind_eq_ok.mp h
  obtain ⟨links, hass, h⟩ := bind_eq_ok.mp h
  obtain ⟨linkBufs, hlinks, h⟩ := bind_eq_ok.mp h
  obtain ⟨profileBufs, hpro, h⟩ := bind_eq_ok.mp h
  obtain rfl := Except.ok.inj h
  rw [mapError_eq_ok] at hingest hcla hencode hass hlinks hpro
  exact ⟨recs, tail, records, fuser', hingest, ⟨fuser'', hfinish⟩, hcla, links,
    hencode, hass, hlinks, hpro⟩

lemma Fuser.finish_congr (order order' : HashOrder) (fuser : Fuser) :
    fuser.finish order = fuser.finish order' := by
  induction fuser with
  | direct f => rfl
  | mibEnrichment inner table ih => rw [finish, finish, ih]
  | identity inner hints buffer ih =>
    have hcor : ∀ records, correlate order hints records = correlate order' hints records :=
      fun records => correlatePairs_congr pairsBelow_computePairWeights
        (mem_computePairWeights_congr order order')
    simp only [finish, ih, hcor]

lemma discover_congr (p : Pipeline) (hashOrder : HashOrder) (edgeOrder : EdgeOrder)
    (fuser : Fuser) (groups : List (List ProbeOutcome)) :
    discover { p with hashOrder, edgeOrder } fuser groups = discover p fuser groups := by
  unfold discover
  simp only [Fuser.finish_congr hashOrder p.hashOrder,
    TopologyAssembler.finish_order_irrelevant edgeOrder p.edgeOrder]
  rfl

variable {a : Assemblers}

omit [CaseMapping] in
lemma emitUnlessFailed_ok (h : Accepting p.env) (kind : RecordKind) (herr : e.err = none)
    (hencode : encodeAll p.encoder e.encoded xs = .ok bufs) (w : RunState) :
    emitUnlessFailed p kind xs e w =
      (.done (e.add kind xs bufs), w.loggedAll (writeEvents kind bufs)) := by
  rw [emitUnlessFailed, if_neg (by simp [herr]), emitLoop_ok h kind hencode w]

lemma emitRest_ok (h : Accepting p.env) (herr : e.err = none)
    (hrest : Renders p e.encoded records a d) (w : RunState) : emitRest p records a e w =
      (.done { d.emitted with records := e.emitted + d.emitted.records },
        w.loggedAll d.events) := by
  obtain ⟨links, hdevices, hfinish, hlinks, hprofiles⟩ := hrest
  unfold emitRest
  rw [bind_of_done (emitUnlessFailed_ok h .device herr hdevices w)]
  simp only [hfinish, orPanic, pure_bind]
  rw [bind_of_done (emitUnlessFailed_ok h .link (e := { e.add .device (records.map .device)
    d.devices with emitted := 0 }) herr hlinks _)]
  rw [bind_of_done (emitUnlessFailed_ok h .collectionProfile (e := { ({ e.add .device
    (records.map .device) d.devices with emitted := 0 } : Emission).add .link (links.map .link)
    d.links with emitted := 0 }) herr hprofiles _)]
  simp [Emission.add, herr, RunState.loggedAll, pure, Discovered.emitted, Discovered.events]

lemma finishStream_ok (h : Accepting p.env) (hst : s.emission.err = none)
    {tail : List DeviceRecord} (hfinish : s.fuser.finish p.hashOrder = .ok (tail, fuser))
    (hclassify : tail.mapM (classifyAndStamp p) = .ok records)
    (hrest : Renders p s.emission.encoded records
      (records.foldl Assemblers.observeRecord s.assemblers) d) (n : ℕ) (w : RunState) :
    finishStream p n s w = (.done (.ok (n, s,
        { d.emitted with records := s.emission.emitted + d.emitted.records })),
      w.loggedAll d.events) := by
  rw [finishStream, hfinish]
  simp only [orFault, pure_ok_andThen, prepareRecords_eq, hclassify, Except.map]
  rw [bind_of_done (emitRest_ok h hst hrest w)]
  rfl

omit [CaseMapping] in
lemma finalizeCheckpoint_ok (h : Accepting p.env) (writer : Option CheckpointWriter) (n : ℕ)
    (w : RunState) :
    ∃ w', finalizeCheckpoint p writer false n w = (.done (.ok ()), w') ∧
      writesOf w'.log = writesOf w.log ∧ (writer = none → w' = w) := by
  cases writer with
  | none => exact ⟨w, rfl, rfl, fun _ => rfl⟩
  | some writer =>
    refine ⟨_, bind_of_done (h.callDisk writer.path .remove w), ?_, nofun⟩
    simp [RunState.loggedAll, writesOf]

variable {f : ℕ → TargetScan} {n : ℕ}

lemma streamDiscovery_ok (h : Accepting p.env) (hscans : AnyOrder f n scans)
    (htally : ((List.range n).map f).foldlM
      (fun t scan => accumulateTarget p.proberKinds scan t) ({}, none) = .ok tally)
    (hd : discover p fuser (((List.range n).map f).map TargetScan.probeOutcomes) = .ok d)
    (checkpoint : Option CheckpointWriter) (w : RunState) :
    ∃ w', streamDiscovery p fuser checkpoint scans false w =
        (.done (.ok (summarize p { tally.1 with cancelled := false } d.emitted w'.log)), w') ∧
      writesOf w'.log = writesOf w.log ++ writesOf d.events ∧
      (checkpoint = none → w' = w.loggedAll (d.events ++ [.sink .close true])) := by
  obtain ⟨recs, tail, records, fuser', hd⟩ := exists_discovers hd
  obtain ⟨fuser'', hfinish⟩ := hd.finish_ok
  obtain ⟨records₁, records₂, hcla₁, hcla₂, rfl⟩ := mapM_append_eq_ok.mp hd.classify_ok
  obtain ⟨hingest, -, -, links, hencode, hass, hlinks, hpro⟩ := hd
  rw [map_append] at hencode hlinks hpro
  rw [← append_assoc] at hlinks hpro
  obtain ⟨bufs₁, bufs₂, henc₁, henc₂, hdev⟩ := encodeAll_append_eq_ok.mp hencode
  -- The targets in order.
  obtain ⟨checkpoint', w₁, hino, hwri₁, hnone₁⟩ := inOrder_ok
    (s := { fuser, assemblers := Assemblers.new p, checkpoint }) h rfl htally hingest hcla₁ henc₁
      0 w
  set s₁ : StreamState :=
    { StreamState.after { fuser, assemblers := Assemblers.new p, checkpoint } tally fuser'
        (((List.range n).map f).flatMap TargetScan.probeOutcomes) records₁ bufs₁ with
      checkpoint := checkpoint' } with hst₁
  -- The rest of the block.
  have hassembled : records₂.foldl Assemblers.observeRecord s₁.assemblers =
      assembled p (((List.range n).map f).map TargetScan.probeOutcomes) (records₁ ++ records₂) := by
    rw [assembled, foldl_append, ← flatMap_def]
    rfl
  have hrest := finishStream_ok (s := s₁) (d := ⟨bufs₂, d.links, d.profiles⟩) h rfl hfinish hcla₂
    ⟨links, henc₂, hassembled ▸ hass, hlinks, hassembled ▸ hpro⟩ n w₁
  set w₂ := w₁.loggedAll (Discovered.events ⟨bufs₂, d.links, d.profiles⟩) with hw₂
  have hblock : streamBlock p scans { fuser, assemblers := Assemblers.new p, checkpoint } w =
      (.done (.ok (n, s₁, d.emitted)), w₂) := by
    rw [streamBlock_eq p hscans, andThen_of_done hino, hrest]
    simp [hst₁, StreamState.after, Emission.add, Discovered.emitted, ← hdev, writeEvents_append]
  obtain ⟨w₃, hfinal, hwri₃, hnone₃⟩ := finalizeCheckpoint_ok h checkpoint' n
    (w₂.loggedAll [.sink .close true])
  have hevents : d.events =
      writeEvents .device bufs₁ ++ Discovered.events ⟨bufs₂, d.links, d.profiles⟩ := by
    simp [Discovered.events, ← hdev, writeEvents_append]
  refine ⟨w₃, ?_, ?_, fun hc => ?_⟩
  · rw [streamDiscovery, bind_of_done hblock, bind_of_done (h.callSink .close w₂)]
    exact bind_of_done hfinal
  · rw [hwri₃, hevents, writesOf_append, ← append_assoc, ← hwri₁]
    simp only [hw₂, RunState.loggedAll, writesOf_append]
    simp [writesOf]
  · grind [RunState.loggedAll, append_assoc]

/-! ## The batch reference -/

omit [CaseMapping] in
lemma collectScansSorted_eq (hindex : ∀ i, (f i).targetIndex = i) (h : AnyOrder f n scans) :
    collectScansSorted scans = (List.range n).map f := by
  have hmap : (scans.map (·.targetIndex)).map f = scans := by
    rw [map_map]
    exact (map_congr_left fun x hx => (h.scan_eq x hx).symm).trans (map_id scans)
  have hrange : ((List.range n).map f).Pairwise fun x y => x.targetIndex < y.targetIndex := by
    rw [pairwise_map]
    simp only [hindex, pairwise_lt_range]
  refine eq_of_perm_of_pairwise (pairwise_sortBy (h.perm.nodup_iff.mpr nodup_range)) hrange
    ((perm_sortBy _ _).trans ?_)
  exact hmap ▸ h.perm.map f

omit [CaseMapping] in
/-- Targets are counted one after another and their outcomes collected. -/
lemma accumulateScans_ok
    (htally : scans.foldlM (fun t scan => accumulateTarget p.proberKinds scan t) ({}, none) =
      .ok tally) :
    accumulateScans p scans = .ok (tally, scans.flatMap TargetScan.probeOutcomes) := by
  have key : ∀ (scans : List TargetScan) (t : Tally) (done : List ProbeOutcome),
      scans.foldlM (fun t scan => accumulateTarget p.proberKinds scan t) t = .ok tally →
      scans.foldlM (fun s scan => do
            let tally ← accumulateTarget p.proberKinds scan s.1
            pure (tally, s.2 ++ probeOutcomes scan.outcomes))
          (t, done) = .ok (tally, done ++ scans.flatMap TargetScan.probeOutcomes) := by
    intro scans
    induction scans with
    | nil =>
      intro t done ht
      obtain rfl := Except.ok.inj ht
      simp [pure, Except.pure]
    | cons scan scans ih =>
      intro t done ht
      rw [foldlM_cons] at ht
      obtain ⟨t', ht', ht⟩ := bind_eq_ok.mp ht
      rw [foldlM_cons, ht']
      simp only [ok_bind, pure, Except.pure] at ih ⊢
      rw [ih t' _ ht, flatMap_cons, append_assoc]
      rfl
  exact key scans _ [] htally

variable {ipOf : TargetScan → IpAddr}

omit [CaseMapping] in
lemma groupOutcomesByIp_eq (hown : ∀ scan ∈ scans, ∀ o ∈ scan.probeOutcomes, o.targetIp = ipOf scan)
    (hips : (scans.map ipOf).Nodup) : groupOutcomesByIp (scans.flatMap TargetScan.probeOutcomes) =
      (scans.map TargetScan.probeOutcomes).filter (!·.isEmpty) := by
  have hkeys : (scans.map fun scan => (ipOf scan, scan.probeOutcomes)).map Prod.fst =
      scans.map ipOf := by
    rw [map_map]
    rfl
  have hblocks := groupByKey_blocks (hkeys ▸ hips)
  rw [map_map, flatMap_map] at hblocks
  rw [groupOutcomesByIp, map_flatMap]
  refine Eq.trans (congrArg groupByKey ?_) hblocks
  grind [flatMap_congr, map_congr_left]

lemma batchDiscovery_ok (h : Accepting p.env) (hindex : ∀ i, (f i).targetIndex = i)
    (hscans : AnyOrder f n scans)
    (hown : ∀ scan ∈ (List.range n).map f, ∀ o ∈ scan.probeOutcomes, o.targetIp = ipOf scan)
    (hips : (((List.range n).map f).map ipOf).Nodup) (htally : ((List.range n).map f).foldlM
      (fun t scan => accumulateTarget p.proberKinds scan t) ({}, none) = .ok tally)
    (hd : discover p fuser (((List.range n).map f).map TargetScan.probeOutcomes) = .ok d)
    (w : RunState) : batchDiscovery p fuser scans false w =
      (.done (.ok (summarize p { tally.1 with cancelled := false } d.emitted
          (w.loggedAll (d.events ++ [.sink .close true])).log)),
        w.loggedAll (d.events ++ [.sink .close true])) := by
  obtain ⟨recs, tail, records, fuser', hd⟩ := exists_discovers hd
  obtain ⟨fuser'', hfinish⟩ := hd.finish_ok
  have hdrive : driveFuser p fuser (((List.range n).map f).flatMap TargetScan.probeOutcomes) =
      pure (.ok (recs ++ tail)) := by
    rw [driveFuser, groupOutcomesByIp_eq hown hips, Fuser.ingestAll_filter, hd.ingest_ok]
    simp only [pure_ok_andThen, hfinish, orFault]
  have hass : records.foldl Assemblers.observeRecord ((Assemblers.new p).observeOutcomes
      (((List.range n).map f).flatMap TargetScan.probeOutcomes)) =
      assembled p (((List.range n).map f).map TargetScan.probeOutcomes) records := by
    rw [assembled, ← flatMap_def]
  have hblock : batchBlock p fuser (((List.range n).map f).flatMap TargetScan.probeOutcomes) w =
      (.done (.ok d.emitted), w.loggedAll d.events) := by
    rw [batchBlock, hdrive]
    simp only [pure_ok_andThen, prepareRecords_eq, hd.classify_ok, Except.map, hass]
    rw [bind_of_done (emitRest_ok (e := {}) h rfl hd.renders w), Nat.zero_add]
    rfl
  rw [batchDiscovery, collectScansSorted_eq hindex hscans, accumulateScans_ok htally, orPanic,
    pure_bind]
  simp only
  rw [bind_of_done hblock, bind_of_done (h.callSink .close _), ← RunState.loggedAll_append]
  rfl

end Emission

end Rastreo
