import Rastreo.Checkpoint.Preflight
import Rastreo.Pipeline.Success

/-!
# Checkpoints of one run

Whatever the sink and the file system reply, and wherever the process crashes, the log of a run
follows a course (`Course`): the records of the targets are written in order, other records behind
them; once a call of the sink has failed no checkpoint is put in place, and before that only one of
the targets written so far, right behind a flush.  Every part of the stream keeps to it, at its end
and at a crash (`meets_streamDiscovery`).  What a log with such a course says about the targets is
read off by induction: those up to a checkpoint are emitted and flushed (`Course.logOk`).
-/

namespace Rastreo

open Async List

/-! ## What a log says -/

/-- The checkpoints put in place, in order. -/
def recorded (log : List Event) : List Checkpoint :=
  log.filterMap fun
    | .disk (.rename checkpoint) true => some checkpoint
    | _ => none

/-- A call after which everything written before is durable. -/
def Event.Flushes (e : Event) : Prop := e = .sink .flush true ∨ e = .sink .close true

lemma recorded_append (l m : List Event) : recorded (l ++ m) = recorded l ++ recorded m :=
  filterMap_append

/-- No call of the sink failed. -/
def Clean (log : List Event) : Prop := ∀ call, .sink call false ∉ log

lemma clean_append {l m : List Event} : Clean (l ++ m) ↔ Clean l ∧ Clean m := by
  simp only [Clean, mem_append, not_or, forall_and]

lemma clean_writeEvents (kind : RecordKind) (bufs : List Bytes) :
    Clean (writeEvents kind bufs) := by
  intro call hmem
  obtain ⟨buf, -, heq⟩ := mem_map.mp hmem
  cases heq

lemma recorded_writeEvents (kind : RecordKind) (bufs : List Bytes) :
    recorded (writeEvents kind bufs) = [] := by
  simp [recorded, writeEvents]

/-- The log grew by calls none of which failed in the sink. -/
def CleanFrom (log log' : List Event) : Prop := ∃ events, log' = log ++ events ∧ Clean events

lemma CleanFrom.trans {l m n : List Event} (h : CleanFrom l m) (h' : CleanFrom m n) :
    CleanFrom l n := by
  obtain ⟨events, rfl, hevents⟩ := h
  obtain ⟨events', rfl, heve'⟩ := h'
  exact ⟨events ++ events', append_assoc _ _ _, clean_append.mpr ⟨hevents, heve'⟩⟩

/-- The log grew and no checkpoint was put in place. -/
structure RunState.Quiet (w w' : RunState) : Prop where
  grows : w.log <+: w'.log
  recorded_eq : recorded w'.log = recorded w.log
  file_eq : w'.file = w.file

lemma RunState.Quiet.refl (w : RunState) : w.Quiet w := ⟨prefix_rfl, rfl, rfl⟩

lemma RunState.Quiet.trans {w w' w'' : RunState} (h : w.Quiet w') (h' : w'.Quiet w'') :
    w.Quiet w'' :=
  ⟨h.grows.trans h'.grows, h'.recorded_eq.trans h.recorded_eq, h'.file_eq.trans h.file_eq⟩

lemma RunState.quiet_logged (w : RunState) {e : Event} (he : recorded [e] = []) :
    w.Quiet (w.logged e) :=
  ⟨prefix_append _ _, by rw [logged, recorded_append, he, append_nil], rfl⟩

lemma RunState.Quiet.recorded_of_append {w w' : RunState} (h : w.Quiet w') {events : List Event}
    (hlog : w'.log = w.log ++ events) : recorded events = [] := by
  simpa [hlog, recorded_append] using h.recorded_eq

/-! ## Triples of the calls -/

section Calls

variable {env : Surroundings} {P : RunState → Prop} {D : Unit → RunState → Prop}

lemma meets_callSink {call : SinkCall} {Q : Status → RunState → Prop}
    (hok : ∀ w, P w → Q (.ok ()) (w.logged (.sink call true)))
    (hfailed : ∀ e w, P w → Q (.error e) (w.logged (.sink call false)))
    (hcrash : ∀ w, P w → D () w) : Meets P (callSink env call) Q D := by
  intro w hw
  unfold callSink
  grind

lemma meets_callDisk {path : String} {call : DiskCall}
    {Q : Except ResumeError Unit → RunState → Prop}
    (hok : ∀ w, P w → Q (.ok ()) { w.logged (.disk call true) with file := call.apply w.file })
    (hfailed : ∀ e w, P w → Q (.error e) (w.logged (.disk call false)))
    (hcrash : ∀ w, P w → D () w) : Meets P (callDisk env path call) Q D := by
  intro w hw
  unfold callDisk
  grind

lemma meets_orPanic {α : Type} {x : Except Panic α} {Q : α → RunState → Prop}
    (hok : ∀ a w, P w → Q a w) (hpanic : ∀ w, P w → D () w) : Meets P (orPanic x) Q D := by
  cases x with
  | ok a => exact meets_pure (hok a)
  | error e => exact fun w hw => hpanic w hw

end Calls

/-! ## Emitting -/

section Emit

variable {p : Pipeline}

/-- Emitting is quiet, and writes all records unless it reports an error. -/
lemma meets_emitLoop (kind : RecordKind) (xs : List AnyRecord) (em : Emission) (w₀ : RunState) :
    Meets (fun w => w = w₀) (emitLoop p kind xs em)
      (fun em' w => w₀.Quiet w ∧ (em'.err = none → ∃ bufs,
        encodeAll p.encoder em.encoded xs = .ok bufs ∧ em'.encoded = em.encoded ++ xs ∧
        w.log = w₀.log ++ writeEvents kind bufs))
      (fun _ w => w₀.Quiet w) := by
  induction xs generalizing em w₀ with
  | nil =>
    rintro w rfl
    exact ⟨.refl w, fun _ => ⟨[], rfl, (append_nil _).symm, by simp [writeEvents]⟩⟩
  | cons x xs ih =>
    unfold emitLoop
    cases hbuf : p.encoder em.encoded x with
    | error e =>
      rintro w rfl
      exact ⟨.refl w, by simp⟩
    | ok buf =>
      -- What the write of this record leads to.
      let written : Result Bool → RunState → Prop := fun r w =>
        w₀.Quiet w ∧ (∀ b, r = .ok b → w.log = w₀.log ++ writeEvents kind [buf])
      refine meets_bind (Q := written) ?_ fun r => ?_
      · unfold writeEncoded
        split
        · rename_i hempty
          rintro w rfl
          exact ⟨.refl w, fun _ _ => by simp [writeEvents, hempty]⟩
        · rename_i hempty
          refine meets_andThen (Q := fun r w => w₀.Quiet w ∧
            (r = .ok () → w.log = w₀.log ++ writeEvents kind [buf])) (meets_callSink ?_ ?_ ?_)
            (fun e w h => ⟨h.1, by simp⟩) fun _ => meets_pure fun w h => ⟨h.1, fun _ _ => h.2 rfl⟩
          · rintro w rfl
            exact ⟨w.quiet_logged rfl, fun _ => by simp [writeEvents, hempty, RunState.logged]⟩
          · rintro e w rfl
            exact ⟨w.quiet_logged rfl, by simp⟩
          · rintro w rfl
            exact .refl w
      · cases r with
        | error e => exact meets_pure fun w h => ⟨h.1, by simp⟩
        | ok b =>
          refine meets_of_forall fun w₁ h₁ => (ih _ w₁).conseq (fun _ h => h) ?_ ?_
          · rintro em' w ⟨hquiet, hall⟩
            refine ⟨h₁.1.trans hquiet, fun hnone => ?_⟩
            obtain ⟨bufs, hbufs, hencoded, hlog⟩ := hall hnone
            refine ⟨buf :: bufs, ?_, ?_, ?_⟩
            · rw [encodeAll, hbuf, ok_bind, hbufs]
              rfl
            · rw [hencoded, append_assoc]
              rfl
            · rw [hlog, h₁.2 b rfl, append_assoc, ← writeEvents_append]
              rfl
          · exact fun _ w hquiet => h₁.1.trans hquiet

lemma meets_emitUnlessFailed (kind : RecordKind) (xs : List AnyRecord) (em : Emission)
    (w₀ : RunState) :
    Meets (fun w => w = w₀) (emitUnlessFailed p kind xs em)
      (fun em' w => w₀.Quiet w ∧ (em'.err = none → em.err = none ∧ CleanFrom w₀.log w.log))
      (fun _ w => w₀.Quiet w) := by
  unfold emitUnlessFailed
  split_ifs with herr
  · rintro w rfl
    exact ⟨.refl w, fun hnone => by simp [hnone] at herr⟩
  · refine (meets_emitLoop kind xs em w₀).conseq (fun _ h => h) (fun em' w h => ?_)
      (fun _ w h => h)
    refine ⟨h.1, fun hnone => ⟨by simpa using herr, ?_⟩⟩
    obtain ⟨bufs, -, -, hlog⟩ := h.2 hnone
    exact ⟨_, hlog, clean_writeEvents kind bufs⟩

variable [CaseMapping]

/-- An error is kept, and every failure reported. -/
lemma meets_emitRest (records : List DeviceRecord) (a : Assemblers) (em : Emission)
    (w₀ : RunState) :
    Meets (fun w => w = w₀) (emitRest p records a em)
      (fun r w => w₀.Quiet w ∧ (r.err = none → em.err = none ∧ CleanFrom w₀.log w.log))
      (fun _ w => w₀.Quiet w) := by
  refine meets_bind (meets_emitUnlessFailed _ _ _ w₀) fun devices => ?_
  refine meets_of_forall fun w₁ h₁ => ?_
  refine meets_bind (Q := fun _ w => w = w₁) (meets_orPanic (fun _ _ h => h) ?_) fun links => ?_
  · rintro w rfl
    exact h₁.1
  refine meets_bind ((meets_emitUnlessFailed _ _ _ w₁).atDrop fun _ _ h => h₁.1.trans h)
    fun links => ?_
  refine meets_of_forall fun w₂ h₂ => ?_
  refine meets_bind ((meets_emitUnlessFailed _ _ _ w₂).atDrop
    fun _ _ h => (h₁.1.trans h₂.1).trans h) fun profiles => ?_
  refine meets_pure fun w h₃ => ⟨(h₁.1.trans h₂.1).trans h₃.1, fun hnone => ?_⟩
  obtain ⟨hnone₂, hclean₃⟩ := h₃.2 hnone
  obtain ⟨hnone₁, hclean₂⟩ := h₂.2 hnone₂
  obtain ⟨hnone₀, hclean₁⟩ := h₁.2 hnone₁
  exact ⟨hnone₀, (hclean₁.trans hclean₂).trans hclean₃⟩

end Emit

/-! ## The course of a run -/

/-- What one run works on: its stages and fuser, the scans of its targets, where in the plan they
start, the pins of the plan, and the checkpoint file found. -/
structure Leg where
  pipeline : Pipeline
  fuser : Fuser
  scans : ℕ → TargetScan
  base : ℕ
  pins : List (Target × List IpAddr)
  found : Option Checkpoint

section Course

variable [CaseMapping]

/-- What a fuser that holds nothing back makes of a scan. -/
def targetRecords (p : Pipeline) (fuser : Fuser) (scan : TargetScan) :
    Result (List AnyRecord) := do
  let (records, _) ← fuser.ingest scan.probeOutcomes
  let records ← records.mapM (classifyAndStamp p)
  pure (records.map .device)

variable (k : Leg)

/-- What the encoder is given of the first `n` targets. -/
def Leg.encoded : ℕ → List AnyRecord
  | 0 => []
  | n + 1 => Leg.encoded n ++
      ((targetRecords k.pipeline k.fuser (k.scans n)).toOption.getD [])

/-- What it makes of the records of a target, having been given those of all targets before. -/
def Leg.rendered (j : ℕ) : Result (List Bytes) := do
  let records ← targetRecords k.pipeline k.fuser (k.scans j)
  encodeAll k.pipeline.encoder (k.encoded j) records

/-- Only records of targets have been written, others behind them, or a call has failed. -/
inductive Stage where
  | emitting
  | trailing
  | failed

/-- The logs of a run that has worked on the first `n` targets; `durable` if it has flushed and
written nothing since. -/
inductive Course : ℕ → Stage → Bool → List Event → Prop where
  | start : Course 0 .emitting false []
  | target {n : ℕ} {durable : Bool} {log : List Event} {bufs : List Bytes}
      (past : Course n .emitting durable log) (hbufs : k.rendered n = .ok bufs) :
      Course (n + 1) .emitting false (log ++ writeEvents .device bufs)
  | trail {n : ℕ} {durable : Bool} {log events : List Event}
      (past : Course n .emitting durable log) (hclean : Clean events)
      (hquiet : recorded events = []) : Course n .trailing false (log ++ events)
  | fail {n m : ℕ} {stage : Stage} {durable : Bool} {log events : List Event}
      (past : Course n stage durable log) (hle : n ≤ m) (hquiet : recorded events = []) :
      Course m .failed false (log ++ events)
  | disk {n : ℕ} {stage : Stage} {durable : Bool} {log : List Event} {call : DiskCall} {ok : Bool}
      (past : Course n stage durable log) (hquiet : recorded [.disk call ok] = []) :
      Course n stage durable (log ++ [.disk call ok])
  | flush {n : ℕ} {stage : Stage} {durable : Bool} {log : List Event} {call : SinkCall}
      (past : Course n stage durable log) (hstage : stage ≠ .failed)
      (hflush : (Event.sink call true).Flushes) : Course n stage true (log ++ [.sink call true])
  | rename {n : ℕ} {stage : Stage} {log : List Event} {c : Checkpoint}
      (past : Course n stage true log) (hpos : 0 < n)
      (hindex : c.highestFlushedIndex + 1 = k.base + n) (hpins : c.dnsPins = k.pins) :
      Course n stage true (log ++ [.disk (.rename c) true])

/-- Moreover the file holds the last checkpoint put in place, or what was found. -/
structure RunAt (n : ℕ) (stage : Stage) (durable : Bool) (w : RunState) : Prop where
  course : Course k n stage durable w.log
  file_eq : w.file = (recorded w.log).getLast?.or k.found

def RunOk (n : ℕ) (w : RunState) : Prop := ∃ stage durable, RunAt k n stage durable w

/-- It counts from the start of the run and keeps the pins. -/
def CheckpointWriter.Marks (writer : CheckpointWriter) : Prop :=
  writer.resumeBase = k.base ∧ writer.dnsPins = k.pins

/-- Between targets: the fuser is as it was, and unless an emission failed only the records of the
targets have been encoded and written. -/
structure StreamOk (n : ℕ) (st : StreamState) (w : RunState) : Prop where
  fuser_eq : st.fuser = k.fuser
  marks : ∃ writer, st.checkpoint = some writer ∧ writer.Marks k
  run_ok : RunOk k n w
  emitting : st.emission.err = none → st.emission.encoded = k.encoded n ∧
    ∃ durable, RunAt k n .emitting durable w

variable {k} {n m : ℕ} {stage : Stage} {durable : Bool} {w w' : RunState}

lemma runAt_start : RunAt k 0 .emitting false ⟨[], k.found⟩ := ⟨.start, rfl⟩

lemma RunOk.quiet (h : RunOk k n w) (hquiet : w.Quiet w') (hle : n ≤ m) : RunOk k m w' := by
  obtain ⟨stage, durable, hcourse, hfile⟩ := h
  obtain ⟨events, hlog⟩ := hquiet.grows
  refine ⟨.failed, false, ?_, by rw [hquiet.file_eq, hquiet.recorded_eq, hfile]⟩
  exact hlog ▸ hcourse.fail hle (hquiet.recorded_of_append hlog.symm)

lemma RunOk.mono (h : RunOk k n w) (hle : n ≤ m) : RunOk k m w := h.quiet (.refl w) hle

lemma RunAt.runOk (h : RunAt k n stage durable w) : RunOk k n w := ⟨stage, durable, h⟩

lemma RunAt.disk (h : RunAt k n stage durable w) {call : DiskCall} {ok : Bool}
    (hquiet : recorded [.disk call ok] = []) :
    RunAt k n stage durable (w.logged (.disk call ok)) := by
  have hlog := w.quiet_logged hquiet
  exact ⟨h.course.disk hquiet, by rw [hlog.file_eq, hlog.recorded_eq, h.file_eq]⟩

lemma RunAt.flush (h : RunAt k n stage durable w) (hstage : stage ≠ .failed) {call : SinkCall}
    (hflush : (Event.sink call true).Flushes) :
    RunAt k n stage true (w.logged (.sink call true)) := by
  have hlog : w.Quiet (w.logged (.sink call true)) := w.quiet_logged rfl
  exact ⟨h.course.flush hstage hflush, by rw [hlog.file_eq, hlog.recorded_eq, h.file_eq]⟩

/-! ## The stream keeps to its course -/

variable {writer : CheckpointWriter}

lemma keeps_writeAt {env : Surroundings} (hmarks : writer.Marks k) (hpos : 0 < n) :
    Keeps (RunAt k n stage true) (writer.writeAt env (writer.recordIndex n)) := by
  refine meets_andThen (Q := fun _ => RunAt k n stage true) (meets_callDisk ?_ ?_ ?_)
    (fun _ _ h => h) fun _ => meets_callDisk ?_ ?_ ?_
  · exact fun w h => h.disk rfl
  · exact fun e w h => h.disk rfl
  · exact fun w h => h
  · intro w h
    refine ⟨h.course.rename hpos ?_ hmarks.2, ?_⟩
    · change writer.resumeBase + n - 1 + 1 = k.base + n
      rw [hmarks.1]
      omega
    · simp [RunState.logged, recorded, DiskCall.apply]
  · exact fun e w h => h.disk rfl
  · exact fun w h => h

lemma meets_maybeCheckpoint {env : Surroundings} (hmarks : writer.Marks k) :
    Meets (fun w => ∃ durable, RunAt k n .emitting durable w) (writer.maybeCheckpoint env n)
      (fun r w => RunOk k n w ∧ ∀ writer', r = .ok writer' → writer'.Marks k ∧
        ∃ durable, RunAt k n .emitting durable w)
      (fun _ => RunOk k n) := by
  unfold CheckpointWriter.maybeCheckpoint
  split
  · refine meets_pure ?_
    rintro w ⟨durable, h⟩
    refine ⟨h.runOk, fun writer' hok => ?_⟩
    obtain rfl := Except.ok.inj hok
    exact ⟨hmarks, durable, h⟩
  · rename_i hdue
    have hpos : 0 < n := by grind
    refine meets_andThen (Q := fun r w => RunOk k n w ∧ (r = .ok () → RunAt k n .emitting true w))
      (meets_callSink ?_ ?_ ?_) (fun e w h => ⟨h.1, by simp⟩) fun _ => ?_
    · rintro w ⟨durable, h⟩
      have hflush := h.flush (by simp) (.inl rfl)
      exact ⟨hflush.runOk, fun _ => hflush⟩
    · rintro e w ⟨durable, h⟩
      exact ⟨h.runOk.quiet (w.quiet_logged rfl) le_rfl, by simp⟩
    · rintro w ⟨durable, h⟩
      exact h.runOk
    · refine meets_bind ((keeps_writeAt hmarks hpos).conseq (fun w h => h.2 rfl) (fun _ _ h => h)
        fun _ _ h => h.runOk) fun r => ?_
      cases r with
      | error e => exact meets_pure fun w h => ⟨h.runOk, by simp⟩
      | ok u =>
        refine meets_pure fun w h => ⟨h.runOk, fun writer' hok => ?_⟩
        obtain rfl := Except.ok.inj hok
        exact ⟨hmarks, true, h⟩

variable {p : Pipeline} {st : StreamState}

/-- Unless an error is returned or kept, the log grows by the writes of the target's records. -/
def Worked (p : Pipeline) (st : StreamState) (x : TargetScan) (w₀ : RunState) :
    Result StreamState → RunState → Prop
  | .error _, w => w₀.Quiet w
  | .ok st', w => w₀.Quiet w ∧ st'.fuser = st.fuser ∧ st'.checkpoint = st.checkpoint ∧
      (st'.emission.err = none → st.emission.err = none ∧ ∃ records bufs,
        targetRecords p st.fuser x = .ok records ∧
        encodeAll p.encoder st.emission.encoded records = .ok bufs ∧
        st'.emission.encoded = st.emission.encoded ++ records ∧
        w.log = w₀.log ++ writeEvents .device bufs)

lemma meets_emitTargetRecords (himm : st.fuser.Immediate) (hnone : st.emission.err = none)
    (x : TargetScan) (w₀ : RunState) :
    Meets (fun w => w = w₀) (emitTargetRecords p x.outcomes st) (Worked p st x w₀)
      (fun _ w => w₀.Quiet w) := by
  refine meets_pure_andThen ?_ ?_
  · rintro e - w rfl
    exact .refl w
  rintro ⟨recs, fuser'⟩ hingest
  refine meets_pure_andThen ?_ ?_
  · rintro e - w rfl
    exact .refl w
  rintro ⟨records, assemblers⟩ hpre
  rw [prepareRecords_eq] at hpre
  obtain ⟨rs, hrs, heq⟩ := map_eq_ok.mp hpre
  obtain ⟨rfl, -⟩ := Prod.mk.inj heq
  refine meets_bind (meets_emitLoop _ _ _ w₀) fun em => meets_pure fun w h => ?_
  refine ⟨h.1, himm.ingest hingest, rfl, fun herr => ⟨hnone, ?_⟩⟩
  obtain ⟨bufs, hbufs, hencoded, hlog⟩ := h.2 herr
  refine ⟨_, bufs, ?_, hbufs, hencoded, hlog⟩
  have hing' : st.fuser.ingest x.probeOutcomes = .ok (recs, fuser') := hingest
  simp only [targetRecords, hing', ok_bind, hrs]
  rfl

lemma meets_processTarget (himm : st.fuser.Immediate) (x : TargetScan) (w₀ : RunState) :
    Meets (fun w => w = w₀) (processTarget p x st) (Worked p st x w₀) (fun _ w => w₀.Quiet w) := by
  refine meets_bind (Q := fun _ w => w = w₀) (meets_orPanic (fun _ _ h => h) ?_) fun tally => ?_
  · rintro w rfl
    exact .refl w
  dsimp only
  split
  · rename_i hnone
    refine meets_emitTargetRecords ?_ ?_ x w₀
    · exact himm
    · exact Option.isNone_iff_eq_none.mp hnone
  · rename_i hsome
    rintro w rfl
    exact ⟨.refl w, rfl, rfl, fun herr => absurd (Option.isNone_iff_eq_none.mpr herr) hsome⟩

lemma meets_checkpointTarget (st : StreamState) :
    Meets (StreamOk k n st) (checkpointTarget p n st) (fun st' => StreamOk k n st')
      (fun _ => RunOk k n) := by
  unfold checkpointTarget
  split
  · rename_i writer hnone hwriter
    refine meets_of_forall fun w₀ h₀ => ?_
    obtain ⟨hencoded, hat⟩ := h₀.emitting hnone
    have hmarks : writer.Marks k := by
      obtain ⟨writer', hwriter', hmarks⟩ := h₀.marks
      grind
    refine meets_bind ((meets_maybeCheckpoint hmarks).pre ?_) fun r => ?_
    · rintro w rfl
      exact hat
    cases r with
    | error e => exact meets_pure fun w h => ⟨h₀.fuser_eq, h₀.marks, h.1, nofun⟩
    | ok writer' =>
      refine meets_pure fun w h => ?_
      obtain ⟨hmarks', hat'⟩ := h.2 writer' rfl
      exact ⟨h₀.fuser_eq, ⟨writer', rfl, hmarks'⟩, h.1, fun _ => ⟨hencoded, hat'⟩⟩
  · exact meets_pure fun w h => h

/-- When `n` targets have been worked on. -/
def Streamed (k : Leg) (n : ℕ) : Result StreamState → RunState → Prop
  | .error _ => RunOk k n
  | .ok st => StreamOk k n st

lemma meets_advance (himm : k.fuser.Immediate) (st : StreamState) :
    Meets (StreamOk k n st) (advance k.pipeline n (k.scans n) st) (Streamed k (n + 1))
      (fun _ => RunOk k (n + 1)) := by
  refine meets_of_forall fun w₀ h₀ => ?_
  have hnext : ∀ {w}, w₀.Quiet w → RunOk k (n + 1) w := fun hq => h₀.run_ok.quiet hq n.le_succ
  refine meets_andThen ((meets_processTarget (h₀.fuser_eq ▸ himm) (k.scans n) w₀).atDrop
    fun _ _ h => hnext h) (fun e w h => hnext h) fun st' => ?_
  refine meets_bind ((meets_checkpointTarget st').pre ?_) fun st'' => meets_pure fun w h => h
  rintro w ⟨hquiet, hfuser, hcheckpoint, hexact⟩
  refine ⟨hfuser.trans h₀.fuser_eq, hcheckpoint ▸ h₀.marks, hnext hquiet, fun hnone => ?_⟩
  obtain ⟨hnone₀, records, bufs, hrecords, hbufs, hencoded, hlog⟩ := hexact hnone
  obtain ⟨hencoded₀, durable, hat⟩ := h₀.emitting hnone₀
  rw [h₀.fuser_eq] at hrecords
  rw [hencoded₀] at hbufs hencoded
  have hrendered : k.rendered n = .ok bufs := by
    rw [Leg.rendered, hrecords]
    exact hbufs
  refine ⟨?_, false, ?_, by rw [hquiet.file_eq, hquiet.recorded_eq, hat.file_eq]⟩
  · rw [hencoded, Leg.encoded, hrecords]
    rfl
  · exact hlog ▸ hat.course.target hrendered

lemma meets_inOrder (himm : k.fuser.Immediate) (j n : ℕ) (st : StreamState) :
    Meets (StreamOk k n st) (inOrder k.pipeline n ((List.range' n j).map k.scans) st)
      (Streamed k (n + j)) (fun _ => RunOk k (n + j)) := by
  induction j generalizing n st with
  | zero => exact meets_pure fun w h => h
  | succ j ih =>
    have hle : n + 1 ≤ n + (j + 1) := by omega
    refine meets_andThen ((meets_advance himm st).atDrop fun _ _ h => h.mono hle)
      (fun e w h => RunOk.mono h hle) fun st' => ?_
    have hrest := ih (n + 1) st'
    rwa [show n + 1 + j = n + (j + 1) by omega] at hrest

/-- Unless an error is returned or kept, no call has failed. -/
def Blocked (k : Leg) (n : ℕ) :
    Result (ℕ × StreamState × Emitted) → RunState → Prop
  | .error _, w => RunOk k n w
  | .ok (n', st, emitted), w => n' = n ∧ RunOk k n w ∧
      (∃ writer, st.checkpoint = some writer ∧ writer.Marks k) ∧
      (emitted.err = none → ∃ durable, RunAt k n .trailing durable w)

lemma meets_finishStream (himm : k.fuser.Immediate) (st : StreamState) :
    Meets (StreamOk k n st) (finishStream k.pipeline n st) (Blocked k n) (fun _ => RunOk k n) := by
  refine meets_of_forall fun w₀ h₀ => ?_
  unfold finishStream
  rw [h₀.fuser_eq, himm.finish]
  refine meets_pure_andThen ?_ ?_
  · rintro e - w rfl
    exact h₀.run_ok
  rintro ⟨tail, fuser'⟩ -
  refine meets_pure_andThen ?_ ?_
  · rintro e - w rfl
    exact h₀.run_ok
  rintro ⟨records, assemblers⟩ -
  refine meets_bind ((meets_emitRest _ _ _ w₀).atDrop fun _ _ h => h₀.run_ok.quiet h le_rfl)
    fun emitted => meets_pure fun w h => ?_
  refine ⟨rfl, h₀.run_ok.quiet h.1 le_rfl, h₀.marks, fun hnone => ?_⟩
  obtain ⟨hnone₀, events, hlog, hclean⟩ := h.2 hnone
  obtain ⟨-, durable, hat⟩ := h₀.emitting hnone₀
  refine ⟨false, ?_, by rw [h.1.file_eq, h.1.recorded_eq, hat.file_eq]⟩
  exact hlog ▸ hat.course.trail hclean (h.1.recorded_of_append hlog)

variable {received : List TargetScan}

lemma meets_streamBlock (himm : k.fuser.Immediate) (hscans : AnyOrder k.scans n received)
    (st : StreamState) :
    Meets (StreamOk k 0 st) (streamBlock k.pipeline received st) (Blocked k n)
      (fun _ => RunOk k n) := by
  have hin : Meets (StreamOk k 0 st) (inOrder k.pipeline 0 ((List.range' 0 n).map k.scans) st)
      (Streamed k (0 + n)) (fun _ => RunOk k (0 + n)) := meets_inOrder himm n 0 st
  rw [Nat.zero_add, ← range_eq_range'] at hin
  rw [streamBlock_eq k.pipeline hscans]
  exact meets_andThen hin (fun _ _ h => h) (meets_finishStream himm)

/-- A summary means that no call failed and all is flushed; the checkpoint is gone unless the run
was cancelled. -/
def Returned (k : Leg) (n : ℕ) (cancelled : Bool) {α : Type} :
    Result α → RunState → Prop
  | .error _, w => RunOk k n w
  | .ok _, w => Course k n .trailing true w.log ∧
      w.file = if cancelled then (recorded w.log).getLast?.or k.found else none

/-- How far a cancelled run got is recorded; else the checkpoint is removed. -/
lemma meets_finalizeCheckpoint (hmarks : writer.Marks k) (cancelled : Bool) :
    Meets (RunAt k n .trailing true) (finalizeCheckpoint p (some writer) cancelled n)
      (Returned k n cancelled) (fun _ => RunOk k n) := by
  unfold finalizeCheckpoint
  cases cancelled with
  | true =>
    dsimp only
    rw [if_pos rfl]
    split
    · rename_i hpos
      refine meets_bind ((keeps_writeAt hmarks hpos).atDrop fun _ _ h => h.runOk)
        fun r => meets_pure fun w h => ?_
      cases r with
      | error e => exact h.runOk
      | ok u => exact ⟨h.course, h.file_eq⟩
    · exact meets_pure fun w h => ⟨h.course, h.file_eq⟩
  | false =>
    refine meets_bind (Q := fun r w => Returned k n false (r.mapError RastreoError.resume) w)
      (meets_callDisk ?_ ?_ ?_) fun r => meets_pure fun w h => h
    · exact fun w h => ⟨h.course.disk rfl, rfl⟩
    · exact fun e w h => (h.disk rfl).runOk
    · exact fun w h => h.runOk

/-- Over the scans of the first `n` targets in whatever order. -/
theorem meets_streamDiscovery (himm : k.fuser.Immediate) (hmarks : writer.Marks k)
    (hscans : AnyOrder k.scans n received) (cancelled : Bool) :
    Meets (fun w => w = ⟨[], k.found⟩)
      (streamDiscovery k.pipeline k.fuser (some writer) received cancelled)
      (fun r w => Returned k n cancelled r w ∧
        ∀ summary, r = .ok summary → summary.cancelled = cancelled)
      (fun _ => RunOk k n) := by
  refine meets_bind ((meets_streamBlock himm hscans _).pre ?_) fun block => ?_
  · rintro w rfl
    exact ⟨rfl, ⟨writer, rfl, hmarks⟩, runAt_start.runOk, fun _ => ⟨rfl, false, runAt_start⟩⟩
  cases block with
  | error halted =>
    refine meets_bind (Q := fun _ => RunOk k n) (meets_callSink ?_ ?_ (fun _ h => h))
      fun closed => meets_pure fun w h => ⟨h, nofun⟩
    · exact fun w h => RunOk.quiet h (w.quiet_logged rfl) le_rfl
    · exact fun e w h => RunOk.quiet h (w.quiet_logged rfl) le_rfl
  | ok result =>
    obtain ⟨n', st, emitted⟩ := result
    refine meets_of_forall fun w₀ h₀ => ?_
    obtain ⟨rfl, hok, ⟨writer', hwriter', hmarks'⟩, htrail⟩ := h₀
    -- Closing makes durable what was emitted, if it succeeds.
    refine meets_bind (Q := fun closed w => RunOk k n' w ∧
      (emitted.err = none → closed = .ok () → RunAt k n' .trailing true w))
      (meets_callSink ?_ ?_ ?_) fun closed => ?_
    · rintro w rfl
      refine ⟨hok.quiet (w.quiet_logged rfl) le_rfl, fun hnone _ => ?_⟩
      obtain ⟨durable, hat⟩ := htrail hnone
      exact hat.flush nofun (.inr rfl)
    · rintro e w rfl
      exact ⟨hok.quiet (w.quiet_logged rfl) le_rfl, nofun⟩
    · rintro w rfl
      exact hok
    · dsimp only
      split
      · exact meets_pure fun w h => ⟨h.1, nofun⟩
      · exact meets_pure fun w h => ⟨h.1, nofun⟩
      · rename_i herr
        rw [hwriter']
        refine meets_bind ((meets_finalizeCheckpoint hmarks' cancelled).pre
          fun w h => h.2 herr rfl) fun r => ?_
        cases r with
        | error e => exact meets_pure fun w h => ⟨h, nofun⟩
        | ok u =>
          refine meets_read_bind fun log => meets_pure fun w h => ⟨h, fun summary heq => ?_⟩
          rw [← Except.ok.inj heq]
          rfl

/-! ## Flushed targets -/

variable {log log' : List Event} {j : ℕ}

/-- The sink accepted the records of a target, one after another. -/
def EmittedIn (k : Leg) (j : ℕ) (log : List Event) : Prop :=
  ∃ bufs, k.rendered j = .ok bufs ∧ writeEvents .device bufs <:+: log

/-- The records of a target were emitted and later flushed. -/
def Flushed (k : Leg) (j : ℕ) (log : List Event) : Prop :=
  ∃ before after, log = before ++ after ∧ EmittedIn k j before ∧ ∃ e ∈ after, e.Flushes

lemma EmittedIn.mono (h : EmittedIn k j log) (hlog : log <+: log') : EmittedIn k j log' := by
  obtain ⟨bufs, hbufs, hinfix⟩ := h
  exact ⟨bufs, hbufs, hinfix.trans hlog.isInfix⟩

lemma Flushed.mono (h : Flushed k j log) (hlog : log <+: log') : Flushed k j log' := by
  obtain ⟨before, after, rfl, hemitted, e, he, hflush⟩ := h
  obtain ⟨more, rfl⟩ := hlog
  exact ⟨before, after ++ more, by rw [append_assoc], hemitted, e, mem_append_left _ he, hflush⟩

/-- After the first `n` targets: the indices recorded do not decrease and are those of targets
worked on, all of which are flushed, and the pins are those of the plan. -/
structure LogOk (k : Leg) (n : ℕ) (log : List Event) : Prop where
  sorted : ((recorded log).map (·.highestFlushedIndex)).Pairwise (· ≤ ·)
  bounds : ∀ c ∈ recorded log, k.base ≤ c.highestFlushedIndex ∧ c.highestFlushedIndex < k.base + n
  flushed : ∀ c ∈ recorded log, ∀ j, k.base + j ≤ c.highestFlushedIndex → Flushed k j log
  pins : ∀ c ∈ recorded log, c.dnsPins = k.pins

lemma LogOk.quiet (h : LogOk k n log) (hle : n ≤ m) {events : List Event}
    (hquiet : recorded events = []) : LogOk k m (log ++ events) := by
  have heq : recorded (log ++ events) = recorded log := by
    rw [recorded_append, hquiet, append_nil]
  refine ⟨?_, ?_, ?_, ?_⟩ <;> rw [heq]
  · exact h.sorted
  · exact fun c hc => ⟨(h.bounds c hc).1, by have := (h.bounds c hc).2; omega⟩
  · exact fun c hc j hj => (h.flushed c hc j hj).mono (prefix_append _ _)
  · exact h.pins

/-- If all are flushed, the index of the last one may be recorded. -/
lemma LogOk.rename (h : LogOk k n log) (hpos : 0 < n) (hflushed : ∀ j < n, Flushed k j log)
    {c : Checkpoint} (hindex : c.highestFlushedIndex + 1 = k.base + n)
    (hpins : c.dnsPins = k.pins) : LogOk k n (log ++ [.disk (.rename c) true]) := by
  have hrec : recorded (log ++ [.disk (.rename c) true]) = recorded log ++ [c] :=
    recorded_append _ _
  have hgrows : log <+: log ++ [.disk (.rename c) true] := prefix_append _ _
  refine ⟨?_, ?_, ?_, ?_⟩ <;> simp only [hrec, forall_mem_append, forall_mem_singleton]
  · rw [map_append, pairwise_append]
    refine ⟨h.sorted, pairwise_singleton _ _, fun i hi i' hi' => ?_⟩
    obtain ⟨c', hc', rfl⟩ := mem_map.mp hi
    obtain rfl := mem_singleton.mp hi'
    have := h.bounds c' hc'
    dsimp only
    omega
  · exact ⟨h.bounds, by omega, by omega⟩
  · exact ⟨fun c' hc' j hj => (h.flushed c' hc' j hj).mono hgrows,
      fun j hj => (hflushed j (by omega)).mono hgrows⟩
  · exact ⟨h.pins, hpins⟩

/-- What a course means for the targets: unless a call failed they are emitted, at a flush they are
flushed, and the checkpoints recorded are right. -/
lemma Course.logOk (h : Course k n stage durable log) :
    (stage ≠ .failed → ∀ j < n, EmittedIn k j log) ∧
      (durable = true → ∀ j < n, Flushed k j log) ∧ LogOk k n log := by
  induction h with
  | start => exact ⟨nofun, nofun, .nil, nofun, nofun, nofun⟩
  | @target n durable log bufs past hbufs ih =>
    obtain ⟨hemitted, -, hok⟩ := ih
    refine ⟨fun _ j hj => ?_, nofun, hok.quiet n.le_succ (recorded_writeEvents _ _)⟩
    rcases Nat.lt_succ_iff_lt_or_eq.mp hj with hlt | rfl
    · exact (hemitted nofun j hlt).mono (prefix_append _ _)
    · exact ⟨bufs, hbufs, (suffix_append _ _).isInfix⟩
  | trail past hclean hquiet ih =>
    obtain ⟨hemitted, -, hok⟩ := ih
    exact ⟨fun _ j hj => (hemitted nofun j hj).mono (prefix_append _ _), nofun,
      hok.quiet le_rfl hquiet⟩
  | fail past hle hquiet ih => exact ⟨fun h => absurd rfl h, nofun, ih.2.2.quiet hle hquiet⟩
  | disk past hquiet ih =>
    obtain ⟨hemitted, hflushed, hok⟩ := ih
    exact ⟨fun h j hj => (hemitted h j hj).mono (prefix_append _ _),
      fun h j hj => (hflushed h j hj).mono (prefix_append _ _), hok.quiet le_rfl hquiet⟩
  | @flush n stage durable log call past hstage hflush ih =>
    obtain ⟨hemitted, -, hok⟩ := ih
    exact ⟨fun h j hj => (hemitted h j hj).mono (prefix_append _ _),
      fun _ j hj => ⟨log, _, rfl, hemitted hstage j hj, _, mem_singleton.mpr rfl, hflush⟩,
      hok.quiet le_rfl rfl⟩
  | rename past hpos hindex hpins ih =>
    obtain ⟨hemitted, hflushed, hok⟩ := ih
    exact ⟨fun h j hj => (hemitted h j hj).mono (prefix_append _ _),
      fun h j hj => (hflushed h j hj).mono (prefix_append _ _),
      hok.rename hpos (hflushed rfl) hindex hpins⟩

end Course

end Rastreo
