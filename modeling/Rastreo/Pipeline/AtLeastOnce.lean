import Rastreo.Pipeline.Checkpointing
import Rastreo.Pipeline.Run
import Rastreo.Pipeline.StreamBatch

/-!
# At-least-once delivery across crashes and resumes

In every sequence of runs of one scenario, a checkpoint on disk means that the records of all
targets up to its index have been emitted and flushed by some run (`at_least_once`).  All runs work
on the plan of the first: a checkpoint holds its pins, from which the next run rebuilds it.
-/

namespace Rastreo

open Async List Option

/-! ## One run -/

section OneRun

variable [CaseMapping] {P : Type}

/-- The plan as the run has it, stamped with its time. -/
def PastRun.planned (plan : ResolvedPlan) (r : PastRun P) : PlannedScan :=
  (plan.stamped r.now).planned

def PastRun.targets (plan : ResolvedPlan) (r : PastRun P) : List ResolvedTarget :=
  (r.planned plan).targetsFrom r.found

def PastRun.leg (scenario : DiscoverScenarioConfig) (plan : ResolvedPlan) (fuser : Fuser)
    (r : PastRun P) : Leg where
  pipeline := r.opts.pipeline scenario (r.planned plan) r.found
  fuser := fuser
  scans := (r.opts.scanOver (r.targets plan)).scanAt
  base := resumeBase r.found
  pins := plan.dnsPins
  found := r.found

/-- The records of a position of the plan were emitted and flushed. -/
def PastRun.Delivered (scenario : DiscoverScenarioConfig) (plan : ResolvedPlan) (r : PastRun P)
    (t : ℕ) : Prop :=
  resumeBase r.found ≤ t ∧ ∃ fuser,
    createFuser r.opts.mib scenario.effectiveFuserConfig = .ok fuser ∧
    Flushed (r.leg scenario plan fuser) (t - resumeBase r.found) r.final.log

def PastRun.indices (r : PastRun P) : List ℕ :=
  (recorded r.final.log).map (·.highestFlushedIndex)

/-- It returned a summary and was not cancelled. -/
def PastRun.Completed (r : PastRun P) : Prop :=
  ∃ summary, r.exit = .done (.ok summary) ∧ summary.cancelled = false

/-- Refused before it did anything, or on a course over the first `n` of its targets. -/
inductive PastRun.Traced (scenario : DiscoverScenarioConfig) (plan : ResolvedPlan)
    (r : PastRun P) : Prop where
  | refused {e : RastreoError} (hexit : r.exit = .done (.error e))
      (hfinal : r.final = ⟨[], r.found⟩)
  | ran {fuser : Fuser} {n : ℕ} {stage : Stage} {durable : Bool}
      (hfuser : createFuser r.opts.mib scenario.effectiveFuserConfig = .ok fuser)
      (hresume : r.opts.checkpoint.map (·.resume) = some r.found.isSome)
      (hstands : StandFor scenario.targets plan.specs) (hle : n ≤ (r.targets plan).length)
      (hcourse : Course (r.leg scenario plan fuser) n stage durable r.final.log)
      (hkept : ¬ r.Completed → r.final.file = (recorded r.final.log).getLast?.or r.found)
      (hcompleted : r.Completed →
        r.final.file = none ∧ durable = true ∧ n = (r.targets plan).length)

variable {digest : Digest} {scenario : DiscoverScenarioConfig} {plan : ResolvedPlan}
  {opts : RunOptions P} {resolver : Resolver} {now : SystemTime}
  {opened : Status} {file : Option Checkpoint} {r : PastRun P}

omit [CaseMapping] in
lemma not_completed_of_error {e : RastreoError} (h : r.exit = .done (.error e)) :
    ¬ r.Completed := by
  rintro ⟨summary, hexit, -⟩
  cases h.symm.trans hexit

omit [CaseMapping] in
lemma PastRun.length_targets (plan : ResolvedPlan) (r : PastRun P) :
    (r.targets plan).length = plan.intoStream.length - resumeBase r.found := by
  rw [targets, PlannedScan.targetsFrom, length_drop]
  exact congrArg (· - _) (plan.length_intoStream_stamped r.now)

/-- Every run, however it ends, if its plan is this one. -/
theorem meets_runScenario {config : CheckpointConfig} (hconfig : opts.checkpoint = some config)
    (hplan : ∀ resolved, config.resume = file.isSome →
      planFor scenario resolver now file = .ok resolved → resolved = plan.stamped now ∧
        StandFor scenario.targets plan.specs ∧
        opts.Scans scenario (resolved.planned.targetsFrom file)) :
    Meets (fun w => w = ⟨[], file⟩) (runScenario digest scenario resolver opts now opened)
      (fun r w => (⟨opts, now, file, .done r, w⟩ : PastRun P).Traced scenario plan)
      (fun _ w => (⟨opts, now, file, .dropped (), w⟩ : PastRun P).Traced scenario plan) := by
  have hrefused : ∀ (e : RastreoError) (w : RunState), w = ⟨[], file⟩ →
      (⟨opts, now, file, .done (.error e), w⟩ : PastRun P).Traced scenario plan :=
    fun e w hw => .refused rfl hw
  refine meets_pure_andThen (fun e _ => hrefused e) fun _ hvalid => ?_
  refine meets_read_bind_eq file (fun w h => by rw [h]) ?_
  refine meets_pure_andThen (fun e _ => hrefused e) fun resumeFrom hpre => ?_
  rw [RunOptions.resumeFrom, hconfig, mapError_eq_ok] at hpre
  obtain ⟨rfl, hflag, heligible⟩ := preflightCheckpointRequest_eq_ok hpre
  refine meets_pure_andThen (fun e _ => hrefused e) fun _ _ => ?_
  refine meets_pure_andThen (fun e _ => hrefused e) fun resolved hresolved => ?_
  obtain ⟨rfl, hstands, hscans⟩ := hplan resolved hflag hresolved
  refine meets_pure_andThen (fun e _ => hrefused e) fun _ _ => ?_
  refine meets_pure_andThen (fun e _ => hrefused e) fun fuser hfuser => ?_
  obtain ⟨n, hle, hreceived, hfull⟩ :=
    hscans.received (DiscoverScenarioConfig.validate_eq_ok hvalid).1
  have himm : fuser.Immediate :=
    createFuser_immediate (subtreeContainsIdentity_of_eligible heligible) hfuser
  have hresume : opts.checkpoint.map (·.resume) = some resumeFrom.isSome := by
    rw [hconfig, map_some, hflag]
  -- The leg of the run does not depend on how it ends.
  set k : Leg := (⟨opts, now, resumeFrom, .dropped (), ⟨[], none⟩⟩ : PastRun P).leg scenario plan
    fuser with hk
  obtain ⟨writer, hwriter, hmarks⟩ : ∃ writer, opts.checkpointWriter digest scenario
      (plan.stamped now).planned resumeFrom = some writer ∧ writer.Marks k := by
    rw [RunOptions.checkpointWriter, hconfig]
    exact ⟨_, rfl, rfl, rfl⟩
  have hran : ∀ (exit : Exit Unit (Result DiscoverySummary)) (w : RunState),
      ¬ (⟨opts, now, resumeFrom, exit, w⟩ : PastRun P).Completed → RunOk k n w →
      (⟨opts, now, resumeFrom, exit, w⟩ : PastRun P).Traced scenario plan := by
    rintro exit w hnot ⟨stage, durable, hcourse, hfile⟩
    exact .ran hfuser hresume hstands hle hcourse (fun _ => hfile) fun h => absurd h hnot
  rw [hwriter]
  refine meets_andThen ((meets_streamDiscovery (k := k) himm hmarks hreceived _).atDrop
    fun _ w hw => hran _ w ?_ hw) (fun e w hw => ?_) fun summary => meets_pure fun w hw => ?_
  · rintro ⟨summary, hexit, -⟩
    cases hexit
  · exact hran _ w (not_completed_of_error rfl) hw.1
  · obtain ⟨⟨hcourse, hfile⟩, hcancelled⟩ := hw
    have hcancelled := hcancelled summary rfl
    refine .ran hfuser hresume hstands hle hcourse (fun hnot => ?_) fun hcompleted => ?_
    · rw [hfile, ← hcancelled, if_pos]
      · rfl
      by_contra hfalse
      exact hnot ⟨_, rfl, Bool.eq_false_iff.mpr hfalse⟩
    · obtain ⟨summary', hexit, hnot⟩ := hcompleted
      cases hexit
      have hfalse := hcancelled.symm.trans hnot
      refine ⟨?_, rfl, hfull hfalse⟩
      rw [hfile, hfalse]
      rfl

/-- What the runs of a sequence rest on. -/
structure PastRun.Ok (scenario : DiscoverScenarioConfig) (plan : ResolvedPlan) (r : PastRun P) :
    Prop where
  sorted : r.indices.Pairwise (· ≤ ·)
  bounds : ∀ k ∈ r.indices, resumeBase r.found ≤ k ∧ k < plan.intoStream.length
  delivered : ∀ k ∈ r.indices, ∀ t, resumeBase r.found ≤ t → t ≤ k → r.Delivered scenario plan t
  resumed : r.indices ≠ [] → r.opts.checkpoint.map (·.resume) = some r.found.isSome
  pins : ∀ c ∈ recorded r.final.log,
    c.dnsPins = plan.dnsPins ∧ StandFor scenario.targets plan.specs
  kept : ¬ r.Completed → r.final.file = (recorded r.final.log).getLast?.or r.found
  completed : r.Completed → r.final.file = none ∧
    ∀ t, resumeBase r.found ≤ t → t < plan.intoStream.length → r.Delivered scenario plan t

lemma PastRun.Traced.ok (h : r.Traced scenario plan) : r.Ok scenario plan := by
  cases h with
  | refused hexit hfinal =>
    have hnil : recorded r.final.log = [] := by rw [hfinal]; rfl
    refine ⟨?_, ?_, ?_, ?_, ?_, fun _ => ?_, fun h => absurd h (not_completed_of_error hexit)⟩
    · simp [indices, hnil]
    · simp [indices, hnil]
    · simp [indices, hnil]
    · simp [indices, hnil]
    · simp [hnil]
    · rw [hnil, hfinal]
      rfl
  | @ran fuser n stage durable hfuser hresume hstands hle hcourse hkept hcompleted =>
    obtain ⟨-, hflushed, hlog⟩ := hcourse.logOk
    rw [r.length_targets] at hle hcompleted
    have hdelivered : ∀ t, resumeBase r.found ≤ t →
        Flushed (r.leg scenario plan fuser) (t - resumeBase r.found) r.final.log →
        r.Delivered scenario plan t := fun t hbase ht => ⟨hbase, fuser, hfuser, ht⟩
    refine ⟨hlog.sorted, forall_mem_map.mpr fun c hc => ?_,
      forall_mem_map.mpr fun c hc t hbase ht => ?_,
      fun _ => hresume, fun c hc => ⟨hlog.pins c hc, hstands⟩, hkept, fun hcom => ?_⟩
    · have := hlog.bounds c hc
      change resumeBase r.found ≤ _ ∧ _ < resumeBase r.found + n at this
      omega
    · refine hdelivered t hbase (hlog.flushed c hc _ ?_)
      change resumeBase r.found + (t - resumeBase r.found) ≤ _
      omega
    · obtain ⟨hnone, hdurable, hall⟩ := hcompleted hcom
      exact ⟨hnone, fun t hbase ht => hdelivered t hbase (hflushed hdurable _ (by omega))⟩

end OneRun

/-! ## Sequences of runs -/

section Sequence

variable [CaseMapping] {P : Type} {digest : Digest} {scenario : DiscoverScenarioConfig}
  {plan : ResolvedPlan}

structure HistoryOk (scenario : DiscoverScenarioConfig) (plan : ResolvedPlan)
    (runs : List (PastRun P)) (file : Option Checkpoint) : Prop where
  ok : ∀ r ∈ runs, r.Ok scenario plan
  covered : ∀ c, file = some c → c.highestFlushedIndex < plan.intoStream.length ∧
    ∀ t ≤ c.highestFlushedIndex, ∃ r ∈ runs, r.Delivered scenario plan t
  sorted : (runs.flatMap PastRun.indices).Pairwise (· ≤ ·)
  pins : ∀ c, file = some c → c.dnsPins = plan.dnsPins ∧ StandFor scenario.targets plan.specs
  below : ∀ c, file = some c → ∀ k ∈ runs.flatMap PastRun.indices, k ≤ c.highestFlushedIndex
  finished : ∀ r, runs.getLast? = some r → r.Completed →
    file = none ∧ ∀ t < plan.intoStream.length, ∃ r' ∈ runs, r'.Delivered scenario plan t

/-- The last checkpoint recorded, or else the file found. -/
lemma PastRun.Ok.file_cases {r : PastRun P} (h : r.Ok scenario plan) {c : Checkpoint}
    (hc : r.final.file = some c) :
    (∃ earlier, recorded r.final.log = earlier ++ [c]) ∨
      (recorded r.final.log = [] ∧ r.found = some c) := by
  have hexit : ¬ r.Completed := by
    intro hcom
    rw [(h.completed hcom).1] at hc
    contradiction
  have hkept := (h.kept hexit).symm.trans hc
  cases hlast : (recorded r.final.log).getLast? with
  | none =>
    rw [hlast] at hkept
    exact .inr ⟨getLast?_eq_none_iff.mp hlast, hkept⟩
  | some c' =>
    rw [hlast] at hkept
    obtain rfl := Option.some.inj hkept
    exact .inl (getLast?_eq_some_iff.mp hlast)

variable {runs : List (PastRun P)} {r : PastRun P}

lemma HistoryOk.delivered_before (h : HistoryOk scenario plan runs r.found) {t : ℕ}
    (ht : t < resumeBase r.found) : ∃ r' ∈ runs ++ [r], r'.Delivered scenario plan t := by
  cases hfound : r.found with
  | none =>
    rw [hfound] at ht
    exact absurd ht (Nat.not_lt_zero t)
  | some c =>
    rw [hfound] at ht
    obtain ⟨r', hr', hdel⟩ := (h.covered c hfound).2 t (le_of_lt ht)
    grind

lemma HistoryOk.indices_le (h : HistoryOk scenario plan runs r.found) (hr : r.Ok scenario plan)
    (hresume : r.opts.checkpoint.map (·.resume) = some !runs.isEmpty) {k k' : ℕ}
    (hk : k ∈ runs.flatMap PastRun.indices) (hk' : k' ∈ r.indices) : k ≤ k' := by
  have hruns : runs.isEmpty = false := by grind
  have hfound : r.found.isSome = true := by
    have hsame := (hr.resumed (ne_nil_of_mem hk')).symm.trans hresume
    grind
  obtain ⟨c, hc⟩ := isSome_iff_exists.mp hfound
  have hbase : resumeBase r.found = c.highestFlushedIndex := by rw [hc]; rfl
  exact (h.below c hc k hk).trans (hbase ▸ (hr.bounds k' hk').1)

lemma HistoryOk.next (h : HistoryOk scenario plan runs r.found) (hr : r.Ok scenario plan)
    (hresume : r.opts.checkpoint.map (·.resume) = some !runs.isEmpty) :
    HistoryOk scenario plan (runs ++ [r]) r.final.file := by
  have hflat : (runs ++ [r]).flatMap PastRun.indices =
      runs.flatMap PastRun.indices ++ r.indices := by simp
  have hlast : r ∈ runs ++ [r] := mem_append_right _ (mem_singleton.mpr rfl)
  have hmem : ∀ {c earlier}, recorded r.final.log = earlier ++ [c] →
      c.highestFlushedIndex ∈ r.indices := by
    intro c earlier hrec
    simp [PastRun.indices, hrec]
  refine ⟨?_, ?_, ?_, ?_, ?_, ?_⟩
  · intro r' hr'
    rcases mem_append.mp hr' with hr' | hr'
    · exact h.ok r' hr'
    · grind
  · intro c hc
    rcases hr.file_cases hc with ⟨earlier, hrec⟩ | ⟨-, hfound⟩
    · have hmem := hmem hrec
      refine ⟨(hr.bounds _ hmem).2, fun t ht => ?_⟩
      rcases Nat.lt_or_ge t (resumeBase r.found) with hlt | hge
      · exact h.delivered_before hlt
      · exact ⟨r, hlast, hr.delivered _ hmem t hge ht⟩
    · obtain ⟨hlt, hdel⟩ := h.covered c hfound
      refine ⟨hlt, fun t ht => ?_⟩
      grind
  · rw [hflat, pairwise_append]
    exact ⟨h.sorted, hr.sorted, fun k hk k' hk' => h.indices_le hr hresume hk hk'⟩
  · intro c hc
    rcases hr.file_cases hc with ⟨earlier, hrec⟩ | ⟨-, hfound⟩
    · exact hr.pins c (by simp [hrec])
    · exact h.pins c hfound
  · intro c hc k hk
    rw [hflat] at hk
    rcases hr.file_cases hc with ⟨earlier, hrec⟩ | ⟨hnil, hfound⟩
    · rcases mem_append.mp hk with hk | hk
      · exact h.indices_le hr hresume hk (hmem hrec)
      · have hsorted := hr.sorted
        rw [PastRun.indices, hrec, map_append] at hk hsorted
        rcases mem_append.mp hk with hk | hk
        · grind
        · grind
    · rw [PastRun.indices, hnil, map_nil, append_nil] at hk
      exact h.below c hfound k hk
  · intro r' hr' hcom
    rw [getLast?_concat, Option.some.injEq] at hr'
    subst hr'
    obtain ⟨hnone, hdel⟩ := hr.completed hcom
    refine ⟨hnone, fun t ht => ?_⟩
    rcases Nat.lt_or_ge t (resumeBase r.found) with hlt | hge
    · exact h.delivered_before hlt
    · exact ⟨r, hlast, hdel t hge ht⟩

/-- The plan of every run that gets to it is that of the first. -/
lemma HistoryOk.planned {file : Option Checkpoint} (h : HistoryOk scenario plan runs file)
    {resolver : Resolver} {now : SystemTime} (hruns : file = none → runs = [])
    (hfirst : runs = [] → resolver.IsSystem ∧
      ∀ resolved, resolver.plan now scenario.targets = .ok resolved → resolved = plan.stamped now)
    {resolved : ResolvedPlan} (hresolved : planFor scenario resolver now file = .ok resolved) :
    resolved = plan.stamped now ∧ StandFor scenario.targets plan.specs := by
  cases file with
  | none =>
    obtain ⟨hsystem, hplan⟩ := hfirst (hruns rfl)
    obtain rfl := hplan resolved hresolved
    have hplanned : resolver.plan now scenario.targets = .ok (plan.stamped now) := hresolved
    have hstands : StandFor scenario.targets (plan.stamped now).specs := hsystem.standFor hplanned
    exact ⟨rfl, hstands⟩
  | some c =>
    obtain ⟨hpins, hstands⟩ := h.pins c rfl
    have hreplayed : ResolvedPlan.fromPinned now scenario.targets c.dnsPins = .ok resolved :=
      hresolved
    rw [hpins, ResolvedPlan.fromPinned_dnsPins hstands] at hreplayed
    exact ⟨(Except.ok.inj hreplayed).symm, hstands⟩

lemma History.traced {file : Option Checkpoint} (h : History digest scenario plan runs file) :
    (∀ r ∈ runs, r.Traced scenario plan) ∧ HistoryOk scenario plan runs file := by
  induction h with
  | start =>
    refine ⟨forall_mem_nil _, forall_mem_nil _, fun c hc => ?_,
      .nil, fun c hc => ?_, fun c hc => ?_, fun r hr => ?_⟩
    · cases hc
    · cases hc
    · cases hc
    · cases hr
  | @next runs file past opts resolver now opened hresume hfirst hscans exit w hrun ih =>
    obtain ⟨htraced, hok⟩ := ih
    have hr : (⟨opts, now, file, exit, w⟩ : PastRun P).Traced scenario plan := by
      obtain ⟨config, hconfig, hflag⟩ := map_eq_some_iff.mp hresume
      have hplan : ∀ resolved, config.resume = file.isSome →
          planFor scenario resolver now file = .ok resolved → resolved = plan.stamped now ∧
            StandFor scenario.targets plan.specs ∧
            opts.Scans scenario (resolved.planned.targetsFrom file) := by
        intro resolved hfile hresolved
        have hruns : file = none → runs = [] := by
          rintro rfl
          simpa [hfile] using hflag
        obtain ⟨hplan, hstands⟩ := hok.planned hruns hfirst hresolved
        exact ⟨hplan, hstands, hscans resolved hresolved⟩
      cases exit with
      | done result => exact (meets_runScenario hconfig hplan).of_done rfl hrun
      | dropped site => exact (meets_runScenario hconfig hplan).of_dropped rfl hrun
    exact ⟨forall_mem_append.mpr ⟨htraced, forall_mem_singleton.mpr hr⟩, hok.next hr.ok hresume⟩

/-- At-least-once delivery. In any sequence of runs of a scenario, each after the first resumes from
the file the one before left; a run may return or crash before any of its calls. A checkpoint on
disk names a target of the plan, and the records of all targets up to it were emitted and flushed by
some run. Recorded indices never decrease. A run that ends in an error leaves the last checkpoint it
recorded, or the one it found. After a summary that was not cancelled, all targets were emitted and
flushed by some run, and the checkpoint is gone. -/
theorem at_least_once {file : Option Checkpoint} (h : History digest scenario plan runs file) :
    (∀ c, file = some c → c.highestFlushedIndex < plan.intoStream.length ∧
      (∀ later, ResolvedPlan.fromPinned later scenario.targets c.dnsPins =
        .ok (plan.stamped later)) ∧
      ∀ t ≤ c.highestFlushedIndex, ∃ r ∈ runs, r.Delivered scenario plan t) ∧
    (runs.flatMap PastRun.indices).Pairwise (· ≤ ·) ∧
    (∀ r ∈ runs, ∀ e, r.exit = .done (.error e) →
      r.final.file = (recorded r.final.log).getLast?.or r.found) ∧
    (∀ r, runs.getLast? = some r → ∀ summary, r.exit = .done (.ok summary) →
      summary.cancelled = false →
      file = none ∧ ∀ t < plan.intoStream.length, ∃ r' ∈ runs, r'.Delivered scenario plan t) := by
  have hok := h.traced.2
  refine ⟨fun c hc => ?_, hok.sorted, fun r hr e hexit => ?_, fun r hr summary hexit hflag => ?_⟩
  · obtain ⟨hlt, hdelivered⟩ := hok.covered c hc
    obtain ⟨hpins, hstands⟩ := hok.pins c hc
    exact ⟨hlt, fun later => hpins ▸ ResolvedPlan.fromPinned_dnsPins hstands later, hdelivered⟩
  · exact (hok.ok r hr).kept (not_completed_of_error hexit)
  · exact hok.finished r hr ⟨summary, hexit, hflag⟩

end Sequence

attribute [local instance] CaseMapping.ascii

/-- A name and an address. -/
def fileScenario : DiscoverScenarioConfig where
  name := none
  targets := [.dnsName "edge", .ip (.v4 2)]
  probers := [.icmp]
  fuser := none
  sink := some (.file "records.ndjson")
  configHash := none
  otherChecks := ⟨.ok (), .ok (), .ok ()⟩

def filePlan : ResolvedPlan :=
  ⟨[.resolved [.v4 0x0a000007#32] (.dnsName "edge"), .block (.single (.v4 2)) (.ip (.v4 2))], 0⟩

def fileTargets (now : SystemTime) : Scan Unit ResolvedTarget :=
  { twoTargets with
    targets := [⟨.v4 0x0a000007#32, .dnsName "edge", now⟩, ⟨.v4 2, .ip (.v4 2), now⟩] }

/-- It checkpoints after every target and crashes before a call of the sink after so many calls. -/
def crashingAfter (calls : ℕ) (resume : Bool) : RunOptions Unit where
  checkpoint := some ⟨"scan.checkpoint", 1, resume⟩
  mib := ⟨.error (.invalid "no MIB table"), fun _ => .error (.invalid "no MIB table")⟩
  readable := true
  setup := .ok ()
  scanId := "01"
  initiatedAt := 0
  stages :=
    { acceptingPipeline with
      env :=
        { acceptingPipeline.env with
          sink := fun log _ => if calls ≤ log.length then .crash else .ok } }
  scheduler := twoTargets.scheduler
  probers := twoTargets.probers
  ends := twoTargets.ends
  scan targets :=
    let scan : Scan Unit ResolvedTarget := { twoTargets with targets }
    ([scan.scanAt 1, scan.scanAt 0], false)

def recordRun (opts : RunOptions Unit) (dns : Nameserver) (now : SystemTime)
    (file : Option Checkpoint) : PastRun Unit :=
  let result := runScenario trivialDigest fileScenario (.hickory ⟨65536, dns⟩) opts now (.ok ())
    ⟨[], file⟩
  ⟨opts, now, file, result.1, result.2⟩

def PastRun.crashes {P : Type} (r : PastRun P) : Bool :=
  match r.exit with
  | .done _ => false
  | .dropped _ => true

def PastRun.completes {P : Type} (r : PastRun P) : Bool :=
  match r.exit with
  | .done (.ok summary) => !summary.cancelled
  | _ => false

/-- A run that leaves a checkpoint of the first target, and one that resumes when the name is gone.
-/
lemma history_pair {o₁ o₂ : RunOptions Unit} (h₁ : o₁.checkpoint.map (·.resume) = some false)
    (h₂ : o₂.checkpoint.map (·.resume) = some true)
    (hscans₁ : o₁.Scans fileScenario (fileTargets 0).targets)
    (hscans₂ : o₂.Scans fileScenario (fileTargets 1).targets) {first second : PastRun Unit}
    (hfirst : recordRun o₁ oneName 0 none = first)
    (hsecond : recordRun o₂ noNames 1 first.final.file = second)
    (hfile : first.final.file.map (·.highestFlushedIndex) = some 0) :
    History trivialDigest fileScenario filePlan [first, second] second.final.file := by
  have hplan : (Resolver.hickory ⟨65536, oneName⟩).plan 0 fileScenario.targets = .ok filePlan := by
    have hname : lookupDns oneName "edge" = .ok [.v4 0x0a000007#32] := by decide +kernel
    simp only [Resolver.plan, HickoryResolver.plan, fileScenario, mapM_cons,
      HickoryResolver.planTarget, hname]
    rfl
  have hone : History trivialDigest fileScenario filePlan [first] first.final.file := by
    subst hfirst
    refine History.start.next o₁ (.hickory ⟨65536, oneName⟩) 0 (.ok ()) h₁
      (fun _ => ⟨trivial, fun resolved hresolved => ?_⟩) (fun resolved hresolved => ?_) rfl
    · exact Except.ok.inj (hresolved.symm.trans hplan)
    · obtain rfl := Except.ok.inj (hplan.symm.trans hresolved)
      exact hscans₁
  subst hsecond
  refine hone.next o₂ _ 1 (.ok ()) h₂ (by simp) (fun resolved hresolved => ?_) rfl
  obtain ⟨c, hc, hzero⟩ := map_eq_some_iff.mp hfile
  obtain ⟨rfl, -⟩ := hone.traced.2.planned (fun hnone => by simp [hc] at hnone) (by simp) hresolved
  rw [hc, PlannedScan.targetsFrom, resumeBase, elim_some, hzero]
  exact hscans₂

lemma PastRun.completed_of_completes {P : Type} {r : PastRun P} (h : r.completes = true) :
    r.Completed := by
  revert h
  unfold PastRun.completes
  split
  · rename_i summary hexit
    exact fun h => ⟨summary, hexit, by simpa using h⟩
  · exact nofun

/-- A run crashes after its first checkpoint, and the next one completes. -/
theorem at_least_once_resumed : ∃ first second : PastRun Unit,
    History trivialDigest fileScenario filePlan [first, second] none ∧
    first.crashes = true ∧ first.final.file.map (·.highestFlushedIndex) = some 0 ∧
    second.completes = true ∧ [first, second].flatMap PastRun.indices = [0, 0, 1] ∧
    ∀ t < 2, ∃ r ∈ [first, second], r.Delivered fileScenario filePlan t := by
  obtain ⟨first, hfirst⟩ : ∃ r, recordRun (crashingAfter 4 false) oneName 0 none = r := ⟨_, rfl⟩
  obtain ⟨second, hsecond⟩ : ∃ r, recordRun (crashingAfter 100 true) noNames 1 first.final.file =
    r := ⟨_, rfl⟩
  have hfile : first.final.file.map (·.highestFlushedIndex) = some 0 := by
    subst hfirst
    decide +kernel
  have hcompletes : second.completes = true := by
    subst hsecond hfirst
    decide +kernel
  have hscans : ∀ calls resume now, now = 0 ∨ now = 1 →
      (crashingAfter calls resume).Scans fileScenario (fileTargets now).targets := by
    intro calls resume now hnow
    obtain ⟨s, hrun, hsent⟩ : ∃ s, (fileTargets now).RunsToEnd (completionOrder 1 0) s ∧
        s.sent = [(fileTargets now).scanAt 1, (fileTargets now).scanAt 0] := by
      rcases hnow with rfl | rfl <;> exact ⟨_, ⟨rfl, rfl, rfl, rfl⟩, rfl⟩
    obtain ⟨hreaches, hphase, halive, hseen⟩ := hrun
    refine ⟨rfl, completionOrder 1 0, s, hreaches, hphase, halive, hsent.symm, fun h => ?_⟩
    exact absurd h (Bool.eq_false_iff.mp hseen)
  have htwo := history_pair rfl rfl (hscans _ _ 0 (.inl rfl)) (hscans _ _ 1 (.inr rfl))
    hfirst hsecond hfile
  obtain ⟨summary, hexit, hflag⟩ := PastRun.completed_of_completes hcompletes
  obtain ⟨hnone, hdelivered⟩ := (at_least_once htwo).2.2.2 second rfl summary hexit hflag
  refine ⟨first, second, hnone ▸ htwo, ?_, hfile, hcompletes, ?_, hdelivered⟩
  · subst hfirst
    decide +kernel
  · subst hsecond hfirst
    decide +kernel

end Rastreo
