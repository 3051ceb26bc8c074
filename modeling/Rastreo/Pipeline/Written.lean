import Rastreo.Pipeline.AtLeastOnce

/-!
# What a run has written

As long as no call of the sink has failed, the data written are those of the targets worked on, with
those of other records behind them; a checkpoint is put in place only after a flush of such a log
(`Course.filed`).
-/

namespace Rastreo

open List

def writtenData (log : List Event) : List Bytes := (writesOf log).map (·.2)

lemma writtenData_append (l m : List Event) :
    writtenData (l ++ m) = writtenData l ++ writtenData m := by
  rw [writtenData, writesOf_append, map_append]
  rfl

lemma writtenData_writeEvents (kind : RecordKind) (bufs : List Bytes) :
    writtenData (writeEvents kind bufs) = bufs.filter (!·.isEmpty) := by
  rw [writtenData, writesOf, writeEvents, filterMap_map, map_filterMap]
  exact filterMap_some

variable [CaseMapping]

/-- What the sink is given of a target, where records rendered as nothing are skipped. -/
def targetData (k : Leg) (j : ℕ) : List Bytes :=
  match k.rendered j with
  | .ok bufs => bufs.filter (!·.isEmpty)
  | .error _ => []

def firstData (k : Leg) (n : ℕ) : List Bytes := (List.range n).flatMap (targetData k)

/-- The first `n` targets were written and flushed before any failure, with nothing in front. -/
def Filed (k : Leg) (n : ℕ) (log : List Event) : Prop :=
  ∃ before flush after, log = before ++ flush :: after ∧ flush.Flushes ∧ Clean before ∧
    firstData k n <+: writtenData before

def FiledOk (k : Leg) (log : List Event) : Prop :=
  ∀ c ∈ recorded log, ∃ n, c.highestFlushedIndex + 1 = k.base + n ∧ Filed k n log

section Course

variable {k : Leg} {n : ℕ} {stage : Stage} {durable : Bool} {log events : List Event}

lemma firstData_succ (n : ℕ) : firstData k (n + 1) = firstData k n ++ targetData k n := by
  rw [firstData, range_succ, flatMap_append, flatMap_singleton]
  rfl

lemma Filed.append (h : Filed k n log) (events : List Event) : Filed k n (log ++ events) := by
  obtain ⟨before, flush, after, rfl, hflush, hclean, hdata⟩ := h
  exact ⟨before, flush, after ++ events, by simp, hflush, hclean, hdata⟩

lemma FiledOk.append (h : FiledOk k log)
    (hnew : ∀ c ∈ recorded events, ∃ n, c.highestFlushedIndex + 1 = k.base + n ∧ Filed k n log) :
    FiledOk k (log ++ events) := by
  intro c hc
  rw [recorded_append] at hc
  obtain ⟨n, hn, hfiled⟩ := (mem_append.mp hc).elim (h c) (hnew c)
  exact ⟨n, hn, hfiled.append events⟩

lemma FiledOk.quiet (h : FiledOk k log) (hquiet : recorded events = []) :
    FiledOk k (log ++ events) :=
  h.append (by simp [hquiet])

/-- Calls without a record behind what was written. -/
lemma clean_prefix_append (h : Clean log ∧ firstData k n <+: writtenData log)
    (hevents : Clean events) :
    Clean (log ++ events) ∧ firstData k n <+: writtenData (log ++ events) := by
  refine ⟨clean_append.mpr ⟨h.1, hevents⟩, h.2.trans ?_⟩
  rw [writtenData_append]
  exact prefix_append _ _

/-- What a course means for the data written. -/
lemma Course.filed (h : Course k n stage durable log) :
    (stage = .emitting → writtenData log = firstData k n) ∧
      (stage ≠ .failed → Clean log ∧ firstData k n <+: writtenData log) ∧
      (durable = true → Filed k n log) ∧ FiledOk k log := by
  have hcall : ∀ {n : ℕ} {stage : Stage} {log : List Event} {e : Event}, writtenData [e] = [] →
      (stage = .emitting → writtenData log = firstData k n) →
      stage = .emitting → writtenData (log ++ [e]) = firstData k n := by
    intro n stage log e he h hstage
    rw [writtenData_append, he, append_nil, h hstage]
  induction h with
  | start => exact ⟨fun _ => rfl, fun _ => ⟨nofun, prefix_rfl⟩, nofun, nofun⟩
  | @target n durable log bufs past hbufs ih =>
    obtain ⟨hdata, hclean, -, hok⟩ := ih
    have hnew : writtenData (log ++ writeEvents .device bufs) = firstData k (n + 1) := by
      rw [writtenData_append, writtenData_writeEvents, hdata rfl, firstData_succ, targetData, hbufs]
    exact ⟨fun _ => hnew, fun _ => ⟨clean_append.mpr ⟨(hclean nofun).1, clean_writeEvents _ _⟩,
      hnew ▸ prefix_rfl⟩, nofun, hok.quiet (recorded_writeEvents _ _)⟩
  | trail past hevents hquiet ih =>
    obtain ⟨-, hclean, -, hok⟩ := ih
    exact ⟨nofun, fun _ => clean_prefix_append (hclean nofun) hevents, nofun, hok.quiet hquiet⟩
  | fail past hle hquiet ih => exact ⟨nofun, fun h => absurd rfl h, nofun, ih.2.2.2.quiet hquiet⟩
  | disk past hquiet ih =>
    obtain ⟨hdata, hclean, hfiled, hok⟩ := ih
    exact ⟨hcall rfl hdata, fun h => clean_prefix_append (hclean h) (by simp [Clean]),
      fun h => (hfiled h).append _, hok.quiet hquiet⟩
  | @flush n stage durable log call past hstage hflush ih =>
    obtain ⟨hdata, hclean, -, hok⟩ := ih
    have hnone : writtenData [.sink call true] = [] := by
      rcases hflush with heq | heq <;> cases heq <;> rfl
    exact ⟨hcall hnone hdata, fun h => clean_prefix_append (hclean h) (by simp [Clean]),
      fun _ => ⟨log, _, [], rfl, hflush, hclean hstage⟩, hok.quiet rfl⟩
  | @rename n stage log c past hpos hindex hpins ih =>
    obtain ⟨hdata, hclean, hfiled, hok⟩ := ih
    refine ⟨hcall rfl hdata, fun h => clean_prefix_append (hclean h) (by simp [Clean]),
      fun h => (hfiled h).append _, hok.append fun c' hc' => ?_⟩
    obtain rfl : c' = c := by simpa [recorded] using hc'
    exact ⟨n, hindex, hfiled rfl⟩

end Course

/-! ## Whole runs -/

variable {P : Type}

/-- With each checkpoint the targets up to it, and all if it completed, having found a checkpoint
exactly if it was to resume. -/
structure PastRun.Files (scenario : DiscoverScenarioConfig) (plan : ResolvedPlan) (r : PastRun P)
    (fuser : Fuser) : Prop where
  filed_ok : FiledOk (r.leg scenario plan fuser) r.final.log
  completed : r.Completed → r.opts.checkpoint.map (·.resume) = some r.found.isSome ∧
    Filed (r.leg scenario plan fuser) (r.targets plan).length r.final.log

lemma PastRun.Traced.files {scenario : DiscoverScenarioConfig} {plan : ResolvedPlan}
    {r : PastRun P} (h : r.Traced scenario plan) {fuser : Fuser}
    (hfuser : createFuser r.opts.mib scenario.effectiveFuserConfig = .ok fuser) :
    r.Files scenario plan fuser := by
  cases h with
  | refused hexit hfinal =>
    refine ⟨?_, fun h => absurd h (not_completed_of_error hexit)⟩
    rw [hfinal]
    exact nofun
  | ran hfuser' hresume hstands hle hcourse hkept hcompleted =>
    obtain rfl := Except.ok.inj (hfuser'.symm.trans hfuser)
    obtain ⟨-, -, hfiled, hok⟩ := hcourse.filed
    refine ⟨hok, fun h => ⟨hresume, ?_⟩⟩
    obtain ⟨-, hdurable, rfl⟩ := hcompleted h
    exact hfiled hdurable

end Rastreo
