import Rastreo.Classifier.Rules
import Rastreo.Checkpoint.Preflight
import Rastreo.Fuser.Partition
import Rastreo.Pipeline.InOrder

/-!
# The stages of a scenario do not halt the stream

A chain built from a checked configuration has parameters that are not negative (`Fuser.Sound`),
which is all its calls need to return: confidences are in the unit interval, key texts never blank,
and each record is taken once.  A classifier returns for every record.
-/

namespace Rastreo

open Async

/-! ## Chains -/

/-- The parameters of the direct fuser at the end are not negative. -/
def Fuser.Sound : Fuser → Prop
  | .direct f => 0 ≤ f.confidenceBaseline ∧ 0 ≤ f.confidencePerSignal
  | .mibEnrichment inner _ => inner.Sound
  | .identity inner _ _ => inner.Sound

lemma FuserConfig.validate_direct {includeUnreachable : Option Bool} {baseline perSignal : Option ℚ}
    (h : (FuserConfig.direct includeUnreachable baseline perSignal).validate = .ok ()) :
    (∀ v ∈ baseline, 0 ≤ v) ∧ ∀ v ∈ perSignal, 0 ≤ v := by
  constructor
  · rintro v rfl
    by_contra hneg
    have hthrow : (FuserConfig.direct includeUnreachable (some v) perSignal).validate =
        .error (.invalidValue
          ("confidence_baseline must be finite and in [0.0, 1.0], got " ++ toString v)) := by
      simp only [validate, hneg, false_and, not_false_eq_true, if_true]
      rfl
    rw [hthrow] at h
    cases h
  · rintro v rfl
    by_contra hneg
    cases baseline with
    | none =>
      simp only [validate, not_le.mp hneg, if_true] at h
      cases h
    | some b =>
      by_cases hin : 0 ≤ b ∧ b ≤ 1
      · simp only [validate, hin, not_le.mp hneg, if_true] at h
        cases h
      · simp only [validate, hin, not_false_eq_true, if_true] at h
        cases h

lemma createFuser_sound {mib : MibSource} {config : FuserConfig} {fuser : Fuser}
    (h : createFuser mib config = .ok fuser) : fuser.Sound := by
  induction config generalizing fuser with
  | direct includeUnreachable baseline perSignal =>
    obtain ⟨u, hval, h⟩ := bind_eq_ok.mp h
    obtain ⟨hbas, hper⟩ := FuserConfig.validate_direct (mapError_eq_ok.mp hval)
    obtain rfl := Except.ok.inj h
    have hdef : (0 : ℚ) ≤ 1 / 10 := by norm_num
    constructor
    · cases baseline with
      | none => exact hdef
      | some v => exact hbas v rfl
    · cases perSignal with
      | none => exact hdef
      | some v => exact hper v rfl
  | mibEnrichment dataPath inner ih =>
    obtain ⟨innerFuser, table, hinner, rfl⟩ := createFuser_mibEnrichment h
    have hsound : innerFuser.Sound := ih hinner
    exact hsound
  | identity hints inner ih =>
    obtain ⟨innerFuser, hinner, rfl⟩ := createFuser_identity h
    have hsound : innerFuser.Sound := ih hinner
    exact hsound

section Calls

variable [CaseMapping]

lemma Fuser.Sound.ingest_ok {fuser : Fuser} (h : fuser.Sound) (outcomes : List ProbeOutcome) :
    ∃ records fuser', fuser.ingest outcomes = .ok (records, fuser') ∧ fuser'.Sound := by
  induction fuser with
  | direct f =>
    obtain ⟨r, hr⟩ := DirectFuser.fuseOne_ok h.1 h.2 outcomes
    rw [ingest, hr, ok_bind]
    cases r with
    | none => exact ⟨[], .direct f, rfl, h⟩
    | some record => exact ⟨[record], .direct f, rfl, h⟩
  | mibEnrichment inner table ih =>
    obtain ⟨records, inner', hinner, hsound⟩ := ih h
    rw [ingest, hinner, ok_bind]
    exact ⟨records.map (enrich table), .mibEnrichment inner' table, rfl, hsound⟩
  | identity inner hints buffer ih =>
    obtain ⟨records, inner', hinner, hsound⟩ := ih h
    rw [ingest, hinner, ok_bind]
    exact ⟨[], .identity inner' hints (buffer ++ records), rfl, hsound⟩

lemma Fuser.Sound.ingestAll_ok {fuser : Fuser} (h : fuser.Sound)
    (targets : List (List ProbeOutcome)) :
    ∃ records fuser', fuser.ingestAll targets = .ok (records, fuser') ∧ fuser'.Sound := by
  induction targets generalizing fuser with
  | nil => exact ⟨[], fuser, rfl, h⟩
  | cons outcomes targets ih =>
    obtain ⟨records, fuser₁, hingest, h₁⟩ := h.ingest_ok outcomes
    obtain ⟨rest, fuser₂, hrest, h₂⟩ := ih h₁
    rw [ingestAll_cons, hingest, ok_bind]
    dsimp only
    rw [hrest]
    exact ⟨records ++ rest, fuser₂, rfl, h₂⟩

lemma Fuser.finish_ok (fuser : Fuser) (order : HashOrder) :
    ∃ records fuser', fuser.finish order = .ok (records, fuser') := by
  induction fuser with
  | direct f => exact ⟨[], .direct f, rfl⟩
  | mibEnrichment inner table ih =>
    obtain ⟨records, inner', hinner⟩ := ih
    rw [finish, hinner, ok_bind]
    exact ⟨records.map (enrich table), .mibEnrichment inner' table, rfl⟩
  | identity inner hints buffer ih =>
    obtain ⟨tail, inner', hinner⟩ := ih
    obtain ⟨out, hout, -⟩ := correlate_emitted order hints (buffer ++ tail)
    rw [finish, hinner, ok_bind]
    dsimp only
    rw [hout]
    exact ⟨out, .identity inner' hints [], rfl⟩

end Calls

/-! ## The stream -/

/-- No error is returned: what is returned has `Q`. -/
def Run.Succeeds {α : Type} (x : Run (Result α)) (Q : α → Prop) : Prop :=
  Meets (fun _ => True) x (fun r _ => ∃ a, r = .ok a ∧ Q a) fun _ _ => True

lemma Run.Succeeds.andThen {α β : Type} {x : Run (Result α)}
    {f : α → Run (Result β)} {Q : α → Prop} {R : β → Prop} (hx : Run.Succeeds x Q)
    (hf : ∀ a, Q a → Run.Succeeds (f a) R) : Run.Succeeds (Async.andThen x f) R := by
  refine meets_andThen hx (fun e w h => ?_) fun a => ?_
  · grind
  · intro w h
    obtain ⟨a', ha, hQ⟩ := h
    obtain rfl := Except.ok.inj ha
    exact hf a hQ w trivial

lemma Run.succeeds_pure_andThen {α β : Type} {r : Result α} {a : α}
    {f : α → Run (Result β)} {R : β → Prop} (hr : r = .ok a)
    (hf : Run.Succeeds (f a) R) : Run.Succeeds (Async.andThen (pure r) f) R := by
  rw [hr]
  exact hf

lemma Run.succeeds_bind {α β : Type} {x : Run α} {f : α → Run (Result β)}
    {Q : α → Prop} {R : β → Prop}
    (hx : Meets (fun _ => True) x (fun a _ => Q a) fun _ _ => True)
    (hf : ∀ a, Q a → Run.Succeeds (f a) R) : Run.Succeeds (x >>= f) R :=
  meets_bind hx fun a w ha => hf a ha w trivial

section Stream

variable [CaseMapping] {p : Pipeline}

def Pipeline.Classifies (p : Pipeline) : Prop :=
  ∀ record, ∃ record', p.classify record = .ok record'

lemma prepareRecords_ok (hclassify : p.Classifies) (records : List DeviceRecord)
    (a : Assemblers) : ∃ r, prepareRecords p records a = .ok r := by
  refine foldlM_exists_ok (fun st record _ => ?_) ([], a)
  obtain ⟨record', hrecord⟩ := hclassify record
  rw [classifyAndStamp, hrecord]
  exact ⟨_, rfl⟩

variable {st : StreamState}

lemma succeeds_emitTargetRecords (hclassify : p.Classifies)
    (outcomes : List (ℕ × Result ProbeOutcome)) (hst : st.fuser.Sound) :
    Run.Succeeds (emitTargetRecords p outcomes st) fun st' => st'.fuser.Sound := by
  obtain ⟨records, fuser', hingest, hfuser'⟩ := hst.ingest_ok (probeOutcomes outcomes)
  obtain ⟨⟨prepared, assemblers⟩, hpre⟩ :=
    prepareRecords_ok hclassify records (st.assemblers.observeOutcomes (probeOutcomes outcomes))
  refine Run.succeeds_pure_andThen hingest (Run.succeeds_pure_andThen hpre ?_)
  exact Run.succeeds_bind (meets_any _) fun r _ => meets_pure fun w _ => ⟨_, rfl, hfuser'⟩

lemma succeeds_processTarget (hclassify : p.Classifies) (ready : TargetScan)
    (hst : st.fuser.Sound) :
    Run.Succeeds (processTarget p ready st) fun st' => st'.fuser.Sound := by
  refine Run.succeeds_bind (meets_any _) fun tally _ => ?_
  dsimp only
  split_ifs
  · exact succeeds_emitTargetRecords hclassify ready.outcomes hst
  · exact meets_pure fun w _ => ⟨_, rfl, hst⟩

lemma succeeds_advance (hclassify : p.Classifies) (nextExpected : ℕ) (ready : TargetScan)
    (hst : st.fuser.Sound) :
    Run.Succeeds (advance p nextExpected ready st) fun st' => st'.fuser.Sound :=
  (succeeds_processTarget hclassify ready hst).andThen fun _ hst' =>
    Run.succeeds_bind (meets_checkpointTarget_frame p _ _) fun st'' hframe =>
      meets_pure fun _ _ => ⟨st'', rfl, (hframe.2 ▸ hst' : st''.fuser.Sound)⟩

lemma succeeds_drainReady (hclassify : p.Classifies) (fuel : ℕ) (reorder : Reorder)
    (hst : st.fuser.Sound) :
    Run.Succeeds (drainReady p fuel reorder st) fun r => r.2.fuser.Sound := by
  induction fuel generalizing reorder st with
  | zero => exact meets_pure fun _ _ => ⟨_, rfl, hst⟩
  | succ fuel ih =>
    rw [drainReady]
    split
    next => exact meets_pure fun _ _ => ⟨_, rfl, hst⟩
    next ready _ =>
      exact (succeeds_advance hclassify _ ready hst).andThen fun st' hst' => ih _ hst'

lemma succeeds_receiveLoop (hclassify : p.Classifies) (scans : List TargetScan) (reorder : Reorder)
    (hst : st.fuser.Sound) :
    Run.Succeeds (receiveLoop p scans reorder st) fun r => r.2.fuser.Sound := by
  induction scans generalizing reorder st with
  | nil => exact meets_pure fun _ _ => ⟨_, rfl, hst⟩
  | cons scan rest ih =>
    exact (succeeds_drainReady hclassify _ _ hst).andThen fun r hr => ih r.1 hr

lemma succeeds_drainStragglers (hclassify : p.Classifies) (scans : List TargetScan)
    (hst : st.fuser.Sound) :
    Run.Succeeds (drainStragglers p scans st) fun st' => st'.fuser.Sound := by
  induction scans generalizing st with
  | nil => exact meets_pure fun _ _ => ⟨_, rfl, hst⟩
  | cons scan rest ih =>
    exact (succeeds_processTarget hclassify scan hst).andThen fun st' hst' => ih hst'

lemma succeeds_finishStream (hclassify : p.Classifies) (nextExpected : ℕ) (st : StreamState) :
    Run.Succeeds (finishStream p nextExpected st) fun _ => True := by
  obtain ⟨tail, fuser', hfinish⟩ := st.fuser.finish_ok p.hashOrder
  obtain ⟨⟨prepared, assemblers⟩, hpre⟩ := prepareRecords_ok hclassify tail st.assemblers
  have hfault : orFault (st.fuser.finish p.hashOrder) = pure (.ok (tail, fuser')) := by
    rw [hfinish]
    rfl
  rw [finishStream, hfault]
  refine Run.succeeds_pure_andThen rfl (Run.succeeds_pure_andThen hpre ?_)
  exact Run.succeeds_bind (meets_any _) fun emitted _ => meets_pure fun _ _ => ⟨_, rfl, trivial⟩

lemma succeeds_streamBlock (hclassify : p.Classifies) (scans : List TargetScan)
    (hst : st.fuser.Sound) : Run.Succeeds (streamBlock p scans st) fun _ => True :=
  (succeeds_receiveLoop hclassify scans _ hst).andThen fun _ hr =>
    (succeeds_drainStragglers hclassify _ hr).andThen fun st' _ =>
      succeeds_finishStream hclassify _ st'

end Stream

attribute [local instance] CaseMapping.ascii

/-! ## Scenarios -/

/-- The classifier of a scenario, by the section it has for it. -/
def effectiveClassifierConfig (classifier : Option ClassifierConfig) : ClassifierConfig :=
  classifier.getD defaultClassifierConfig

lemma DiscoverScenarioConfig.validate_stages {scenario : DiscoverScenarioConfig} {mib : MibSource}
    (h : scenario.validate mib = .ok ()) :
    ∃ fuser, createFuser mib scenario.effectiveFuserConfig = .ok fuser ∧
      scenario.otherChecks.classifier = .ok () := by
  obtain ⟨u, -, h⟩ := bind_eq_ok.mp h
  by_cases htar : scenario.targets.isEmpty = true
  · rw [if_pos htar] at h
    cases h
  by_cases hpro : scenario.probers.isEmpty = true
  · rw [if_neg htar, if_pos hpro] at h
    cases h
  rw [if_neg htar, if_neg hpro] at h
  obtain ⟨-, h⟩ := bind_unit_eq_ok.mp h
  obtain ⟨hfuser, hcla⟩ := bind_unit_eq_ok.mp h
  obtain ⟨fuser, hfuser, -⟩ := map_eq_ok.mp hfuser
  grind

/-- The fuser and the classifier of a scenario that passes its checks can be built, no call of
either fails or panics whatever the outcomes, and the block that calls them never ends with an
error. -/
theorem stages_never_fail [CaseMapping] {engine : RegexEngine} {mib : MibSource}
    {scenario : DiscoverScenarioConfig} {classifierConfig : Option ClassifierConfig}
    (hcheck : scenario.otherChecks.classifier =
      (createClassifier engine (effectiveClassifierConfig classifierConfig)).map fun _ => ())
    (hvalid : scenario.validate mib = .ok ()) :
    ∃ fuser classifier, createFuser mib scenario.effectiveFuserConfig = .ok fuser ∧
      createClassifier engine (effectiveClassifierConfig classifierConfig) = .ok classifier ∧
      (∀ targets, ∃ records fuser', fuser.ingestAll targets = .ok (records, fuser') ∧
        ∀ order, ∃ tail fuser'', fuser'.finish order = .ok (tail, fuser'')) ∧
      (∀ record, ∃ record', classifier.classify record = .ok record') ∧
      ∀ p : Pipeline, (∀ record record', classifier.classify record = .ok record' →
          p.classify record = .ok record') →
        ∀ checkpoint scans w w' e,
          streamBlock p scans { fuser, assemblers := Assemblers.new p, checkpoint } w ≠
            (.done (.error e), w') := by
  obtain ⟨fuser, hfuser, hcla⟩ := DiscoverScenarioConfig.validate_stages hvalid
  obtain ⟨classifier, hcla, -⟩ := map_eq_ok.mp (hcheck.symm.trans hcla)
  have hsound := createFuser_sound hfuser
  refine ⟨fuser, classifier, hfuser, hcla, fun targets => ?_, classifier.classify_ok, ?_⟩
  · obtain ⟨records, fuser', hingest, -⟩ := hsound.ingestAll_ok targets
    exact ⟨records, fuser', hingest, fuser'.finish_ok⟩
  · intro p hstage checkpoint scans w w' e hblock
    have hcls : p.Classifies := fun record => by
      obtain ⟨record', hrecord⟩ := classifier.classify_ok record
      exact ⟨record', hstage record record' hrecord⟩
    obtain ⟨a, ha, -⟩ := (succeeds_streamBlock hcls scans hsound).of_done trivial hblock
    cases ha

def blankEngine : RegexEngine where
  Regex := Unit
  compile _ := .ok ()
  captureNames _ := [none]
  capturesRead _ _ := none
  isMatch _ _ := false
  span := nofun

/-- An identity fuser and the built-in rules. -/
def plainScenario : DiscoverScenarioConfig where
  name := none
  targets := [.ip (.v4 0x0a000001#32)]
  probers := [.icmp]
  fuser := some (.identity {} (.direct none (some 1) none))
  sink := none
  configHash := none
  otherChecks :=
    ⟨.ok (), .ok (), (createClassifier blankEngine defaultClassifierConfig).map fun _ => ()⟩

/-- The stages of the plain scenario take the outcomes of any targets. -/
theorem stages_never_fail_plain :
    ∃ fuser, createFuser ⟨.error (.invalid "no table"), fun _ => .error (.invalid "no file")⟩
        plainScenario.effectiveFuserConfig = .ok fuser ∧
      ∀ targets, ∃ records fuser',
        fuser.ingestAll targets = .ok (records, fuser') := by
  obtain ⟨fuser, -, hfuser, -, hingest, -⟩ :=
    @stages_never_fail _ blankEngine
      ⟨.error (.invalid "no table"), fun _ => .error (.invalid "no file")⟩ plainScenario
        none rfl rfl
  refine ⟨fuser, hfuser, fun targets => ?_⟩
  obtain ⟨records, fuser', hall, -⟩ := hingest targets
  exact ⟨records, fuser', hall⟩

end Rastreo
