import Rastreo.Model.Device
import Rastreo.Library.Machine
import Mathlib.Data.List.AList

/-!
# The bounded scheduler

`run_scan` as a machine, driven by actions: reading the cancel flag (with the id a probe started
then receives), joining a task that has ended, sending results to a receiver that may be gone, and
the deterministic steps in between.  How a task ends is given by `ends` for its prober and target.
Lookups and `expect`s that could panic end in the phase `panicked`. Pacing only delays a probe
inside its task and is left out.
-/

namespace Rastreo

/-- Every prober's outcome with its pass index. -/
structure TargetScan where
  targetIndex : ℕ
  outcomes : List (ℕ × Result ProbeOutcome)

inductive TaskEnd where
  | finished (result : Result ProbeOutcome)
  | panicked
  | cancelled

def TaskEnd.outcome : TaskEnd → Result ProbeOutcome
  | .finished result => result
  | .panicked => .error (.runtime (.taskPanicked "prober task panicked"))
  | .cancelled => .error (.runtime (.taskPanicked "prober task cancelled"))

/-- The scheduler; its cap is never zero. -/
structure BoundedScheduler where
  maxConcurrent : ℕ
  pos : 0 < maxConcurrent

def BoundedScheduler.new (maxConcurrent : ℕ) : BoundedScheduler :=
  ⟨max maxConcurrent 1, by omega⟩

abbrev TargetMap (T : Type) := AList fun _ : ℕ => T

structure Feed (T : Type) where
  targets : List T
  numProbers : ℕ
  nextTargetIndex : ℕ
  current : Option (ℕ × ℕ)

def Feed.new {T : Type} (targets : List T) (numProbers : ℕ) : Feed T :=
  ⟨targets, numProbers, 0, none⟩

def feedLoop {T : Type} (numProbers : ℕ) :
    List T → ℕ → Option (ℕ × ℕ) → TargetMap T → Option (ℕ × ℕ) × Feed T × TargetMap T
  | targets, nextTargetIndex, current, targetMap =>
    match current.filter fun c => c.2 < numProbers with
    | some (targetIndex, nextPass) =>
      (some (nextPass, targetIndex),
        ⟨targets, numProbers, nextTargetIndex, some (targetIndex, nextPass + 1)⟩, targetMap)
    | none =>
      match targets with
      | [] => (none, ⟨[], numProbers, nextTargetIndex, current⟩, targetMap)
      | target :: rest =>
        feedLoop numProbers rest (nextTargetIndex + 1) (some (nextTargetIndex, 0))
          (targetMap.insert nextTargetIndex target)

/-- The pass and target index, with the feed and the target map after it. -/
def Feed.next {T : Type} (f : Feed T) (targetMap : TargetMap T) :
    Option (ℕ × ℕ) × Feed T × TargetMap T :=
  feedLoop f.numProbers f.targets f.nextTargetIndex f.current targetMap

/-- What it runs, and the pass and target index it was started for. -/
structure Task (P T : Type) where
  id : ℕ
  prober : P
  target : T
  passIndex : ℕ
  targetIndex : ℕ

structure PartialTarget where
  outcomes : List (Option (Result ProbeOutcome))
  completed : ℕ

/-- Where `run_scan` is. -/
inductive ScanPhase where
  /-- in the priming loop, with this many rounds left -/
  | priming (left : ℕ)
  /-- at the head of the join loop -/
  | joining
  /-- after recording an outcome, before the refill -/
  | refilling (ready : Option ℕ)
  /-- after the refill, before the send -/
  | sending (ready : Option ℕ)
  | returned
  | panicked (msg : String)
  deriving DecidableEq

/-- The mutable state of `run_scan`, and what it has sent. -/
structure ScanState (P T : Type) where
  feed : Feed T
  set : List (Task P T)
  coordById : AList fun _ : ℕ => ℕ × ℕ
  live : AList fun _ : ℕ => PartialTarget
  targetMap : TargetMap T
  sent : List TargetScan
  cancelSeen : Bool
  receiverGone : Bool
  phase : ScanPhase

structure Scan (P T : Type) where
  scheduler : BoundedScheduler
  probers : List P
  targets : List T
  ends : ℕ → ℕ → P → T → TaskEnd

inductive ScanAction where
  | readCancel (cancel : Bool) (id : ℕ)
  | join (id : ℕ)
  | send (received : Bool)
  | proceed
  deriving DecidableEq

section Machine

variable {P T : Type} (scan : Scan P T)

/-- Without probers it returns at once. -/
def Scan.init : ScanState P T where
  feed := Feed.new scan.targets scan.probers.length
  set := []
  coordById := ∅
  live := ∅
  targetMap := ∅
  sent := []
  cancelSeen := false
  receiverGone := false
  phase := if scan.probers.length = 0 then .returned else .priming scan.scheduler.maxConcurrent

/-- `spawn_probe`, with the two lookups its caller makes. -/
def spawnProbe (id passIndex targetIndex : ℕ) (after : ScanPhase) (s : ScanState P T) :
    ScanState P T :=
  match scan.probers[passIndex]?, s.targetMap.lookup targetIndex with
  | none, _ => { s with phase := .panicked "index out of bounds" }
  | some _, none => { s with phase := .panicked "no entry found for key" }
  | some prober, some target =>
    { s with
      set := s.set ++ [⟨id, prober, target, passIndex, targetIndex⟩]
      coordById := s.coordById.insert id (passIndex, targetIndex)
      phase := after }

def startNext (id : ℕ) (exhausted after : ScanPhase) (s : ScanState P T) : ScanState P T :=
  match s.feed.next s.targetMap with
  | (none, feed, targetMap) => { s with feed, targetMap, phase := exhausted }
  | (some (passIndex, targetIndex), feed, targetMap) =>
    spawnProbe scan id passIndex targetIndex after { s with feed, targetMap }

def recordOutcome (task : Task P T) (s : ScanState P T) : ScanState P T :=
  let numProbers := scan.probers.length
  let outcome := (scan.ends task.passIndex task.targetIndex task.prober task.target).outcome
  let s := { s with set := s.set.filter (·.id ≠ task.id) }
  match s.coordById.lookup task.id with
  | none => { s with phase := .refilling none }
  | some (passIndex, targetIndex) =>
    let s := { s with coordById := s.coordById.erase task.id }
    let entry := (s.live.lookup targetIndex).getD ⟨List.replicate numProbers none, 0⟩
    if passIndex < entry.outcomes.length then
      let entry : PartialTarget :=
        ⟨entry.outcomes.set passIndex (some outcome), entry.completed + 1⟩
      let s := { s with live := s.live.insert targetIndex entry }
      if entry.completed = numProbers then
        { s with
          targetMap := s.targetMap.erase targetIndex
          phase := .refilling (some targetIndex) }
      else { s with phase := .refilling none }
    else { s with phase := .panicked "index out of bounds" }

/-- With their pass indices, if every slot is filled. -/
def takeOutcomes {R : Type} : List (Option R) → ℕ → Option (List (ℕ × R))
  | [], _ => some []
  | none :: _, _ => none
  | some r :: slots, passIndex => (takeOutcomes slots (passIndex + 1)).map ((passIndex, r) :: ·)

/-- The second half: send a target that is ready, and give up if the receiver is gone. -/
def sendReady (received : Bool) (targetIndex : ℕ) (s : ScanState P T) : ScanState P T :=
  match s.live.lookup targetIndex with
  | none => { s with phase := .panicked "a fully-scanned target has a live slot entry" }
  | some entry =>
    let s := { s with live := s.live.erase targetIndex }
    match takeOutcomes entry.outcomes 0 with
    | none => { s with phase := .panicked "a fully-scanned target has every prober's outcome" }
    | some outcomes =>
      if received then { s with sent := s.sent ++ [⟨targetIndex, outcomes⟩], phase := .joining }
      else { s with receiverGone := true, phase := .returned }

/-- A new task's id differs from those in the set. -/
def Scan.step (action : ScanAction) (s : ScanState P T) : Option (ScanState P T) :=
  match s.phase, action with
  | .priming 0, .proceed => some { s with phase := .joining }
  | .priming (left + 1), .readCancel cancel id =>
    if cancel then some { s with cancelSeen := true, phase := .joining }
    else if id ∈ s.set.map (·.id) then none
    else some (startNext scan id .joining (.priming left) s)
  | .joining, .proceed => if s.set.isEmpty then some { s with phase := .returned } else none
  | .joining, .join id => (s.set.find? (·.id = id)).map fun task => recordOutcome scan task s
  | .refilling ready, .readCancel cancel id =>
    if cancel then some { s with cancelSeen := true, phase := .sending ready }
    else if id ∈ s.set.map (·.id) then none
    else some (startNext scan id (.sending ready) (.sending ready) s)
  | .sending none, .proceed => some { s with phase := .joining }
  | .sending (some targetIndex), .send received => some (sendReady received targetIndex s)
  | _, _ => none

def Scan.Reaches (actions : List ScanAction) (s : ScanState P T) : Prop :=
  runActions scan.step actions scan.init = some s

end Machine

end Rastreo
