import Rastreo.Library.Machine
import Rastreo.Sink.Pending

/-!
# Runs of pending buffers

The fields of a `PendingBuffer` as the source has them, with nothing that ties the byte count to the
entries (`RawBuffer`), and runs of calls on any number of such buffers.  Every run is the image of a
run on the buffers that carry their proof, and so of one on plain queues.
-/

namespace Rastreo

open List Function

/-- An entry list and a byte count, whatever they are. -/
structure RawBuffer (B : Type) where
  entries : List B
  bytes : ℕ

namespace RawBuffer

variable {B : Type} [AsRef B] {E V : Type}

def new : RawBuffer B := ⟨[], 0⟩

def push (b : RawBuffer B) (entry : B) : RawBuffer B :=
  ⟨b.entries ++ [entry], b.bytes + AsRef.len entry⟩

/-- With the outcome handed back; `none` if the subtraction underflows. -/
def settleFront (b : RawBuffer B) (outcome : Except E V) : Option (RawBuffer B × Except E V) :=
  match outcome with
  | .error e => some (b, .error e)
  | .ok v =>
    match b.entries with
    | [] => some (b, .ok v)
    | entry :: rest =>
      if AsRef.len entry ≤ b.bytes then some (⟨rest, b.bytes - AsRef.len entry⟩, .ok v) else none

/-- With the outcome handed back. -/
def settleAll (b : RawBuffer B) (outcome : Except E V) : RawBuffer B × Except E V :=
  match outcome with
  | .error e => (b, .error e)
  | .ok v => (new, .ok v)

def restoreFront (b batch : RawBuffer B) : RawBuffer B :=
  if batch.entries.isEmpty then b else ⟨batch.entries ++ b.entries, b.bytes + batch.bytes⟩

end RawBuffer

/-- A call on one of several buffers.  A batch is moved out of the buffer it was in, which is left
new. -/
inductive BufferCall (ι B E V : Type) where
  | push (i : ι) (entry : B)
  | settleFront (i : ι) (outcome : Except E V)
  | settleAll (i : ι) (outcome : Except E V)
  | restoreFront (i batch : ι)

namespace BufferCall

variable {ι B E V : Type} [DecidableEq ι] [AsRef B]

/-- What a call does to the buffers, unless it underflows. -/
def step : BufferCall ι B E V → (ι → RawBuffer B) → Option (ι → RawBuffer B)
  | push i entry, w => some (update w i ((w i).push entry))
  | settleFront i outcome, w => ((w i).settleFront outcome).map fun r => update w i r.1
  | settleAll i outcome, w => some (update w i ((w i).settleAll outcome).1)
  | restoreFront i batch, w =>
    let moved := update w batch .new
    some (update moved i ((moved i).restoreFront (w batch)))

def settle : BufferCall ι B E V → (ι → PendingBuffer B) → ι → PendingBuffer B
  | push i entry, w => update w i ((w i).push entry)
  | settleFront i outcome, w => update w i ((w i).settleFront outcome)
  | settleAll i outcome, w => update w i ((w i).settleAll outcome)
  | restoreFront i batch, w =>
    let moved := update w batch .new
    update moved i ((moved i).restoreFront (w batch))

/-- What it means for the queues: an entry goes in at the end, an accepted head or batch comes out,
a restored batch goes ahead of what is there, and an error changes nothing. -/
def enqueue : BufferCall ι B E V → (ι → List B) → ι → List B
  | push i entry, q => update q i (q i ++ [entry])
  | settleFront i (.ok _), q => update q i (q i).tail
  | settleAll i (.ok _), q => update q i []
  | restoreFront i batch, q =>
    let moved := update q batch []
    update moved i (q batch ++ moved i)
  | settleFront _ (.error _), q | settleAll _ (.error _), q => q

end BufferCall

section Runs

variable {ι B E V : Type} [DecidableEq ι] [AsRef B]

namespace PendingBuffer

def raw (b : PendingBuffer B) : RawBuffer B := ⟨b.entries, b.bytes⟩

variable (b : PendingBuffer B)

/-- The count is that of the entries, so it covers the head. -/
lemma raw_settleFront (outcome : Except E V) :
    b.raw.settleFront outcome = some ((b.settleFront outcome).raw, outcome) := by
  cases outcome with
  | error e => rfl
  | ok v =>
    obtain ⟨entries, bytes, hbytes⟩ := b
    cases entries with
    | nil => rfl
    | cons entry rest =>
      have hle : AsRef.len entry ≤ bytes := by
        rw [hbytes, map_cons, sum_cons]
        exact Nat.le_add_right _ _
      exact if_pos hle

lemma raw_settleAll (outcome : Except E V) :
    b.raw.settleAll outcome = ((b.settleAll outcome).raw, outcome) := by
  cases outcome <;> rfl

lemma raw_restoreFront (batch : PendingBuffer B) :
    b.raw.restoreFront batch.raw = (b.restoreFront batch).raw := by
  by_cases hempty : batch.entries.isEmpty
  · rw [restoreFront, if_pos hempty]
    exact if_pos hempty
  · rw [restoreFront, if_neg hempty]
    exact if_neg hempty

end PendingBuffer

variable (call : BufferCall ι B E V) (calls : List (BufferCall ι B E V)) (w : ι → PendingBuffer B)

/-- One call never underflows, and does to the fields what it does to the buffers. -/
lemma BufferCall.step_raw :
    call.step (PendingBuffer.raw ∘ w) = some (PendingBuffer.raw ∘ call.settle w) := by
  cases call with
  | push i entry =>
    rw [settle, comp_update]
    rfl
  | settleFront i outcome =>
    rw [step, comp_apply, PendingBuffer.raw_settleFront, Option.map_some, settle, comp_update]
  | settleAll i outcome =>
    rw [step, comp_apply, PendingBuffer.raw_settleAll, settle, comp_update]
  | restoreFront i batch =>
    have hmoved : update (PendingBuffer.raw ∘ w) batch RawBuffer.new =
        PendingBuffer.raw ∘ update w batch PendingBuffer.new :=
      (comp_update PendingBuffer.raw w batch .new).symm
    simp only [step, settle, hmoved, comp_apply, PendingBuffer.raw_restoreFront, comp_update]

lemma runActions_raw : runActions BufferCall.step calls (PendingBuffer.raw ∘ w) =
      some (PendingBuffer.raw ∘ calls.foldl (fun w call => call.settle w) w) := by
  induction calls generalizing w with
  | nil => rfl
  | cons call calls ih => rw [runActions, BufferCall.step_raw, Option.bind_some, ih, foldl_cons]

/-- The entries go through a call as queues. -/
lemma BufferCall.entries_settle :
    PendingBuffer.entries ∘ call.settle w = call.enqueue (PendingBuffer.entries ∘ w) := by
  cases call with
  | push i entry => exact comp_update _ _ _ _
  | settleFront i outcome =>
    cases outcome with
    | error e => exact congrArg _ (update_eq_self i w)
    | ok v =>
      rw [settle, comp_update, PendingBuffer.entries_settleFront_ok]
      rfl
  | settleAll i outcome =>
    cases outcome with
    | error e => exact congrArg _ (update_eq_self i w)
    | ok v => exact comp_update _ _ _ _
  | restoreFront i batch =>
    have hmoved : PendingBuffer.entries ∘ update w batch PendingBuffer.new =
        update (PendingBuffer.entries ∘ w) batch [] :=
      comp_update PendingBuffer.entries w batch .new
    simp only [settle, enqueue, comp_update, PendingBuffer.entries_restoreFront, ← hmoved,
      comp_apply]

lemma entries_foldl_settle : PendingBuffer.entries ∘ calls.foldl (fun w call => call.settle w) w =
      calls.foldl (fun q call => call.enqueue q) (PendingBuffer.entries ∘ w) := by
  induction calls generalizing w with
  | nil => rfl
  | cons call calls ih => rw [foldl_cons, foldl_cons, ih, BufferCall.entries_settle]

/-- From new buffers, no call underflows; every count is that of the entries, which are held in the
order of the queues; and an error outcome leaves every buffer as it was. -/
theorem pending_buffers_account (calls : List (BufferCall ι B E V)) :
    ∃ w : ι → RawBuffer B, runActions BufferCall.step calls (fun _ => .new) = some w ∧
      (∀ i, (w i).bytes = ((w i).entries.map AsRef.len).sum) ∧
      (∀ i, (w i).entries = calls.foldl (fun q call => call.enqueue q) (fun _ => []) i) ∧
      ∀ (i : ι) (e : E), (BufferCall.settleFront (V := V) i (.error e)).step w = some w ∧
        (BufferCall.settleAll (V := V) i (.error e)).step w = some w := by
  let held := calls.foldl (fun w call => call.settle w) fun _ => (.new : PendingBuffer B)
  refine ⟨PendingBuffer.raw ∘ held, runActions_raw calls fun _ => .new, fun i => (held i).bytes_eq,
    congrFun (entries_foldl_settle calls fun _ => .new), fun i e => ⟨?_, ?_⟩⟩
  · exact congrArg some (update_eq_self i _)
  · exact congrArg some (update_eq_self i _)

end Runs

end Rastreo
