import Rastreo.Library.Async
import Rastreo.Model.Error

/-!
# Pending buffers, retries and broker replies

`PendingBuffer` holds the records not yet accepted and their byte count, with the proof that the two
agree.  `retryLoop` is the bounded exponential backoff.  Every await gets its reply from the world,
or is dropped there.
-/

namespace Rastreo

/-- What the broker, or a timer, answers to an await. -/
inductive Reply where
  | ok
  | err (cause : String)
  | dropped
  deriving DecidableEq

inductive SecondStream where
  | links
  | profiles
  deriving DecidableEq

def firstErr (a b : Status) : Status :=
  match a with
  | .error e => .error e
  | .ok _ => b

/-- Payloads with a length in bytes. -/
class AsRef (B : Type) where
  len : B → ℕ

/-- Bytes are counted. -/
instance : AsRef (List UInt8) := ⟨List.length⟩

structure PendingBuffer (B : Type) [AsRef B] where
  entries : List B
  bytes : ℕ
  bytes_eq : bytes = (entries.map AsRef.len).sum

namespace PendingBuffer

variable {B : Type} [AsRef B]

def new : PendingBuffer B := ⟨[], 0, rfl⟩

def reachedThreshold (b : PendingBuffer B) (threshold : ℕ) : Bool := threshold ≤ b.bytes

def push (b : PendingBuffer B) (entry : B) : PendingBuffer B :=
  ⟨b.entries ++ [entry], b.bytes + AsRef.len entry, by simp [b.bytes_eq]⟩

/-- The head, if the destination accepted it. -/
def settleFront {E V : Type} (b : PendingBuffer B) (outcome : Except E V) : PendingBuffer B :=
  match outcome with
  | .error _ => b
  | .ok _ =>
    match h : b.entries with
    | [] => b
    | entry :: rest => ⟨rest, b.bytes - AsRef.len entry, by simp [b.bytes_eq, h]⟩

/-- Every entry, if the destination accepted the batch. -/
def settleAll {E V : Type} (b : PendingBuffer B) (outcome : Except E V) : PendingBuffer B :=
  match outcome with
  | .error _ => b
  | .ok _ => new

/-- Refused entries go ahead of anything written since. -/
def restoreFront (b batch : PendingBuffer B) : PendingBuffer B :=
  if batch.entries.isEmpty then b
  else ⟨batch.entries ++ b.entries, b.bytes + batch.bytes, by
    simp [b.bytes_eq, batch.bytes_eq, Nat.add_comm]⟩

variable (b : PendingBuffer B)

@[simp] lemma entries_push (entry : B) : (b.push entry).entries = b.entries ++ [entry] := rfl

@[simp] lemma entries_settleFront_ok {E V : Type} (v : V) :
    (b.settleFront (Except.ok v : Except E V)).entries = b.entries.tail := by
  unfold settleFront
  dsimp only
  grind

@[simp] lemma settleAll_error {E V : Type} (e : E) :
    b.settleAll (Except.error e : Except E V) = b := rfl

@[simp] lemma entries_restoreFront (batch : PendingBuffer B) :
    (b.restoreFront batch).entries = batch.entries ++ b.entries := by
  unfold restoreFront
  split_ifs with h
  · rw [List.isEmpty_iff.mp h]
    rfl
  · rfl

end PendingBuffer

/-! ## Retries -/

structure SinkRetry where
  maxAttempts : ℕ := 3
  backoffInitialMs : ℕ := 100
  backoffMaxMs : ℕ := 2000
  deriving DecidableEq

/-- Double, saturating in 64 bits, up to the cap. -/
def nextBackoff (currentMs maxMs : ℕ) : ℕ := min (min (currentMs * 2) (2 ^ 64 - 1)) maxMs

def pause {W S : Type} (sleep : Async W S Unit) (delayMs : ℕ) : Async W S Unit :=
  if 0 < delayMs then sleep else pure ()

/-- With this many retries left. -/
def retryLoop {W S E V : Type} (maxMs : ℕ) (sleep : Async W S Unit)
    (op : Async W S (Except E V)) : ℕ → ℕ → Async W S (Except E V)
  | 0, _ => op
  | left + 1, delayMs => do
    match (← op) with
    | .ok value => pure (.ok value)
    | .error _ =>
      pause sleep delayMs
      retryLoop maxMs sleep op left (nextBackoff delayMs maxMs)

def retryWithBackoff {W S E V : Type} (retry : SinkRetry) (sleep : Async W S Unit)
    (op : Async W S (Except E V)) : Async W S (Except E V) :=
  retryLoop retry.backoffMaxMs sleep op (max retry.maxAttempts 1 - 1)
    (min retry.backoffInitialMs retry.backoffMaxMs)

/-- If a failed attempt and a pause keep what holds before it. -/
theorem meets_retryWithBackoff {W S E V : Type} {P : W → Prop} {Q : Except E V → W → Prop}
    {D : S → W → Prop} {retry : SinkRetry} {sleep : Async W S Unit}
    {op : Async W S (Except E V)} (hop : Async.Meets P op Q D)
    (hfail : ∀ e w, Q (.error e) w → P w) (hsleep : Async.Meets P sleep (fun _ => P) D) :
    Async.Meets P (retryWithBackoff retry sleep op) Q D := by
  unfold retryWithBackoff
  generalize max retry.maxAttempts 1 - 1 = left
  generalize min retry.backoffInitialMs retry.backoffMaxMs = delayMs
  induction left generalizing delayMs with
  | zero => exact hop
  | succ left ih =>
    refine Async.meets_bind hop fun r => ?_
    cases r with
    | ok value => exact Async.meets_pure fun w hw => hw
    | error e =>
      refine Async.meets_bind (Q := fun _ => P) ?_ fun _ => ih _
      unfold pause
      split_ifs
      · exact hsleep.conseq (hfail e) (fun _ _ h => h) fun _ _ h => h
      · exact Async.meets_pure (hfail e)

end Rastreo
