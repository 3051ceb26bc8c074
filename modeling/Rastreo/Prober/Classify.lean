import Rastreo.Model.Device

/-!
# How probes classify I/O errors

A failed attempt is evidence of an absent target or of a broken probe.  Attempts share the timeout
of their probe.
-/

namespace Rastreo

inductive IoErrorKind where
  | timedOut
  | connectionRefused
  | connectionReset
  | connectionAborted
  | hostUnreachable
  | networkUnreachable
  | permissionDenied
  | wouldBlock
  | interrupted
  | other
  deriving DecidableEq

structure IoError where
  kind : IoErrorKind
  text : String
  deriving DecidableEq

inductive Disposition where
  | absence
  | fault (kind : ProbeErrorKind)
  deriving DecidableEq

/-- `classify::io_error`. -/
def IoErrorKind.disposition : IoErrorKind → Disposition
  | .timedOut | .connectionRefused | .connectionReset | .connectionAborted | .hostUnreachable
  | .networkUnreachable => .absence
  | .permissionDenied => .fault .permissionDenied
  | .wouldBlock | .interrupted | .other => .fault .other

/-- `MIN_ATTEMPT_SLICE`, in nanoseconds. -/
def minAttemptSlice : ℕ := 1000000

/-- In nanoseconds. -/
def perAttemptTimeout (timeout : ℕ) (retries : UInt32) : ℕ :=
  max (timeout / min (retries.toNat + 1) (2 ^ 32 - 1)) minAttemptSlice

end Rastreo
