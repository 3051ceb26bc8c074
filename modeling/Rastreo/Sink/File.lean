import Rastreo.Model.Error
import Mathlib.Data.List.Infix

/-!
# The file sink

The buffered writer may pass on some of the bytes it holds in any call, and learn what becomes of
them in a later one: a call that fails has lost some, and a failed write has taken some part of its
data. Only a successful flush says that everything is in the file.  Bytes may be of any type, so
that they can carry where they come from.
-/

namespace Rastreo

variable {α : Type}

/-- So many of the bytes held reach the file; if the call fails, so many more are lost, and a write
has taken so much of its data. -/
inductive WriterReply where
  | ok (landed : ℕ)
  | err (cause : String) (landed lost taken : ℕ)
  deriving DecidableEq

structure BufWriter (α : Type) where
  file : List α := []
  buffered : List α := []
  deriving DecidableEq

namespace BufWriter

variable (self : BufWriter α)

/-- The bytes in the file and behind them those on their way. -/
def stream : List α := self.file ++ self.buffered

def push (data : List α) : BufWriter α :=
  { self with buffered := self.buffered ++ data }

def land (n : ℕ) : BufWriter α :=
  ⟨self.file ++ self.buffered.take n, self.buffered.drop n⟩

def lose (n : ℕ) : BufWriter α :=
  { self with buffered := self.buffered.drop n }

def writeAll (data : List α) : WriterReply → Except String Unit × BufWriter α
  | .ok landed => (.ok (), (self.push data).land landed)
  | .err cause landed lost taken =>
    (.error cause, ((self.push (data.take taken)).land landed).lose lost)

def flush : WriterReply → Except String Unit × BufWriter α
  | .ok _ => (.ok (), self.land self.buffered.length)
  | .err cause landed lost _ => (.error cause, (self.land landed).lose lost)

variable (self : BufWriter α) (data : List α)

@[simp] lemma stream_push : (self.push data).stream = self.stream ++ data := by
  simp [push, stream]

@[simp] lemma stream_land (n : ℕ) : (self.land n).stream = self.stream := by
  simp [land, stream]

lemma stream_writeAll {self self' : BufWriter α} {data : List α} {reply : WriterReply}
    (h : self.writeAll data reply = (.ok (), self')) : self'.stream = self.stream ++ data := by
  cases reply with
  | err cause landed lost taken => cases (Prod.mk.inj h).1
  | ok landed =>
    obtain rfl := (Prod.mk.inj h).2
    simp

lemma flush_eq_ok {self self' : BufWriter α} {reply : WriterReply}
    (h : self.flush reply = (.ok (), self')) :
    self'.stream = self.stream ∧ self'.buffered = [] := by
  cases reply with
  | err cause landed lost taken => cases (Prod.mk.inj h).1
  | ok landed =>
    obtain rfl := (Prod.mk.inj h).2
    exact ⟨stream_land self _, by simp [land]⟩

lemma buffered_flush {self : BufWriter α} (h : self.buffered = []) (reply : WriterReply) :
    (self.flush reply).2.buffered = [] := by
  cases reply <;> simp [flush, land, lose, h]

lemma file_land_prefix (n : ℕ) : self.file <+: (self.land n).file :=
  List.prefix_append _ _

lemma file_writeAll_prefix (reply : WriterReply) :
    self.file <+: (self.writeAll data reply).2.file := by
  cases reply with
  | ok landed => exact file_land_prefix (self.push data) landed
  | err cause landed lost taken => exact file_land_prefix (self.push _) landed

lemma file_flush_prefix (reply : WriterReply) : self.file <+: (self.flush reply).2.file := by
  cases reply with
  | ok landed => exact file_land_prefix self _
  | err cause landed lost taken => exact file_land_prefix self landed

end BufWriter

structure FileSink (α : Type) where
  writer : BufWriter α := {}
  delivered : Bool := false
  deriving DecidableEq

structure FileWorld (α : Type) where
  sink : FileSink α
  system : ℕ → WriterReply
  calls : ℕ

def FileWorld.start (system : ℕ → WriterReply) : FileWorld α := ⟨{}, system, 0⟩

def writeError (cause : String) : RastreoError :=
  .sink ⟨.writeFailure, "failed to write to file sink: " ++ cause⟩

def flushError (cause : String) : RastreoError :=
  .sink ⟨.flushFailure, "failed to flush file sink: " ++ cause⟩

namespace FileSink

def write (data : List α) (w : FileWorld α) : Status × FileWorld α :=
  let (result, writer) := w.sink.writer.writeAll data (w.system w.calls)
  (result.mapError writeError, { w with sink := ⟨writer, false⟩, calls := w.calls + 1 })

/-- `flush`: a failed flush leaves the flag as it was. -/
def flush (w : FileWorld α) : Status × FileWorld α :=
  let (result, writer) := w.sink.writer.flush (w.system w.calls)
  let delivered := match result with
    | .ok _ => true
    | .error _ => w.sink.delivered
  (result.mapError flushError, { w with sink := ⟨writer, delivered⟩, calls := w.calls + 1 })

lemma stream_write {data : List α} {w w' : FileWorld α} (h : write data w = (.ok (), w')) :
    w'.sink.writer.stream = w.sink.writer.stream ++ data := by
  unfold write at h
  rcases hwrite : w.sink.writer.writeAll data (w.system w.calls) with ⟨_ | _, writer⟩
  · rw [hwrite] at h
    cases (Prod.mk.inj h).1
  · rw [hwrite] at h
    obtain rfl := (Prod.mk.inj h).2
    exact BufWriter.stream_writeAll hwrite

lemma flush_eq_ok {w w' : FileWorld α} (h : flush w = (.ok (), w')) :
    w'.sink.writer.stream = w.sink.writer.stream ∧ w'.sink.writer.buffered = [] := by
  unfold flush at h
  rcases hfl : w.sink.writer.flush (w.system w.calls) with ⟨_ | _, writer⟩
  · rw [hfl] at h
    cases (Prod.mk.inj h).1
  · rw [hfl] at h
    obtain rfl := (Prod.mk.inj h).2
    exact BufWriter.flush_eq_ok hfl

end FileSink

end Rastreo
