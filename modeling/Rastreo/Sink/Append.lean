import Rastreo.Pipeline.Written
import Rastreo.Sink.File

/-!
# The file a run leaves

The calls of a run replayed on the file sink, which appends.  A crash leaves everything written
before the last successful flush, and of what came later any part from its start.
-/

namespace Rastreo

open List Option

/-- All kinds of records in one stream; closing it flushes. -/
def FileSink.call : SinkCall → FileWorld UInt8 → Status × FileWorld UInt8
  | .writeKind _ data => FileSink.write data
  | .flush => FileSink.flush
  | .close => FileSink.flush

/-- The calls of a log, if they end as the log says. -/
def FileSink.replay : List Event → FileWorld UInt8 → Option (FileWorld UInt8)
  | [], w => some w
  | .disk _ _ :: log, w => replay log w
  | .sink call ok :: log, w =>
    let (result, w') := FileSink.call call w
    if result.isOk = ok then replay log w' else none

/-- `FileSink::new` on a file with these bytes. -/
def FileSink.new (file : Bytes) (system : ℕ → WriterReply) : FileWorld UInt8 :=
  ⟨⟨⟨file, []⟩, false⟩, system, 0⟩

/-- When the run is over or has crashed, whatever the operating system replied. -/
def FileAfter (file : Bytes) (log : List Event) (file' : Bytes) : Prop :=
  ∃ system, (FileSink.replay log (FileSink.new file system)).map (·.sink.writer.file) = some file'

namespace FileSink

variable {w w' : FileWorld UInt8} {log : List Event}

lemma file_prefix_call (c : SinkCall) (w : FileWorld UInt8) :
    w.sink.writer.file <+: (call c w).2.sink.writer.file := by
  cases c with
  | writeKind kind data => exact w.sink.writer.file_writeAll_prefix _ _
  | flush => exact w.sink.writer.file_flush_prefix _
  | close => exact w.sink.writer.file_flush_prefix _

lemma replay_append (l m : List Event) (w : FileWorld UInt8) :
    replay (l ++ m) w = (replay l w).bind (replay m) := by
  induction l generalizing w with
  | nil => rfl
  | cons e l ih =>
    cases e with
    | disk c ok => exact ih w
    | sink c ok =>
      rw [cons_append, replay, replay]
      dsimp only
      split_ifs
      · exact ih _
      · rfl

lemma file_prefix_replay (h : replay log w = some w') :
    w.sink.writer.file <+: w'.sink.writer.file := by
  induction log generalizing w with
  | nil => exact Option.some.inj h ▸ prefix_rfl
  | cons e log ih =>
    cases e with
    | disk c ok => exact ih h
    | sink c ok =>
      rw [replay] at h
      grind [file_prefix_call]

lemma stream_replay (hclean : Clean log) (h : replay log w = some w') :
    w'.sink.writer.stream = w.sink.writer.stream ++ (writtenData log).flatten := by
  induction log generalizing w with
  | nil =>
    obtain rfl := Option.some.inj h
    simp [writtenData, writesOf]
  | cons e log ih =>
    have hsplit : Clean ([e] ++ log) := hclean
    obtain ⟨hhead, hrest⟩ := clean_append.mp hsplit
    have hdata : writtenData (e :: log) = writtenData [e] ++ writtenData log :=
      writtenData_append [e] log
    rw [hdata, flatten_append, ← append_assoc]
    cases e with
    | disk c ok => exact (ih hrest h).trans (by simp [writtenData, writesOf])
    | sink c ok =>
      have hok : ok = true := by
        by_contra hne
        rw [Bool.not_eq_true] at hne
        exact hhead c (hne ▸ mem_singleton_self _)
      subst hok
      rw [replay] at h
      rcases hcall : call c w with ⟨_ | _, w₁⟩
      · simp [hcall, Except.isOk, Except.toBool] at h
      · simp only [hcall, Except.isOk, Except.toBool, if_true] at h
        rw [ih hrest h]
        congr 1
        cases c with
        | writeKind kind data => simpa [writtenData, writesOf] using stream_write hcall
        | flush => simpa [writtenData, writesOf] using (flush_eq_ok hcall).1
        | close => simpa [writtenData, writesOf] using (flush_eq_ok hcall).1

lemma file_eq_of_flushes {e : Event} (he : e.Flushes) (h : replay [e] w = some w') :
    w'.sink.writer.file = w.sink.writer.stream := by
  obtain ⟨c, rfl, hfl⟩ : ∃ c, e = .sink c true ∧ call c = FileSink.flush := by
    rcases he with rfl | rfl
    · exact ⟨.flush, rfl, rfl⟩
    · exact ⟨.close, rfl, rfl⟩
  rw [replay, hfl] at h
  rcases hcall : FileSink.flush w with ⟨_ | _, w₁⟩
  · simp [hcall, Except.isOk, Except.toBool] at h
  · simp only [hcall, Except.isOk, Except.toBool, if_true] at h
    obtain rfl := Option.some.inj h
    grind [flush_eq_ok, BufWriter.stream]

end FileSink

lemma FileAfter.grows {file file' : Bytes} {log : List Event} (h : FileAfter file log file') :
    file <+: file' := by
  obtain ⟨system, hsystem⟩ := h
  obtain ⟨w, hreplay, rfl⟩ := map_eq_some_iff.mp hsystem
  exact FileSink.file_prefix_replay hreplay

lemma FileAfter.filed [CaseMapping] {k : Leg} {n : ℕ} {file file' : Bytes} {log : List Event}
    (h : FileAfter file log file') (hfiled : Filed k n log) :
    file ++ (firstData k n).flatten <+: file' := by
  obtain ⟨system, hsystem⟩ := h
  obtain ⟨w, hreplay, rfl⟩ := map_eq_some_iff.mp hsystem
  obtain ⟨before, flush, after, rfl, hfl, hclean, more, hdata⟩ := hfiled
  rw [show before ++ flush :: after = before ++ ([flush] ++ after) from rfl,
    FileSink.replay_append, bind_eq_some_iff] at hreplay
  obtain ⟨w₁, hbefore, hrest⟩ := hreplay
  rw [FileSink.replay_append, bind_eq_some_iff] at hrest
  obtain ⟨w₂, hflu, hafter⟩ := hrest
  have hfile : w₂.sink.writer.file = file ++ (writtenData before).flatten := by
    rw [FileSink.file_eq_of_flushes hfl hflu, FileSink.stream_replay hclean hbefore]
    simp [FileSink.new, BufWriter.stream]
  have hgrows := FileSink.file_prefix_replay hafter
  grind [flatten_append, append_assoc, prefix_append]

end Rastreo
