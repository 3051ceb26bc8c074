import Rastreo.Library.Utf8
import Rastreo.Model.Device

/-!
# The table of a scan

Cells are cut and padded in a buffer of bytes by counting the first bytes of characters.  A line
break in a text from a device is shown as it is.
-/

namespace Rastreo

open List

/-! ## The layout -/

structure Column where
  header : String
  min : ℕ
  max : ℕ

def tableColumns : List Column :=
  [⟨"ADDRESS", 15, 39⟩, ⟨"NAME", 12, 40⟩, ⟨"PLATFORM", 10, 20⟩, ⟨"PORTS", 12, 48⟩]

def gutterWidth : ℕ := 6

def minTotalWidth : ℕ := gutterWidth + (tableColumns.map Column.min).sum

def maxTotalWidth : ℕ := gutterWidth + (tableColumns.map Column.max).sum

/-- The widths and the surplus left. -/
def growRound : List Column → List ℕ → ℕ → List ℕ × ℕ
  | column :: columns, width :: widths, surplus + 1 =>
    if width < column.max then
      let rest := growRound columns widths surplus
      ((width + 1) :: rest.1, rest.2)
    else
      let rest := growRound columns widths (surplus + 1)
      (width :: rest.1, rest.2)
  | _, widths, surplus => (widths, surplus)

def growLoop (widths : List ℕ) (surplus : ℕ) : List ℕ :=
  if surplus = 0 then widths
  else
    let round := growRound tableColumns widths surplus
    if _h : round.2 < surplus then growLoop round.1 round.2 else round.1
termination_by surplus

/-- `TableLayout::for_total_width`. -/
def forTotalWidth (total : ℕ) : List ℕ :=
  growLoop (tableColumns.map Column.min) (total - minTotalWidth)

/-! ## Cells -/

def charCount (bytes : Bytes) : ℕ := bytes.countP fun b => !isContinuation b

/-- At an index with so many characters seen. -/
def byteIndexLoop (n : ℕ) : Bytes → ℕ → ℕ → ℕ
  | [], i, _ => i
  | b :: bytes, i, seen =>
    if isContinuation b then byteIndexLoop n bytes (i + 1) seen
    else if seen = n then i
    else byteIndexLoop n bytes (i + 1) (seen + 1)

def byteIndexOfChar (bytes : Bytes) (n : ℕ) : ℕ := byteIndexLoop n bytes 0 0

def ellipsis : Bytes := utf8 ['…']

/-- The spaces are pushed in chunks. -/
def finishCell (buf : Bytes) (start width : ℕ) (last : Bool) : Bytes :=
  let buf := if buf.length = start then buf ++ utf8 ['-'] else buf
  if last then buf
  else
    let chars := charCount (buf.drop start)
    if width < chars then
      let keep := width - 1
      let cut := start + byteIndexOfChar (buf.drop start) keep
      buf.take cut ++ ellipsis ++ List.replicate (width - (keep + 1)) 32 ++ utf8 "  ".toList
    else buf ++ List.replicate (width - chars) 32 ++ utf8 "  ".toList

variable (record : DeviceRecord)

def deviceName : Option String :=
  (record.signals.findSome? fun s => match s with | .snmpSysName name => some name | _ => none).or
    (record.signals.findSome? fun s => match s with | .reverseDnsName name => some name | _ => none)

def platformLabel : Option String :=
  (record.platform.or record.model).or record.productFamily

/-- `push_u16`: the digits, from the last one on. -/
def u16Digits (value : ℕ) : Bytes :=
  (if value / 10 = 0 then [] else u16Digits (value / 10)) ++ [48 + UInt8.ofNat (value % 10)]

def openPorts : List ℕ :=
  record.signals.filterMap fun s => match s with | .openPort port => some port.toNat | _ => none

def writeOpenPorts (buf : Bytes) : Bytes :=
  buf ++ (utf8 [',']).intercalate ((openPorts record).map u16Digits)

structure TableEncoder where
  widths : List ℕ
  header : String
  headerWritten : Bool

def buildHeader (widths : List ℕ) : String :=
  let buf := (tableColumns.zipIdx.zip widths).foldl (fun buf entry =>
    finishCell (buf ++ utf8 entry.1.1.header.toList) buf.length entry.2 (entry.1.2 == 3)) []
  fromUtf8Lossy (buf ++ utf8 ['\n'])

def TableEncoder.new (total : ℕ) : TableEncoder :=
  let widths := forTotalWidth total
  ⟨widths, buildHeader widths, false⟩

def TableEncoder.encodeRecord (self : TableEncoder) (record : DeviceRecord) (buf : Bytes) :
    TableEncoder × Bytes :=
  let buf := if self.headerWritten then buf else buf ++ utf8 self.header.toList
  let address := match record.mgmtIp with
    | some ip => ip.display
    | none => record.identityKey.asStr
  let buf := finishCell (buf ++ utf8 address.toList) buf.length (self.widths.getD 0 0) false
  let name := ((deviceName record).getD "").toList
  let buf := finishCell (buf ++ utf8 name) buf.length (self.widths.getD 1 0) false
  let platform := ((platformLabel record).getD "").toList
  let buf := finishCell (buf ++ utf8 platform) buf.length (self.widths.getD 2 0) false
  let buf := finishCell (writeOpenPorts record buf) buf.length (self.widths.getD 3 0) true
  ({ self with headerWritten := true }, buf ++ utf8 ['\n'])

def encodeTable (total : ℕ) (records : List DeviceRecord) : Bytes :=
  (records.foldl (fun state record => TableEncoder.encodeRecord state.1 record state.2)
    (TableEncoder.new total, [])).2

/-! ## Widths -/

def Within : List Column → List ℕ → Prop := List.Forall₂ fun c w => c.min ≤ w ∧ w ≤ c.max

variable {columns : List Column} {widths : List ℕ} {surplus : ℕ}

lemma growRound_spec (h : Within columns widths) (surplus : ℕ) :
    let round := growRound columns widths surplus
    Within columns round.1 ∧ round.1.sum + round.2 = widths.sum + surplus ∧ round.2 ≤ surplus ∧
      (round.2 = surplus → round.1 = widths ∧ (surplus = 0 ∨ widths = columns.map Column.max)) := by
  induction h generalizing surplus with
  | nil => exact ⟨.nil, rfl, le_refl _, fun _ => ⟨rfl, .inr rfl⟩⟩
  | @cons column width columns widths hw hrest ih =>
    cases surplus with
    | zero => exact ⟨.cons hw hrest, rfl, le_refl _, fun _ => ⟨rfl, .inl rfl⟩⟩
    | succ surplus =>
      rw [growRound]
      dsimp only
      split_ifs with hgrow
      · obtain ⟨hin, hsum, hle, -⟩ := ih surplus
        refine ⟨.cons ⟨by omega, by omega⟩ hin, ?_, by omega, fun heq => by omega⟩
        grind
      · obtain ⟨hin, hsum, hle, hsame⟩ := ih (surplus + 1)
        refine ⟨.cons hw hin, ?_, hle, fun heq => ?_⟩
        · grind
        · obtain ⟨hsame, hmax⟩ := hsame heq
          refine ⟨by rw [hsame], .inr ?_⟩
          grind

/-- Columns grow until the surplus is used up or all are at their maximum. -/
lemma growLoop_spec (h : Within tableColumns widths) (surplus : ℕ) :
    Within tableColumns (growLoop widths surplus) ∧
      (growLoop widths surplus).sum ≤ widths.sum + surplus ∧
      ((growLoop widths surplus).sum = widths.sum + surplus ∨
        growLoop widths surplus = tableColumns.map Column.max) := by
  induction surplus using Nat.strong_induction_on generalizing widths with
  | _ surplus ih =>
    obtain ⟨hin, hsum, hle, hsame⟩ := growRound_spec h surplus
    rw [growLoop]
    dsimp only
    split_ifs with hzero hgrew
    · exact ⟨h, by omega, .inl (by omega)⟩
    · obtain ⟨hin', hle', hend⟩ := ih _ hgrew hin
      grind
    · obtain ⟨heq, hmax⟩ := hsame (by omega)
      grind

lemma forTotalWidth_spec (total : ℕ) :
    Within tableColumns (forTotalWidth total) ∧ (minTotalWidth ≤ total → total ≤ maxTotalWidth →
        gutterWidth + (forTotalWidth total).sum = total) := by
  have hmin : Within tableColumns (tableColumns.map Column.min) := by
    simp [Within, tableColumns]
  obtain ⟨hin, hle, hend⟩ := growLoop_spec hmin (total - minTotalWidth)
  refine ⟨hin, fun hlow hhigh => ?_⟩
  have hmins : minTotalWidth = gutterWidth + (tableColumns.map Column.min).sum := rfl
  have hmaxs : maxTotalWidth = gutterWidth + (tableColumns.map Column.max).sum := rfl
  rw [forTotalWidth]
  rcases hend with hsum | hmax
  · omega
  · rw [hmax] at hle ⊢
    omega

/-! ## Cells as texts -/

/-- A cell without a text is dashed. -/
def dashed (cs : List Char) : List Char := if cs = [] then ['-'] else cs

/-- The characters of a text that a cell shows. -/
def shownChars (width : ℕ) (cs : List Char) : List Char :=
  if width < cs.length then cs.take (width - 1) else cs

def fitCell (width : ℕ) (cs : List Char) : List Char :=
  if width < cs.length then shownChars width cs ++ ['…']
  else shownChars width cs ++ List.replicate (width - cs.length) ' '

variable {width : ℕ}

lemma length_fitCell (h : 0 < width) (cs : List Char) : (fitCell width cs).length = width := by
  unfold fitCell shownChars
  split_ifs <;> simp <;> omega

/-- Only the first byte of a character is no continuation byte. -/
lemma exists_utf8EncodeChar (c : Char) : ∃ lead rest, String.utf8EncodeChar c = lead :: rest ∧
    isContinuation lead = false ∧ ∀ b ∈ rest, isContinuation b = true := by
  rcases utf8EncodeChar_cases c with ⟨hc, henc⟩ | ⟨lead, rest, henc, hlead, hrest⟩
  · refine ⟨_, [], henc, beq_false_of_ne fun heq => ?_, nofun⟩
    have hle := congrArg UInt8.toNat heq
    have hlt := (toNat_toUInt8_of_ascii hc).2
    exact absurd (hle.symm.le.trans Nat.and_le_left) (Nat.not_le.mpr hlt)
  · grind [isContinuation]

lemma charCount_utf8 (cs : List Char) : charCount (utf8 cs) = cs.length := by
  induction cs with
  | nil => rfl
  | cons c cs ih =>
    obtain ⟨lead, rest, henc, hlead, hrest⟩ := exists_utf8EncodeChar c
    have hzero : rest.countP (fun b => !isContinuation b) = 0 :=
      countP_eq_zero.mpr fun b hb => by simp [hrest b hb]
    rw [charCount] at ih ⊢
    rw [utf8_cons, henc, countP_append, countP_cons_of_pos (by simp [hlead]), hzero, ih,
      length_cons]
    omega

lemma byteIndexLoop_continuation {n i seen : ℕ} {rest : Bytes}
    (h : ∀ b ∈ rest, isContinuation b = true) (bytes : Bytes) :
    byteIndexLoop n (rest ++ bytes) i seen = byteIndexLoop n bytes (i + rest.length) seen := by
  induction rest generalizing i with
  | nil => rfl
  | cons b rest ih =>
    rw [cons_append, byteIndexLoop, if_pos (h b mem_cons_self),
      ih fun c hc => h c (mem_cons_of_mem b hc), length_cons]
    congr 1
    omega

lemma byteIndexLoop_utf8 {n i seen : ℕ} (h : seen ≤ n) (cs : List Char) :
    byteIndexLoop n (utf8 cs) i seen = i + (utf8 (cs.take (n - seen))).length := by
  induction cs generalizing i seen with
  | nil => simp [byteIndexLoop]
  | cons c cs ih =>
    obtain ⟨lead, rest, henc, hlead, hrest⟩ := exists_utf8EncodeChar c
    rw [utf8_cons, henc, cons_append, byteIndexLoop, if_neg (by simp [hlead])]
    split
    case isTrue heq => simp [heq]
    case isFalse hne =>
      obtain ⟨k, hk⟩ : ∃ k, n - seen = k + 1 := ⟨n - seen - 1, by omega⟩
      rw [byteIndexLoop_continuation hrest, ih (by omega), hk, take_succ_cons, utf8_cons, henc,
        show n - (seen + 1) = k by omega]
      simp
      omega

lemma utf8_spaces (n : ℕ) : utf8 (List.replicate n ' ') = List.replicate n 32 := by
  induction n with
  | zero => rfl
  | succ n ih => rw [replicate_succ, utf8_cons, ih, replicate_succ]; rfl

variable {cs : List Char}

lemma utf8_eq_nil : utf8 cs = [] ↔ cs = [] := by
  cases cs with
  | nil => simp
  | cons c cs => simp [String.utf8EncodeChar_ne_nil]

lemma dash_eq (buf : Bytes) (cs : List Char) :
    (if (buf ++ utf8 cs).length = buf.length then buf ++ utf8 cs ++ utf8 ['-']
      else buf ++ utf8 cs) = buf ++ utf8 (dashed cs) := by
  unfold dashed
  by_cases h : cs = []
  · simp [h]
  · rw [if_neg h, if_neg]
    simpa [utf8_eq_nil] using h

lemma finishCell_last (width : ℕ) (buf : Bytes) (cs : List Char) :
    finishCell (buf ++ utf8 cs) buf.length width true = buf ++ utf8 (dashed cs) := by
  rw [finishCell, dash_eq]
  rfl

lemma finishCell_text (hwidth : 0 < width) (buf : Bytes) (cs : List Char) :
    finishCell (buf ++ utf8 cs) buf.length width false =
      buf ++ utf8 (fitCell width (dashed cs) ++ "  ".toList) := by
  rw [finishCell, dash_eq]
  dsimp only
  rw [drop_left, charCount_utf8, if_neg (by simp), fitCell, shownChars]
  split_ifs with hlong
  · have hcut : (buf ++ utf8 (dashed cs)).take
        (buf.length + byteIndexOfChar (utf8 (dashed cs)) (width - 1)) =
          buf ++ utf8 ((dashed cs).take (width - 1)) := by
      have hsplit := congrArg utf8 (take_append_drop (width - 1) (dashed cs))
      rw [utf8_append] at hsplit
      rw [byteIndexOfChar, byteIndexLoop_utf8 (Nat.zero_le _), Nat.zero_add,
        take_length_add_append, Nat.sub_zero, ← hsplit, take_left]
    rw [hcut, show width - (width - 1 + 1) = 0 by omega]
    simp [ellipsis]
  · simp [utf8_spaces]

/-! ## Rows -/

/-- The width and the text of the cells of a row but the last. -/
def rowCells (widths : List ℕ) (record : DeviceRecord) : List (ℕ × List Char) :=
  [(widths.getD 0 0, match record.mgmtIp with
      | some ip => ip.display.toList
      | none => record.identityKey.asStr.toList),
    (widths.getD 1 0, ((deviceName record).getD "").toList),
    (widths.getD 2 0, ((platformLabel record).getD "").toList)]

def lineText (cells : List (ℕ × List Char)) (last : List Char) : List Char :=
  (cells.flatMap fun cell => fitCell cell.1 (dashed cell.2) ++ "  ".toList) ++ dashed last

def portsText : List Char :=
  [','].intercalate ((openPorts record).map (Nat.toDigits 10))

def rowText (widths : List ℕ) (record : DeviceRecord) : List Char :=
  lineText (rowCells widths record) (portsText record)

def headerText (widths : List ℕ) : List Char :=
  lineText [(widths.getD 0 0, "ADDRESS".toList), (widths.getD 1 0, "NAME".toList),
    (widths.getD 2 0, "PLATFORM".toList)] "PORTS".toList

def tableText (widths : List ℕ) (records : List DeviceRecord) : List Char :=
  headerText widths ++ ['\n'] ++ records.flatMap fun record => rowText widths record ++ ['\n']

lemma u16Digits_eq (n : ℕ) : u16Digits n = utf8 (Nat.toDigits 10 n) := by
  have hdigit : ∀ d < 10, utf8 [Nat.digitChar d] = [48 + UInt8.ofNat d] := by decide
  induction n using Nat.strong_induction_on with
  | _ n ih =>
    rw [u16Digits]
    split
    case isTrue hn =>
      rw [Nat.toDigits_of_lt_base (by omega), hdigit n (by omega), Nat.mod_eq_of_lt (by omega)]
      rfl
    case isFalse hn =>
      have hmod := hdigit (n % 10) (by omega)
      rw [ih (n / 10) (by omega), Nat.toDigits_of_base_le (n := n) (by decide) (by omega),
        utf8_append, hmod]

lemma utf8_intercalate (sep : List Char) (parts : List (List Char)) :
    utf8 (sep.intercalate parts) = (utf8 sep).intercalate (parts.map utf8) := by
  induction parts with
  | nil => rfl
  | cons part parts ih =>
    cases parts with
    | nil => simp
    | cons next parts =>
      rw [intercalate_cons_cons, utf8_append, utf8_append, ih]
      simp

variable (record : DeviceRecord)

lemma writeOpenPorts_eq (buf : Bytes) :
    writeOpenPorts record buf = buf ++ utf8 (portsText record) := by
  rw [writeOpenPorts, portsText, utf8_intercalate, map_map]
  congr 3
  exact funext u16Digits_eq

lemma exists_widths (h : Within tableColumns widths) :
    ∃ a b c d, widths = [a, b, c, d] ∧ 15 ≤ a ∧ 12 ≤ b ∧ 10 ≤ c ∧ 12 ≤ d := by
  rcases h with _ | ⟨ha, _ | ⟨hb, _ | ⟨hc, _ | ⟨hd, _ | -⟩⟩⟩⟩
  grind

lemma encodeRecord_eq {self : TableEncoder} (hwidths : Within tableColumns self.widths)
    (record : DeviceRecord) (buf : Bytes) :
    self.encodeRecord record buf = ({ self with headerWritten := true },
      (if self.headerWritten then buf else buf ++ utf8 self.header.toList) ++
        utf8 (rowText self.widths record ++ ['\n'])) := by
  obtain ⟨a, b, c, d, hself, ha, hb, hc, -⟩ := exists_widths hwidths
  rw [TableEncoder.encodeRecord, hself]
  simp only [getD_cons_zero, getD_cons_succ]
  rw [finishCell_text (by omega), finishCell_text (by omega), finishCell_text (by omega),
    writeOpenPorts_eq, finishCell_last]
  refine congrArg (Prod.mk _) ?_
  simp only [rowText, lineText, rowCells, getD_cons_zero, getD_cons_succ,
    flatMap_cons, flatMap_nil, utf8_append, append_assoc, append_nil]
  cases record.mgmtIp <;> rfl

lemma fitCell_of_le (h : cs.length ≤ width) :
    fitCell width cs = cs ++ List.replicate (width - cs.length) ' ' := by
  rw [fitCell, if_neg (by omega), shownChars, if_neg (by omega)]

lemma decodeLossy_ascii (h : ∀ c ∈ cs, c.utf8Size = 1) :
    decodeLossy (utf8 cs).length (utf8 cs) = cs := by
  induction cs with
  | nil => rfl
  | cons c cs ih =>
    have hc := h c mem_cons_self
    obtain ⟨hval, hlt⟩ := toNat_toUInt8_of_ascii hc
    rw [utf8_cons, utf8EncodeChar_ascii hc, singleton_append, length_cons, decodeLossy,
      if_pos (UInt8.lt_iff_toNat_lt.mpr hlt), ih fun d hd => h d (mem_cons_of_mem c hd), hval]
    simp

lemma ascii_dashed (h : ∀ c ∈ cs, c.utf8Size = 1) : ∀ c ∈ dashed cs, c.utf8Size = 1 := by
  unfold dashed
  split_ifs
  -- Over the list: the instance for a finite type would go through every character.
  · exact forall_iff_forall_mem.mp (by decide)
  · exact h

lemma ascii_lineText {cells : List (ℕ × List Char)} {last : List Char}
    (hcells : ∀ cell ∈ cells, (dashed cell.2).length ≤ cell.1 ∧ ∀ c ∈ cell.2, c.utf8Size = 1)
    (hlast : ∀ c ∈ last, c.utf8Size = 1) : ∀ c ∈ lineText cells last, c.utf8Size = 1 := by
  intro c hc
  rcases mem_append.mp hc with hc | hc
  · obtain ⟨cell, hcell, hc⟩ := mem_flatMap.mp hc
    obtain ⟨hle, hascii⟩ := hcells cell hcell
    rw [fitCell_of_le hle, append_assoc, mem_append, mem_append] at hc
    rcases hc with hc | hc | hc
    · exact ascii_dashed hascii c hc
    · rw [eq_of_mem_replicate hc]
      rfl
    · have hspaces : ∀ e ∈ "  ".toList, e.utf8Size = 1 :=
        forall_iff_forall_mem.mp (by decide)
      exact hspaces c hc
  · exact ascii_dashed hlast c hc

lemma buildHeader_eq (hwidths : Within tableColumns widths) :
    buildHeader widths = String.ofList (headerText widths ++ ['\n']) := by
  obtain ⟨a, b, c, d, rfl, ha, hb, hc, -⟩ := exists_widths hwidths
  have hbuf : (tableColumns.zipIdx.zip [a, b, c, d]).foldl (fun buf entry =>
      finishCell (buf ++ utf8 entry.1.1.header.toList) buf.length entry.2 (entry.1.2 == 3)) [] =
      utf8 (headerText [a, b, c, d]) := by
    simp only [tableColumns, zipIdx_cons, zipIdx_nil, zip_cons_cons,
      foldl_cons, zip_nil_left, foldl_nil, Nat.reduceAdd, Nat.reduceBEq]
    rw [finishCell_text (by omega), finishCell_text (by omega), finishCell_text (by omega),
      finishCell_last]
    simp [headerText, lineText]
  have hascii : ∀ e ∈ headerText [a, b, c, d] ++ ['\n'], e.utf8Size = 1 := by
    intro e he
    rcases mem_append.mp he with he | he
    · refine ascii_lineText ?_ (forall_iff_forall_mem.mp (by decide)) e he
      simp only [forall_mem_cons]
      exact ⟨⟨ha.trans' (by decide), forall_iff_forall_mem.mp (by decide)⟩,
        ⟨hb.trans' (by decide), forall_iff_forall_mem.mp (by decide)⟩,
        ⟨hc.trans' (by decide), forall_iff_forall_mem.mp (by decide)⟩, by simp⟩
    · rw [mem_singleton.mp he]
      rfl
  rw [buildHeader, hbuf, ← utf8_append, fromUtf8Lossy, decodeLossy_ascii hascii]

lemma encodeTable_eq (total : ℕ) (first : DeviceRecord) (rest : List DeviceRecord) :
    encodeTable total (first :: rest) = utf8 (tableText (forTotalWidth total) (first :: rest)) := by
  have hwidths := (forTotalWidth_spec total).1
  -- After the first record the header is written, and every record adds its row.
  have hrest : ∀ (records : List DeviceRecord) (header : String) (buf : Bytes),
      (records.foldl (fun state record => TableEncoder.encodeRecord state.1 record state.2)
        (⟨forTotalWidth total, header, true⟩, buf)).2 =
          buf ++ utf8 (records.flatMap fun r => rowText (forTotalWidth total) r ++ ['\n']) := by
    intro records header
    induction records with
    | nil => simp
    | cons record records ih =>
      intro buf
      rw [foldl_cons, encodeRecord_eq hwidths, ih, append_assoc, ← utf8_append]
      rfl
  rw [encodeTable, TableEncoder.new, foldl_cons, encodeRecord_eq hwidths, hrest,
    buildHeader_eq hwidths]
  simp [tableText]

lemma mem_of_mem_shownChars {c : Char} (h : c ∈ shownChars width cs) : c ∈ cs := by
  unfold shownChars at h
  grind

lemma newline_mem_fitCell (width : ℕ) (cs : List Char) :
    '\n' ∈ fitCell width (dashed cs) ↔ '\n' ∈ shownChars width cs := by
  have hfit : ∀ cs, '\n' ∈ fitCell width cs ↔ '\n' ∈ shownChars width cs := by
    intro cs
    unfold fitCell
    split_ifs <;> simp
  rw [hfit, dashed]
  split_ifs with h
  · subst h
    exact ⟨fun hmem => absurd (mem_of_mem_shownChars hmem) (by decide),
      fun hmem => absurd (mem_of_mem_shownChars hmem) (by simp)⟩
  · rfl

lemma newline_mem_lineText (cells : List (ℕ × List Char)) (last : List Char) :
    '\n' ∈ lineText cells last ↔ (∃ cell ∈ cells, '\n' ∈ shownChars cell.1 cell.2) ∨
      '\n' ∈ last := by
  have hlast : '\n' ∈ dashed last ↔ '\n' ∈ last := by
    unfold dashed
    split_ifs with h <;> simp [h]
  rw [lineText, mem_append, hlast, mem_flatMap]
  simp [newline_mem_fitCell]

lemma mem_intercalate {sep : List Char} {parts : List (List Char)} {c : Char}
    (h : c ∈ sep.intercalate parts) : c ∈ sep ∨ ∃ part ∈ parts, c ∈ part := by
  induction parts with
  | nil => simp at h
  | cons part parts ih =>
    cases parts with
    | nil => exact .inr ⟨part, mem_singleton_self _, by simpa using h⟩
    | cons next parts =>
      rw [intercalate_cons_cons, mem_append, mem_append] at h
      rcases h with (h | h) | h
      · grind
      · exact .inl h
      · grind

lemma newline_notMem_portsText : '\n' ∉ portsText record := by
  intro h
  rcases mem_intercalate h with h | ⟨digits, hdigits, h⟩
  · exact absurd h (by decide)
  · obtain ⟨port, -, rfl⟩ := mem_map.mp hdigits
    exact absurd (isDigitChar_of_mem_toDigits (by decide) (by decide) port _ h) (by decide)

lemma newline_notMem_headerText (widths : List ℕ) : '\n' ∉ headerText widths := by
  rw [headerText, newline_mem_lineText]
  rintro (⟨cell, hcell, h⟩ | h)
  · simp only [mem_cons, not_mem_nil, or_false] at hcell
    rcases hcell with rfl | rfl | rfl
    all_goals
      replace h := mem_of_mem_shownChars h
      dsimp only at h
      exact absurd h (by decide)
  · exact absurd h (by decide)

lemma count_tableText (widths : List ℕ) (records : List DeviceRecord) :
    (tableText widths records).count '\n' = records.length + 1 +
      (records.map fun record => (rowText widths record).count '\n').sum := by
  have hrows : (records.flatMap fun record => rowText widths record ++ ['\n']).count '\n' =
      records.length + (records.map fun record => (rowText widths record).count '\n').sum := by
    induction records with
    | nil => rfl
    | cons record records ih => grind
  rw [tableText, count_append, count_append, hrows, count_singleton_self,
    count_eq_zero.mpr (newline_notMem_headerText widths)]
  omega

/-- A table's lines are its header and its records if and only if no cell shows a line break. -/
theorem table_lines_iff (total : ℕ) (first : DeviceRecord) (rest : List DeviceRecord) :
    let widths := forTotalWidth total
    let records := first :: rest
    encodeTable total records = utf8 (tableText widths records) ∧
    ((tableText widths records).count '\n' = records.length + 1 ↔
      ∀ record ∈ records, ∀ cell ∈ rowCells widths record, '\n' ∉ shownChars cell.1 cell.2) ∧
    (∀ width ∈ widths, ∀ cs, (fitCell width cs).length = width) ∧
    Within tableColumns widths ∧
    (minTotalWidth ≤ total → total ≤ maxTotalWidth → gutterWidth + widths.sum = total) := by
  intro widths records
  obtain ⟨hwithin, hfill⟩ := forTotalWidth_spec total
  refine ⟨encodeTable_eq total first rest, ?_, ?_, hwithin, hfill⟩
  · rw [count_tableText, Nat.add_eq_left, List.sum_eq_zero_iff_forall_eq_nat, forall_mem_map]
    refine forall₂_congr fun record _ => ?_
    rw [count_eq_zero, rowText, newline_mem_lineText, or_iff_left (newline_notMem_portsText record)]
    simp only [not_exists, not_and]
  · intro width hwidth cs
    obtain ⟨a, b, c, d, heq, ha, hb, hc, hd⟩ := exists_widths hwithin
    have hpos : ∀ w ∈ [a, b, c, d], 0 < w := by
      simp only [forall_mem_cons]
      exact ⟨by omega, by omega, by omega, by omega, by simp⟩
    exact length_fitCell (hpos width (heq ▸ hwidth)) cs

/-- A device that reports a name of two lines. -/
def twoLineDevice : DeviceRecord :=
  { identityKey := ⟨"chassis 7", by decide⟩, mgmtIp := none, mac := none, manufacturer := none,
    model := none, productFamily := none, platform := none, osVersion := none, sshVersion := none,
    httpServer := none, httpVersion := none, role := none,
    confidence := ⟨4 / 9, by norm_num, by norm_num⟩, lastSeen := 0,
    signals := [.snmpSysName "core\nsw1"], probeKinds := [], schemaVersion := "", schemaId := "",
    altIps := [], possibleAliasOf := none, scanMetadata := .default }

/-- The row of the device takes two lines. -/
theorem sys_name_splits_row : (encodeTable 0 [twoLineDevice]).count 10 = 3 := by
  decide +kernel

end Rastreo
