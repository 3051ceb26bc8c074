import Rastreo.Fuser.MibTable

/-!
# The rows of a MIB identity file

A line is trimmed before it is split into columns.  A row whose last column is blank so loses the
tab before it, and the file is rejected; every other row gives its trimmed columns.
-/

namespace Rastreo

open List

/-! ## Files -/

/-- A dotted object identifier and some identity. -/
structure MibRow where
  oid : String
  manufacturer : String
  model : String
  productFamily : String
  no_tab : ∀ column ∈ [oid, manufacturer, model, productFamily], '\t' ∉ column.toList
  oid_ok : isDottedDecimal (trim oid) = true
  identity : trim manufacturer ≠ "" ∨ trim model ≠ "" ∨ trim productFamily ≠ ""

def MibRow.text (self : MibRow) : String :=
  self.oid ++ "\t" ++ self.manufacturer ++ "\t" ++ self.model ++ "\t" ++ self.productFamily

def MibRow.entry (self : MibRow) : MibEntry :=
  ⟨columnValue (trim self.manufacturer), columnValue (trim self.model),
    columnValue (trim self.productFamily)⟩

/-- A line of a file: one that is blank or a comment, or a row. -/
inductive MibLine where
  | skipped (raw : String) (h : trim raw = "" ∨ (trim raw).toList.head? = some '#')
  | row (r : MibRow)

def MibLine.text : MibLine → String
  | .skipped raw _ => raw
  | .row r => r.text

def MibLine.entryOf (oid : String) : MibLine → Option MibEntry
  | .skipped .. => none
  | .row r => if trim r.oid = oid then some r.entry else none

/-- The last column of a row is not blank. -/
def MibLine.LastFilled : MibLine → Prop
  | .skipped .. => True
  | .row r => trim r.productFamily ≠ ""

/-- The entry in the last row of an identifier. -/
def lastEntry (lines : List MibLine) (oid : String) : Option MibEntry :=
  lines.reverse.findSome? (MibLine.entryOf oid)

/-! ## Trimming around a text -/

/-- Characters without a blank at either end. -/
structure Bare (cs : List Char) : Prop where
  ne_nil : cs ≠ []
  head : ∀ c ∈ cs.head?, isWhitespace c = false
  last : ∀ c ∈ cs.getLast?, isWhitespace c = false

def Blank (cs : List Char) : Prop := ∀ c ∈ cs, isWhitespace c = true

variable {a b core : List Char} {s t : String}

lemma dropWhile_blank (ha : Blank a) (hne : core ≠ [])
    (hhead : ∀ c ∈ core.head?, isWhitespace c = false) (rest : List Char) :
    (a ++ (core ++ rest)).dropWhile isWhitespace = core ++ rest := by
  obtain ⟨c, cs, rfl⟩ := exists_cons_of_ne_nil hne
  have hc : isWhitespace c = false := hhead c rfl
  rw [dropWhile_append_of_pos ha, cons_append, dropWhile_cons_of_neg (by simp [hc])]

lemma rdropWhile_blank (hb : Blank b) (hne : core ≠ [])
    (hlast : ∀ c ∈ core.getLast?, isWhitespace c = false) :
    (core ++ b).rdropWhile isWhitespace = core := by
  have hdrop := @dropWhile_blank b.reverse core.reverse (fun c hc => hb c (mem_reverse.mp hc))
    (mt reverse_eq_nil_iff.mp hne) (by rwa [head?_reverse]) []
  rw [append_nil] at hdrop
  rw [List.rdropWhile, reverse_append, hdrop, reverse_reverse]

lemma trim_of_bare (ha : Blank a) (hcore : Bare core) (hb : Blank b)
    (hs : s.toList = a ++ (core ++ b)) : trim s = String.ofList core := by
  rw [trim, hs, dropWhile_blank ha hcore.ne_nil hcore.head,
    rdropWhile_blank hb hcore.ne_nil hcore.last]

lemma exists_bare (h : trim s ≠ "") : ∃ a b, Blank a ∧ Bare (trim s).toList ∧ Blank b ∧
    s.toList = a ++ ((trim s).toList ++ b) := by
  set rest := s.toList.dropWhile isWhitespace with hrest
  have hcore : (trim s).toList = rest.rdropWhile isWhitespace := by rw [trim, String.toList_ofList]
  have hne : rest.rdropWhile isWhitespace ≠ [] := by
    rw [← hcore]
    exact mt String.toList_eq_nil_iff.mp h
  have hsplit : rest = rest.rdropWhile isWhitespace ++ rest.rtakeWhile isWhitespace := by simp
  refine ⟨s.toList.takeWhile isWhitespace, rest.rtakeWhile isWhitespace,
    fun c hc => mem_takeWhile_imp hc, ⟨hcore ▸ hne, ?_, ?_⟩,
    fun c hc => mem_rtakeWhile_imp hc, ?_⟩
  · intro c hc
    have hc : c ∈ rest.head? := by grind [head?_append_of_ne_nil]
    have hnot := head?_dropWhile_not isWhitespace s.toList
    grind
  · intro c hc
    rw [hcore, getLast?_eq_getLast_of_ne_nil hne] at hc
    have hnot := rdropWhile_last_not isWhitespace rest hne
    grind
  · rw [hcore, ← hsplit, takeWhile_append_dropWhile]

lemma trim_append_blank (h : trim s ≠ "") (ht : Blank t.toList) : trim (s ++ t) = trim s := by
  obtain ⟨a, b, ha, hcore, hb, hs⟩ := exists_bare h
  have hbt : Blank (b ++ t.toList) := fun c hc => (mem_append.mp hc).elim (hb c) (ht c)
  have hst : (s ++ t).toList = a ++ ((trim s).toList ++ (b ++ t.toList)) := by simp [hs]
  rw [trim_of_bare ha hcore hbt hst, String.ofList_toList]

lemma blank_of_trim_eq_empty (h : trim s = "") : Blank s.toList := by
  have hnil := String.ofList_eq_empty_iff.mp h
  rw [rdropWhile_eq_nil_iff] at hnil
  intro c hc
  rw [← takeWhile_append_dropWhile (p := isWhitespace) (l := s.toList)] at hc
  exact (mem_append.mp hc).elim mem_takeWhile_imp (hnil c)

/-! ## One line -/

lemma exists_digit_of_isDottedDecimal (h : isDottedDecimal s = true) :
    ∃ d cs, s.toList = d :: cs ∧ d.isDigit = true := by
  obtain ⟨first, tail, hs, hfst⟩ := exists_splitChar_headD '.' s
  simp only [isDottedDecimal, Bool.and_eq_true, decide_eq_true_eq, all_eq_true] at h
  obtain ⟨hall, hlen⟩ := h
  cases harcs : splitChar '.' s with
  | nil => simp [harcs] at hlen
  | cons arc arcs =>
    rw [harcs, headD_cons] at hfst
    obtain ⟨hne, hdigits⟩ := hall arc (by simp [harcs])
    cases first with
    | nil => simp [hfst] at hne
    | cons d cs => simp_all

namespace MibRow

variable (row : MibRow)

lemma oid_ne_empty : trim row.oid ≠ "" := by
  obtain ⟨d, cs, hoid, -⟩ := exists_digit_of_isDottedDecimal row.oid_ok
  intro h
  simp [h] at hoid

lemma head?_trim (rest : String) :
    ∃ d, (trim (row.oid ++ rest)).toList.head? = some d ∧ d.isDigit = true := by
  obtain ⟨a, b, ha, hcore, -, hoid⟩ := exists_bare row.oid_ne_empty
  obtain ⟨d, cs, hd, hdigit⟩ := exists_digit_of_isDottedDecimal row.oid_ok
  refine ⟨d, ?_, hdigit⟩
  have hrest : (row.oid ++ rest).toList.dropWhile isWhitespace =
      d :: (cs ++ (b ++ rest.toList)) := by
    rw [String.toList_append, hoid, append_assoc, append_assoc,
      dropWhile_blank ha hcore.ne_nil hcore.head, hd, cons_append]
  have hblank : isWhitespace d = false := hcore.head d (by rw [hd]; rfl)
  rw [trim, String.toList_ofList, hrest]
  cases hcs : (d :: (cs ++ (b ++ rest.toList))).rdropWhile isWhitespace with
  | nil => simp [hblank] at hcs
  | cons c cs' =>
    have hpre := rdropWhile_prefix isWhitespace (d :: (cs ++ (b ++ rest.toList)))
    rw [hcs, cons_prefix_cons] at hpre
    rw [hpre.1]
    rfl

lemma not_skipped (rest : String) : ¬ (decide (trim (row.oid ++ rest) = "") ||
    decide ((trim (row.oid ++ rest)).toList.head? = some '#')) = true := by
  obtain ⟨d, hd, hdigit⟩ := row.head?_trim rest
  have hne : trim (row.oid ++ rest) ≠ "" := fun h => by simp [h] at hd
  have hcom : d ≠ '#' := fun h => by simp [h] at hdigit
  simp [hne, hd, hcom]

lemma parseMibLine_eq_ok (lineNo : ℕ) (h : trim row.productFamily ≠ "") :
    parseMibLine lineNo row.text = .ok (some (trim row.oid, row.entry)) := by
  obtain ⟨a, b, ha, hfst, hb, hoid⟩ := exists_bare row.oid_ne_empty
  obtain ⟨a', b', ha', hlast, hb', hfamily⟩ := exists_bare h
  set first := (trim row.oid).toList with hfir
  set last := (trim row.productFamily).toList with hlasteq
  set parts := [row.manufacturer.toList, row.model.toList, a' ++ last]
  set middle := first ++ b ++ parts.flatMap ('\t' :: ·) with hmid
  have htext : row.text.toList = a ++ (middle ++ b') := by
    simp [text, hoid, hfamily, hmid, parts]
  have hbare : Bare middle := by
    refine ⟨by simp [hmid, hfst.ne_nil], ?_, ?_⟩
    · rw [hmid, append_assoc, head?_append_of_ne_nil _ hfst.ne_nil]
      exact hfst.head
    · have hend : middle = first ++ b ++ '\t' :: row.manufacturer.toList ++
          '\t' :: row.model.toList ++ '\t' :: a' ++ last := by simp [hmid, parts]
      rw [hend, getLast?_append_of_ne_nil _ hlast.ne_nil]
      exact hlast.last
  have hsplit : splitChar '\t' (trim row.text) =
      [String.ofList (first ++ b), row.manufacturer, row.model, String.ofList (a' ++ last)] := by
    have htab := row.no_tab
    simp only [forall_mem_cons, hoid, hfamily, mem_append, not_or] at htab
    obtain ⟨⟨-, htab₀, htab₁⟩, htab₂, htab₃, ⟨htab₄, htab₅, -⟩, -⟩ := htab
    rw [trim_of_bare ha hbare hb' htext,
      @splitChar_flatMap (first ++ b) '\t' _ parts (by simp [parts, htab₂, htab₃, htab₄, htab₅])
        (by simp [htab₀, htab₁]) String.toList_ofList]
    simp [parts]
  have hoid' : trim (String.ofList (first ++ b)) = trim row.oid := by
    rw [@trim_of_bare [] b first _ (by simp [Blank]) hfst hb (by simp), hfir, String.ofList_toList]
  have hfam' : trim (String.ofList (a' ++ last)) = trim row.productFamily := by
    rw [@trim_of_bare a' [] last _ ha' hlast (by simp [Blank]) (by simp),
      hlasteq, String.ofList_toList]
  have hsome : ¬ (decide (trim row.manufacturer = "") && decide (trim row.model = "") &&
      decide (trim row.productFamily = "")) = true := by simp [h]
  have hst : row.text = row.oid ++ ("\t" ++ row.manufacturer ++ "\t" ++ row.model ++ "\t" ++
      row.productFamily) := by simp [text, String.append_assoc]
  rw [parseMibLine, if_neg (hst ▸ row.not_skipped _), hsplit]
  dsimp only
  rw [hoid', hfam', if_neg (by simp [row.oid_ok]), if_neg hsome, entry]

lemma parseMibLine_eq_error (lineNo : ℕ) (h : trim row.productFamily = "") :
    ∃ e, parseMibLine lineNo row.text = .error e := by
  set front := row.oid ++ "\t" ++ row.manufacturer ++ "\t" ++ row.model with hfront
  have hst : front = row.oid ++ ("\t" ++ row.manufacturer ++ "\t" ++ row.model) := by grind
  have hnot := row.not_skipped ("\t" ++ row.manufacturer ++ "\t" ++ row.model)
  rw [← hst] at hnot
  have htrim : trim row.text = trim front := by
    have hblank : Blank ("\t" ++ row.productFamily).toList := by
      intro c hc
      rcases mem_append.mp (String.toList_append ▸ hc) with hc | hc
      · rw [mem_singleton.mp hc]
        rfl
      · exact blank_of_trim_eq_empty h c hc
    have htext : row.text = front ++ ("\t" ++ row.productFamily) := by
      simp [text, hfront, String.append_assoc]
    grind [trim_append_blank, hnot]
  have htabs : (trim front).toList.count '\t' ≤ 2 := by
    obtain ⟨a, b, -, -, -, hcore⟩ := exists_bare (s := front) fun h => hnot (by simp [h])
    have htab := row.no_tab
    simp only [forall_mem_cons] at htab
    have hcount : front.toList.count '\t' = 2 := by
      simp [hfront, count_append, count_eq_zero.mpr htab.1,
        count_eq_zero.mpr htab.2.1, count_eq_zero.mpr htab.2.2.1]
    rw [hcore, count_append, count_append] at hcount
    omega
  have hfew : ∀ col0 col1 col2 col3, splitChar '\t' (trim front) ≠ [col0, col1, col2, col3] := by
    intro col0 col1 col2 col3 hcols
    have hjoin : ['\t'].intercalate ([col0, col1, col2, col3].map String.toList) =
        (trim front).toList := by
      rw [← hcols, splitChar, map_map]
      simp [Function.comp_def]
    rw [← hjoin] at htabs
    simp [intercalate_cons_cons, count_append] at htabs
    omega
  rw [parseMibLine, htrim, if_neg hnot]
  split
  case h_1 heq => exact absurd heq (hfew _ _ _ _)
  case h_2 => exact ⟨_, rfl⟩

end MibRow

/-! ## Whole files -/

/-- The lines that a reader of the file finds. -/
def mibFile (lines : List MibLine) : List (Except String String) := lines.map (.ok ·.text)

variable (line : MibLine) (lines : List MibLine) (n : ℕ) (entries : MibTable)

lemma parseMibStep_ok (raw : String) : parseMibStep entries (.ok raw, n) =
    parseMibLine n raw >>= fun row => pure (row.elim entries fun p => entries.insert p.1 p.2) := by
  rw [parseMibStep]
  dsimp only [Except.mapError]
  rw [ok_bind]
  congr 1
  funext row
  cases row <;> rfl

lemma parseMibStep_line :
    line.LastFilled ∧ (∃ table, parseMibStep entries (.ok line.text, n) = .ok table ∧
      ∀ oid, table.lookup oid = (line.entryOf oid).or (entries.lookup oid)) ∨
    ¬ line.LastFilled ∧ ∃ e, parseMibStep entries (.ok line.text, n) = .error e := by
  cases line with
  | skipped raw h =>
    have hline : parseMibLine n raw = .ok none := by
      rw [parseMibLine, if_pos (by simpa using h)]
    refine .inl ⟨trivial, entries, ?_, fun _ => rfl⟩
    rw [MibLine.text, parseMibStep_ok, hline]
    rfl
  | row r =>
    by_cases h : trim r.productFamily = ""
    · obtain ⟨e, he⟩ := r.parseMibLine_eq_error n h
      refine .inr ⟨fun hfilled => hfilled h, e, ?_⟩
      rw [MibLine.text, parseMibStep_ok, he]
      rfl
    · refine .inl ⟨h, entries.insert (trim r.oid) r.entry, ?_, fun oid => ?_⟩
      · rw [MibLine.text, parseMibStep_ok, r.parseMibLine_eq_ok n h]
        rfl
      · by_cases hoid : oid = trim r.oid
        · rw [hoid, AList.lookup_insert, MibLine.entryOf, if_pos rfl, Option.some_or]
        · rw [AList.lookup_insert_ne hoid, MibLine.entryOf, if_neg (Ne.symm hoid), Option.none_or]

lemma parseMib_lines : let result := ((mibFile lines).zipIdx n).foldlM parseMibStep entries
    (∀ line ∈ lines, line.LastFilled) ∧ (∃ table, result = .ok table ∧
      ∀ oid, table.lookup oid = (lastEntry lines oid).or (entries.lookup oid)) ∨
    ¬ (∀ line ∈ lines, line.LastFilled) ∧ ∃ e, result = .error e := by
  induction lines generalizing n entries with
  | nil => exact .inl ⟨by simp, entries, by simp [mibFile]; rfl, by simp [lastEntry]⟩
  | cons line lines ih =>
    simp only [mibFile, map_cons, zipIdx_cons, foldlM_cons, forall_mem_cons]
    rcases parseMibStep_line line n entries with ⟨hline, table, hstep, hlookup⟩ | ⟨hline, e, hstep⟩
    · rw [hstep, ok_bind]
      rcases ih (n + 1) table with ⟨hlines, table', hrest, hlookup'⟩ | ⟨hlines, e, hrest⟩
      · refine .inl ⟨⟨hline, hlines⟩, table', hrest, fun oid => ?_⟩
        rw [hlookup', hlookup, lastEntry, lastEntry, reverse_cons, findSome?_append,
          Option.or_assoc, findSome?_singleton]
      · exact .inr ⟨fun h => hlines h.2, e, hrest⟩
    · rw [hstep]
      simp_all

/-- What a file means, what it does to the bundled table, and an entry to a record. -/
theorem mib_rows_read_iff (lines : List MibLine) : ((∃ table, parseMib (mibFile lines) = .ok table ∧
        ∀ oid, table.lookup oid = lastEntry lines oid) ↔ ∀ line ∈ lines, line.LastFilled) ∧
    (∀ bundled host path seed file overlay, MibTable.fromBundled bundled = .ok seed →
      host.files path = .opened file → parseMib file = .ok overlay →
      ∃ table, MibTable.fromPath bundled host path = .ok table ∧
        ∀ oid, table.lookup oid = (overlay.lookup oid).or (seed.lookup oid)) ∧
    ∀ table record, ∃ model productFamily manufacturer, enrich table record =
      { record with
        model := record.model.or model
        productFamily := record.productFamily.or productFamily
        manufacturer := record.manufacturer.or manufacturer } := by
  refine ⟨?_, fun bundled host path seed file overlay hseed hfile hove => ?_,
    fun table record => ?_⟩
  · rcases parseMib_lines lines 1 ∅ with ⟨hfilled, table, hparse, hlookup⟩ | ⟨hnot, e, hparse⟩
    · refine iff_of_true ⟨table, hparse, fun oid => ?_⟩ hfilled
      rw [hlookup, AList.lookup_empty, Option.or_none]
    · exact iff_of_false (fun ⟨table, hok, _⟩ => nomatch hparse.symm.trans hok) hnot
  · refine ⟨overlay ∪ seed, ?_, fun oid => ?_⟩
    · rw [MibTable.fromPath, hseed, ok_bind, hfile]
      dsimp only
      rw [ok_bind, hove]
      rfl
    · by_cases hmem : oid ∈ overlay
      · obtain ⟨entry, hentry⟩ := Option.isSome_iff_exists.mp (AList.lookup_isSome.mpr hmem)
        rw [AList.lookup_union_left hmem, hentry, Option.some_or]
      · rw [AList.lookup_union_right hmem, AList.lookup_eq_none.mpr hmem, Option.none_or]
  · rw [enrich]
    split
    case h_1 => exact ⟨none, none, none, by simp⟩
    case h_2 =>
      split
      case h_1 => exact ⟨none, none, none, by simp⟩
      case h_2 entry _ =>
        refine ⟨entry.model, entry.productFamily, entry.manufacturer, ?_⟩
        have hfill : ∀ field value, fillIfEmpty field value = field.or value := fun field _ => by
          cases field <;> rfl
        rw [hfill, hfill, hfill]

/-- An empty last column makes a file unreadable. -/
theorem empty_last_column_rejected :
    let row : MibRow := ⟨"1.3.6.1", "Nokia", "7250", "", by decide, by decide, by decide⟩
    row.text = "1.3.6.1\tNokia\t7250\t" ∧
    parseMib (mibFile [.row row]) = .error (.line 1 ("expected 4 tab-separated columns " ++
      "(sys_object_id, manufacturer, model, product_family), found 3")) := by
  decide +kernel

end Rastreo
