import Rastreo.Fuser.Chain

/-!
# MIB identity files

The bundled table comes with the binary; a data file is opened on the machine, and its rows go over
the bundled ones.  The fusers of a configuration depend on the files it names, and on nothing else
of the machine (`createFuser_congr`).
-/

namespace Rastreo

/-! ## The machine -/

/-- Nothing that opens, or the lines read, each of which may fail. -/
inductive HostFile where
  | unopenable (cause : String)
  | opened (lines : List (Except String String))

structure Host where
  env : String → Option String
  files : String → HostFile

/-! ## Rows -/

/-- `is_dotted_decimal`: at least two arcs of digits. -/
def isDottedDecimal (s : String) : Bool :=
  let arcs := splitChar '.' s
  arcs.all (fun part => part ≠ "" && part.toList.all Char.isDigit) && decide (2 ≤ arcs.length)

/-- `ParseError`. -/
inductive MibParseError where
  | line (line : ℕ) (message : String)
  | io (msg : String)
  deriving DecidableEq

def columnValue (column : String) : Option String := if column = "" then none else some column

/-- Nothing, for a blank line or a comment, or an entry. -/
def parseMibLine (lineNo : ℕ) (raw : String) : Except MibParseError (Option (String × MibEntry)) :=
  let trimmed := trim raw
  if trimmed = "" || trimmed.toList.head? = some '#' then .ok none
  else
    match splitChar '\t' trimmed with
    | [col0, col1, col2, col3] =>
      let oid := trim col0
      let manufacturer := trim col1
      let model := trim col2
      let productFamily := trim col3
      if !isDottedDecimal oid then
        .error (.line lineNo ("sys_object_id '" ++ oid ++
          "' must be dotted-decimal with no leading dot and no whitespace"))
      else if manufacturer = "" && model = "" && productFamily = "" then
        .error (.line lineNo "at least one of manufacturer, model, product_family must be set")
      else
        .ok (some (oid, ⟨columnValue manufacturer, columnValue model, columnValue productFamily⟩))
    | cols =>
      .error (.line lineNo ("expected 4 tab-separated columns (sys_object_id, manufacturer, " ++
        "model, product_family), found " ++ toString cols.length))

/-- The table after one more line, which comes with its number. -/
def parseMibStep (entries : MibTable) (line : Except String String × ℕ) :
    Except MibParseError MibTable := do
  let raw ← line.1.mapError .io
  match (← parseMibLine line.2 raw) with
  | some (oid, entry) => pure (entries.insert oid entry)
  | none => pure entries

/-- Lines count from one; the last entry of an identifier counts. -/
def parseMib (lines : List (Except String String)) : Except MibParseError MibTable :=
  (lines.zipIdx 1).foldlM parseMibStep ∅

/-! ## Tables -/

section Tables

variable (bundled : List (Except String String))

def MibTable.fromBundled : Result MibTable :=
  (parseMib bundled).mapError fun e =>
    match e with
    | .line line message =>
      .invalid ("failed to parse bundled MIB identity table: line " ++ toString line ++ ": " ++
        message)
    | .io msg => .invalid ("failed to read bundled MIB identity table: " ++ msg)

/-- The rows of the file win over the bundled ones. -/
def MibTable.fromPath (host : Host) (path : String) : Result MibTable := do
  let table ← MibTable.fromBundled bundled
  let lines ← match host.files path with
    | .unopenable cause =>
      .error (.invalid ("MIB data file '" ++ path ++ "' could not be opened: " ++ cause))
    | .opened lines => .ok lines
  let overlay ← (parseMib lines).mapError fun e =>
    match e with
    | .line line message =>
      .invalid ("MIB data file '" ++ path ++ "' is not a valid mib-identity file: line " ++
        toString line ++ ": " ++ message)
    | .io msg => .invalid ("MIB data file '" ++ path ++ "' could not be read: " ++ msg)
  pure (overlay ∪ table)

def Host.mibSource (host : Host) : MibSource where
  fromBundled := MibTable.fromBundled bundled
  fromPath := MibTable.fromPath bundled host

end Tables

/-! ## The files a configuration names -/

def FuserConfig.dataPaths : FuserConfig → List String
  | .direct .. => []
  | .mibEnrichment dataPath inner => dataPath.toList.filter (· ≠ "") ++ inner.dataPaths
  | .identity _ inner => inner.dataPaths

variable {config : FuserConfig}

/-- Sources that agree on the named files build the same fuser. -/
lemma createFuser_congr {mib mib' : MibSource} (hbundled : mib.fromBundled = mib'.fromBundled)
    (hpaths : ∀ path ∈ config.dataPaths, mib.fromPath path = mib'.fromPath path) :
    createFuser mib config = createFuser mib' config := by
  induction config with
  | direct includeUnreachable baseline perSignal => rfl
  | mibEnrichment dataPath inner ih =>
    have hinner : createFuser mib inner = createFuser mib' inner :=
      ih fun path hpath => hpaths path (List.mem_append_right _ hpath)
    simp only [createFuser, hinner]
    cases dataPath with
    | none => simp only [hbundled]
    | some path =>
      by_cases hempty : path = ""
      · grind
      · have hpath : mib.fromPath path = mib'.fromPath path :=
          hpaths path (List.mem_append_left _ (by simp [hempty]))
        grind
  | identity hints inner ih =>
    have hinner : createFuser mib inner = createFuser mib' inner := ih hpaths
    simp only [createFuser, hinner]

variable {bundled : List (Except String String)}

lemma createFuser_mibSource_congr {host host' : Host}
    (hfiles : ∀ path ∈ config.dataPaths, host.files path = host'.files path) :
    createFuser (host.mibSource bundled) config = createFuser (host'.mibSource bundled) config := by
  refine createFuser_congr rfl fun path hpath => ?_
  change MibTable.fromPath bundled host path = MibTable.fromPath bundled host' path
  simp only [MibTable.fromPath, hfiles path hpath]

/-- A table comes from a file that opens. -/
lemma opened_of_fromPath {host : Host} {path : String}
    {table : MibTable} (h : MibTable.fromPath bundled host path = .ok table) :
    ∃ lines, host.files path = .opened lines := by
  obtain ⟨_, -, h⟩ := bind_eq_ok.mp h
  cases hfile : host.files path with
  | unopenable cause => simp [hfile] at h
  | opened lines => exact ⟨lines, rfl⟩

/-- A fuser that could be built had every data file its configuration names. -/
lemma opened_of_createFuser {host : Host} {fuser : Fuser}
    (h : createFuser (host.mibSource bundled) config = .ok fuser) {path : String}
    (hpath : path ∈ config.dataPaths) : ∃ lines, host.files path = .opened lines := by
  induction config generalizing fuser with
  | direct includeUnreachable baseline perSignal => cases hpath
  | mibEnrichment dataPath inner ih =>
    obtain ⟨_, -, h⟩ := bind_eq_ok.mp h
    obtain ⟨innerFuser, hinner, h⟩ := bind_eq_ok.mp h
    rcases List.mem_append.mp hpath with hown | hinn
    · obtain ⟨hown, hne⟩ := List.mem_filter.mp hown
      obtain rfl := Option.mem_toList.mp hown
      simp only [if_pos (of_decide_eq_true hne)] at h
      obtain ⟨table, htable, -⟩ := bind_eq_ok.mp h
      exact opened_of_fromPath htable
    · exact ih hinner hinn
  | identity hints inner ih =>
    obtain ⟨innerFuser, hinner, -⟩ := createFuser_identity h
    exact ih hinner hpath

end Rastreo
