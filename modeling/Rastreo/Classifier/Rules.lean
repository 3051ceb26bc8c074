import Rastreo.Fuser.MibTable

/-!
# Classifiers

Rules are compiled and checked when the classifier is built: a compiled prefix of object identifiers
carries the proof that it is one.  Regular expressions are a parameter (`RegexEngine`) with the
documented laws of offsets.  Slicing at other offsets, or a prefix not checked, is a panic.  The
buffer a search reuses is left out.
-/

namespace Rastreo

/-! ## Regular expressions -/

/-- Compiling, group names, the offsets of the groups in the first match, and whether there is one.
Groups are parts of the text. -/
structure RegexEngine where
  Regex : Type
  compile : String → Except String Regex
  captureNames : Regex → List (Option String)
  capturesRead : Regex → String → Option (List (Option (ℕ × ℕ)))
  isMatch : Regex → String → Bool
  span : ∀ {regex text locs start stop}, capturesRead regex text = some locs →
    some (start, stop) ∈ locs →
      ∃ before inside after, text.toList = before ++ inside ++ after ∧ start = utf8Len before ∧
        stop = utf8Len before + utf8Len inside

/-! ## Configuration -/

inductive SignalKind where
  | snmpSysDescr
  | sshBanner
  | httpBanner
  | snmpSysName
  | snmpSysObjectId
  deriving DecidableEq

inductive MergeMode where
  | extend
  | replace
  deriving DecidableEq

structure PlatformRule where
  signal : SignalKind
  pattern : String
  platform : Option String := none
  osVersionCapture : Option String := none
  sshVersionCapture : Option String := none
  httpServerCapture : Option String := none
  httpVersionCapture : Option String := none
  deriving DecidableEq

inductive RoleRule where
  | sysObjectIdPrefix (subtree role : String)
  | signalMatch (signal : SignalKind) (pattern role : String)
  | portsOpen (ports : List UInt16) (role : String)
  deriving DecidableEq

inductive ClassifierConfig where
  | noop
  | rules (mergeMode : MergeMode) (platformRules : List PlatformRule) (roleRules : List RoleRule)

def defaultClassifierConfig : ClassifierConfig := .rules .extend [] []

/-! ## Compiled rules -/

inductive CaptureGroup where
  | undeclared
  | missing
  | index (i : ℕ)
  deriving DecidableEq

def CaptureGroup.isDeclared (self : CaptureGroup) : Bool := self ≠ .undeclared

def CaptureGroup.index? : CaptureGroup → Option ℕ
  | .index i => some i
  | .undeclared => none
  | .missing => none

/-- `Claims`: the fields a rule may fill. -/
structure Claims where
  platform : Bool
  sshVersion : Bool
  httpServer : Bool
  deriving DecidableEq

def Claims.any (self : Claims) : Bool := self.platform || self.sshVersion || self.httpServer

structure PlatformMatch where
  osVersion : Option String
  sshVersion : Option String
  httpServer : Option String
  httpVersion : Option String
  deriving DecidableEq

section Compiled

variable (engine : RegexEngine)

def CaptureGroup.resolve (regex : engine.Regex) : Option String → CaptureGroup
  | none => .undeclared
  | some name =>
    match (engine.captureNames regex).findIdx? (· = some name) with
    | some i => .index i
    | none => .missing

structure CompiledRule where
  signal : SignalKind
  regex : engine.Regex
  platform : Option String
  osVersionGroup : CaptureGroup
  sshVersionGroup : CaptureGroup
  httpServerGroup : CaptureGroup
  httpVersionGroup : CaptureGroup

/-- A prefix has passed `is_dotted_decimal`. -/
inductive CompiledRoleRule where
  | sysObjectIdPrefix (subtree role : String) (valid : isDottedDecimal subtree = true)
  | signalMatch (signal : SignalKind) (regex : engine.Regex) (role : String)
  | portsOpen (ports : List UInt16) (role : String)

def compilePlatformRule (rule : PlatformRule) : Except ClassifierError (CompiledRule engine) := do
  if rule.platform.isNone then
    if let some group := rule.osVersionCapture then
      throw (.invalidPlatformRule ("platform rule `" ++ rule.pattern ++
        "` captures os_version from `" ++ group ++ "` but claims no platform; os_version is the " ++
        "version of the platform, so a rule without one can never write it"))
  if rule.httpServerCapture.isNone then
    if let some group := rule.httpVersionCapture then
      throw (.invalidPlatformRule ("platform rule `" ++ rule.pattern ++
        "` captures http_version from `" ++ group ++ "` but captures no http_server; " ++
        "http_version is the version of the http_server, so a rule without one can never write it"))
  let regex ← (engine.compile rule.pattern).mapError (.invalidRegex rule.pattern)
  pure
    { osVersionGroup := CaptureGroup.resolve engine regex rule.osVersionCapture
      sshVersionGroup := CaptureGroup.resolve engine regex rule.sshVersionCapture
      httpServerGroup := CaptureGroup.resolve engine regex rule.httpServerCapture
      httpVersionGroup := CaptureGroup.resolve engine regex rule.httpVersionCapture
      signal := rule.signal
      regex
      platform := rule.platform }

def compileRoleRule : RoleRule → Except ClassifierError (CompiledRoleRule engine)
  | .sysObjectIdPrefix subtree role =>
    if subtree = "" then
      .error (.invalidRoleRule ("sys_object_id_prefix rule for role `" ++ role ++
        "` has an empty prefix"))
    else if valid : isDottedDecimal subtree = true then .ok (.sysObjectIdPrefix subtree role valid)
    else
      .error (.invalidRoleRule ("sys_object_id_prefix rule for role `" ++ role ++
        "` has prefix `" ++ subtree ++ "`, which is not a dotted-decimal OID: expected two or " ++
        "more digit arcs joined by `.` with no leading dot, as in `1.3.6.1.4.1.9.1`"))
  | .signalMatch signal pattern role => do
    let regex ← (engine.compile pattern).mapError (.invalidRegex pattern)
    pure (.signalMatch signal regex role)
  | .portsOpen ports role =>
    if ports.isEmpty then
      .error (.invalidRoleRule ("ports_open rule for role `" ++ role ++
        "` has an empty ports list"))
    else .ok (.portsOpen ports role)

end Compiled

/-! ## The rules that come with the engine -/

inductive BannerHeuristics where
  | off
  | on
  deriving DecidableEq

/-- For a system description, with the version of the platform. -/
def sysDescrRule (pattern platform : String) : PlatformRule where
  signal := .snmpSysDescr
  pattern := pattern
  platform := some platform
  osVersionCapture := some "version"

def platformRules (banner : BannerHeuristics) : List PlatformRule :=
  let claim (value : String) : Option String :=
    match banner with
    | .on => some value
    | .off => none
  let sshRule (pattern platform : String) : PlatformRule :=
    { signal := .sshBanner
      pattern
      platform := claim platform
      osVersionCapture := claim "osv"
      sshVersionCapture := some "sshv" }
  let httpRule (pattern : String) : PlatformRule :=
    { signal := .httpBanner
      pattern
      platform := claim "linux"
      httpServerCapture := some "server"
      httpVersionCapture := some "version" }
  [sysDescrRule "^Cisco IOS Software.*Version (?P<version>[\\d\\.]+)" "cisco_ios",
    sysDescrRule "^Cisco IOS XR.*Version (?P<version>[\\d\\.]+)" "cisco_ios_xr",
    sysDescrRule "^Cisco NX-OS.*Version (?P<version>[\\d\\.]+)" "cisco_nxos",
    sysDescrRule "^Juniper Networks, Inc\\..*JUNOS (?P<version>[\\d\\.]+)" "junos",
    sysDescrRule "^Arista Networks EOS version (?P<version>[\\d\\.]+)" "arista_eos",
    sysDescrRule "^SRLinux-v(?P<version>[\\d\\.]+)" "nokia_srlinux",
    sysDescrRule "^Linux\\s+\\S+\\s+(?P<version>[\\d\\.]+)-" "linux",
    sshRule "^SSH-2\\.0-(?P<sshv>OpenSSH_[\\d\\.p]+)\\s+(?P<osv>Ubuntu)" "linux",
    sshRule "^SSH-2\\.0-(?P<sshv>OpenSSH_[\\d\\.p]+)\\s+(?P<osv>Debian)" "linux",
    sshRule "^SSH-2\\.0-(?P<sshv>OpenSSH_[\\d\\.p]+)\\s+(?P<osv>FreeBSD)" "freebsd",
    httpRule "^(?P<server>nginx)/(?P<version>[\\d\\.]+)",
    httpRule "^(?P<server>Apache)/(?P<version>[\\d\\.]+)"]

def bakedPlatformRules : List PlatformRule := platformRules .off

def bakedRoleRules : List RoleRule :=
  [.portsOpen [22, 179] "router", .portsOpen [22, 443, 830] "router"]

/-! ## Classifiers -/

/-- `NoopClassifier` and `RulesClassifier`. -/
inductive Classifier (engine : RegexEngine) where
  | noop
  | rules (platformRules : List (CompiledRule engine)) (roleRules : List (CompiledRoleRule engine))

section Classify

variable {engine : RegexEngine}

/-- The rules of the scenario come first. -/
def newRulesClassifier (engine : RegexEngine) (mergeMode : MergeMode)
    (userPlatformRules : List PlatformRule) (userRoleRules : List RoleRule) :
    Except ClassifierError (Classifier engine) := do
  let platformRules ← userPlatformRules.mapM (compilePlatformRule engine)
  let roleRules ← userRoleRules.mapM (compileRoleRule engine)
  match mergeMode with
  | .extend =>
    let bakedPlatform ← bakedPlatformRules.mapM (compilePlatformRule engine)
    let bakedRole ← bakedRoleRules.mapM (compileRoleRule engine)
    pure (.rules (platformRules ++ bakedPlatform) (roleRules ++ bakedRole))
  | .replace => pure (.rules platformRules roleRules)

def createClassifier (engine : RegexEngine) :
    ClassifierConfig → Result (Classifier engine)
  | .noop => .ok .noop
  | .rules mergeMode platformRules roleRules =>
    (newRulesClassifier engine mergeMode platformRules roleRules).mapError .classifier

def signalTextFor (want : SignalKind) (signal : Signal) : Option String :=
  match want, signal with
  | .snmpSysDescr, .snmpSysDescr s => some s
  | .sshBanner, .sshBanner s => some s
  | .httpBanner, .httpBanner s => some s
  | .snmpSysName, .snmpSysName s => some s
  | .snmpSysObjectId, .snmpSysObjectId s => some s
  | _, _ => none

def capturedGroup (text : String) (locs : List (Option (ℕ × ℕ))) (wanted : Bool)
    (group : CaptureGroup) : Except Panic (Option String) :=
  if !wanted then .ok none
  else
    match group.index?.bind fun i => (locs[i]?).join with
    | none => .ok none
    | some (start, stop) => (sliceText text start stop).map some

def CompiledRule.search (self : CompiledRule engine) (claims : Claims) (text : String) :
    Except Panic (Option PlatformMatch) :=
  match engine.capturesRead self.regex text with
  | none => .ok none
  | some locs => do
    let osVersion ← capturedGroup text locs claims.platform self.osVersionGroup
    let sshVersion ← capturedGroup text locs claims.sshVersion self.sshVersionGroup
    let httpServer ← capturedGroup text locs claims.httpServer self.httpServerGroup
    let httpVersion ← capturedGroup text locs claims.httpServer self.httpVersionGroup
    pure (some ⟨osVersion, sshVersion, httpServer, httpVersion⟩)

def CompiledRule.searchTexts (self : CompiledRule engine) (claims : Claims) :
    List String → Except Panic (Option PlatformMatch)
  | [] => .ok none
  | text :: rest => do
    match (← self.search claims text) with
    | some found => pure (some found)
    | none => self.searchTexts claims rest

def platformRuleMatch (rule : CompiledRule engine) (record : DeviceRecord) (claims : Claims) :
    Except Panic (Option PlatformMatch) :=
  rule.searchTexts claims (record.signals.filterMap (signalTextFor rule.signal))

def DeviceRecord.fill (record : DeviceRecord) (rule : CompiledRule engine) (claims : Claims)
    (found : PlatformMatch) : DeviceRecord :=
  let record :=
    if claims.platform then
      { record with
        platform := rule.platform
        osVersion := found.osVersion.or record.osVersion }
    else record
  let record :=
    if claims.sshVersion then
      { record with sshVersion := found.sshVersion.or record.sshVersion }
    else record
  if claims.httpServer then
    match found.httpServer with
    | none => record
    | some server =>
      { record with
        httpServer := some server
        httpVersion := found.httpVersion.or record.httpVersion }
  else record

/-- The loop, with the fields that are still wanted. -/
def applyPlatformRules : List (CompiledRule engine) → Claims → DeviceRecord →
    Except Panic DeviceRecord
  | [], _, record => .ok record
  | rule :: rest, want, record =>
    if !want.any then .ok record
    else
      let claims : Claims :=
        { platform := want.platform && rule.platform.isSome
          sshVersion := want.sshVersion && rule.sshVersionGroup.isDeclared
          httpServer := want.httpServer && rule.httpServerGroup.isDeclared }
      if !claims.any then applyPlatformRules rest want record
      else do
        match (← platformRuleMatch rule record claims) with
        | none => applyPlatformRules rest want record
        | some found =>
          applyPlatformRules rest
            { platform := want.platform && !claims.platform
              sshVersion := want.sshVersion && !claims.sshVersion
              httpServer := want.httpServer && !claims.httpServer }
            (record.fill rule claims found)

/-- Asserts that the prefix was checked. -/
def hasArcPrefix (oid subtree : String) : Except Panic Bool :=
  if !isDottedDecimal subtree then
    .error (.expect ("prefix `" ++ subtree ++ "` was not validated by is_dotted_decimal"))
  else if subtree.toList <+: oid.toList then
    .ok ((oid.toList.drop subtree.toList.length).head?.elim true (· = '.'))
  else .ok false

def roleRuleMatches (rule : CompiledRoleRule engine) (record : DeviceRecord) : Except Panic Bool :=
  match rule with
  | .sysObjectIdPrefix subtree _ _ =>
    record.signals.anyM fun s =>
      match s with
      | .snmpSysObjectId value => hasArcPrefix value subtree
      | _ => .ok false
  | .signalMatch signal regex _ =>
    .ok ((record.signals.filterMap (signalTextFor signal)).any (engine.isMatch regex))
  | .portsOpen ports _ => .ok (ports.all fun want => record.signals.any (· = .openPort want))

def roleOf : CompiledRoleRule engine → String
  | .sysObjectIdPrefix _ role _ => role
  | .signalMatch _ _ role => role
  | .portsOpen _ role => role

/-- The loop of `apply_role_rules`. -/
def firstRole : List (CompiledRoleRule engine) → DeviceRecord → Except Panic (Option String)
  | [], _ => .ok none
  | rule :: rest, record => do
    if (← roleRuleMatches rule record) then pure (some (roleOf rule)) else firstRole rest record

def applyRoleRules (rules : List (CompiledRoleRule engine)) (record : DeviceRecord) :
    Except Panic DeviceRecord :=
  if record.role.isSome then .ok record
  else do
    match (← firstRole rules record) with
    | some role => pure { record with role := some role }
    | none => pure record

def Classifier.classify (self : Classifier engine) (record : DeviceRecord) :
    Except FuserFault DeviceRecord :=
  match self with
  | .noop => .ok record
  | .rules platformRules roleRules => do
    let want : Claims :=
      { platform := record.platform.isNone
        sshVersion := record.sshVersion.isNone
        httpServer := record.httpServer.isNone }
    let record ← (applyPlatformRules platformRules want record).mapError .panic
    (applyRoleRules roleRules record).mapError .panic

/-! ## Classifying never fails -/

lemma capturedGroup_ok {regex : engine.Regex} {text : String} {locs : List (Option (ℕ × ℕ))}
    (hlocs : engine.capturesRead regex text = some locs) (wanted : Bool) (group : CaptureGroup) :
    ∃ value, capturedGroup text locs wanted group = .ok value := by
  unfold capturedGroup
  split_ifs with hwanted
  · exact ⟨none, rfl⟩
  · split
    next => exact ⟨none, rfl⟩
    next start stop hspan =>
      obtain ⟨i, -, hi⟩ := Option.bind_eq_some_iff.mp hspan
      have hmem : some (start, stop) ∈ locs := List.mem_of_getElem? (Option.join_eq_some_iff.mp hi)
      obtain ⟨before, inside, after, htext, rfl, rfl⟩ := engine.span hlocs hmem
      rw [sliceText_of_span htext]
      exact ⟨some (String.ofList inside), rfl⟩

variable (rule : CompiledRule engine) (claims : Claims)

lemma CompiledRule.search_ok (text : String) : ∃ found, rule.search claims text = .ok found := by
  unfold search
  split
  next => exact ⟨none, rfl⟩
  next locs hlocs =>
    obtain ⟨osVersion, hos⟩ := capturedGroup_ok hlocs claims.platform rule.osVersionGroup
    obtain ⟨sshVersion, hssh⟩ := capturedGroup_ok hlocs claims.sshVersion rule.sshVersionGroup
    obtain ⟨httpServer, hserver⟩ := capturedGroup_ok hlocs claims.httpServer rule.httpServerGroup
    obtain ⟨httpVersion, hver⟩ :=
      capturedGroup_ok hlocs claims.httpServer rule.httpVersionGroup
    rw [hos, hssh, hserver, hver]
    exact ⟨_, rfl⟩

lemma CompiledRule.searchTexts_ok (texts : List String) :
    ∃ found, rule.searchTexts claims texts = .ok found := by
  induction texts with
  | nil => exact ⟨none, rfl⟩
  | cons text rest ih =>
    obtain ⟨found, hfound⟩ := rule.search_ok claims text
    rw [searchTexts, hfound, ok_bind]
    cases found with
    | some found => exact ⟨some found, rfl⟩
    | none => exact ih

lemma applyPlatformRules_ok (rules : List (CompiledRule engine)) (want : Claims)
    (record : DeviceRecord) : ∃ record', applyPlatformRules rules want record = .ok record' := by
  induction rules generalizing want record with
  | nil => exact ⟨record, rfl⟩
  | cons rule rest ih =>
    rw [applyPlatformRules]
    split_ifs with hwant
    · exact ⟨record, rfl⟩
    · dsimp only
      split_ifs with hclaims
      · exact ih want record
      · obtain ⟨found, hfound⟩ := rule.searchTexts_ok _ _
        rw [platformRuleMatch, hfound, ok_bind]
        cases found with
        | none => exact ih want record
        | some found => exact ih _ _

lemma hasArcPrefix_ok {subtree : String} (valid : isDottedDecimal subtree = true) (oid : String) :
    ∃ b, hasArcPrefix oid subtree = .ok b := by
  unfold hasArcPrefix
  rw [valid, Bool.not_true, if_neg Bool.false_ne_true]
  split_ifs
  · exact ⟨_, rfl⟩
  · exact ⟨false, rfl⟩

lemma roleRuleMatches_ok (rule : CompiledRoleRule engine) (record : DeviceRecord) :
    ∃ b, roleRuleMatches rule record = .ok b := by
  cases rule with
  | sysObjectIdPrefix subtree role valid =>
    refine anyM_ok (fun s => ?_) record.signals
    split
    next value => exact hasArcPrefix_ok valid value
    simp
  | signalMatch signal regex role => exact ⟨_, rfl⟩
  | portsOpen ports role => exact ⟨_, rfl⟩

lemma applyRoleRules_ok (rules : List (CompiledRoleRule engine)) (record : DeviceRecord) :
    ∃ record', applyRoleRules rules record = .ok record' := by
  have hfst : ∃ role, firstRole rules record = .ok role := by
    induction rules with
    | nil => exact ⟨none, rfl⟩
    | cons rule rest ih =>
      obtain ⟨b, hb⟩ := roleRuleMatches_ok rule record
      rw [firstRole, hb, ok_bind]
      cases b with
      | true => exact ⟨some (roleOf rule), rfl⟩
      | false => exact ih
  obtain ⟨role, hrole⟩ := hfst
  unfold applyRoleRules
  split_ifs
  · exact ⟨record, rfl⟩
  · rw [hrole, ok_bind]
    cases role with
    | some role => exact ⟨_, rfl⟩
    | none => exact ⟨record, rfl⟩

/-- A classifier returns for every record. -/
theorem Classifier.classify_ok (classifier : Classifier engine) (record : DeviceRecord) :
    ∃ record', classifier.classify record = .ok record' := by
  cases classifier with
  | noop => exact ⟨record, rfl⟩
  | rules platformRules roleRules =>
    rw [classify]
    obtain ⟨record₁, hpla⟩ := applyPlatformRules_ok platformRules
      { platform := record.platform.isNone
        sshVersion := record.sshVersion.isNone
        httpServer := record.httpServer.isNone } record
    obtain ⟨record₂, hrole⟩ := applyRoleRules_ok roleRules record₁
    rw [hpla]
    change ∃ record', (applyRoleRules roleRules record₁).mapError FuserFault.panic = .ok record'
    simp_all

end Classify

end Rastreo
