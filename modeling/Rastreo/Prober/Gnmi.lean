import Rastreo.Model.Slices
import Rastreo.Prober.Config
import Mathlib.Data.List.Chain

/-!
# The gNMI prober

Every configured port of a target is asked for its capabilities and for some state, and the answers
fold into one outcome.  What an endpoint answers (`EndpointAnswers`) and the reading of the LLDP
subtree are parameters.
-/

namespace Rastreo

open List Option

/-! ## Messages -/

structure ModelData where
  name : String
  organization : String
  version : String
  deriving DecidableEq

structure CapabilityResponse where
  supportedModels : List ModelData
  supportedEncodings : List Int32
  gNmiVersion : String
  deriving DecidableEq

inductive GnmiEncoding where
  | json
  | bytes
  | proto
  | ascii
  | jsonIetf
  deriving DecidableEq

def GnmiEncoding.tryFrom (n : Int32) : Option GnmiEncoding :=
  if n = 0 then some .json
  else if n = 1 then some .bytes
  else if n = 2 then some .proto
  else if n = 3 then some .ascii
  else if n = 4 then some .jsonIetf
  else none

def GnmiEncoding.asStrName : GnmiEncoding → String
  | .json => "JSON"
  | .bytes => "BYTES"
  | .proto => "PROTO"
  | .ascii => "ASCII"
  | .jsonIetf => "JSON_IETF"

/-- `PathElem`; its keys in the order the map yields them. -/
structure PathElem where
  name : String
  key : List (String × String)
  deriving DecidableEq

/-- `Path`, without the fields that are never read. -/
structure GnmiPath where
  elem : List PathElem
  deriving DecidableEq

/-- Floating-point numbers and JSON as displayed; `other` is bytes, deprecated formats, and no
value. -/
inductive TypedValue where
  | string (v : String)
  | int (v : Int64)
  | uint (v : UInt64)
  | bool (v : Bool)
  | double (text : String)
  | ascii (v : String)
  | json (text : String)
  | jsonIetf (text : String)
  | leaflist (element : List TypedValue)
  | other

/-- `Update`. -/
structure GnmiUpdate where
  path : Option GnmiPath
  val : Option TypedValue

/-- `Notification`. -/
structure GnmiNotification where
  pathPrefix : Option GnmiPath
  update : List GnmiUpdate

structure GetResponse where
  notification : List GnmiNotification

inductive GrpcCode where
  | ok | cancelled | unknown | invalidArgument | deadlineExceeded | notFound | alreadyExists
  | permissionDenied | resourceExhausted | failedPrecondition | aborted | outOfRange
  | unimplemented | internal | unavailable | dataLoss | unauthenticated
  deriving DecidableEq

def GrpcCode.name : GrpcCode → String
  | .ok => "Ok"
  | .cancelled => "Cancelled"
  | .unknown => "Unknown"
  | .invalidArgument => "InvalidArgument"
  | .deadlineExceeded => "DeadlineExceeded"
  | .notFound => "NotFound"
  | .alreadyExists => "AlreadyExists"
  | .permissionDenied => "PermissionDenied"
  | .resourceExhausted => "ResourceExhausted"
  | .failedPrecondition => "FailedPrecondition"
  | .aborted => "Aborted"
  | .outOfRange => "OutOfRange"
  | .unimplemented => "Unimplemented"
  | .internal => "Internal"
  | .unavailable => "Unavailable"
  | .dataLoss => "DataLoss"
  | .unauthenticated => "Unauthenticated"

structure GrpcStatus where
  code : GrpcCode
  message : String
  deriving DecidableEq

/-! ## Rendering -/

/-- The longest text that is kept of a value, in bytes. -/
def maxValueBytes : ℕ := 256

/-- `truncate`: cut a text at a character boundary. -/
def truncateValue (raw : String) : String :=
  if raw.utf8ByteSize ≤ maxValueBytes then raw
  else String.ofList (takeBytes maxValueBytes raw.toList)

def renderEncodings (supported : List Int32) : List String :=
  (supported.filterMap GnmiEncoding.tryFrom).map GnmiEncoding.asStrName

def isRenderableEncoding (encoding : Int32) : Bool :=
  match GnmiEncoding.tryFrom encoding with
  | some .json | some .proto | some .ascii | some .jsonIetf => true
  | _ => false

def selectGetEncoding (supported : List Int32) : Int32 :=
  if supported.isEmpty || supported.contains 4 then 4
  else (supported.find? isRenderableEncoding).getD 4

def renderModel (model : ModelData) : Option String :=
  let name := trim model.name
  if name = "" then none
  else
    let version := trim model.version
    let rendered := if version = "" then name else name ++ " " ++ version
    let org := trim model.organization
    let rendered := if org = "" then rendered else rendered ++ " (" ++ org ++ ")"
    some (truncateValue rendered)

def modelSignal (model : ModelData) : Option Signal :=
  (renderModel model).map .gnmiSupportedModel

def collectCapabilitySignals (response : CapabilityResponse) (signals : List Signal) :
    List Signal :=
  let version := trim response.gNmiVersion
  let signals := if version = "" then signals else signals ++ [.gnmiVersion (truncateValue version)]
  let signals := signals ++ response.supportedModels.filterMap modelSignal
  signals ++ (renderEncodings response.supportedEncodings).map .gnmiSupportedEncoding

def appendPath (out : String) (path : GnmiPath) : String :=
  path.elem.foldl (fun out elem =>
      let keys := elem.key.mergeSort fun x y => x.1 < y.1 || (x.1 == y.1 && x.2 ≤ y.2)
      keys.foldl (fun out kv => out ++ "[" ++ kv.1 ++ "=" ++ kv.2 ++ "]") (out ++ "/" ++ elem.name))
    out

def renderPath (pathPrefix path : Option GnmiPath) : String :=
  let out := pathPrefix.elim "" (appendPath "")
  path.elim out (appendPath out)

/-- The end of `render_typed_value`: blank text is no value. -/
def renderText (rendered : String) : Option String :=
  let trimmed := trim rendered
  if trimmed = "" then none else some (truncateValue trimmed)

mutual

def renderTypedValue : TypedValue → Option String
  | .string s => renderText s
  | .int i => renderText (toString i.toInt)
  | .uint u => renderText (toString u.toNat)
  | .bool b => renderText (toString b)
  | .double text => renderText text
  | .ascii s => renderText s
  | .json text => renderText text
  | .jsonIetf text => renderText text
  | .leaflist element =>
    let items := renderTypedValues element
    if items.isEmpty then none else renderText (",".intercalate items)
  | .other => none

def renderTypedValues : List TypedValue → List String
  | [] => []
  | value :: rest => (renderTypedValue value).toList ++ renderTypedValues rest

end

def updateSignal (pathPrefix : Option GnmiPath) (update : GnmiUpdate) : Option Signal :=
  let path := renderPath pathPrefix update.path
  if path = "" then none else (update.val.bind renderTypedValue).map (.gnmiState path)

def collectGetSignals (response : GetResponse) (signals : List Signal) : List Signal :=
  signals ++ response.notification.flatMap fun notification =>
    notification.update.filterMap (updateSignal notification.pathPrefix)

/-! ## One port -/

inductive ConnectError where
  | absence
  | fault (fault : ProbeFault)
  deriving DecidableEq

/-- `none` is no answer in time. Those to Get requests may depend on the encoding. -/
structure EndpointAnswers where
  connect : Except ConnectError Unit
  capabilities : Option (Except GrpcStatus CapabilityResponse)
  stateGet : Int32 → Option (Except GrpcStatus GetResponse)
  lldpGet : Int32 → Option (Except GrpcStatus GetResponse)

inductive PortResult where
  | answered (signals : List Signal) (lldp : Option LldpObservation) (endpoint : GnmiEndpoint)
  | status (status : GrpcStatus)
  | absence
  | fault (fault : ProbeFault)

structure PortAccumulator where
  signals : List Signal := []
  answered : Bool := false
  status : Option GrpcStatus := none
  lldp : Option LldpObservation := none
  advertisedEncodings : List String := []

namespace PortAccumulator

/-- What `probe_port` does with the answer. -/
def recordCapabilities (acc : PortAccumulator) :
    Option (Except GrpcStatus CapabilityResponse) → PortAccumulator
  | some (.ok response) =>
    { acc with
      answered := true
      advertisedEncodings := renderEncodings response.supportedEncodings
      signals := collectCapabilitySignals response acc.signals }
  | some (.error status) => { acc with status := acc.status.or (some status) }
  | none => acc

/-- `record_get` of the state. -/
def recordState (acc : PortAccumulator) : Option (Except GrpcStatus GetResponse) → PortAccumulator
  | some (.ok response) =>
    { acc with answered := true, signals := collectGetSignals response acc.signals }
  | some (.error status) => { acc with status := acc.status.or (some status) }
  | none => acc

/-- `record_get` of the LLDP subtree. -/
def recordLldp (parseLldpResponse : GetResponse → LldpObservation) (acc : PortAccumulator) :
    Option (Except GrpcStatus GetResponse) → PortAccumulator
  | some (.ok response) => { acc with answered := true, lldp := some (parseLldpResponse response) }
  | some (.error status) => { acc with status := acc.status.or (some status) }
  | none => acc

def intoResult (acc : PortAccumulator) (port : UInt16) (transport : Transport) : PortResult :=
  if acc.answered then
    .answered acc.signals acc.lldp ⟨port, transport, acc.advertisedEncodings⟩
  else
    match acc.status with
    | some status => .status status
    | none => .absence

end PortAccumulator

/-- The ports are ascending and without repetition. -/
structure GnmiProber where
  ports : List UInt16
  ports_sorted : ports.Pairwise (· < ·)
  plaintext : Bool
  getPaths : List String
  lldp : Bool

lemma pairwise_sortedPorts (ports : List UInt16) : (sortedPorts ports).Pairwise (· < ·) := by
  have htrans : ∀ a b c : UInt16, decide (a ≤ b) = true → decide (b ≤ c) = true →
      decide (a ≤ c) = true := by
    intro a b c hab hbc
    grind
  have htotal : ∀ a b : UInt16, (decide (a ≤ b) || decide (b ≤ a)) = true := by
    intro a b
    grind
  have hle : (sortedPorts ports).IsChain (· ≤ ·) := by
    have hsorted := (pairwise_mergeSort htrans htotal ports).imp of_decide_eq_true
    exact (hsorted.sublist (destutter_sublist (· ≠ ·) _)).isChain
  have hne : (sortedPorts ports).IsChain (· ≠ ·) := isChain_destutter (· ≠ ·) _
  rw [← isChain_iff_pairwise, isChain_iff_getElem]
  intro i hi
  exact UInt16.lt_of_le_of_ne (isChain_iff_getElem.mp hle i hi) (isChain_iff_getElem.mp hne i hi)

namespace GnmiProber

/-- `GnmiProber::new`, for credentials that are accepted. -/
def new (ports : List UInt16) (plaintext : Bool) (getPaths : List String) (lldp : Bool) :
    Result GnmiProber := do
  require (!ports.isEmpty) "gnmi prober requires at least one port"
  return ⟨sortedPorts ports, pairwise_sortedPorts ports, plaintext, getPaths, lldp⟩

def transport (prober : GnmiProber) : Transport := if prober.plaintext then .plaintext else .tls

variable (parseLldpResponse : GetResponse → LldpObservation)

def probePort (prober : GnmiProber) (port : UInt16) (answers : EndpointAnswers) : PortResult :=
  match answers.connect with
  | .error .absence => .absence
  | .error (.fault fault) => .fault fault
  | .ok () =>
    let acc : PortAccumulator := {}
    let acc := acc.recordCapabilities answers.capabilities
    let getEncoding :=
      match answers.capabilities with
      | some (.ok response) => selectGetEncoding response.supportedEncodings
      | _ => selectGetEncoding []
    let acc := if prober.getPaths.isEmpty then acc else
      acc.recordState (answers.stateGet getEncoding)
    let acc :=
      if prober.lldp then acc.recordLldp parseLldpResponse (answers.lldpGet getEncoding) else acc
    acc.intoResult port prober.transport

end GnmiProber

/-! ## One outcome -/

def statusToOutcome (targetIp : IpAddr) (now : SystemTime) (status : GrpcStatus) :
    ProbeOutcome where
  kind := .gnmi
  targetIp := targetIp
  timestamp := now
  reachable := true
  signals := []
  fault := some
    { kind :=
        match status.code with
        | .unauthenticated | .permissionDenied => .authFailed
        | _ => .other
      detail := "gnmi endpoint returned " ++ status.code.name ++ ": " ++ status.message }

/-- The variables of the loop of `assemble_outcome`. -/
structure OutcomeAccumulator where
  signals : List Signal := []
  answered : Bool := false
  status : Option GrpcStatus := none
  fault : Option ProbeFault := none
  lldp : Option LldpObservation := none
  gnmiEndpoint : Option GnmiEndpoint := none

/-- The loop of `assemble_outcome`: the first endpoint that answered stays, all signals are kept. -/
def OutcomeAccumulator.absorb (acc : OutcomeAccumulator) : PortResult → OutcomeAccumulator
  | .answered portSignals portLldp endpoint =>
    { acc with
      answered := true
      signals := acc.signals ++ portSignals
      lldp := acc.lldp.or portLldp
      gnmiEndpoint := acc.gnmiEndpoint.or (some endpoint) }
  | .status status => { acc with status := acc.status.or (some status) }
  | .fault fault => { acc with fault := some fault }
  | .absence => acc

def surfacedFault (reachable : Bool) (latched : Option ProbeFault) : Option ProbeFault :=
  if reachable then none else latched

/-- The end of `assemble_outcome`. -/
def OutcomeAccumulator.finish (acc : OutcomeAccumulator) (targetIp : IpAddr) (now : SystemTime) :
    ProbeOutcome :=
  match acc.answered, acc.status with
  | false, some status => statusToOutcome targetIp now status
  | _, _ =>
    { kind := .gnmi, targetIp, timestamp := now, reachable := acc.answered,
      signals := acc.signals, fault := surfacedFault acc.answered acc.fault, lldp := acc.lldp,
      gnmiEndpoint := acc.gnmiEndpoint }

def assembleOutcome (targetIp : IpAddr) (now : SystemTime) (results : List PortResult) :
    ProbeOutcome :=
  (results.foldl OutcomeAccumulator.absorb {}).finish targetIp now

/-- Ports are asked in waves, with results in the order of the ports. -/
def GnmiProber.probe (parseLldpResponse : GetResponse → LldpObservation) (prober : GnmiProber)
    (targetIp : IpAddr) (now : SystemTime) (answers : UInt16 → EndpointAnswers) : ProbeOutcome :=
  assembleOutcome targetIp now
    (prober.ports.map fun port => prober.probePort parseLldpResponse port (answers port))

/-! ## What an outcome says -/

def Signal.version? : Signal → Option String
  | .gnmiVersion v => some v
  | _ => none

def Signal.model? : Signal → Option String
  | .gnmiSupportedModel m => some m
  | _ => none

namespace CapabilityResponse

variable (response : CapabilityResponse)

def version : Option String :=
  let version := trim response.gNmiVersion
  if version = "" then none else some (truncateValue version)

def models : List String :=
  response.supportedModels.filterMap renderModel

def encodings : List String :=
  renderEncodings response.supportedEncodings

def HasData : Prop :=
  response.version ≠ none ∨ response.models ≠ [] ∨ response.encodings ≠ []

instance : DecidablePred HasData := fun response =>
  inferInstanceAs
    (Decidable (response.version ≠ none ∨ response.models ≠ [] ∨ response.encodings ≠ []))

end CapabilityResponse

/-- The signals of a response carry its version and its models. -/
lemma collectCapabilitySignals_spec (response : CapabilityResponse) :
    (collectCapabilitySignals response []).findSome? Signal.version? = response.version ∧
      (collectCapabilitySignals response []).filterMap Signal.model? = response.models := by
  have hmod : (response.supportedModels.filterMap modelSignal).findSome? Signal.version? =
      none := by
    rw [findSome?_eq_none_iff]
    intro signal hsignal
    obtain ⟨model, -, hmodel⟩ := mem_filterMap.mp hsignal
    obtain ⟨text, -, rfl⟩ := map_eq_some_iff.mp hmodel
    rfl
  have htexts : (response.supportedModels.filterMap modelSignal).filterMap Signal.model? =
      response.models := by
    rw [filterMap_filterMap]
    refine congrArg (List.filterMap · _) (funext fun model => ?_)
    unfold modelSignal
    cases renderModel model <;> rfl
  have henc : ((renderEncodings response.supportedEncodings).map
      Signal.gnmiSupportedEncoding).findSome? Signal.version? = none := by
    rw [findSome?_eq_none_iff]
    rintro _ hsignal
    obtain ⟨encoding, -, rfl⟩ := mem_map.mp hsignal
    rfl
  have henc' : ((renderEncodings response.supportedEncodings).map
      Signal.gnmiSupportedEncoding).filterMap Signal.model? = [] := by
    rw [filterMap_eq_nil_iff]
    rintro _ hsignal
    obtain ⟨encoding, -, rfl⟩ := mem_map.mp hsignal
    rfl
  unfold collectCapabilitySignals CapabilityResponse.version
  simp only [findSome?_append, filterMap_append, hmod, htexts, henc, henc', or_none, append_nil]
  split_ifs <;> exact ⟨rfl, rfl⟩

/-- Signals that name neither a version nor a model. -/
def Silent (l : List Signal) : Prop :=
  l.findSome? Signal.version? = none ∧ l.filterMap Signal.model? = []

lemma silent_state (response : GetResponse) :
    Silent (response.notification.flatMap fun notification =>
      notification.update.filterMap (updateSignal notification.pathPrefix)) := by
  have hstate : ∀ signal ∈ response.notification.flatMap fun notification =>
      notification.update.filterMap (updateSignal notification.pathPrefix),
      signal.version? = none ∧ signal.model? = none := by
    intro signal hsignal
    obtain ⟨notification, -, hsignal⟩ := mem_flatMap.mp hsignal
    obtain ⟨update, -, hupdate⟩ := mem_filterMap.mp hsignal
    simp only [updateSignal] at hupdate
    split_ifs at hupdate
    obtain ⟨value, -, rfl⟩ := map_eq_some_iff.mp hupdate
    exact ⟨rfl, rfl⟩
  exact ⟨findSome?_eq_none_iff.mpr fun signal h => (hstate signal h).1,
    filterMap_eq_nil_iff.mpr fun signal h => (hstate signal h).2⟩

def EndpointAnswers.capability (answers : EndpointAnswers) : Option CapabilityResponse :=
  match answers.connect, answers.capabilities with
  | .ok (), some (.ok response) => some response
  | _, _ => none

structure PortAccumulator.Tells (acc : PortAccumulator)
    (capability : Option CapabilityResponse) : Prop where
  version : acc.signals.findSome? Signal.version? = capability.bind CapabilityResponse.version
  models : acc.signals.filterMap Signal.model? = capability.elim [] CapabilityResponse.models
  encodings : acc.advertisedEncodings = capability.elim [] CapabilityResponse.encodings
  answered : capability.isSome = true → acc.answered = true

namespace PortAccumulator.Tells

variable {acc : PortAccumulator} {capability : Option CapabilityResponse}

lemma recordCapabilities (result : Option (Except GrpcStatus CapabilityResponse)) :
    (PortAccumulator.recordCapabilities {} result).Tells (result.bind Except.toOption) := by
  match result with
  | some (.ok response) =>
    obtain ⟨hver, hmod⟩ := collectCapabilitySignals_spec response
    change PortAccumulator.Tells _ (some response)
    refine ⟨?_, ?_, rfl, fun _ => rfl⟩
    · exact hver
    · exact hmod
  | some (.error status) => exact ⟨rfl, rfl, rfl, nofun⟩
  | none => exact ⟨rfl, rfl, rfl, nofun⟩

lemma recordState (h : acc.Tells capability) (result : Option (Except GrpcStatus GetResponse)) :
    (acc.recordState result).Tells capability := by
  match result with
  | some (.ok response) =>
    obtain ⟨hver, hmod⟩ := silent_state response
    refine ⟨?_, ?_, h.encodings, fun _ => rfl⟩
    · exact findSome?_append.trans (by rw [hver, or_none, h.version])
    · exact filterMap_append.trans (by rw [hmod, append_nil, h.models])
  | some (.error status) => exact ⟨h.version, h.models, h.encodings, h.answered⟩
  | none => exact h

lemma recordLldp (h : acc.Tells capability) (parseLldpResponse : GetResponse → LldpObservation)
    (result : Option (Except GrpcStatus GetResponse)) :
    (acc.recordLldp parseLldpResponse result).Tells capability := by
  match result with
  | some (.ok response) => exact ⟨h.version, h.models, h.encodings, fun _ => rfl⟩
  | some (.error status) => exact ⟨h.version, h.models, h.encodings, h.answered⟩
  | none => exact h

end PortAccumulator.Tells

namespace PortResult

def signals : PortResult → List Signal
  | .answered signals _ _ => signals
  | _ => []

/-- The endpoint a port is, if it answered. -/
def endpoint : PortResult → Option GnmiEndpoint
  | .answered _ _ endpoint => some endpoint
  | _ => none

end PortResult

structure PortResult.Tells (result : PortResult) (port : UInt16) (transport : Transport)
    (capability : Option CapabilityResponse) : Prop where
  version : result.signals.findSome? Signal.version? = capability.bind CapabilityResponse.version
  models : result.signals.filterMap Signal.model? = capability.elim [] CapabilityResponse.models
  endpoint : ∀ e ∈ result.endpoint,
    e = ⟨port, transport, capability.elim [] CapabilityResponse.encodings⟩
  answered : capability.isSome = true → result.endpoint.isSome = true

lemma PortAccumulator.Tells.intoResult {acc : PortAccumulator}
    {capability : Option CapabilityResponse} (h : acc.Tells capability) (port : UInt16)
    (transport : Transport) : (acc.intoResult port transport).Tells port transport capability := by
  unfold PortAccumulator.intoResult
  split_ifs with hans
  · refine ⟨h.version, h.models, ?_, fun _ => rfl⟩
    rintro e ⟨⟩
    rw [h.encodings]
  · have hnone : capability = none := by
      rw [← not_isSome_iff_eq_none]
      exact fun hsome => hans (h.answered hsome)
    subst hnone
    split <;> exact ⟨rfl, rfl, nofun, nofun⟩

lemma GnmiProber.probePort_tells (parseLldpResponse : GetResponse → LldpObservation)
    (prober : GnmiProber) (port : UInt16) (answers : EndpointAnswers) :
    (prober.probePort parseLldpResponse port answers).Tells port prober.transport
      answers.capability := by
  obtain ⟨connect, capabilities, stateGet, lldpGet⟩ := answers
  match connect with
  | .error .absence => exact ⟨rfl, rfl, nofun, nofun⟩
  | .error (.fault fault) => exact ⟨rfl, rfl, nofun, nofun⟩
  | .ok () =>
    have hcap : EndpointAnswers.capability ⟨.ok (), capabilities, stateGet, lldpGet⟩ =
        capabilities.bind Except.toOption := by
      match capabilities with
      | some (.ok response) => rfl
      | some (.error status) => rfl
      | none => rfl
    rw [hcap]
    have h := PortAccumulator.Tells.recordCapabilities capabilities
    unfold GnmiProber.probePort
    apply PortAccumulator.Tells.intoResult
    split_ifs
    · exact h.recordLldp _ _
    · exact (h.recordState _).recordLldp _ _
    · exact h
    · exact h.recordState _

lemma OutcomeAccumulator.foldl_absorb (results : List PortResult) (acc : OutcomeAccumulator) :
    (results.foldl absorb acc).signals = acc.signals ++ results.flatMap PortResult.signals ∧
      (results.foldl absorb acc).gnmiEndpoint =
        acc.gnmiEndpoint.or (results.findSome? PortResult.endpoint) ∧
      ((results.foldl absorb acc).answered = true ↔
        acc.answered = true ∨ (results.findSome? PortResult.endpoint).isSome = true) := by
  induction results generalizing acc with
  | nil => simp
  | cons result results ih =>
    obtain ⟨hsig, hend, hans⟩ := ih (acc.absorb result)
    rw [foldl_cons, hsig, hend, hans, flatMap_cons, findSome?_cons]
    cases result <;> simp [absorb, PortResult.signals, PortResult.endpoint]

/-- The first port that answered is named. -/
lemma assembleOutcome_spec (targetIp : IpAddr) (now : SystemTime) (results : List PortResult) :
    (assembleOutcome targetIp now results).kind = .gnmi ∧
      (assembleOutcome targetIp now results).targetIp = targetIp ∧
      (assembleOutcome targetIp now results).timestamp = now ∧
      (assembleOutcome targetIp now results).signals = results.flatMap PortResult.signals ∧
      (assembleOutcome targetIp now results).gnmiEndpoint =
        results.findSome? PortResult.endpoint := by
  obtain ⟨hsig, hend, hans⟩ := OutcomeAccumulator.foldl_absorb results {}
  unfold assembleOutcome OutcomeAccumulator.finish
  split
  · -- A status is the outcome only when no port answered.
    rename_i hnot _
    have hnone : results.findSome? PortResult.endpoint = none := by
      rw [← not_isSome_iff_eq_none]
      grind
    refine ⟨rfl, rfl, rfl, (flatMap_eq_nil_iff.mpr fun result hr => ?_).symm, hnone.symm⟩
    have hsilent := findSome?_eq_none_iff.mp hnone result hr
    cases result with
    | answered => cases hsilent
    | _ => rfl
  · grind

end Rastreo
