import Rastreo.Model.Net

/-!
# Errors

All variants of the engine's error.  Third-party causes are opaque to it and appear as their text.
-/

namespace Rastreo

inductive ConfigError where
  | invalidValue (msg : String)
  | unknownProbeKind (name available : String)
  | probeKindNotCompiled (kind feature : String)
  | probeKindMissingParam (kind param : String)
  | emptyProbeSelection
  | unknownFuserKind (name available : String)
  | fuserKindNotCompiled (kind feature : String)
  | unknownClassifierKind (name available : String)
  deriving DecidableEq

inductive ProbeErrorKind where
  | authFailed
  | permissionDenied
  | dnsFailed
  | decodeFailed
  | other
  deriving DecidableEq

inductive ProbeError where
  | other (msg : String)
  deriving DecidableEq

/-- Its text, and whether the server answered that there are no such records. -/
structure DnsFailure where
  isNoRecordsFound : Bool
  source : String
  deriving DecidableEq

inductive ResolverError where
  | dnsLookupFailed (name : String) (source : DnsFailure)
  | dnsNoRecords (name : String)
  | unqueryableTargetName (name : String)
  | cidrTooLarge (cidr : String) (hosts limit : ℕ)
  | rangeTooLarge (start stop : String) (hosts limit : ℕ)
  | invalidRange (start stop : String)
  | mixedFamilyRange (start stop : String)
  | targetNotAllowed (ip : IpAddr)
  | aggregateHostCapExceeded (hosts limit : ℕ)
  deriving DecidableEq

inductive EncoderError where
  | serializationFailed (source : String)
  | notSupported (msg : String)
  | other (msg : String)
  deriving DecidableEq

/-- Where in a sink an operation failed. -/
inductive SinkErrorClass where
  | publishFailure
  | ackRejection
  | produceFailure
  | writeFailure
  | flushFailure
  | other
  deriving DecidableEq

structure SinkError where
  errorClass : SinkErrorClass
  source : String
  deriving DecidableEq

inductive RuntimeError where
  | taskPanicked (msg : String)
  | taskAborted (reason : String)
  deriving DecidableEq

inductive ClassifierError where
  | invalidRegex (pattern source : String)
  | invalidPlatformRule (msg : String)
  | invalidRoleRule (msg : String)
  deriving DecidableEq

inductive ResumeError where
  | identityFuserNotResumable
  | secondStreamProberNotResumable (kind : String)
  | sinkNotResumable (sink : String)
  | fingerprintMismatch
  | noCheckpointToResume (path : String)
  | corruptCheckpoint (path : String)
  | unknownVersion (found expected : ℕ)
  | checkpointExists (path : String)
  | persist (path source : String)
  deriving DecidableEq

inductive ReportError where
  | persist (path source : String)
  deriving DecidableEq

inductive RastreoError where
  | config (e : ConfigError)
  | probe (e : ProbeError)
  | resolver (e : ResolverError)
  | encoder (e : EncoderError)
  | sink (e : SinkError)
  | runtime (e : RuntimeError)
  | classifier (e : ClassifierError)
  | resume (e : ResumeError)
  | report (e : ReportError)
  deriving DecidableEq

/-- `Result` of a function that fails with the engine's error. -/
abbrev Result := Except RastreoError

/-- What an operation returns that can fail and has no result. -/
abbrev Status := Result Unit

/-- `ConfigError::invalid` as the engine's error. -/
def RastreoError.invalid (msg : String) : RastreoError := .config (.invalidValue msg)

/-! ## Messages -/

/-- `Display` for `ConfigError`. -/
def ConfigError.display : ConfigError → String
  | .invalidValue msg => msg
  | .unknownProbeKind name available =>
    "unknown probe kind '" ++ name ++ "'; available in this build: " ++ available
  | .probeKindNotCompiled kind feature =>
    "probe kind '" ++ kind ++ "' requires the '" ++ feature ++
      "' Cargo feature, which this binary was not built with"
  | .probeKindMissingParam kind param => "probe kind '" ++ kind ++ "' requires " ++ param
  | .emptyProbeSelection => "no probe kinds selected"
  | .unknownFuserKind name available =>
    "unknown fuser '" ++ name ++ "'; available in this build: " ++ available
  | .fuserKindNotCompiled kind feature =>
    "fuser '" ++ kind ++ "' requires the '" ++ feature ++
      "' Cargo feature, which this binary was not built with"
  | .unknownClassifierKind name available =>
    "unknown classifier '" ++ name ++ "'; available: " ++ available

/-- `Display` for `ProbeError`. -/
def ProbeError.display : ProbeError → String
  | .other msg => msg

/-- `Display` for `ResolverError`. -/
def ResolverError.display : ResolverError → String
  | .dnsLookupFailed name _ => "DNS lookup failed for " ++ name
  | .dnsNoRecords name => "DNS lookup returned no records for " ++ name
  | .unqueryableTargetName name =>
    "target name " ++ name ++ " is neither a DNS name nor an IP address, so it was never looked up"
  | .cidrTooLarge cidr hosts limit =>
    "CIDR " ++ cidr ++ " expands to " ++ toString hosts ++
      " hosts; exceeds the configured limit of " ++ toString limit
  | .rangeTooLarge start stop hosts limit =>
    "IP range " ++ start ++ "..=" ++ stop ++ " spans " ++ toString hosts ++
      " addresses; exceeds the configured limit of " ++ toString limit
  | .invalidRange start stop => "IP range is invalid: start " ++ start ++ " > end " ++ stop
  | .mixedFamilyRange start stop =>
    "IP range mixes IPv4 and IPv6: start " ++ start ++ " end " ++ stop
  | .targetNotAllowed ip => "target " ++ ip.display ++ " is outside the configured allow-list"
  | .aggregateHostCapExceeded hosts limit =>
    "scan resolves to " ++ toString hosts ++
      " hosts; exceeds the configured aggregate limit of " ++ toString limit

/-- `Display` for `EncoderError`. -/
def EncoderError.display : EncoderError → String
  | .serializationFailed _ => "serialization failed"
  | .notSupported msg => msg
  | .other msg => msg

/-- `Display` for `RuntimeError`. -/
def RuntimeError.display : RuntimeError → String
  | .taskPanicked msg => "task panicked: " ++ msg
  | .taskAborted reason => "task aborted: " ++ reason

/-- `Display` for `ClassifierError`. -/
def ClassifierError.display : ClassifierError → String
  | .invalidRegex pattern _ => "invalid regex `" ++ pattern ++ "`"
  | .invalidPlatformRule msg => "invalid platform rule: " ++ msg
  | .invalidRoleRule msg => "invalid role rule: " ++ msg

/-- `Display` for `ResumeError`. -/
def ResumeError.display : ResumeError → String
  | .identityFuserNotResumable =>
    "scenario is not resume-safe: the identity fuser correlates records across the whole scan, " ++
      "which cannot be reconstructed from a partial checkpoint prefix"
  | .secondStreamProberNotResumable kind =>
    "scenario is not resume-safe: the " ++ kind ++
      " prober feeds a second stream that cannot be replayed from a checkpoint"
  | .sinkNotResumable sink =>
    "scenario is not resume-safe: the " ++ sink ++
      " sink has no durable append destination to resume into"
  | .fingerprintMismatch =>
    "checkpoint does not match the current scenario: the target sequence or append destination " ++
      "changed, so resuming would produce a different scan or append to the wrong destination"
  | .noCheckpointToResume path =>
    "no checkpoint to resume at " ++ path ++
      "; resuming continues a checkpoint an earlier run wrote to this path"
  | .corruptCheckpoint path =>
    "checkpoint at " ++ path ++ " is unreadable or corrupt; delete it to restart the scan from zero"
  | .unknownVersion found expected =>
    "checkpoint has version " ++ toString found ++ ", but this build understands version " ++
      toString expected ++ "; delete the checkpoint file to restart the scan from zero"
  | .checkpointExists path =>
    "a checkpoint already exists at " ++ path ++ "; remove it to start a fresh scan"
  | .persist path _ => "checkpoint could not be written to " ++ path

/-- `Display` for `ReportError`. -/
def ReportError.display : ReportError → String
  | .persist path _ => "run report could not be written to " ++ path

/-- `Display` for `RastreoError`: that of the error it wraps. -/
def RastreoError.display : RastreoError → String
  | .config e => e.display
  | .probe e => e.display
  | .resolver e => e.display
  | .encoder e => e.display
  | .sink _ => "output sink failed"
  | .runtime e => e.display
  | .classifier e => e.display
  | .resume e => e.display
  | .report e => e.display

end Rastreo
