import Rastreo.Prober.Classify

/-!
# SNMP messages

The messages of SNMPv3 and the security settings of a user.  The wire encoding (`BerCodec`) and the
cryptographic functions (`SnmpCrypto`) are parameters.
-/

namespace Rastreo

/-! ## Errors -/

inductive SnmpError where
  | absent
  | decode
  | fault (kind : ProbeErrorKind) (msg : String)
  | other (msg : String)
  deriving DecidableEq

def snmpIoError (err : IoError) : SnmpError :=
  match err.kind.disposition with
  | .absence => .absent
  | .fault kind => .fault kind err.text

/-! ## Security settings -/

inductive AuthAlgo where
  | md5
  | sha1
  | sha224
  | sha256
  | sha384
  | sha512
  deriving DecidableEq

def AuthAlgo.hmacTruncLen : AuthAlgo → ℕ
  | .md5 => 12
  | .sha1 => 12
  | .sha224 => 16
  | .sha256 => 24
  | .sha384 => 32
  | .sha512 => 48

inductive PrivAlgo where
  | des
  | aes128
  | aes192
  | aes256
  deriving DecidableEq

inductive SecurityLevel where
  | noAuthNoPriv
  | authNoPriv
  | authPriv
  deriving DecidableEq

def SecurityLevel.flagBits : SecurityLevel → UInt8
  | .noAuthNoPriv => 0b00
  | .authNoPriv => 0b01
  | .authPriv => 0b11

inductive ResolvedAuth where
  | none
  | some (algo : AuthAlgo) (password : String)
  deriving DecidableEq

inductive ResolvedPriv where
  | none
  | some (algo : PrivAlgo) (password : String)
  deriving DecidableEq

/-- Algorithms and passwords as `resolve` yields them. -/
structure UsmCredentials where
  username : String
  auth : ResolvedAuth
  privacy : ResolvedPriv
  deriving DecidableEq

def deriveSecurityLevel : ResolvedAuth → ResolvedPriv → Except String SecurityLevel
  | .none, .none => .ok .noAuthNoPriv
  | .some _ _, .none => .ok .authNoPriv
  | .some _ _, .some _ _ => .ok .authPriv
  | .none, .some _ _ => .error "snmp v3 privacy requires an auth algorithm"

/-! ## Variable bindings -/

abbrev Oid := List UInt32

inductive SimpleSyntax where
  | integer (i : ℤ)
  | string (s : Bytes)
  | objectId (o : Oid)
  deriving DecidableEq

/-- Application-wide types are not told apart. -/
inductive VarBindValue where
  | simple (value : SimpleSyntax)
  | applicationWide
  | unspecified
  | noSuchObject
  | noSuchInstance
  | endOfMibView
  deriving DecidableEq

structure V2VarBind where
  name : Oid
  value : VarBindValue
  deriving DecidableEq

inductive VarValue where
  | int (i : Int64)
  | bytes (s : Bytes)
  | oid (o : Oid)
  | other
  | noSuchObject
  | noSuchInstance
  | endOfMibView
  | unspecified
  deriving DecidableEq

structure VarBind where
  name : Oid
  value : VarValue
  deriving DecidableEq

/-- An integer that is no `i32` is read as zero. -/
def normalizeV2Varbind (vb : V2VarBind) : VarBind where
  name := vb.name
  value :=
    match vb.value with
    | .simple (.integer i) => .int (if -2 ^ 31 ≤ i ∧ i < 2 ^ 31 then Int64.ofInt i else 0)
    | .simple (.string s) => .bytes s
    | .simple (.objectId o) => .oid o
    | .applicationWide => .other
    | .unspecified => .unspecified
    | .noSuchObject => .noSuchObject
    | .noSuchInstance => .noSuchInstance
    | .endOfMibView => .endOfMibView

def unspecifiedV2Varbinds (names : List Oid) : List V2VarBind :=
  names.map fun name => ⟨name, .unspecified⟩

/-! ## Requests and responses -/

inductive RequestPdu where
  | get (names : List Oid)
  | getNext (names : List Oid)
  | getBulk (nonRepeaters maxRepetitions : UInt32) (names : List Oid)
  deriving DecidableEq

structure SnmpResponse where
  errorStatus : UInt32
  varBinds : List VarBind
  deriving DecidableEq

/-- `Pdu`. -/
structure V2Pdu where
  requestId : Int32
  errorStatus : UInt32
  errorIndex : UInt32
  variableBindings : List V2VarBind
  deriving DecidableEq

/-- `BulkPdu`. -/
structure V2BulkPdu where
  requestId : Int32
  nonRepeaters : UInt32
  maxRepetitions : UInt32
  variableBindings : List V2VarBind
  deriving DecidableEq

/-- `Pdus`. -/
inductive V2Pdus where
  | getRequest (pdu : V2Pdu)
  | getNextRequest (pdu : V2Pdu)
  | response (pdu : V2Pdu)
  | setRequest (pdu : V2Pdu)
  | getBulkRequest (pdu : V2BulkPdu)
  | informRequest (pdu : V2Pdu)
  | trap (pdu : V2Pdu)
  | report (pdu : V2Pdu)
  deriving DecidableEq

/-! ## Messages -/

structure ScopedPdu where
  engineId : Bytes
  name : Bytes
  data : V2Pdus
  deriving DecidableEq

inductive ScopedPduData where
  | cleartext (pdu : ScopedPdu)
  | encrypted (ciphertext : Bytes)
  deriving DecidableEq

structure HeaderData where
  messageId : ℤ
  maxSize : ℤ
  flags : Bytes
  securityModel : ℤ
  deriving DecidableEq

/-- `v3::Message`. -/
structure V3Message where
  version : ℤ
  globalData : HeaderData
  securityParameters : Bytes
  scopedData : ScopedPduData
  deriving DecidableEq

structure UsmSecurityParameters where
  authoritativeEngineId : Bytes
  authoritativeEngineBoots : ℤ
  authoritativeEngineTime : ℤ
  userName : Bytes
  authenticationParameters : Bytes
  privacyParameters : Bytes
  deriving DecidableEq

def integerToU32 (v : ℤ) : UInt32 :=
  if -2 ^ 63 ≤ v ∧ v < 2 ^ 63 then UInt32.ofInt v else 0

/-! ## Parameters -/

structure BerCodec where
  encodeMessage : V3Message → Except String Bytes
  decodeMessage : Bytes → Option V3Message
  encodeParams : UsmSecurityParameters → Except String Bytes
  decodeParams : Bytes → Option UsmSecurityParameters
  encodeScopedPdu : ScopedPdu → Except String Bytes
  decodeScopedPdu : Bytes → Option ScopedPdu

def BerCodec.encodeSecurityParameters (codec : BerCodec) (msg : V3Message)
    (params : UsmSecurityParameters) : Except String V3Message :=
  (codec.encodeParams params).map fun bytes => { msg with securityParameters := bytes }

structure EncryptedPdu where
  ciphertext : Bytes
  privacyParameters : Bytes

structure SnmpCrypto where
  localizeKey : String → Bytes → AuthAlgo → Bytes
  derivePrivKey : Bytes → String → Bytes → AuthAlgo → PrivAlgo → Bytes
  hmacTruncated : AuthAlgo → Bytes → Bytes → Bytes
  encryptScopedPdu : PrivAlgo → Bytes → UInt32 → UInt32 → Bytes → Bytes → Except String EncryptedPdu
  decryptScopedPdu : PrivAlgo → Bytes → UInt32 → UInt32 → Bytes → Bytes → Except String Bytes

def ctEq (a b : Bytes) : Bool :=
  if a.length ≠ b.length then false
  else (a.zip b).foldl (fun diff p => diff ||| (p.1 ^^^ p.2)) 0 == 0

lemma foldl_xor_eq_zero {a b : Bytes} (h : a.length = b.length) (diff : UInt8) :
    (a.zip b).foldl (fun diff p => diff ||| (p.1 ^^^ p.2)) diff = 0 ↔ diff = 0 ∧ a = b := by
  induction a generalizing b diff with
  | nil => grind
  | cons x a ih =>
    obtain ⟨y, b, rfl⟩ := List.exists_cons_of_length_eq_add_one h.symm
    rw [List.zip_cons_cons, List.foldl_cons, ih (Nat.succ.inj h), UInt8.or_eq_zero_iff,
      UInt8.xor_eq_zero_iff, List.cons.injEq, and_assoc]

lemma ctEq_eq_true {a b : Bytes} : ctEq a b = true ↔ a = b := by
  unfold ctEq
  split_ifs with hlen
  · simp only [false_iff]
    grind
  · rw [beq_iff_eq, foldl_xor_eq_zero (not_not.mp hlen)]
    exact and_iff_right rfl

end Rastreo
