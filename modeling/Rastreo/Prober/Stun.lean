import Rastreo.Library.Results
import Rastreo.Library.Words
import Rastreo.Model.Device
import Rastreo.Model.Slices
import Mathlib.Algebra.BigOperators.Ring.List

/-!
# STUN responses

The reader of a Binding Success response walks the attributes by the lengths that the sender wrote.
Indices and slices out of bounds are panics.
-/

namespace Rastreo

open List

/-! ## The code -/

def magicCookie : BitVec 32 := 0x2112A442#32

def stunHeaderLen : ℕ := 20

abbrev TransactionId := { bytes : Bytes // bytes.length = 12 }

/-- As `from_be_bytes` reads so many bytes from an index on. -/
def readBe (width : ℕ) (bytes : Bytes) (start : ℕ) : Except Panic ℕ := do
  let digits ← (List.range width).mapM fun i => index bytes (start + i)
  pure (beNat digits)

def mappedAddress (port : BitVec 16) : IpAddr → Signal
  | .v4 bits => .stunMappedAddress ((IpAddr.v4 bits).display ++ ":" ++ toString port.toNat)
  | .v6 bits => .stunMappedAddress ("[" ++ (IpAddr.v6 bits).display ++ "]:" ++ toString port.toNat)

/-- What the bytes of an IPv6 address are combined with. -/
def xorKey (transactionId : TransactionId) : Bytes := beBytes 4 magicCookie.toNat ++ transactionId.1

def parseXorMappedAddress (value : Bytes) (transactionId : TransactionId) :
    Except Panic (Option Signal) := do
  if value.length < 4 then return none
  let family ← index value 1
  let xPort ← readBe 2 value 2
  let port := BitVec.ofNat 16 xPort ^^^ (magicCookie >>> 16).setWidth 16
  if family = 1 then
    if value.length < 8 then return none
    let xAddr ← readBe 4 value 4
    return some (mappedAddress port (.v4 (BitVec.ofNat 32 xAddr ^^^ magicCookie)))
  else if family = 2 then
    if value.length < 20 then return none
    let out ← (List.range 16).mapM fun i => do
      let v ← index value (4 + i)
      let key ← index (xorKey transactionId) i
      pure (v ^^^ key)
    return some (mappedAddress port (.v6 (BitVec.ofNat 128 (beNat out))))
  else return none

def parseAttributes (bytes : Bytes) (transactionId : TransactionId) (stop cursor : ℕ) :
    Except Panic (Option Signal) :=
  if _h : cursor + 4 ≤ stop then do
    let attrType ← readBe 2 bytes cursor
    let attrLen ← readBe 2 bytes (cursor + 2)
    let valueStart := cursor + 4
    let valueEnd := valueStart + attrLen
    -- `checked_add` in 64 bits
    if 2 ^ 64 ≤ valueEnd then return none
    if stop < valueEnd then return none
    if attrType = 0x0020 then
      let value ← sliceBytes bytes valueStart valueEnd
      parseXorMappedAddress value transactionId
    else parseAttributes bytes transactionId stop (valueStart + (attrLen + 3) / 4 * 4)
  else .ok none
termination_by stop - cursor

def parseResponse (bytes : Bytes) (transactionId : TransactionId) :
    Except Panic (Option Signal) := do
  if bytes.length < stunHeaderLen then return none
  let msgType ← readBe 2 bytes 0
  if msgType ≠ 0x0101 then return none
  let msgLen ← readBe 2 bytes 2
  if msgLen % 4 ≠ 0 then return none
  let cookie ← readBe 4 bytes 4
  if cookie ≠ magicCookie.toNat then return none
  let id ← sliceBytes bytes 8 20
  if id ≠ transactionId.1 then return none
  if bytes.length < stunHeaderLen + msgLen then return none
  parseAttributes bytes transactionId (stunHeaderLen + msgLen) stunHeaderLen

/-! ## Reading within bounds -/

variable {bytes : Bytes} {transactionId : TransactionId} {width start stop cursor : ℕ}

lemma index_of_lt {α : Type} {l : List α} {i : ℕ} (h : i < l.length) : index l i = .ok l[i] := by
  rw [index, getElem?_eq_getElem h]

lemma mapM_range_eq {f : ℕ → Except Panic UInt8} {l : Bytes} (hlen : l.length = width)
    (h : ∀ i (hi : i < l.length), f i = .ok l[i]) : (List.range width).mapM f = .ok l := by
  rw [mapM_eq_map (g := fun i => l.getD i 0) fun i hi => by grind]
  refine congrArg _ (ext_getElem (by simp [hlen]) fun i _ hi => ?_)
  simp [hi]

lemma readBe_ok (h : start + width ≤ bytes.length) :
    readBe width bytes start = .ok (beNat ((bytes.drop start).take width)) := by
  rw [readBe, @mapM_range_eq width _ ((bytes.drop start).take width) (by simp; omega) fun i hi => by
    rw [index_of_lt (by simp at hi; omega)]; simp]
  rfl

lemma xorLoop_ok {value : Bytes} (h : 20 ≤ value.length) (transactionId : TransactionId) :
    ((List.range 16).mapM fun i => do
      let v ← index value (4 + i)
      let key ← index (xorKey transactionId) i
      pure (v ^^^ key)) =
      .ok (List.zipWith (· ^^^ ·) ((value.drop 4).take 16) (xorKey transactionId)) := by
  have hkey : (xorKey transactionId).length = 16 := by simp [xorKey, transactionId.2]
  refine mapM_range_eq (by simp [hkey]; omega) fun i hi => ?_
  have hi : i < 16 := by simp [hkey] at hi; omega
  rw [index_of_lt (by omega), ok_bind, index_of_lt (by omega), ok_bind]
  simp
  rfl

lemma parseXorMappedAddress_ok (value : Bytes) (transactionId : TransactionId) :
    ∃ r, parseXorMappedAddress value transactionId = .ok r := by
  unfold parseXorMappedAddress
  split
  case isTrue => exact ⟨_, rfl⟩
  case isFalse hlen =>
    rw [index_of_lt (by omega), ok_bind, readBe_ok (by omega), ok_bind]
    dsimp only
    split_ifs with hv4 hshort hv6 hshort
    · exact ⟨_, rfl⟩
    · rw [readBe_ok (by omega)]
      exact ⟨_, rfl⟩
    · exact ⟨_, rfl⟩
    · rw [xorLoop_ok (by omega)]
      exact ⟨_, rfl⟩
    · exact ⟨_, rfl⟩

lemma parseAttributes_ok (hstop : stop ≤ bytes.length) (cursor : ℕ) :
    ∃ r, parseAttributes bytes transactionId stop cursor = .ok r := by
  induction hn : stop - cursor using Nat.strong_induction_on generalizing cursor with
  | _ n ih =>
    rw [parseAttributes]
    split
    case isFalse => exact ⟨_, rfl⟩
    case isTrue hroom =>
      rw [readBe_ok (by omega), ok_bind, readBe_ok (by omega), ok_bind]
      dsimp only
      split_ifs with hbig hover htype
      · exact ⟨_, rfl⟩
      · exact ⟨_, rfl⟩
      · rw [sliceBytes_ok (by omega), ok_bind]
        exact parseXorMappedAddress_ok _ _
      · exact ih _ (by omega) _ rfl

lemma parseResponse_ok (bytes : Bytes) (transactionId : TransactionId) :
    ∃ r, parseResponse bytes transactionId = .ok r := by
  unfold parseResponse stunHeaderLen
  split
  case isTrue => exact ⟨_, rfl⟩
  case isFalse hlen =>
    rw [readBe_ok (by omega), ok_bind, readBe_ok (by omega), ok_bind, readBe_ok (by omega), ok_bind,
      sliceBytes_ok (by omega), ok_bind]
    split_ifs
    · exact ⟨_, rfl⟩
    · exact ⟨_, rfl⟩
    · exact ⟨_, rfl⟩
    · exact ⟨_, rfl⟩
    · exact ⟨_, rfl⟩
    · exact parseAttributes_ok (by omega) _

/-! ## Encoded responses -/

/-- With the bytes that pad it. -/
inductive StunAttr where
  | mapped (reserved : UInt8) (ip : IpAddr) (port : BitVec 16)
  | other (attrType : BitVec 16) (value padding : Bytes) (type_ne : attrType ≠ 0x0020#16)
    (length_padding : padding.length = (value.length + 3) / 4 * 4 - value.length)

namespace StunAttr

variable (transactionId : TransactionId)

def type : StunAttr → ℕ
  | .mapped .. => 0x0020
  | .other attrType .. => attrType.toNat

def value : StunAttr → Bytes
  | .mapped reserved ip port =>
    [reserved] ++ (match ip with | .v4 _ => [1] | .v6 _ => [2]) ++
      beBytes 2 (port ^^^ (magicCookie >>> 16).setWidth 16).toNat ++
      match ip with
      | .v4 bits => beBytes 4 (bits ^^^ magicCookie).toNat
      | .v6 bits => List.zipWith (· ^^^ ·) (beBytes 16 bits.toNat) (xorKey transactionId)
  | .other _ value .. => value

def padding : StunAttr → Bytes
  | .mapped .. => []
  | .other _ _ padding .. => padding

def encode (attr : StunAttr) : Bytes :=
  beBytes 2 attr.type ++ beBytes 2 (attr.value transactionId).length ++ attr.value transactionId ++
    attr.padding

def signal : StunAttr → Option Signal
  | .mapped _ ip port => some (mappedAddress port ip)
  | .other .. => none

end StunAttr

/-- The attributes fit; with what the datagram holds after them. -/
structure StunResponse (transactionId : TransactionId) where
  attrs : List StunAttr
  trailing : Bytes
  fits : (attrs.flatMap (·.encode transactionId)).length < 2 ^ 16

def StunResponse.encode (self : StunResponse transactionId) : Bytes :=
  beBytes 2 0x0101 ++ beBytes 2 (self.attrs.flatMap (·.encode transactionId)).length ++
    beBytes 4 magicCookie.toNat ++ transactionId.1 ++ self.attrs.flatMap (·.encode transactionId) ++
    self.trailing

lemma readBe_at {n : ℕ} {before after : Bytes} (hn : n < 256 ^ width)
    (hbytes : bytes = before ++ (beBytes width n ++ after)) :
    readBe width bytes before.length = .ok n := by
  subst hbytes
  rw [readBe_ok (by simp), drop_left, take_left' (length_beBytes width n), beNat_beBytes hn]

lemma sliceBytes_at {before inside after : Bytes} (hbytes : bytes = before ++ (inside ++ after)) :
    sliceBytes bytes before.length (before.length + inside.length) = .ok inside := by
  subst hbytes
  rw [sliceBytes_ok (by simp), ← append_assoc, ← length_append, take_left, drop_left]

lemma zipWith_xor_cancel {octets key : Bytes} (h : octets.length ≤ key.length) :
    List.zipWith (· ^^^ ·) (List.zipWith (· ^^^ ·) octets key) key = octets := by
  refine ext_getElem (by simp [h]) fun i _ _ => ?_
  rw [getElem_zipWith, getElem_zipWith, UInt8.xor_assoc, UInt8.xor_self, UInt8.xor_zero]

lemma ofNat_xor_xor {w : ℕ} (x key : BitVec w) : BitVec.ofNat w (x ^^^ key).toNat ^^^ key = x := by
  grind

lemma parseXorMappedAddress_value (reserved : UInt8) (ip : IpAddr) (port : BitVec 16) :
    parseXorMappedAddress ((StunAttr.mapped reserved ip port).value transactionId) transactionId =
      .ok (some (mappedAddress port ip)) := by
  set xPort := port ^^^ (magicCookie >>> 16).setWidth 16 with hport
  have hxPort : xPort.toNat < 256 ^ 2 := xPort.isLt
  cases ip with
  | v4 bits =>
    set value := (StunAttr.mapped reserved (.v4 bits) port).value transactionId with hval
    have hlen : value.length = 8 := by simp [hval, StunAttr.value]
    have hfamily : index value 1 = .ok 1 := rfl
    have hrea : readBe 2 value 2 = .ok xPort.toNat :=
      @readBe_at value 2 _ [reserved, 1] (beBytes 4 (bits ^^^ magicCookie).toNat) hxPort
        (by simp [hval, StunAttr.value, hport])
    have hrda : readBe 4 value 4 = .ok (bits ^^^ magicCookie).toNat :=
      @readBe_at value 4 _ ([reserved, 1] ++ beBytes 2 xPort.toNat) [] (BitVec.isLt _)
        (by simp [hval, StunAttr.value, hport])
    rw [parseXorMappedAddress, if_neg (by omega), hfamily, ok_bind, hrea, ok_bind,
      if_pos rfl, if_neg (by omega), hrda, ok_bind, ofNat_xor_xor, ofNat_xor_xor]
    rfl
  | v6 bits =>
    set value := (StunAttr.mapped reserved (.v6 bits) port).value transactionId with hval
    have hkey : (xorKey transactionId).length = 16 := by simp [xorKey, transactionId.2]
    have hlen : value.length = 20 := by simp [hval, StunAttr.value, hkey]
    have hfamily : index value 1 = .ok 2 := rfl
    set octets := List.zipWith (· ^^^ ·) (beBytes 16 bits.toNat) (xorKey transactionId)
    have hparts : value = [reserved, 2] ++ (beBytes 2 xPort.toNat ++ octets) := by
      simp [hval, StunAttr.value, hport, octets]
    have hrea : readBe 2 value 2 = .ok xPort.toNat :=
      @readBe_at value 2 _ [reserved, 2] octets hxPort hparts
    have hoctets : (value.drop 4).take 16 = octets := by
      rw [hparts, ← append_assoc, drop_left' (by simp), take_of_length_le (by simp [octets])]
    rw [parseXorMappedAddress, if_neg (by omega), hfamily, ok_bind, hrea, ok_bind,
      if_neg (by decide), if_pos rfl, if_neg (by omega), xorLoop_ok (by omega), ok_bind, hoctets,
      zipWith_xor_cancel (by simp [hkey]), beNat_beBytes bits.isLt, ofNat_xor_xor,
      BitVec.ofNat_toNat, BitVec.setWidth_eq]
    rfl

lemma StunAttr.length_encode (attr : StunAttr) : (attr.encode transactionId).length =
    4 + ((attr.value transactionId).length + 3) / 4 * 4 := by
  cases attr with
  | mapped reserved ip port => cases ip <;> simp [encode, value, padding, xorKey, transactionId.2]
  | other attrType value padding type_ne length_padding =>
    simp only [encode, StunAttr.value, StunAttr.padding, length_append, length_beBytes,
      length_padding]
    omega

lemma parseAttributes_encode {attrs : List StunAttr} {before trailing : Bytes}
    (hfits : (attrs.flatMap (·.encode transactionId)).length < 2 ^ 16)
    (hbefore : before.length + (attrs.flatMap (·.encode transactionId)).length < 2 ^ 64)
    (hbytes : bytes = before ++ (attrs.flatMap (·.encode transactionId) ++ trailing)) :
    parseAttributes bytes transactionId
      (before.length + (attrs.flatMap (·.encode transactionId)).length) before.length =
      .ok (attrs.findSome? StunAttr.signal) := by
  induction attrs generalizing before with
  | nil =>
    rw [parseAttributes, dif_neg (by simp)]
    rfl
  | cons attr attrs ih =>
    set value := attr.value transactionId with hval
    have hencode : attr.encode transactionId =
        beBytes 2 attr.type ++ (beBytes 2 value.length ++ (value ++ attr.padding)) := by
      simp [StunAttr.encode, hval]
    have hlen : (attr.encode transactionId).length = 4 + (value.length + 3) / 4 * 4 :=
      attr.length_encode
    have htype : attr.type < 256 ^ 2 := by
      cases attr with
      | mapped reserved ip port => exact (by decide : 0x0020 < 256 ^ 2)
      | other attrType value padding type_ne length_padding => exact attrType.isLt
    rw [flatMap_cons] at hfits hbefore hbytes ⊢
    rw [length_append, hlen] at hfits hbefore ⊢
    have hrea : readBe 2 bytes before.length = .ok attr.type :=
      readBe_at htype (by rw [hbytes, hencode]; simp only [append_assoc]; rfl)
    have hrdl : readBe 2 bytes (before.length + 2) = .ok value.length := by
      have h := @readBe_at bytes 2 value.length (before ++ beBytes 2 attr.type) _ (by omega)
        (by rw [hbytes, hencode]; simp only [append_assoc]; rfl)
      rwa [length_append, length_beBytes] at h
    have hnext := @ih (before ++ attr.encode transactionId) (by omega)
      (by rw [length_append, hlen]; omega) (by rw [hbytes]; simp only [append_assoc])
    rw [length_append, hlen, Nat.add_assoc before.length] at hnext
    rw [parseAttributes, dif_pos (by omega), hrea, ok_bind, hrdl, ok_bind]
    rw [if_neg (by omega), if_neg (by omega)]
    cases attr with
    | mapped reserved ip port =>
      have hmap : (StunAttr.mapped reserved ip port).type = 0x0020 := rfl
      have hslice := @sliceBytes_at bytes (before ++ beBytes 2 0x0020 ++ beBytes 2 value.length)
        value _ (by rw [hbytes, hencode]; simp only [append_assoc]; rfl)
      simp only [length_append, length_beBytes] at hslice
      rw [if_pos hmap, hslice, ok_bind, hval, parseXorMappedAddress_value]
      rfl
    | other attrType value padding type_ne length_padding =>
      have hother : attrType.toNat ≠ 0x0020 := fun h => type_ne (BitVec.eq_of_toNat_eq h)
      rw [StunAttr.type, if_neg hother, Nat.add_assoc before.length 4, hnext]
      rfl

lemma parseResponse_encode (response : StunResponse transactionId) :
    parseResponse response.encode transactionId =
      .ok (response.attrs.findSome? StunAttr.signal) := by
  set body := response.attrs.flatMap (·.encode transactionId) with hbody
  set bytes := response.encode with hencode
  have hparts : bytes = beBytes 2 0x0101 ++ (beBytes 2 body.length ++
      (beBytes 4 magicCookie.toNat ++ (transactionId.1 ++ (body ++ response.trailing)))) := by
    simp [hencode, StunResponse.encode, hbody]
  have hlen : bytes.length = 20 + body.length + response.trailing.length := by
    simp [hparts, transactionId.2]
    omega
  have hmod : body.length % 4 = 0 := by
    rw [hbody, length_flatMap]
    refine Nat.mod_eq_zero_of_dvd (dvd_sum fun n hn => ?_)
    obtain ⟨attr, -, rfl⟩ := mem_map.mp hn
    rw [attr.length_encode]
    omega
  have hrdt : readBe 2 bytes 0 = .ok 0x0101 :=
    @readBe_at bytes 2 _ [] _ (by decide) hparts
  have hrdl : readBe 2 bytes 2 = .ok body.length := by
    exact @readBe_at bytes 2 _ (beBytes 2 0x0101) _ response.fits hparts
  have hrea : readBe 4 bytes 4 = .ok magicCookie.toNat := by
    exact @readBe_at bytes 4 _ (beBytes 2 0x0101 ++ beBytes 2 body.length) _ (by decide)
      (by rw [hparts, append_assoc])
  have hid : sliceBytes bytes 8 20 = .ok transactionId.1 := by
    have h := @sliceBytes_at bytes
      (beBytes 2 0x0101 ++ beBytes 2 body.length ++ beBytes 4 magicCookie.toNat) transactionId.1 _
      (by rw [hparts]; simp only [append_assoc]; rfl)
    grind
  have hattrs := @parseAttributes_encode bytes transactionId response.attrs
    (beBytes 2 0x0101 ++ beBytes 2 body.length ++ beBytes 4 magicCookie.toNat ++ transactionId.1)
    response.trailing response.fits
    (by have := response.fits; simp only [length_append, length_beBytes, transactionId.2]; omega)
    (by rw [hparts]; simp only [append_assoc]; rfl)
  rw [parseResponse, if_neg (by simp [stunHeaderLen]; omega), hrdt, ok_bind,
    if_neg (not_not.mpr rfl), hrdl, ok_bind, if_neg (not_not.mpr hmod), hrea, ok_bind,
    if_neg (not_not.mpr rfl), hid, ok_bind, if_neg (not_not.mpr rfl),
    if_neg (by simp only [stunHeaderLen]; omega)]
  simp only [length_append, length_beBytes, transactionId.2, ← hbody] at hattrs
  exact hattrs

/-- Every datagram is read without a panic, and a response as its first mapped address. -/
theorem stun_parsing_exact (transactionId : TransactionId) :
    (∀ bytes, ∃ result, parseResponse bytes transactionId = .ok result) ∧
    ∀ response : StunResponse transactionId, parseResponse response.encode transactionId =
      .ok (response.attrs.findSome? StunAttr.signal) :=
  ⟨fun bytes => parseResponse_ok bytes transactionId, parseResponse_encode⟩

end Rastreo
