import Rastreo.Fuser.UnionFind
import Rastreo.Fuser.Weights
import Rastreo.Model.Slices

/-!
# Correlation

Unite the pairs of the high band, remember those of the medium band, and turn every component into
one output record.  Records are taken out of optional slots; an empty slot or an index out of range
is a panic, here the error `Panic`.
-/

namespace Rastreo

/-- `.expect("record present")`. -/
def expectRecord (r : Option DeviceRecord) : Except Panic DeviceRecord :=
  match r with
  | some r => .ok r
  | none => .error (.expect "record present")

structure MediumPeer where
  peerIndex : ℕ
  weight : ℚ
  deriving DecidableEq

/-- Medium-band pairs across components, filed under both ends. -/
def collectMediumPeers (n : ℕ) (weights : List (ℕ × ℕ × ℚ)) (uf : UnionFind) :
    List (List MediumPeer) :=
  weights.foldl (fun out p =>
      let (i, j, w) := p
      if highBandThreshold ≤ w then out
      else if w < mediumBandThreshold then out
      else if uf.find i = uf.find j then out
      else (out.modify i (· ++ [⟨j, w⟩])).modify j (· ++ [⟨i, w⟩]))
    (List.replicate n [])

/-- By confidence, then weight, then lowest index. -/
def pickBestMediumPeer (peers : List MediumPeer) (snapshot : List (IdentityKey × ℚ)) :
    Except Panic (Option IdentityKey) := do
  let best ← peers.foldlM (fun (best : Option (ℕ × ℚ × ℚ)) peer => do
      let (_, peerConf) ← index snapshot peer.peerIndex
      let candidate := (peer.peerIndex, peerConf, peer.weight)
      match best with
      | none => pure (some candidate)
      | some current =>
        let (curIdx, curConf, curWeight) := current
        let take := curConf < peerConf ∨ (peerConf = curConf ∧ curWeight < peer.weight) ∨
          (peerConf = curConf ∧ peer.weight = curWeight ∧ peer.peerIndex < curIdx)
        pure (some (if take then candidate else current)))
    none
  match best with
  | none => pure none
  | some (idx, _, _) => do
    let (key, _) ← index snapshot idx
    pure (some key)

def firstNonNone (records : List (Option DeviceRecord))
    (f : DeviceRecord → Option String) : List ℕ → Except Panic (Option String)
  | [] => pure none
  | i :: rest => do
    match (← index records i).bind f with
    | some v => pure (some v)
    | none => firstNonNone records f rest

variable (records : List (Option DeviceRecord))

/-- The best member's, else the first there is. -/
def mergeField (members : List ℕ) (best : DeviceRecord)
    (f : DeviceRecord → Option String) : Except Panic (Option String) :=
  match f best with
  | some v => pure (some v)
  | none => firstNonNone records f members

/-- The earliest member of highest confidence. -/
def bestMember (first : ℕ) (rest : List ℕ) : Except Panic (ℕ × ℚ) := do
  let r ← expectRecord (← index records first)
  rest.foldlM (fun best i => do
      let c ← expectRecord (← index records i)
      pure (if best.2 < c.confidence.value then (i, c.confidence.value) else best))
    (first, r.confidence.value)

/-- The other members' addresses not seen before. -/
def mergeAltIps (first : ℕ) (mgmtIp : Option IpAddr)
    (members : List ℕ) : Except Panic (List AltIp) := do
  let result ← members.foldlM (fun (st : List AltIp × List IpAddr) i => do
      if i = first then pure st
      else
        match (← index records i) with
        | none => pure st
        | some r =>
          match r.mgmtIp with
          | none => pure st
          | some ip =>
            if ip ∈ st.2 then pure st
            else pure (st.1 ++ [⟨ip, altipRoleFromMac r.mac, r.probeKinds⟩], ip :: st.2))
    ([], mgmtIp.toList)
  pure result.1

/-- The time loop of `merge_group`: the latest sighting. -/
def mergeLastSeen (members : List ℕ) (start : SystemTime) : Except Panic SystemTime :=
  members.foldlM (fun lastSeen i => do
      match (← index records i) with
      | none => pure lastSeen
      | some r => pure (if lastSeen < r.lastSeen then r.lastSeen else lastSeen))
    start

/-- The members' values, each at its first occurrence. -/
def mergeList {α : Type} [DecidableEq α]
    (members : List ℕ) (f : DeviceRecord → List α) : Except Panic (List α) :=
  members.foldlM (fun acc i => do
      match (← index records i) with
      | none => pure acc
      | some r => pure ((f r).foldl pushNew acc))
    []

/-- `f64::clamp(0.0, 1.0)`. -/
def clampUnit (v : ℚ) : ℚ := if v < 0 then 0 else if 1 < v then 1 else v

/-- Built around the best member, whose slot it empties. -/
def mergeGroup (members : List ℕ) : Except Panic (DeviceRecord × List (Option DeviceRecord)) := do
  let firstIdx ← index members 0
  let (bestIdx, bestConf) ← bestMember records firstIdx members.tail
  let mgmtIp := (← index records firstIdx).bind (·.mgmtIp)
  let altIps ← mergeAltIps records firstIdx mgmtIp members
  let best ← expectRecord (← index records bestIdx)
  let field := mergeField records members best
  let mac ← field (·.mac)
  let manufacturer ← field (·.manufacturer)
  let model ← field (·.model)
  let productFamily ← field (·.productFamily)
  let platform ← field (·.platform)
  let osVersion ← field (·.osVersion)
  let sshVersion ← field (·.sshVersion)
  let httpServer ← field (·.httpServer)
  let httpVersion ← field (·.httpVersion)
  let role ← field (·.role)
  let rawConf := clampUnit (bestConf + mergeConfidenceBonus)
  let confidence ← (Confidence.new rawConf).mapError
    fun _ => Panic.expect "clamped confidence is valid"
  let lastSeen ← mergeLastSeen records members best.lastSeen
  let signals ← mergeList records members (·.signals)
  let probeKinds ← mergeList records members (·.probeKinds)
  pure ({ identityKey := best.identityKey, mgmtIp, mac, manufacturer, model, productFamily,
          platform, osVersion, sshVersion, httpServer, httpVersion, role, confidence, lastSeen,
          signals, probeKinds, schemaVersion := best.schemaVersion, schemaId := best.schemaId,
          altIps, possibleAliasOf := none, scanMetadata := best.scanMetadata },
    records.set bestIdx none)

/-- A round of the output loop: the slots and the output so far. -/
def mergeStep (mediumPeers : List (List MediumPeer)) (snapshot : List (IdentityKey × ℚ))
    (st : List (Option DeviceRecord) × List DeviceRecord) (members : List ℕ) :
    Except Panic (List (Option DeviceRecord) × List DeviceRecord) := do
  if members.length = 1 then
    let idx ← index members 0
    let r ← expectRecord (← index st.1 idx)
    let peers ← index mediumPeers idx
    match (← pickBestMediumPeer peers snapshot) with
    | some peer => pure (st.1.set idx none, st.2 ++ [{ r with possibleAliasOf := some peer }])
    | none => pure (st.1.set idx none, st.2 ++ [r])
  else
    let (merged, slots) ← mergeGroup st.1 members
    pure (slots, st.2 ++ [merged])

/-- Positions by root, in order of first appearance, and one record per group. -/
def mergeComponents (records : List DeviceRecord) (components : List ℕ)
    (mediumPeers : List (List MediumPeer)) : Except Panic (List DeviceRecord) := do
  let groups := groupByKey (components.zipIdx.take records.length)
  let snapshot := records.map fun r => (r.identityKey, r.confidence.value)
  let result ← groups.foldlM (mergeStep mediumPeers snapshot) (records.map some, [])
  pure result.2

section Correlate

variable [CaseMapping]

/-- In the order of the weights. -/
def highPairs (weights : List (ℕ × ℕ × ℚ)) : List (ℕ × ℕ) :=
  (weights.filter fun p => highBandThreshold ≤ p.2.2).map fun p => (p.1, p.2.1)

def correlate (order : HashOrder) (hints : IdentityHints) (records : List DeviceRecord) :
    Except Panic (List DeviceRecord) :=
  if records.length ≤ 1 then .ok records
  else
    let weights := computePairWeights order hints records
    let uf := (UnionFind.new records.length).unionAll (highPairs weights)
    let mediumPeers := collectMediumPeers records.length weights uf
    mergeComponents records uf.components mediumPeers

end Correlate

end Rastreo
