import Rastreo.Fuser.Merge
import Mathlib.Data.Prod.Lex

/-!
# Medium-band peers

The peers of a record share a medium-band pair with it outside its component.  They are ordered by
confidence, then weight, then smallest position, without ties, so the pick depends only on which
peers there are (`pickBestMediumPeer_eq`).
-/

namespace Rastreo

open List

/-! ## Picking the best peer -/

variable (records : List DeviceRecord)

def confidenceAt (i : ℕ) : ℚ :=
  (records[i]?.map fun r => r.confidence.value).getD 0

/-- Confidence, then weight, then the smaller position. -/
def peerRank (p : MediumPeer) : ℚ ×ₗ ℚ ×ₗ ℕᵒᵈ :=
  toLex (confidenceAt records p.peerIndex, toLex (p.weight, OrderDual.toDual p.peerIndex))

lemma peerRank_injective : Function.Injective (peerRank records) := by
  rintro ⟨i, w⟩ ⟨j, v⟩ h
  have h' := congrArg (fun x => ofLex (ofLex x).2) h
  simp only [peerRank, ofLex_toLex, Prod.mk.injEq, OrderDual.toDual_inj] at h'
  rw [h'.1, h'.2]

lemma peerRank_lt_iff (p q : MediumPeer) : peerRank records q < peerRank records p ↔
      confidenceAt records q.peerIndex < confidenceAt records p.peerIndex ∨
      (confidenceAt records p.peerIndex = confidenceAt records q.peerIndex ∧ q.weight < p.weight) ∨
      (confidenceAt records p.peerIndex = confidenceAt records q.peerIndex ∧
        p.weight = q.weight ∧ p.peerIndex < q.peerIndex) := by
  simp only [peerRank, Prod.Lex.toLex_lt_toLex, OrderDual.toDual_lt_toDual]
  constructor
  · rintro (h | ⟨h, hw | ⟨hw, hi⟩⟩)
    · exact .inl h
    · grind
    · grind
  · rintro (h | ⟨h, hw⟩ | ⟨h, hw, hi⟩)
    · exact .inl h
    · grind
    · grind

def bestPeer (peers : List MediumPeer) : Option MediumPeer :=
  peers.argmax (peerRank records)

def bestPeerKey (peers : List MediumPeer) : Option IdentityKey :=
  (bestPeer records peers).bind fun p => records[p.peerIndex]?.map (·.identityKey)

variable {records : List DeviceRecord} {peers : List MediumPeer}

lemma bestPeer_eq_some_iff {p : MediumPeer} : bestPeer records peers = some p ↔
      p ∈ peers ∧ ∀ q ∈ peers, peerRank records q ≤ peerRank records p := by
  rw [bestPeer, argmax_eq_some_iff]
  constructor
  · grind
  · grind [peerRank_injective, le_antisymm]

lemma bestPeer_congr {peers' : List MediumPeer} (h : ∀ p, p ∈ peers ↔ p ∈ peers') :
    bestPeer records peers = bestPeer records peers' := by
  ext p
  simp only [bestPeer_eq_some_iff, h]

lemma bestPeer_eq_none_iff : bestPeer records peers = none ↔ peers = [] :=
  argmax_eq_none

def snapshotOf (records : List DeviceRecord) : List (IdentityKey × ℚ) :=
  records.map fun r => (r.identityKey, r.confidence.value)

variable {i : ℕ}

lemma index_snapshotOf {r : DeviceRecord} (h : records[i]? = some r) :
    index (snapshotOf records) i = .ok (r.identityKey, r.confidence.value) := by
  refine index_of_getElem? ?_
  rw [snapshotOf, getElem?_map, h]
  rfl

def peerTriple (records : List DeviceRecord) (p : MediumPeer) : ℕ × ℚ × ℚ :=
  (p.peerIndex, confidenceAt records p.peerIndex, p.weight)

lemma exists_record (hi : i < records.length) :
    ∃ r, records[i]? = some r ∧ confidenceAt records i = r.confidence.value := by
  obtain ⟨r, hr⟩ : ∃ r, records[i]? = some r := ⟨_, getElem?_eq_getElem hi⟩
  exact ⟨r, hr, by rw [confidenceAt, hr]; rfl⟩

def pickStep (records : List DeviceRecord) (best : Option (ℕ × ℚ × ℚ)) (p : MediumPeer) :
    Option (ℕ × ℚ × ℚ) :=
  match best with
  | none => some (peerTriple records p)
  | some current =>
    some (if current.2.1 < confidenceAt records p.peerIndex ∨
        (confidenceAt records p.peerIndex = current.2.1 ∧ current.2.2 < p.weight) ∨
        (confidenceAt records p.peerIndex = current.2.1 ∧ p.weight = current.2.2 ∧
          p.peerIndex < current.1) then peerTriple records p else current)

lemma foldl_pickStep (records : List DeviceRecord) (peers : List MediumPeer) :
    peers.foldl (pickStep records) none = (bestPeer records peers).map (peerTriple records) := by
  induction peers using List.reverseRecOn with
  | nil => rfl
  | append_singleton peers p ih =>
    have hconcat : bestPeer records (peers ++ [p]) = _ :=
      argmax_concat (peerRank records) p peers
    rw [foldl_append, ih, hconcat, ← bestPeer]
    cases bestPeer records peers with
    | none => rfl
    | some q =>
      simp only [foldl_cons, foldl_nil, Option.map_some, pickStep, peerTriple, peerRank_lt_iff]
      split_ifs <;> rfl

/-- The picked key is that of the peer of highest rank. -/
theorem pickBestMediumPeer_eq (hlt : ∀ p ∈ peers, p.peerIndex < records.length) :
    pickBestMediumPeer peers (snapshotOf records) = .ok (bestPeerKey records peers) := by
  unfold pickBestMediumPeer
  rw [foldlM_ok (g := pickStep records), foldl_pickStep, ok_bind, bestPeerKey]
  · cases hbest : bestPeer records peers with
    | none => rfl
    | some p =>
      obtain ⟨r, hr, -⟩ := exists_record (hlt p (argmax_mem hbest))
      simp only [Option.map_some, peerTriple, index_snapshotOf hr, ok_bind, Option.bind_some, hr]
      rfl
  · intro best p hp
    obtain ⟨r, hr, hconf⟩ := exists_record (hlt p hp)
    rw [index_snapshotOf hr, ok_bind, ← hconf]
    cases best <;> rfl

/-! ## Filing the peers -/

def InMediumBand (w : ℚ) : Prop := mediumBandThreshold ≤ w ∧ w < highBandThreshold

lemma mem_modify_append {α : Type} {ls : List (List α)} {k : ℕ} {l : List α} {x y : α}
    (hl : (ls.modify i (· ++ [x]))[k]? = some l) :
    ∃ m, ls[k]? = some m ∧ (y ∈ l ↔ y ∈ m ∨ (k = i ∧ y = x)) := by
  rw [getElem?_modify] at hl
  cases hm : ls[k]? with
  | none => simp [hm] at hl
  | some m =>
    by_cases hik : i = k
    · subst hik
      grind
    · grind

/-- The other ends of medium-band pairs across components. -/
theorem mem_collectMediumPeers {n : ℕ} {weights : List (ℕ × ℕ × ℚ)} {uf : UnionFind}
    {l : List MediumPeer} (hl : (collectMediumPeers n weights uf)[i]? = some l) {p : MediumPeer} :
    p ∈ l ↔ InMediumBand p.weight ∧ uf.find i ≠ uf.find p.peerIndex ∧
      ((i, p.peerIndex, p.weight) ∈ weights ∨ (p.peerIndex, i, p.weight) ∈ weights) := by
  induction weights using List.reverseRecOn generalizing l with
  | nil =>
    have hnil : l = [] := by
      simp only [collectMediumPeers, foldl_nil, getElem?_replicate] at hl
      split_ifs at hl
      grind
    simp [hnil]
  | append_singleton weights q ih =>
    obtain ⟨a, b, w⟩ := q
    rw [collectMediumPeers, foldl_append] at hl
    simp only [foldl_cons, foldl_nil] at hl
    have hfold : ∀ m, (collectMediumPeers n weights uf)[i]? = some m → (p ∈ m ↔ _) :=
      fun m hm => ih hm
    simp only [mem_append, mem_singleton, Prod.mk.injEq]
    split_ifs at hl with hhigh hlow hsame
    · rw [hfold l hl]
      refine and_congr_right fun hband => and_congr_right fun _ => ?_
      have hw : p.weight ≠ w := fun h => absurd hband.2 (by rw [h]; exact not_lt.mpr hhigh)
      grind
    · rw [hfold l hl]
      refine and_congr_right fun hband => and_congr_right fun _ => ?_
      have hw : p.weight ≠ w := fun h => absurd hband.1 (by rw [h]; exact not_le.mpr hlow)
      grind
    · rw [hfold l hl]
      refine and_congr_right fun hband => and_congr_right fun hne => ?_
      constructor
      · exact Or.imp .inl .inl
      · rintro ((h | ⟨rfl, h, -⟩) | (h | ⟨h, rfl, -⟩))
        · exact .inl h
        · grind
        · exact .inr h
        · grind
    · obtain ⟨m, hm, hmem⟩ := mem_modify_append (y := p) hl
      obtain ⟨m', hm', hmem'⟩ := mem_modify_append (y := p) hm
      rw [hmem, hmem', hfold m' hm']
      obtain ⟨j, v⟩ := p
      simp only [MediumPeer.mk.injEq]
      have hband : InMediumBand w := ⟨not_lt.mp hlow, not_le.mp hhigh⟩
      constructor
      · rintro ((⟨h1, h2, h3⟩ | ⟨rfl, rfl, rfl⟩) | ⟨rfl, rfl, rfl⟩)
        · grind
        · grind
        · grind
      · rintro ⟨h1, h2, (h | ⟨rfl, rfl, rfl⟩) | (h | ⟨rfl, rfl, rfl⟩)⟩
        · grind
        · simp
        · grind
        · simp

lemma length_collectMediumPeers (n : ℕ) (weights : List (ℕ × ℕ × ℚ)) (uf : UnionFind) :
    (collectMediumPeers n weights uf).length = n := by
  induction weights using List.reverseRecOn with
  | nil => simp [collectMediumPeers]
  | append_singleton weights q ih =>
    rw [collectMediumPeers, foldl_append]
    simp only [foldl_cons, foldl_nil]
    split_ifs
    · exact ih
    · exact ih
    · exact ih
    · rw [length_modify, length_modify]
      exact ih

end Rastreo
