import Rastreo.Prober.Snmp.Privacy

/-!
# Password expansion

`localize` over a digest that is fed piece by piece.  The chunks of its loop, one after another, are
the first bytes of the password repeated without end (`expandPassword_eq`), wherever a chunk ends in
the password.
-/

namespace Rastreo

open List

/-- A digest that is fed piece by piece: only the concatenation counts. -/
structure IncrementalDigest where
  State : Type
  new : State
  update : State → Bytes → State
  finalize : State → Bytes
  finalize_foldl : ∀ pieces : List Bytes,
    finalize (pieces.foldl update new) = finalize (update new pieces.flatten)

namespace IncrementalDigest

variable (d : IncrementalDigest)

def digest (data : Bytes) : Bytes := d.finalize (d.update d.new data)

lemma finalize_new : d.finalize d.new = d.digest [] := d.finalize_foldl []

/-- The hasher at the end of the loop of `localize`. -/
def feedPassword (pw : Bytes) (hpw : 0 < pw.length) (hasher : d.State) (fed : ℕ)
    (idx : Fin pw.length) (chunk : Bytes) : d.State :=
  if fed < passwordExpansionBytes then
    let take := min 64 (passwordExpansionBytes - fed)
    let filled := fillChunk pw hpw take idx
    -- The slots after the first `take` keep what an earlier round wrote.
    let chunk := filled.1 ++ chunk.drop take
    feedPassword pw hpw (d.update hasher (chunk.take take)) (fed + take) filled.2 chunk
  else hasher
termination_by passwordExpansionBytes - fed

/-- `D::new()` fed with the digest, the engine and the digest again. -/
def hashLocalized (digest engineId : Bytes) : Bytes :=
  d.finalize (d.update (d.update (d.update d.new digest) engineId) digest)

def localize (password : String) (engineId : Bytes) : Bytes :=
  let pw := password.toUTF8.toList
  if hpw : 0 < pw.length then
    let hasher := d.feedPassword pw hpw d.new 0 ⟨0, hpw⟩ (replicate 64 0)
    d.hashLocalized (d.finalize hasher) engineId
  else d.hashLocalized (d.finalize d.new) engineId

lemma hashLocalized_eq (digest engineId : Bytes) :
    d.hashLocalized digest engineId = d.digest (digest ++ engineId ++ digest) := by
  have h := d.finalize_foldl [digest, engineId, digest]
  rwa [flatten_cons, flatten_cons, flatten_singleton, ← append_assoc] at h

end IncrementalDigest

section Expansion

variable {pw : Bytes} (hpw : 0 < pw.length)

def repeated (i : ℕ) : UInt8 := pw.get ⟨i % pw.length, Nat.mod_lt i hpw⟩

/-- A chunk goes on where the one before it ended. -/
lemma fillChunk_eq (take i : ℕ) : fillChunk pw hpw take ⟨i % pw.length, Nat.mod_lt i hpw⟩ =
      ((List.range' i take).map (repeated hpw),
        ⟨(i + take) % pw.length, Nat.mod_lt (i + take) hpw⟩) := by
  induction take generalizing i with
  | zero => rfl
  | succ take ih =>
    have hnext : (⟨(i % pw.length + 1) % pw.length, Nat.mod_lt _ hpw⟩ : Fin pw.length) =
        ⟨(i + 1) % pw.length, Nat.mod_lt (i + 1) hpw⟩ := Fin.ext (Nat.mod_add_mod i _ 1)
    rw [fillChunk, hnext, ih, range'_succ, map_cons, Nat.add_right_comm]
    rfl

lemma length_fillChunk (take : ℕ) (idx : Fin pw.length) :
    (fillChunk pw hpw take idx).1.length = take := by
  induction take generalizing idx with
  | zero => rfl
  | succ take ih => exact congrArg Nat.succ (ih _)

/-- From any position on, what is fed is the rest of the expansion. -/
lemma expandPassword_from (fed : ℕ) :
    expandPassword pw hpw fed ⟨fed % pw.length, Nat.mod_lt fed hpw⟩ =
      (List.range' fed (passwordExpansionBytes - fed)).map (repeated hpw) := by
  induction h : passwordExpansionBytes - fed using Nat.strong_induction_on generalizing fed with
  | h n ih =>
    subst h
    rw [expandPassword]
    split_ifs with hfed
    · have hsplit : passwordExpansionBytes - fed = min 64 (passwordExpansionBytes - fed) +
          (passwordExpansionBytes - (fed + min 64 (passwordExpansionBytes - fed))) := by omega
      dsimp only
      rw [fillChunk_eq, ih _ (by omega) _ rfl, hsplit, ← range'_append_1, map_append, ← hsplit]
    · rw [Nat.sub_eq_zero_of_le (Nat.not_lt.mp hfed)]
      rfl

lemma expandPassword_eq : expandPassword pw hpw 0 ⟨0, hpw⟩ =
      (List.range passwordExpansionBytes).map (repeated hpw) := by
  have hzero : (⟨0, hpw⟩ : Fin pw.length) = ⟨0 % pw.length, Nat.mod_lt 0 hpw⟩ :=
    Fin.ext (Nat.zero_mod _).symm
  rw [hzero, expandPassword_from, Nat.sub_zero, range_eq_range']

/-- The hasher is fed pieces that make up the expansion. -/
lemma exists_pieces (d : IncrementalDigest) (hasher : d.State) (fed : ℕ) (idx : Fin pw.length)
    (chunk : Bytes) :
    ∃ pieces : List Bytes, pieces.flatten = expandPassword pw hpw fed idx ∧
      d.feedPassword pw hpw hasher fed idx chunk = pieces.foldl d.update hasher := by
  induction h : passwordExpansionBytes - fed using Nat.strong_induction_on
    generalizing hasher fed idx chunk with
  | h n ih =>
    subst h
    rw [expandPassword, IncrementalDigest.feedPassword]
    split_ifs with hfed
    · have hlt : passwordExpansionBytes - (fed + min 64 (passwordExpansionBytes - fed)) <
          passwordExpansionBytes - fed := by omega
      dsimp only
      rw [take_left' (length_fillChunk hpw _ _)]
      generalize fillChunk pw hpw (min 64 (passwordExpansionBytes - fed)) idx = filled
      obtain ⟨pieces, hflatten, hfeed⟩ := ih _ hlt (d.update hasher filled.1) _ filled.2
        (filled.1 ++ chunk.drop (min 64 (passwordExpansionBytes - fed))) rfl
      exact ⟨filled.1 :: pieces, by rw [flatten_cons, hflatten], hfeed⟩
    · exact ⟨[], rfl, rfl⟩

end Expansion

variable (d : IncrementalDigest)

/-- The hasher is fed exactly the first bytes of the password repeated without end, and the key is
the digest of their digest, the engine and their digest. -/
theorem localize_expands_password (password : String) (engineId : Bytes)
    (hpw : 0 < password.toUTF8.toList.length) :
    let expansion := (List.range passwordExpansionBytes).map (repeated hpw)
    (∃ pieces : List Bytes, pieces.flatten = expansion ∧
      d.feedPassword _ hpw d.new 0 ⟨0, hpw⟩ (replicate 64 0) = pieces.foldl d.update d.new) ∧
    d.localize password engineId =
      d.digest (d.digest expansion ++ engineId ++ d.digest expansion) := by
  obtain ⟨pieces, hflatten, hfeed⟩ := exists_pieces hpw d d.new 0 ⟨0, hpw⟩ (replicate 64 0)
  rw [expandPassword_eq] at hflatten
  refine ⟨⟨pieces, hflatten, hfeed⟩, ?_⟩
  rw [IncrementalDigest.localize]
  dsimp only
  rw [dif_pos hpw, hfeed, d.finalize_foldl, hflatten, d.hashLocalized_eq]
  rfl

/-- `localizeKey` over a digest that is fed piece by piece. -/
theorem localizeKey_eq_localize {prims : CryptoPrimitives} {algo : AuthAlgo}
    (hd : ∀ data, prims.digest algo data = d.digest data) (password : String) (engineId : Bytes) :
    localizeKey prims password engineId algo = d.localize password engineId := by
  have hhash : ∀ data, hashLocalized prims data engineId algo = d.hashLocalized data engineId :=
    fun data => (hd _).trans (d.hashLocalized_eq data engineId).symm
  simp only [localizeKey, IncrementalDigest.localize, hhash, hd]
  split_ifs with hpw
  · obtain ⟨pieces, hflatten, hfeed⟩ := exists_pieces hpw d d.new 0 ⟨0, hpw⟩ (replicate 64 0)
    rw [hfeed, d.finalize_foldl, hflatten]
    rfl
  · rw [d.finalize_new]

/-- The digest that keeps all it is fed, with a one-shot digest at the end. -/
def IncrementalDigest.buffering (digest : Bytes → Bytes) : IncrementalDigest where
  State := Bytes
  new := []
  update := (· ++ ·)
  finalize := digest
  finalize_foldl pieces := by
    rw [foldl_append_eq_append]
    exact congrArg (fun l => digest ([] ++ flatten l)) (map_id' pieces)

/-- A password of three bytes, which no chunk of 64 holds a whole number of times: the first byte of
the second chunk goes on with it. -/
theorem localize_expands_password_uneven : 0 < "abc".toUTF8.toList.length ∧
    (IncrementalDigest.buffering fun bytes => (bytes.take 65).getLast?.toList).localize "abc" [7] =
      [98] := by
  have hpw : 0 < "abc".toUTF8.toList.length := by decide +kernel
  have hbyte : (((List.range passwordExpansionBytes).map (repeated hpw)).take 65).getLast? =
      some 98 := by
    rw [← map_take, take_range]
    decide +kernel +revert
  -- For every expansion, so that the million bytes are never evaluated.
  have hkey : ∀ expansion : Bytes, (expansion.take 65).getLast? = some 98 →
      let d := IncrementalDigest.buffering fun bytes => (bytes.take 65).getLast?.toList
      d.digest (d.digest expansion ++ [7] ++ d.digest expansion) = [98] := by
    intro expansion hlast
    change ((((expansion.take 65).getLast?.toList ++ [7] ++
      (expansion.take 65).getLast?.toList).take 65).getLast?).toList = [98]
    rw [hlast]
    rfl
  exact ⟨hpw, (localize_expands_password _ "abc" [7] hpw).2.trans (hkey _ hbyte)⟩

end Rastreo
