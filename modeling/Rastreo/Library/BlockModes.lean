import Mathlib.Data.List.Basic
import Mathlib.Tactic.Common

/-!
# Modes of a block cipher

Cipher block chaining for texts of whole blocks, cipher feedback for all texts.  Decryption undoes
encryption: chaining needs the inverse of the cipher, feedback only that mixing twice changes
nothing.
-/

namespace Rastreo

open List

/-! ## Blocks of a text -/

section Blocks

variable {α : Type} {n : ℕ}

/-- Texts of one length. -/
abbrev TextBlock (α : Type) (n : ℕ) := { l : List α // l.length = n }

def splitBlocks (n : ℕ) (l : List α) : List (TextBlock α n) × List α :=
  if h : 0 < n ∧ n ≤ l.length then
    let rest := splitBlocks n (l.drop n)
    (⟨l.take n, length_take_of_le h.2⟩ :: rest.1, rest.2)
  else ([], l)
termination_by l.length
decreasing_by
  rw [length_drop]
  omega

def joinBlocks (blocks : List (TextBlock α n)) : List α := blocks.flatMap (·.1)

lemma joinBlocks_cons (block : TextBlock α n) (blocks : List (TextBlock α n)) :
    joinBlocks (block :: blocks) = block.1 ++ joinBlocks blocks :=
  flatMap_cons

lemma splitBlocks_of_lt {l : List α} (h : l.length < n) : splitBlocks n l = ([], l) := by
  rw [splitBlocks, dif_neg fun hle => absurd hle.2 (Nat.not_le.mpr h)]

lemma splitBlocks_append (hn : 0 < n) (block : TextBlock α n) (l : List α) :
    splitBlocks n (block.1 ++ l) = (block :: (splitBlocks n l).1, (splitBlocks n l).2) := by
  obtain ⟨b, hb⟩ := block
  have hlen : n ≤ (b ++ l).length := by
    rw [List.length_append]
    omega
  rw [splitBlocks, dif_pos ⟨hn, hlen⟩]
  subst hb
  simp

lemma splitBlocks_joinBlocks (hn : 0 < n) (blocks : List (TextBlock α n)) {tail : List α}
    (htail : tail.length < n) : splitBlocks n (joinBlocks blocks ++ tail) = (blocks, tail) := by
  induction blocks with
  | nil => exact splitBlocks_of_lt htail
  | cons block blocks ih =>
    rw [joinBlocks_cons, List.append_assoc, splitBlocks_append hn, ih]

lemma exists_joinBlocks (hn : 0 < n) (l : List α) :
    ∃ (blocks : List (TextBlock α n)) (tail : List α), tail.length < n ∧
      l = joinBlocks blocks ++ tail := by
  induction hlen : l.length using Nat.strongRecOn generalizing l with
  | ind k ih =>
    by_cases hlt : l.length < n
    · exact ⟨[], l, hlt, rfl⟩
    · have hsho : (l.drop n).length < k := by
        rw [length_drop]
        omega
      obtain ⟨blocks, tail, htail, hdrop⟩ := ih _ hsho (l.drop n) rfl
      refine ⟨⟨l.take n, length_take_of_le (Nat.not_lt.mp hlt)⟩ :: blocks, tail, htail, ?_⟩
      rw [joinBlocks_cons, List.append_assoc, ← hdrop]
      simp

lemma length_joinBlocks (blocks : List (TextBlock α n)) :
    (joinBlocks blocks).length = blocks.length * n := by
  induction blocks with
  | nil => simp [joinBlocks]
  | cons block blocks ih =>
    have hblock : block.1.length = n := block.2
    rw [joinBlocks_cons, List.length_append, hblock, ih, length_cons, Nat.succ_mul, Nat.add_comm]

lemma exists_joinBlocks_of_mod (hn : 0 < n) {l : List α} (h : l.length % n = 0) :
    ∃ blocks : List (TextBlock α n), l = joinBlocks blocks := by
  obtain ⟨blocks, tail, htail, rfl⟩ := exists_joinBlocks hn l
  rw [List.length_append, length_joinBlocks, Nat.mul_add_mod_self_right,
    Nat.mod_eq_of_lt htail] at h
  simp_all

end Blocks

/-! ## Mixing -/

section Mixing

variable {α : Type} {n : ℕ} {mix : α → α → α}

/-- Two blocks mixed symbol by symbol. -/
def mixBlocks (mix : α → α → α) (a b : TextBlock α n) : TextBlock α n :=
  ⟨List.zipWith mix a.1 b.1, by rw [length_zipWith, a.2, b.2, Nat.min_self]⟩

lemma zipWith_cancel (hmix : ∀ a b, mix (mix a b) b = a) {l key : List α}
    (hlen : l.length ≤ key.length) : List.zipWith mix (List.zipWith mix l key) key = l := by
  induction l generalizing key with
  | nil => simp
  | cons a l ih =>
    cases key with
    | nil => simp at hlen
    | cons b key => simp [hmix, ih (Nat.le_of_succ_le_succ hlen)]

lemma mixBlocks_cancel (hmix : ∀ a b, mix (mix a b) b = a) (a b : TextBlock α n) :
    mixBlocks mix (mixBlocks mix a b) b = a :=
  Subtype.ext (zipWith_cancel hmix (Nat.le_of_eq (a.2.trans b.2.symm)))

end Mixing

/-! ## Chaining -/

section Chaining

variable {β : Type} {encrypt decrypt : β → β} {mix : β → β → β}

/-- Each block is mixed with the ciphertext of the one before. -/
def cbcEncrypt (encrypt : β → β) (mix : β → β → β) : β → List β → List β
  | _, [] => []
  | iv, block :: blocks =>
    let cipher := encrypt (mix block iv)
    cipher :: cbcEncrypt encrypt mix cipher blocks

def cbcDecrypt (decrypt : β → β) (mix : β → β → β) : β → List β → List β
  | _, [] => []
  | iv, cipher :: ciphers => mix (decrypt cipher) iv :: cbcDecrypt decrypt mix cipher ciphers

lemma length_cbcEncrypt (iv : β) (blocks : List β) :
    (cbcEncrypt encrypt mix iv blocks).length = blocks.length := by
  induction blocks generalizing iv with
  | nil => rfl
  | cons block blocks ih => simp [cbcEncrypt, ih]

/-- Chaining is undone. -/
theorem cbcDecrypt_cbcEncrypt (hinv : ∀ b, decrypt (encrypt b) = b)
    (hmix : ∀ a b, mix (mix a b) b = a) (iv : β) (blocks : List β) :
    cbcDecrypt decrypt mix iv (cbcEncrypt encrypt mix iv blocks) = blocks := by
  induction blocks generalizing iv with
  | nil => rfl
  | cons block blocks ih => rw [cbcEncrypt, cbcDecrypt, hinv, hmix, ih]

/-! ## Feedback -/

/-- Over whole blocks, with the block of the next key. -/
def feedback (encrypt : β → β) (mix : β → β → β) : β → List β → List β × β
  | iv, [] => ([], iv)
  | iv, block :: blocks =>
    let cipher := mix block (encrypt iv)
    let rest := feedback encrypt mix cipher blocks
    (cipher :: rest.1, rest.2)

def feedbackInverse (encrypt : β → β) (mix : β → β → β) : β → List β → List β × β
  | iv, [] => ([], iv)
  | iv, cipher :: ciphers =>
    let rest := feedbackInverse encrypt mix cipher ciphers
    (mix cipher (encrypt iv) :: rest.1, rest.2)

lemma feedbackInverse_feedback (hmix : ∀ a b, mix (mix a b) b = a) (iv : β) (blocks : List β) :
    feedbackInverse encrypt mix iv (feedback encrypt mix iv blocks).1 =
      (blocks, (feedback encrypt mix iv blocks).2) := by
  induction blocks generalizing iv with
  | nil => rfl
  | cons block blocks ih => simp only [feedback, feedbackInverse, hmix, ih]

end Chaining

section Feedback

variable {α : Type} {n : ℕ} {encrypt : TextBlock α n → TextBlock α n} {mix : α → α → α}

/-- What is left after the whole blocks is mixed with the front of the next key. -/
def cfbEncrypt (encrypt : TextBlock α n → TextBlock α n) (mix : α → α → α)
    (iv : TextBlock α n) (text : List α) : List α :=
  let parts := splitBlocks n text
  let ciphers := feedback encrypt (mixBlocks mix) iv parts.1
  joinBlocks ciphers.1 ++ List.zipWith mix parts.2 (encrypt ciphers.2).1

def cfbDecrypt (encrypt : TextBlock α n → TextBlock α n) (mix : α → α → α)
    (iv : TextBlock α n) (text : List α) : List α :=
  let parts := splitBlocks n text
  let blocks := feedbackInverse encrypt (mixBlocks mix) iv parts.1
  joinBlocks blocks.1 ++ List.zipWith mix parts.2 (encrypt blocks.2).1

/-- Also where the text does not end with a block. -/
theorem cfbDecrypt_cfbEncrypt (hn : 0 < n) (hmixed : ∀ a b, mix (mix a b) b = a)
    (iv : TextBlock α n) (text : List α) :
    cfbDecrypt encrypt mix iv (cfbEncrypt encrypt mix iv text) = text := by
  obtain ⟨blocks, tail, htail, rfl⟩ := exists_joinBlocks hn text
  have hkey : ∀ key : TextBlock α n, key.1.length = n := fun key => key.2
  have hmxd : ∀ key : TextBlock α n, (List.zipWith mix tail key.1).length < n := by
    intro key
    rw [length_zipWith, hkey]
    omega
  rw [cfbEncrypt, splitBlocks_joinBlocks hn blocks htail]
  rw [cfbDecrypt, splitBlocks_joinBlocks hn _ (hmxd _)]
  rw [feedbackInverse_feedback (mixBlocks_cancel hmixed), zipWith_cancel hmixed]
  rw [hkey]
  exact Nat.le_of_lt htail

end Feedback

end Rastreo
