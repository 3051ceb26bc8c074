import Mathlib.Algebra.GroupWithZero.Nat
import Mathlib.Data.List.Basic

/-!
# Characters as bytes

What programs that scan bytes rely on: an ASCII character is one byte, no byte of another character
is below 128, and exactly the first byte of a character is no continuation byte.
-/

namespace Rastreo

open List String

def utf8 (cs : List Char) : List UInt8 := cs.flatMap String.utf8EncodeChar

def isContinuation (b : UInt8) : Bool := b &&& 0xC0 == 0x80

@[simp] lemma utf8_nil : utf8 [] = [] := rfl

@[simp] lemma utf8_cons (c : Char) (cs : List Char) :
    utf8 (c :: cs) = String.utf8EncodeChar c ++ utf8 cs := rfl

@[simp] lemma utf8_append (a b : List Char) : utf8 (a ++ b) = utf8 a ++ utf8 b :=
  flatMap_append

lemma length_utf8 (cs : List Char) : (utf8 cs).length = (cs.map Char.utf8Size).sum := by
  induction cs with
  | nil => rfl
  | cons c cs ih => simp [ih]

lemma mask_or {x mask tag : UInt8} (h : mask &&& 0xC0 = 0) :
    (x &&& mask ||| tag) &&& 0xC0 = tag &&& 0xC0 := by
  have hdis : (x &&& mask ||| tag) &&& 0xC0 = x &&& mask &&& 0xC0 ||| tag &&& 0xC0 :=
    UInt8.toBitVec_inj.mp BitVec.and_or_distrib_right
  rw [hdis, UInt8.and_assoc, h, UInt8.and_zero, UInt8.zero_or]

/-- An ASCII character is its own byte; the bytes of another have the highest bit, and all but the
first are continuation bytes. -/
lemma utf8EncodeChar_cases (c : Char) : c.utf8Size = 1 ∧ String.utf8EncodeChar c = [c.val.toUInt8] ∨
      ∃ lead rest, String.utf8EncodeChar c = lead :: rest ∧ lead &&& 0xC0 = 0xC0 ∧
        ∀ b ∈ rest, b &&& 0xC0 = 0x80 := by
  have hcont : ∀ x : UInt8, (x &&& 0x3f ||| 0x80) &&& 0xC0 = 0x80 := fun x => mask_or rfl
  match h : c.utf8Size, c.utf8Size_pos, c.utf8Size_le_four with
  | 1, _, _ => exact .inl ⟨rfl, utf8EncodeChar_eq_singleton h⟩
  | 2, _, _ =>
    refine .inr ⟨_, _, utf8EncodeChar_eq_cons_cons h, mask_or rfl, fun b hb => ?_⟩
    obtain rfl := mem_singleton.mp hb
    exact hcont _
  | 3, _, _ =>
    refine .inr ⟨_, _, utf8EncodeChar_eq_cons_cons_cons h, mask_or rfl, fun b hb => ?_⟩
    simp only [mem_cons, not_mem_nil, or_false] at hb
    rcases hb with rfl | rfl <;> exact hcont _
  | 4, _, _ =>
    refine .inr ⟨_, _, utf8EncodeChar_eq_cons_cons_cons_cons h, mask_or rfl, fun b hb => ?_⟩
    simp only [mem_cons, not_mem_nil, or_false] at hb
    rcases hb with rfl | rfl | rfl <;> exact hcont _

/-! ## Searching for an ASCII character -/

variable {c d : Char}

lemma toNat_toUInt8_of_ascii (hc : c.utf8Size = 1) :
    c.toUInt8.toNat = c.val.toNat ∧ c.toUInt8.toNat < 128 := by
  have hsmall := UInt32.le_iff_toNat_le.mp (Char.utf8Size_eq_one_iff.mp hc)
  grind [Nat.lt_succ_of_le, Char.toUInt8, UInt32.toNat_toUInt8]

lemma eq_of_mem_utf8EncodeChar (hd : d.utf8Size = 1) (h : d.toUInt8 ∈ String.utf8EncodeChar c) :
    c = d := by
  have hlow := (toNat_toUInt8_of_ascii hd).2
  have hhigh : ∀ b : UInt8, 128 ≤ (b &&& 0xC0).toNat → b ≠ d.toUInt8 := by
    rintro b hb rfl
    rw [UInt8.toNat_and] at hb
    have := Nat.le_trans hb Nat.and_le_left
    omega
  rcases utf8EncodeChar_cases c with ⟨hc, henc⟩ | ⟨lead, rest, henc, hlead, hrest⟩
  · rw [henc, mem_singleton] at h
    refine Char.ext (UInt32.toNat_inj.mp ?_)
    rw [← (toNat_toUInt8_of_ascii hc).1, ← (toNat_toUInt8_of_ascii hd).1]
    simp_all
  · rw [henc] at h
    rcases mem_cons.mp h with h | h
    · exact absurd h.symm (hhigh lead (by rw [hlead]; decide))
    · exact absurd rfl (hhigh _ (by rw [hrest _ h]; decide))

lemma utf8EncodeChar_ascii (hd : d.utf8Size = 1) : String.utf8EncodeChar d = [d.toUInt8] :=
  utf8EncodeChar_eq_singleton hd

lemma head?_utf8_eq (hd : d.utf8Size = 1) (cs : List Char) :
    (utf8 cs).head? = some d.toUInt8 ↔ cs.head? = some d := by
  cases cs with
  | nil => simp
  | cons c cs =>
    rw [utf8_cons, head?_append_of_ne_nil _ utf8EncodeChar_ne_nil, head?_cons, Option.some.injEq]
    constructor
    · exact fun h => eq_of_mem_utf8EncodeChar hd (mem_of_mem_head? h)
    · rintro rfl
      rw [utf8EncodeChar_ascii hd]
      rfl

/-- The byte of an ASCII character is found at the first such character. -/
lemma findIdx?_utf8 (hd : d.utf8Size = 1) {before : List Char} (hbefore : d ∉ before)
    (after : List Char) :
    (utf8 (before ++ d :: after)).findIdx? (· == d.toUInt8) = some (utf8 before).length ∧
      (utf8 before).findIdx? (· == d.toUInt8) = none := by
  have hnone : (utf8 before).findIdx? (· == d.toUInt8) = none := by
    refine findIdx?_eq_none_iff.mpr fun b hb => beq_false_of_ne ?_
    rintro rfl
    obtain ⟨c, hc, hmem⟩ := mem_flatMap.mp hb
    exact hbefore (eq_of_mem_utf8EncodeChar hd hmem ▸ hc)
  rw [utf8_append, findIdx?_append, hnone, utf8_cons, utf8EncodeChar_ascii hd]
  simp [findIdx?_cons]

end Rastreo
