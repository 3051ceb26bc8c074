import Mathlib.Algebra.GroupWithZero.Nat
import Mathlib.Data.Nat.Init
import Mathlib.Logic.Function.Basic
import Mathlib.Tactic.Common

/-!
# Words

Maps of machine words that lose nothing: the digits of a word, its exclusive or with itself shifted,
and its product with a word that has an inverse.
-/

namespace Rastreo

open Function

/-! ## Digits -/

variable {k : ℕ}

lemma eq_of_digits_eq {n m : ℕ} (hn : n < 256 ^ k) (hm : m < 256 ^ k)
    (h : ∀ i < k, n / 256 ^ i % 256 = m / 256 ^ i % 256) : n = m := by
  induction k generalizing n m with
  | zero => omega
  | succ k ih =>
    have hlow : n % 256 = m % 256 := by simpa using h 0 k.succ_pos
    rw [Nat.pow_succ'] at hn hm
    have hhigh : n / 256 = m / 256 := by
      refine ih (Nat.div_lt_of_lt_mul hn) (Nat.div_lt_of_lt_mul hm) fun i hi => ?_
      rw [Nat.div_div_eq_div_mul, Nat.div_div_eq_div_mul, ← Nat.pow_succ']
      grind
    omega

/-- The eight bytes of a word, least significant first. -/
def toLeBytes (n : ℕ) : List UInt8 := (List.range 8).map fun i => UInt8.ofNat (n / 256 ^ i)

lemma length_toLeBytes (n : ℕ) : (toLeBytes n).length = 8 := by simp [toLeBytes]

lemma toLeBytes_inj {n m : ℕ} (hn : n < 2 ^ 64) (hm : m < 2 ^ 64) (h : toLeBytes n = toLeBytes m) :
    n = m := by
  refine eq_of_digits_eq (k := 8) hn hm fun i hi => ?_
  have hbyte := congrArg UInt8.toNat (List.map_inj_left.mp h i (List.mem_range.mpr hi))
  rwa [UInt8.toNat_ofNat', UInt8.toNat_ofNat'] at hbyte

/-- Digits to the base 256, the highest first. -/
def beNat (bytes : List UInt8) : ℕ := bytes.foldl (fun n b => n * 256 + b.toNat) 0

/-- The last `k` bytes of a number, most significant first. -/
def beBytes : ℕ → ℕ → List UInt8
  | 0, _ => []
  | k + 1, n => beBytes k (n / 256) ++ [UInt8.ofNat n]

@[simp] lemma length_beBytes (k n : ℕ) : (beBytes k n).length = k := by
  induction k generalizing n with
  | zero => rfl
  | succ k ih => simp [beBytes, ih]

lemma beNat_append_singleton (bytes : List UInt8) (b : UInt8) :
    beNat (bytes ++ [b]) = beNat bytes * 256 + b.toNat := by simp [beNat]

lemma beNat_beBytes {k n : ℕ} (h : n < 256 ^ k) : beNat (beBytes k n) = n := by
  induction k generalizing n with
  | zero => rw [Nat.lt_one_iff.mp h]; rfl
  | succ k ih =>
    have hdiv : n / 256 < 256 ^ k := Nat.div_lt_of_lt_mul (by rwa [Nat.pow_succ'] at h)
    rw [beBytes, beNat_append_singleton, ih hdiv, UInt8.toNat_ofNat', Nat.div_add_mod']

/-! ## Mixing steps -/

variable {w : ℕ}

lemma xor_shiftLeft_injective (hk : 0 < k) : Injective fun x : BitVec w => x ^^^ x <<< k := by
  intro x y h
  -- Bit `i` of the result is bit `i` of the word and one below it.
  have hbit : ∀ i, x.getLsbD i = y.getLsbD i := by
    intro i
    induction i using Nat.strongRecOn with
    | ind i ih =>
      have hxor := congrArg (BitVec.getLsbD · i) h
      rw [BitVec.getLsbD_xor, BitVec.getLsbD_xor, BitVec.getLsbD_shiftLeft,
        BitVec.getLsbD_shiftLeft] at hxor
      by_cases hi : i < k
      · simpa [hi] using hxor
      · have hlow := ih (i - k) (by omega)
        grind
  exact BitVec.eq_of_getLsbD_eq fun i _ => hbit i

lemma xor_ushiftRight_injective (hk : 0 < k) : Injective fun x : BitVec w => x ^^^ x >>> k := by
  intro x y h
  -- Bit `i` of the result is bit `i` of the word and one above it.
  have hbit : ∀ n i, w - i ≤ n → x.getLsbD i = y.getLsbD i := by
    intro n
    induction n with
    | zero =>
      intro i hi
      grind
    | succ n ih =>
      intro i hi
      have hxor := congrArg (BitVec.getLsbD · i) h
      rw [BitVec.getLsbD_xor, BitVec.getLsbD_xor, BitVec.getLsbD_ushiftRight,
        BitVec.getLsbD_ushiftRight, ih (k + i) (by omega)] at hxor
      simp_all
  exact BitVec.eq_of_getLsbD_eq fun i _ => hbit w i (by omega)

lemma mul_injective_of_inverse {c d : BitVec w} (h : c * d = 1#w) :
    Injective fun x : BitVec w => x * c := by
  intro x y hxy
  have hpro : x * c * d = y * c * d := congrArg (· * d) hxy
  grind

end Rastreo
