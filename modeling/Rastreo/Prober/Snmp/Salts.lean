import Rastreo.Library.Words
import Rastreo.Prober.Snmp.Privacy
import Mathlib.Tactic.IntervalCases

/-!
# The salts of a run

A salt is a counter mixed with the clock by exclusive or.  The two can cancel (`salt_repeats`):
salts are distinct exactly when no two readings of the clock differ in the very bits in which the
counter does (`salts_distinct_iff`).
-/

namespace Rastreo

open Function

/-! ## Initialization vectors -/

lemma toBeBytes_injective : Injective toBeBytes := by
  intro x y h
  unfold toBeBytes at h
  simp only [List.cons.injEq, and_true, ← UInt8.toNat_inj, UInt64.toNat_toUInt8,
    UInt64.toNat_shiftRight, Nat.shiftRight_eq_div_pow] at h
  obtain ⟨h7, h6, h5, h4, h3, h2, h1, h0⟩ := h
  refine UInt64.toNat_inj.mp (eq_of_digits_eq (k := 8) x.toNat_lt y.toNat_lt fun i hi => ?_)
  interval_cases i
  · simpa using h0
  · exact h1
  · exact h2
  · exact h3
  · exact h4
  · exact h5
  · exact h6
  · exact h7

lemma xor8_injective (preIv : TextBlock UInt8 8) : Injective (xor8 preIv) := by
  intro salt salt' h
  have hcancel : ∀ s, xor8 (xor8 s preIv) preIv = s := fun s => mixBlocks_cancel xor_cancel s preIv
  have hcomm : ∀ s, xor8 preIv s = xor8 s preIv := fun s => Subtype.ext
    (List.zipWith_comm_of_comm fun a b => UInt8.xor_comm a b)
  rw [hcomm, hcomm] at h
  grind

lemma aesIv_injective (engineBoots engineTime : UInt32) :
    Injective (aesIv engineBoots engineTime) := by
  intro salt salt' h
  exact Subtype.ext (List.append_cancel_left (congrArg Subtype.val h))

/-! ## Runs -/

/-- With the counter from zero and these readings of the clock. -/
def runSalt (clock : ℕ → UInt64) (call : ℕ) : TextBlock UInt8 8 :=
  ⟨nextSalt (UInt64.ofNat call) (clock call), length_nextSalt _ _⟩

lemma runSalt_eq_iff {clock : ℕ → UInt64} {i j : ℕ} : runSalt clock i = runSalt clock j ↔
      clock i ^^^ clock j = UInt64.ofNat i ^^^ UInt64.ofNat j := by
  have hexc : ∀ a b c d : UInt64, a ^^^ b = c ^^^ d ↔ b ^^^ d = a ^^^ c := by
    intro a b c d
    have hsum : a ^^^ b ^^^ (c ^^^ d) = b ^^^ d ^^^ (a ^^^ c) := by ac_rfl
    rw [← UInt64.xor_eq_zero_iff, hsum, UInt64.xor_eq_zero_iff]
  rw [← hexc]
  exact Subtype.ext_iff.trans toBeBytes_injective.eq_iff

/-- Salts, and the vectors made of them under one key and engine time, are distinct exactly when no
two clock readings differ in the very bits in which the numbers of the calls differ. -/
theorem salts_distinct_iff (clock : ℕ → UInt64) (calls : ℕ) :
    (∀ i j, i < j → j < calls → runSalt clock i ≠ runSalt clock j ∧
      (∀ preIv, xor8 preIv (runSalt clock i) ≠ xor8 preIv (runSalt clock j)) ∧
      ∀ engineBoots engineTime, aesIv engineBoots engineTime (runSalt clock i) ≠
        aesIv engineBoots engineTime (runSalt clock j)) ↔
    ∀ i j, i < j → j < calls → clock i ^^^ clock j ≠ UInt64.ofNat i ^^^ UInt64.ofNat j := by
  refine forall₄_congr fun i j _ _ => ?_
  rw [Ne, runSalt_eq_iff]
  refine and_iff_left_of_imp fun hdis => ?_
  have hsalts : runSalt clock i ≠ runSalt clock j := mt runSalt_eq_iff.mp hdis
  exact ⟨fun preIv => (xor8_injective preIv).ne hsalts,
    fun engineBoots engineTime => (aesIv_injective engineBoots engineTime).ne hsalts⟩

/-- One nanosecond between the first two calls. -/
def tickingClock (call : ℕ) : UInt64 :=
  if call = 0 then 1700000000000000000 else 1700000000000000001

/-- Under a clock that does not go back two salts are the same, and so are the vectors of AES. -/
theorem salt_repeats : (∀ i j, i ≤ j → tickingClock i ≤ tickingClock j) ∧
    runSalt tickingClock 0 = runSalt tickingClock 1 ∧
    ∀ engineBoots engineTime, aesIv engineBoots engineTime (runSalt tickingClock 0) =
      aesIv engineBoots engineTime (runSalt tickingClock 1) := by
  have hsalt : runSalt tickingClock 0 = runSalt tickingClock 1 := by decide +kernel
  refine ⟨fun i j hij => ?_, hsalt, fun engineBoots engineTime => by rw [hsalt]⟩
  unfold tickingClock
  split_ifs with hi hj hj
  · exact UInt64.le_refl _
  · decide
  · omega
  · exact UInt64.le_refl _

end Rastreo
