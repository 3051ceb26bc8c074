import Mathlib.Algebra.Order.Ring.Nat
import Mathlib.Data.List.Pairwise
import Mathlib.Tactic.Ring

/-!
# The pacer of probe starts

A task with the pacer's lock reads the clock, gets a slot and moves the next slot one interval on;
it sleeps until its slot without the lock.  Times are nanoseconds.
-/

namespace Rastreo

open List

structure Pacer where
  interval : ℕ
  nextStart : Option ℕ
  interval_pos : 0 < interval

def Pacer.new (interval : ℕ) (h : 0 < interval) : Pacer := ⟨interval, none, h⟩

/-- For a caller whose clock reads `now`. -/
def Pacer.waitForSlot (self : Pacer) (now : ℕ) : ℕ × Pacer :=
  let scheduled := match self.nextStart with
    | some t => if t > now then t else now
    | none => now
  (scheduled, { self with nextStart := some (scheduled + self.interval) })

/-- In the order in which the lock is taken, by clock readings. -/
def Pacer.slots (self : Pacer) : List ℕ → List ℕ
  | [] => []
  | now :: readings => (self.waitForSlot now).1 :: (self.waitForSlot now).2.slots readings

namespace Pacer

variable (p : Pacer) (now : ℕ) (readings : List ℕ)

lemma le_waitForSlot : now ≤ (p.waitForSlot now).1 ∧
    ∀ t ∈ p.nextStart, t ≤ (p.waitForSlot now).1 := by
  unfold waitForSlot
  cases p.nextStart with
  | none => exact ⟨le_refl _, nofun⟩
  | some t => grind

lemma le_slots : List.Forall₂ (· ≤ ·) readings (p.slots readings) := by
  induction readings generalizing p with
  | nil => exact .nil
  | cons now readings ih => exact .cons (p.le_waitForSlot now).1 (ih _)

lemma nextStart_le_slots {t : ℕ} (ht : p.nextStart = some t) : ∀ s ∈ p.slots readings, t ≤ s := by
  induction readings generalizing p t with
  | nil => nofun
  | cons now readings ih =>
    have hfst := (p.le_waitForSlot now).2 t ht
    intro s hs
    rcases mem_cons.mp hs with rfl | hs
    · exact hfst
    · have hnext : (p.waitForSlot now).1 + p.interval ≤ s := ih (p.waitForSlot now).2 rfl s hs
      omega

lemma slots_spaced : (p.slots readings).Pairwise (· + p.interval ≤ ·) := by
  induction readings generalizing p with
  | nil => exact .nil
  | cons now readings ih =>
    exact .cons (nextStart_le_slots (p.waitForSlot now).2 readings rfl) (ih (p.waitForSlot now).2)

end Pacer

lemma span_of_spaced {d lo hi : ℕ} {times : List ℕ} (hspaced : times.Pairwise (· + d ≤ ·))
    (hne : times ≠ []) (hin : ∀ t ∈ times, lo ≤ t ∧ t ≤ hi) : lo + times.length * d ≤ hi + d := by
  induction times generalizing lo with
  | nil => exact absurd rfl hne
  | cons t times ih =>
    have ht := hin t mem_cons_self
    obtain ⟨hfst, hspaced⟩ := pairwise_cons.mp hspaced
    rcases eq_or_ne times [] with rfl | hne
    · rw [length_singleton]
      omega
    · have hrest := @ih (t + d) hspaced hne fun u hu =>
        ⟨hfst u hu, (hin u (mem_cons_of_mem t hu)).2⟩
      rw [length_cons, Nat.add_mul]
      omega

/-- From any state of the pacer and for any clock. -/
theorem pacing_never_bursts (p : Pacer) (readings : List ℕ) :
    (p.slots readings).Pairwise (· < ·) ∧ (p.slots readings).IsChain (· + p.interval ≤ ·) ∧
    List.Forall₂ (· ≤ ·) readings (p.slots readings) ∧
    ∀ start length, ((p.slots readings).filter fun s => start ≤ s ∧ s ≤ start + length).length ≤
      length / p.interval + 1 := by
  have hpos := p.interval_pos
  have hspaced := p.slots_spaced readings
  refine ⟨hspaced.imp fun h => by omega, hspaced.isChain, p.le_slots readings,
    fun start length => ?_⟩
  set window := (p.slots readings).filter fun s => start ≤ s ∧ s ≤ start + length with hwindow
  rcases eq_or_ne window [] with hnil | hne
  · rw [hnil]
    exact Nat.zero_le _
  · have hspan : start + window.length * p.interval ≤ start + length + p.interval :=
      span_of_spaced (hspaced.filter _) hne fun s hs => by simpa using (mem_filter.mp hs).2
    have hcount : (window.length - 1) * p.interval ≤ length := by
      rw [Nat.sub_mul, Nat.one_mul]
      omega
    have hdiv := (Nat.le_div_iff_mul_le hpos).mpr hcount
    omega

end Rastreo
