import Mathlib.Data.List.Basic

/-!
# Subtrees of a sorted table

Names are lists in lexicographic order.  Those properly below a base form an interval right after
it, so in a sorted table the entries after the base are the subtree followed by all others.
-/

namespace Rastreo

open List

variable {α β : Type}

/-- The name is a proper extension of the base. -/
def Below (base name : List α) : Prop := base <+: name ∧ base.length < name.length

/-- Whether a name is below a base can be decided. -/
instance [DecidableEq α] (base name : List α) : Decidable (Below base name) :=
  inferInstanceAs (Decidable (_ ∧ _))

@[simp] lemma below_nil {name : List α} : Below [] name ↔ name ≠ [] := by
  simp [Below, length_pos_iff]

@[simp] lemma not_below_nil {base : List α} : ¬ Below base [] := by
  simp [Below]

@[simp] lemma below_cons_cons {a b : α} {base name : List α} :
    Below (a :: base) (b :: name) ↔ a = b ∧ Below base name := by
  simp [Below, cons_prefix_cons, and_assoc]

/-! ## The order of names -/

section Order

variable [LT α]

lemma Below.lt {base name : List α} (h : Below base name) : base < name := by
  induction base generalizing name with
  | nil =>
    obtain ⟨a, rest, rfl⟩ := exists_cons_of_ne_nil (below_nil.mp h)
    exact nil_lt_cons a rest
  | cons a base ih =>
    cases name with
    | nil => exact absurd h not_below_nil
    | cons b name =>
      obtain ⟨rfl, hbelow⟩ := below_cons_cons.mp h
      exact cons_lt_cons_iff.mpr (.inr ⟨rfl, ih hbelow⟩)

/-- What lies between a base and a name below it is below it. -/
lemma Below.of_between [Std.Asymm fun a b : α => a < b] {base name last : List α}
    (hbase : base < name) (hlast : name < last) (h : Below base last) : Below base name := by
  induction base generalizing name last with
  | nil =>
    rw [below_nil]
    rintro rfl
    exact not_lt_nil [] hbase
  | cons a base ih =>
    cases last with
    | nil => exact absurd h not_below_nil
    | cons b last =>
      obtain ⟨rfl, hbelow⟩ := below_cons_cons.mp h
      cases name with
      | nil => exact absurd hbase (not_lt_nil _)
      | cons c name =>
        rw [cons_lt_cons_iff] at hbase hlast
        rcases hbase with hac | ⟨rfl, hbase⟩
        · -- The first component of the name is between two equal ones.
          rcases hlast with hca | ⟨rfl, -⟩
          · exact absurd hca (Std.Asymm.asymm _ _ hac)
          · exact absurd hac (Std.Asymm.asymm _ _ hac)
        · rcases hlast with haa | ⟨-, hlast⟩
          · exact absurd haa (Std.Asymm.asymm _ _ haa)
          · exact below_cons_cons.mpr ⟨rfl, ih hbase hlast hbelow⟩

end Order

/-! ## Sorted tables -/

lemma filter_append_filter_not {p : α → Bool} {l : List α}
    (h : l.Pairwise fun x y => p y = true → p x = true) :
    l = l.filter p ++ l.filter fun x => !p x := by
  induction l with
  | nil => rfl
  | cons x l ih =>
    obtain ⟨hx, hl⟩ := pairwise_cons.mp h
    by_cases hp : p x = true
    · rw [filter_cons_of_pos hp, filter_cons_of_neg (by simp [hp]), cons_append, ← ih hl]
    · have hnone : l.filter p = [] := filter_eq_nil_iff.mpr fun y hy hpy => hp (hx y hy hpy)
      have hall : (l.filter fun y => !p y) = l :=
        filter_eq_self.mpr fun y hy => by simp [mt (hx y hy) hp]
      rw [filter_cons_of_neg hp, filter_cons_of_pos (by simp [hp]), hnone, hall]
      rfl

section Tables

variable [LT α] [DecidableLT α] [DecidableEq α]

def successors (table : List (List α × β)) (name : List α) : List (List α × β) :=
  table.filter fun e => decide (name < e.1)

def subtree (table : List (List α × β)) (base : List α) : List (List α × β) :=
  table.filter fun e => decide (Below base e.1)

variable [Std.Asymm fun a b : α => a < b] {table : List (List α × β)}

lemma successors_eq_subtree_append (hsorted : table.Pairwise fun x y => x.1 < y.1) (base : List α) :
    ∃ outside, successors table base = subtree table base ++ outside ∧
      ∀ e ∈ outside, ¬ Below base e.1 := by
  have hafter : ∀ e ∈ successors table base, base < e.1 := fun e he =>
    of_decide_eq_true (mem_filter.mp he).2
  have hsplit := filter_append_filter_not (l := successors table base)
    (p := fun e => decide (Below base e.1)) (List.Pairwise.imp_of_mem (fun {x y} hx _ hlt hy =>
      decide_eq_true (Below.of_between (hafter x hx) hlt (of_decide_eq_true hy)))
      (hsorted.filter _))
  refine ⟨_, hsplit.trans (congrArg (· ++ _) ?_), fun e he => ?_⟩
  · rw [successors, filter_filter, subtree]
    refine filter_congr fun e _ => ?_
    by_cases hbelow : Below base e.1
    · simp [hbelow, hbelow.lt]
    · simp [hbelow]
  · simpa using (mem_filter.mp he).2

lemma successors_of_successors [Trans (fun a b : α => a < b) (fun a b : α => a < b)
    fun a b : α => a < b] (hsorted : table.Pairwise fun x y => x.1 < y.1)
    {base : List α} {before rest : List (List α × β)} {e : List α × β}
    (h : successors table base = before ++ e :: rest) : successors table e.1 = rest := by
  have hbase : base < e.1 := by
    have hmem : e ∈ successors table base := h ▸ mem_append_right before mem_cons_self
    exact of_decide_eq_true (mem_filter.mp hmem).2
  have hagain : successors table e.1 = successors (successors table base) e.1 := by
    rw [successors, successors, successors, filter_filter]
    refine filter_congr fun x _ => ?_
    by_cases hx : e.1 < x.1
    · simp [hx, List.lt_trans hbase hx]
    · simp [hx]
  have hpai : (before ++ e :: rest).Pairwise fun x y => x.1 < y.1 := h ▸ hsorted.filter _
  obtain ⟨-, htail, hbefore⟩ := pairwise_append.mp hpai
  obtain ⟨hrest, -⟩ := pairwise_cons.mp htail
  rw [hagain, h, successors, filter_append, filter_cons_of_neg,
    filter_eq_nil_iff.mpr, filter_eq_self.mpr, nil_append]
  · exact fun x hx => decide_eq_true (hrest x hx)
  · intro x hx
    simpa using List.lt_asymm (hbefore x hx e mem_cons_self)
  · simp [List.lt_irrefl e.1]

end Tables

end Rastreo
