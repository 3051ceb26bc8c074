import Mathlib.Data.List.Nodup

/-!
# Searches over part of a list

A search with `findSome?`, and what elements contribute to a list, when only those that a filter
leaves, or a single one, matter.
-/

namespace Rastreo

open List

variable {α β : Type} {l : List α}

/-! ## Filtered lists -/

variable {f : α → Option β} {p : α → Bool}

lemma findSome?_filter_of_imp (h : ∀ x, f x ≠ none → p x = true) :
    (l.filter p).findSome? f = l.findSome? f := by
  induction l with
  | nil => rfl
  | cons x l ih =>
    cases hx : p x with
    | true => rw [filter_cons_of_pos hx, findSome?_cons, findSome?_cons, ih]
    | false =>
      have hnone : f x = none := by grind
      grind

lemma findSome?_filter_eq_none (h : ∀ x, f x ≠ none → p x = false) :
    (l.filter p).findSome? f = none := by
  rw [findSome?_eq_none_iff]
  intro x hx
  by_contra hne
  grind

lemma filterMap_filter_eq {q : β → Bool} (h : ∀ x v, f x = some v → p x = q v) :
    (l.filter p).filterMap f = (l.filterMap f).filter q := by
  rw [filterMap_filter, filter_filterMap]
  refine filterMap_congr fun x _ => ?_
  cases hx : f x with
  | none => simp
  | some v => rw [h x v hx, Option.filter_some]

lemma findSome?_flatMap {γ : Type} {f : α → List β} {g : β → Option γ} :
    (l.flatMap f).findSome? g = l.findSome? fun a => (f a).findSome? g := by
  induction l with
  | nil => rfl
  | cons a l ih => grind

/-! ## One element -/

lemma findSome?_of_only {a : α} (ha : a ∈ l) (h : ∀ b ∈ l, b ≠ a → f b = none) :
    l.findSome? f = f a := by
  induction l with
  | nil => cases ha
  | cons b l ih =>
    rw [findSome?_cons]
    by_cases hb : b = a
    · subst hb
      cases hfb : f b with
      | some v => rfl
      | none =>
        refine findSome?_eq_none_iff.mpr fun c hc => ?_
        by_cases hcb : c = b
        · rw [hcb, hfb]
        · grind
    · rw [h b mem_cons_self hb]
      grind

lemma flatMap_of_only {a : α} {f : α → List β} (hnd : l.Nodup) (ha : a ∈ l)
    (h : ∀ b ∈ l, b ≠ a → f b = []) : l.flatMap f = f a := by
  induction l with
  | nil => cases ha
  | cons b l ih =>
    rw [flatMap_cons]
    obtain ⟨hb, hnd⟩ := nodup_cons.mp hnd
    rcases mem_cons.mp ha with rfl | ha
    · rw [flatMap_eq_nil_iff.mpr, append_nil]
      grind
    · rw [h b mem_cons_self fun hba => hb (hba ▸ ha), nil_append]
      grind

end Rastreo
