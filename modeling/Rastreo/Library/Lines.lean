import Mathlib.Data.List.Infix

/-!
# Lines of a text

A text over any alphabet, cut at a separator; what comes behind the last separator is not a line
yet.  Data appended to a text, each one line with its separator, are complete lines of it: all of
them behind the end of a line, and all but the first behind an unfinished one.
-/

namespace Rastreo

open List

variable {α : Type} [DecidableEq α] (sep : α)

/-- The lines of a text that the separator ends. -/
def completeLines (text : List α) : List (List α) := (text.splitOn sep).dropLast

/-- The text is empty or ends with the end of a line. -/
def EndsLine (text : List α) : Prop := text = [] ∨ text.getLast? = some sep

/-- One line with the separator that ends it. -/
def IsLine (data : List α) : Prop := ∃ line, data = line ++ [sep] ∧ sep ∉ line

instance decidableEndsLine (text : List α) : Decidable (EndsLine sep text) :=
  inferInstanceAs (Decidable (_ ∨ _))

variable {sep}

lemma completeLines_append_cons (a b : List α) :
    completeLines sep (a ++ sep :: b) = a.splitOn sep ++ completeLines sep b := by
  rw [completeLines, splitOn_append_cons_self, dropLast_append_of_ne_nil (splitOn_ne_nil sep b)]
  rfl

lemma mem_completeLines {a line b : List α} (ha : EndsLine sep a) (hline : sep ∉ line) :
    line ∈ completeLines sep (a ++ (line ++ [sep]) ++ b) := by
  have hown : completeLines sep (line ++ sep :: b) = line :: completeLines sep b := by
    rw [completeLines_append_cons, splitOn_eq_singleton hline]
    rfl
  have hassoc : a ++ (line ++ [sep]) ++ b = a ++ (line ++ sep :: b) := by simp
  rw [hassoc]
  rcases ha with rfl | hlast
  · grind
  · obtain ⟨start, rfl⟩ := getLast?_eq_some_iff.mp hlast
    rw [append_assoc, singleton_append, completeLines_append_cons, hown]
    simp

lemma mem_completeLines_append {text line : List α} (h : line ∈ completeLines sep text)
    (more : List α) : line ∈ completeLines sep (text ++ more) := by
  -- Line by line: what precedes the first separator is not touched.
  induction hlen : text.length using Nat.strong_induction_on generalizing text with
  | _ n ih =>
    by_cases hsep : sep ∈ text
    · obtain ⟨start, rest, rfl, -⟩ := eq_append_cons_of_mem hsep
      rw [completeLines_append_cons, mem_append] at h
      rw [append_assoc, cons_append, completeLines_append_cons, mem_append]
      grind
    · rw [completeLines, splitOn_eq_singleton hsep] at h
      exact absurd h not_mem_nil

omit [DecidableEq α] in
lemma endsLine_append_flatten {text : List α} {data : List (List α)}
    (hdata : ∀ d ∈ data, IsLine sep d) (h : EndsLine sep text ∨ data ≠ []) :
    EndsLine sep (text ++ data.flatten) := by
  rcases eq_nil_or_concat' data with rfl | ⟨start, last, rfl⟩
  · rw [flatten_nil, append_nil]
    grind
  · obtain ⟨line, rfl, -⟩ := hdata last (mem_append_right _ (mem_singleton_self last))
    refine .inr ?_
    simp

lemma mem_completeLines_of_appended {text whole line : List α} {before after : List (List α)}
    (hbefore : ∀ d ∈ before, IsLine sep d) (hline : sep ∉ line)
    (h : EndsLine sep text ∨ before ≠ [])
    (hwhole : text ++ (before ++ (line ++ [sep]) :: after).flatten <+: whole) :
    line ∈ completeLines sep whole := by
  obtain ⟨more, rfl⟩ := hwhole
  apply mem_completeLines_append
  rw [flatten_append, flatten_cons, ← append_assoc, ← append_assoc]
  exact mem_completeLines (endsLine_append_flatten hbefore h) hline

end Rastreo
