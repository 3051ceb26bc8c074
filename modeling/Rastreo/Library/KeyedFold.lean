import Mathlib.Data.List.AList

/-!
# Loops over the entries of a map

A loop that looks up the entry of each item, inserts a first value where there is none and updates
it, leaves at a key the fold over the items of that key (`lookup_foldl_upsert`).
-/

namespace Rastreo

section Upsert

variable {κ ν α : Type} [DecidableEq κ] (key : α → κ) (init : α → ν) (step : ν → α → ν)

/-- An entry starts from a first value. -/
def upsert (m : AList fun _ : κ => ν) (a : α) : AList fun _ : κ => ν :=
  m.insert (key a) (step ((m.lookup (key a)).getD (init a)) a)

def foldEntry : List α → Option ν
  | [] => none
  | a :: l => some (l.foldl step (step (init a) a))

lemma lookup_foldl_upsert_of (l : List α) (m : AList fun _ : κ => ν) (k : κ) :
    (l.foldl (upsert key init step) m).lookup k =
      (m.lookup k).elim (foldEntry init step (l.filter fun a => key a = k))
        fun v => some ((l.filter fun a => key a = k).foldl step v) := by
  induction l generalizing m with
  | nil =>
    rw [List.foldl_nil]
    cases m.lookup k <;> rfl
  | cons a l ih =>
    rw [List.foldl_cons, ih, upsert]
    by_cases hk : key a = k
    · subst hk
      rw [AList.lookup_insert, List.filter_cons_of_pos (by simp)]
      cases m.lookup (key a) <;> rfl
    · rw [AList.lookup_insert_ne (Ne.symm hk), List.filter_cons_of_neg (by simpa using hk)]

/-- What the loop leaves at a key. -/
theorem lookup_foldl_upsert (l : List α) (k : κ) : (l.foldl (upsert key init step) ∅).lookup k =
      foldEntry init step (l.filter fun a => key a = k) := by
  rw [lookup_foldl_upsert_of, AList.lookup_empty, Option.elim_none]

end Upsert

end Rastreo
