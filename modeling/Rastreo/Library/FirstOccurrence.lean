import Mathlib.Data.List.AList
import Mathlib.Data.List.Induction
import Mathlib.Data.List.Nodup

/-!
# Loops that keep first occurrences

Folding `pushNew`, "append `x` unless it is already there", computes `List.eraseDups`.  Folding
`Grouping.push`, "append `a` to the group of its key", yields one group per distinct key, in order
of first occurrence, with its values in order.
-/

namespace Rastreo

open List

section PushNew

variable {α : Type*} [DecidableEq α]

/-- Append `x` unless the list already contains it. -/
def pushNew (acc : List α) (x : α) : List α :=
  if x ∈ acc then acc else acc ++ [x]

lemma eraseDups_concat (l : List α) (x : α) : (l ++ [x]).eraseDups = pushNew l.eraseDups x := by
  rw [eraseDups_append]
  by_cases hx : x ∈ l
  · simp [pushNew, hx, List.removeAll]
  · simp [pushNew, hx, List.removeAll, eraseDups_cons]

lemma foldl_pushNew_eraseDups (l m : List α) :
    m.foldl pushNew l.eraseDups = (l ++ m).eraseDups := by
  induction m generalizing l with
  | nil => simp
  | cons x m ih =>
    rw [foldl_cons, ← eraseDups_concat, ih, append_assoc, singleton_append]

lemma foldl_pushNew (l : List α) : l.foldl pushNew [] = l.eraseDups := by
  simpa using foldl_pushNew_eraseDups [] l

lemma mem_foldl_pushNew {l acc : List α} {x : α} : x ∈ l.foldl pushNew acc ↔ x ∈ acc ∨ x ∈ l := by
  induction l generalizing acc with
  | nil => simp
  | cons y l ih =>
    rw [foldl_cons, ih, mem_cons, pushNew]
    split_ifs with hy
    · constructor
      · exact Or.imp_right .inr
      · rintro (h | rfl | h)
        · exact .inl h
        · exact .inl hy
        · exact .inr h
    · grind

lemma nodup_eraseDups (l : List α) : l.eraseDups.Nodup := by
  induction l using List.reverseRecOn with
  | nil => simp
  | append_singleton l x ih =>
    rw [eraseDups_concat, pushNew]
    split_ifs with hx
    · exact ih
    · rw [nodup_append]
      grind

/-- In the order in which they first occur. -/
lemma pairwise_idxOf_eraseDups (l : List α) :
    l.eraseDups.Pairwise fun a b => l.idxOf a < l.idxOf b := by
  induction l using List.reverseRecOn with
  | nil => simp
  | append_singleton l x ih =>
    have hold : l.eraseDups.Pairwise fun a b => (l ++ [x]).idxOf a < (l ++ [x]).idxOf b := by
      refine ih.imp_of_mem fun {a b} ha hb hab => ?_
      rwa [idxOf_append_of_mem (mem_eraseDups.mp ha), idxOf_append_of_mem (mem_eraseDups.mp hb)]
    rw [eraseDups_concat, pushNew]
    split_ifs with hx
    · exact hold
    · refine pairwise_append.mpr ⟨hold, pairwise_singleton _ _, fun a ha b hb => ?_⟩
      obtain rfl := mem_singleton.mp hb
      have hal := mem_eraseDups.mp ha
      rw [idxOf_append_of_mem hal, idxOf_append_of_notMem (mt mem_eraseDups.mpr hx)]
      exact Nat.lt_add_right _ (idxOf_lt_length_of_mem hal)

end PushNew

section Grouping

variable {κ α : Type*} [DecidableEq κ]

structure Grouping (κ α : Type*) where
  /-- Position of the group of each key. -/
  slots : AList (fun _ : κ => ℕ)
  /-- The groups, oldest key first. -/
  groups : List (List α)

namespace Grouping

def empty : Grouping κ α := ⟨∅, []⟩

/-- Append to the group of the key, opening one for a new key. -/
def push (g : Grouping κ α) (ka : κ × α) : Grouping κ α :=
  match g.slots.lookup ka.1 with
  | some i => { g with groups := g.groups.modify i (· ++ [ka.2]) }
  | none => ⟨g.slots.insert ka.1 g.groups.length, g.groups ++ [[ka.2]]⟩

end Grouping

def valuesOf (l : List (κ × α)) (k : κ) : List α :=
  (l.filter (fun ka => ka.1 = k)).map Prod.snd

/-- In order of first occurrence of the keys. -/
def groupByKey (l : List (κ × α)) : List (List α) :=
  (l.foldl Grouping.push Grouping.empty).groups

lemma valuesOf_concat (l : List (κ × α)) (ka : κ × α) (k : κ) :
    valuesOf (l ++ [ka]) k = if ka.1 = k then valuesOf l k ++ [ka.2] else valuesOf l k := by
  unfold valuesOf
  split_ifs with h <;> simp [h]

variable {l : List (κ × α)} {k : κ}

lemma valuesOf_eq_nil (h : k ∉ l.map Prod.fst) : valuesOf l k = [] := by
  simp only [mem_map, not_exists, not_and] at h
  simp only [valuesOf, map_eq_nil_iff, filter_eq_nil_iff, decide_eq_true_eq]
  omega

/-- After processing the prefix `l`. -/
structure Grouping.Tracks (g : Grouping κ α) (l : List (κ × α)) : Prop where
  /-- One group per distinct key, in first-occurrence order. -/
  groups_eq : g.groups = (l.map Prod.fst).eraseDups.map (valuesOf l)
  /-- The slot of a key is its position among the distinct keys. -/
  slot_iff : ∀ k i, g.slots.lookup k = some i ↔ (l.map Prod.fst).eraseDups[i]? = some k

omit [DecidableEq κ] in
lemma getElem?_concat_eq_some {l : List κ} {k' : κ} {i : ℕ} :
    (l ++ [k])[i]? = some k' ↔ l[i]? = some k' ∨ i = l.length ∧ k = k' := by
  rw [getElem?_append]
  split_ifs with hlt
  · simp [Nat.ne_of_lt hlt]
  · rw [getElem?_eq_none (not_lt.mp hlt), getElem?_singleton]
    split_ifs with hi
    · simp [show i = l.length by omega]
    · grind

variable {g : Grouping κ α}

/-- A value under a key that has a slot is added to its group. -/
lemma Grouping.Tracks.push_known (h : g.Tracks l) {i : ℕ} (hs : g.slots.lookup k = some i) (a : α) :
    Grouping.Tracks { g with groups := g.groups.modify i (· ++ [a]) } (l ++ [(k, a)]) := by
  have hi := (h.slot_iff k i).mp hs
  have hsame : ((l ++ [(k, a)]).map Prod.fst).eraseDups = (l.map Prod.fst).eraseDups := by
    rw [map_append, map_singleton, eraseDups_concat, pushNew, if_pos (mem_of_getElem? hi)]
  refine ⟨?_, fun k' i' => by rw [hsame]; exact h.slot_iff k' i'⟩
  rw [hsame]
  refine ext_getElem? fun j => ?_
  simp only [getElem?_modify, h.groups_eq, getElem?_map]
  cases hj : (l.map Prod.fst).eraseDups[j]? with
  | none => simp
  | some k' =>
    have hij : (i = j) ↔ k = k' := by
      constructor
      · rintro rfl
        grind
      · rintro rfl
        exact (getElem?_inj (List.getElem?_eq_some_iff.mp hi).1
          (nodup_eraseDups _)).mp (hi.trans hj.symm)
    by_cases hk : k = k'
    · simp [valuesOf_concat, hk, hij.mpr hk]
    · simp [valuesOf_concat, hk, mt hij.mp hk]

lemma Grouping.Tracks.push_new (h : g.Tracks l) (hs : g.slots.lookup k = none) (a : α) :
    Grouping.Tracks ⟨g.slots.insert k g.groups.length, g.groups ++ [[a]]⟩ (l ++ [(k, a)]) := by
  have hnew : k ∉ (l.map Prod.fst).eraseDups := by
    intro hmem
    obtain ⟨i, hi⟩ := mem_iff_getElem?.mp hmem
    rw [(h.slot_iff k i).mpr hi] at hs
    cases hs
  have hgrow : ((l ++ [(k, a)]).map Prod.fst).eraseDups = (l.map Prod.fst).eraseDups ++ [k] := by
    rw [map_append, map_singleton, eraseDups_concat, pushNew, if_neg hnew]
  have hlen : g.groups.length = (l.map Prod.fst).eraseDups.length := by
    rw [h.groups_eq, length_map]
  have hnone : valuesOf l k = [] :=
    valuesOf_eq_nil (fun hk => hnew (mem_eraseDups.mpr hk))
  refine ⟨?_, fun k' i' => ?_⟩
  · rw [hgrow, map_append, map_singleton]
    simp only [valuesOf_concat, if_true, hnone, nil_append, h.groups_eq]
    congr 1
    refine map_congr_left fun k' hk' => ?_
    rw [valuesOf_concat, if_neg]
    rintro rfl
    exact hnew hk'
  · rw [hgrow, getElem?_concat_eq_some, ← hlen]
    by_cases hk : k' = k
    · subst hk
      rw [AList.lookup_insert, Option.some.injEq, eq_comm]
      grind
    · rw [AList.lookup_insert_ne hk, h.slot_iff]
      simp [Ne.symm hk]

lemma Grouping.Tracks.push (h : g.Tracks l) (ka : κ × α) : (g.push ka).Tracks (l ++ [ka]) := by
  obtain ⟨k, a⟩ := ka
  unfold Grouping.push
  cases hs : g.slots.lookup k with
  | some i => exact h.push_known hs a
  | none => exact h.push_new hs a

lemma Grouping.tracks_foldl (l : List (κ × α)) :
    (l.foldl Grouping.push Grouping.empty).Tracks l := by
  induction l using List.reverseRecOn with
  | nil => exact ⟨rfl, fun k i => by simp [Grouping.empty]⟩
  | append_singleton l ka ih =>
    rw [foldl_append]
    exact ih.push ka

/-- Closed form of the grouping loop. -/
theorem groupByKey_eq (l : List (κ × α)) :
    groupByKey l = (l.map Prod.fst).eraseDups.map (valuesOf l) :=
  (Grouping.tracks_foldl l).groups_eq

lemma valuesOf_append (l m : List (κ × α)) (k : κ) :
    valuesOf (l ++ m) k = valuesOf l k ++ valuesOf m k := by
  simp [valuesOf]

lemma valuesOf_map_pair (g : List α) (k k' : κ) :
    valuesOf (g.map fun a => (k, a)) k' = if k = k' then g else [] := by
  unfold valuesOf
  split_ifs with h <;> simp [filter_map, Function.comp_def, h]

/-- Blocks under keys of their own are the groups, apart from the empty ones. -/
theorem groupByKey_blocks {blocks : List (κ × List α)} (h : (blocks.map Prod.fst).Nodup) :
    groupByKey (blocks.flatMap fun b => b.2.map fun a => (b.1, a)) =
      (blocks.map Prod.snd).filter (!·.isEmpty) := by
  rw [groupByKey_eq]
  induction blocks using List.reverseRecOn with
  | nil => rfl
  | append_singleton blocks b ih =>
    obtain ⟨k, g⟩ := b
    rw [map_append, nodup_append] at h
    obtain ⟨hnd, -, hdisj⟩ := h
    have hnew : k ∉ (blocks.flatMap fun b => b.2.map fun a => (b.1, a)).map Prod.fst := by
      intro hmem
      obtain ⟨⟨k', a⟩, hmem, hk⟩ := mem_map.mp hmem
      obtain ⟨b, hb, hmem⟩ := mem_flatMap.mp hmem
      obtain ⟨a', -, heq⟩ := mem_map.mp hmem
      exact hdisj b.1 (mem_map_of_mem hb) k (mem_singleton_self k) ((Prod.mk.inj heq).1.trans hk)
    specialize ih hnd
    simp only [flatMap_append, flatMap_singleton, map_append, map_map,
      filter_append, map_singleton] at *
    set l := blocks.flatMap fun b => b.2.map fun a => (b.1, a)
    have hkeys : (l.map Prod.fst ++ g.map (Prod.fst ∘ fun a => (k, a))).eraseDups =
        (l.map Prod.fst).eraseDups ++ if g.isEmpty then [] else [k] := by
      rw [← foldl_pushNew, foldl_append, foldl_pushNew]
      cases g with
      | nil => simp
      | cons a g =>
        rw [map_cons, foldl_cons, pushNew, if_neg (by simpa using hnew)]
        exact List.foldlRecOn (motive := fun acc => acc = _ ++ [k]) _ _ rfl fun acc hacc x hx => by
          obtain ⟨a', -, rfl⟩ := mem_map.mp hx
          rw [hacc, pushNew, if_pos (by simp)]
    rw [hkeys, map_append, ← ih]
    congr 1
    · refine map_congr_left fun k' hk' => ?_
      have hne : k ≠ k' := by
        rintro rfl
        exact hnew (mem_eraseDups.mp hk')
      rw [valuesOf_append, valuesOf_map_pair, if_neg hne, append_nil]
    · cases g with
      | nil => rfl
      | cons a g =>
        simp only [isEmpty_cons, Bool.false_eq_true, if_false, map_singleton,
          valuesOf_append, valuesOf_eq_nil hnew, valuesOf_map_pair, if_true, nil_append]
        rfl

end Grouping

end Rastreo
