import Rastreo.Model.Text
import Mathlib.Algebra.BigOperators.Group.List.Basic

/-!
# Parts of lists and texts

Indices and slices out of bounds, and slices inside a character, are panics of the program and
errors here.  Offsets in a text count bytes.
-/

namespace Rastreo

open List String

/-! ## Panics -/

inductive Panic where
  | indexOutOfBounds
  | expect (msg : String)
  deriving DecidableEq

/-- Indexing: a panic outside the bounds. -/
def index {α : Type} (l : List α) (i : ℕ) : Except Panic α :=
  match l[i]? with
  | some a => .ok a
  | none => .error .indexOutOfBounds

/-- `&bytes[start..stop]`. -/
def sliceBytes (bytes : Bytes) (start stop : ℕ) : Except Panic Bytes :=
  if start ≤ stop ∧ stop ≤ bytes.length then .ok ((bytes.take stop).drop start)
  else .error .indexOutOfBounds

lemma sliceBytes_ok {bytes : Bytes} {start stop : ℕ} (h : start ≤ stop ∧ stop ≤ bytes.length) :
    sliceBytes bytes start stop = .ok ((bytes.take stop).drop start) :=
  if_pos h

/-! ## Parts of a text -/

def utf8Len (cs : List Char) : ℕ := (cs.map Char.utf8Size).sum

/-- Nothing inside a character or beyond the end. -/
def splitAtByte : List Char → ℕ → Option (List Char × List Char)
  | cs, 0 => some ([], cs)
  | [], _ + 1 => none
  | c :: cs, n + 1 =>
    if n + 1 < c.utf8Size then none
    else (splitAtByte cs (n + 1 - c.utf8Size)).map fun p => (c :: p.1, p.2)

/-- `&text[start..stop]`: a panic off the character boundaries. -/
def sliceText (text : String) (start stop : ℕ) : Except Panic String :=
  if stop < start then .error .indexOutOfBounds
  else
    match splitAtByte text.toList start with
    | none => .error .indexOutOfBounds
    | some (_, rest) =>
      match splitAtByte rest (stop - start) with
      | none => .error .indexOutOfBounds
      | some (inside, _) => .ok (String.ofList inside)

/-- The longest beginning that fits in so many bytes. -/
def takeBytes : ℕ → List Char → List Char
  | _, [] => []
  | n, c :: cs => if c.utf8Size ≤ n then c :: takeBytes (n - c.utf8Size) cs else []

/-- `str::find` of a character: the offset of the first one. -/
def findChar (s : String) (c : Char) : Option ℕ :=
  if c ∈ s.toList then some (utf8Len (s.toList.takeWhile (· != c))) else none

/-- `str::split` at a character. -/
def splitChar (c : Char) (s : String) : List String := (s.toList.splitOn c).map String.ofList

lemma splitAtByte_utf8Len (before after : List Char) :
    splitAtByte (before ++ after) (utf8Len before) = some (before, after) := by
  induction before with
  | nil => cases after <;> rfl
  | cons c before ih =>
    obtain ⟨n, hn⟩ : ∃ n, c.utf8Size + utf8Len before = n + 1 :=
      Nat.exists_eq_add_one.mpr (Nat.add_pos_left c.utf8Size_pos _)
    have hlen : utf8Len (c :: before) = n + 1 := by rw [← hn, utf8Len, utf8Len]; simp
    have hrest : n + 1 - c.utf8Size = utf8Len before := by omega
    rw [hlen, cons_append, splitAtByte, if_neg (by omega), hrest, ih]
    rfl

variable {before after : List Char}

lemma sliceText_of_span {text : String} {inside : List Char}
    (h : text.toList = before ++ inside ++ after) :
    sliceText text (utf8Len before) (utf8Len before + utf8Len inside) =
      .ok (String.ofList inside) := by
  have hbefore := splitAtByte_utf8Len before (inside ++ after)
  rw [← List.append_assoc, ← h] at hbefore
  rw [sliceText, if_neg (by omega), hbefore, Nat.add_sub_cancel_left]
  dsimp only
  rw [splitAtByte_utf8Len]

/-! ## A text around a character -/

lemma utf8Len_append (a b : List Char) : utf8Len (a ++ b) = utf8Len a + utf8Len b := by
  simp [utf8Len]

variable {c : Char}

lemma takeWhile_ne_append {α : Type} [BEq α] [LawfulBEq α] {before : List α} {c : α}
    (hfree : c ∉ before) (after : List α) :
    (before ++ c :: after).takeWhile (· != c) = before := by
  have hother : ∀ a ∈ before, (a != c) = true := fun a ha =>
    bne_iff_ne.mpr fun heq => hfree (heq ▸ ha)
  simp_all

variable {s : String}

lemma findChar_of_toList (h : s.toList = before ++ c :: after) (hfree : c ∉ before) :
    findChar s c = some (utf8Len before) := by
  have hmem : c ∈ s.toList := by
    rw [h]
    simp
  rw [findChar, if_pos hmem, h, takeWhile_ne_append hfree]

lemma exists_of_findChar {offset : ℕ} (h : findChar s c = some offset) :
    ∃ before after, s.toList = before ++ c :: after ∧ c ∉ before ∧ offset = utf8Len before := by
  have hmem : c ∈ s.toList := by
    by_contra hnot
    rw [findChar, if_neg hnot] at h
    cases h
  obtain ⟨before, after, hsplit, hfree⟩ := eq_append_cons_of_mem hmem
  rw [findChar_of_toList hsplit hfree] at h
  grind

lemma findChar_eq_none : findChar s c = none ↔ c ∉ s.toList := by
  unfold findChar
  split_ifs with h <;> simp [h]

lemma splitChar_of_not_mem (h : c ∉ s.toList) : splitChar c s = [s] := by
  have hfree : ∀ x ∈ s.toList, (x == c) = false := fun x hx =>
    beq_false_of_ne fun heq => h (heq ▸ hx)
  rw [splitChar, List.splitOn, splitOnP_eq_singleton hfree, map_singleton, ofList_toList]

lemma splitChar_of_toList (h : s.toList = before ++ c :: after) (hfree : c ∉ before) :
    splitChar c s = String.ofList before :: splitChar c (String.ofList after) := by
  have hfree : ∀ x ∈ before, (x == c) = false := fun x hx =>
    beq_false_of_ne fun heq => hfree (heq ▸ hx)
  rw [splitChar, List.splitOn, h,
    splitOnP_append_cons_of_forall_mem hfree c (beq_self_eq_true c), splitChar,
    toList_ofList]
  rfl

lemma exists_splitChar_headD (c : Char) (s : String) :
    ∃ head tail, s.toList = head ++ tail ∧ (splitChar c s).headD "" = String.ofList head := by
  by_cases h : c ∈ s.toList
  · obtain ⟨before, after, hsplit, hfree⟩ := eq_append_cons_of_mem h
    refine ⟨before, c :: after, hsplit, ?_⟩
    rw [splitChar_of_toList hsplit hfree]
    rfl
  · refine ⟨s.toList, [], (append_nil _).symm, ?_⟩
    rw [splitChar_of_not_mem h, ofList_toList]
    rfl

lemma splitChar_flatMap {parts : List (List Char)} (h : ∀ part ∈ parts, c ∉ part)
    (hbefore : c ∉ before) (hs : s.toList = before ++ parts.flatMap (c :: ·)) :
    splitChar c s = (before :: parts).map String.ofList := by
  induction parts generalizing s before with
  | nil =>
    rw [flatMap_nil, append_nil] at hs
    rw [splitChar_of_not_mem (hs ▸ hbefore), ← hs, map_singleton, ofList_toList]
  | cons part parts ih =>
    have hs : s.toList = before ++ c :: (part ++ parts.flatMap (c :: ·)) := hs
    have hrest := ih (fun p hp => h p (mem_cons_of_mem _ hp)) (h part mem_cons_self) toList_ofList
    rw [splitChar_of_toList hs hbefore, hrest]
    rfl

lemma sliceText_before (h : s.toList = before ++ after) :
    sliceText s 0 (utf8Len before) = .ok (String.ofList before) := by
  have hspan : s.toList = [] ++ before ++ after := h
  have hslice := sliceText_of_span hspan
  rwa [show utf8Len [] = 0 from rfl, Nat.zero_add] at hslice

lemma sliceText_after (h : s.toList = before ++ after) :
    sliceText s (utf8Len before) (utf8Len s.toList) = .ok (String.ofList after) := by
  have hspan : s.toList = before ++ after ++ [] := h.trans (append_nil _).symm
  grind [sliceText_of_span, utf8Len_append]

lemma sliceText_after_char (h : s.toList = before ++ c :: after) (hc : c.utf8Size = 1) :
    sliceText s (utf8Len before + 1) (utf8Len s.toList) = .ok (String.ofList after) := by
  have hbou : utf8Len (before ++ [c]) = utf8Len before + 1 := by
    simp [utf8Len, hc]
  have hsplit : s.toList = (before ++ [c]) ++ after := by rw [h, List.append_assoc]; rfl
  rw [← hbou]
  exact sliceText_after hsplit

end Rastreo
